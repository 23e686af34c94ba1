import CitPhysicalXR.Fabric.Sessions

/-! Command submission and the adapter lifecycle. `submit_command` is cut where it awaits
the dispatcher: `submitStart` runs up to the call, `submitResume` from its result. -/
namespace CitPhysicalXR.Fabric
open Foundation

def commandTransitions : FabricCommandLifecycleStage → List FabricCommandLifecycleStage
  | .proposed => [.validated, .rejected]
  | .validated => [.authorized, .rejected]
  | .authorized => [.dispatched, .rejected, .failed]
  | .dispatched => [.accepted, .running, .succeeded, .failed, .cancelled, .timed_out, .rejected]
  | .accepted => [.running, .succeeded, .failed, .cancelled, .timed_out]
  | .running => [.succeeded, .failed, .cancelled, .timed_out]
  | .succeeded | .failed | .cancelled | .timed_out | .rejected => []

structure FabricDispatchOutcome where
  accepted : Bool
  terminalStage : Option FabricCommandLifecycleStage := none
  code : Option String := none
  message : Option String := none
  details : Option JsonObject := none

/-- How the awaited dispatcher ends. -/
inductive DispatchReply where
  | raised
  | outcome (outcome : FabricDispatchOutcome)

/-- The optional arguments of `_append_lifecycle`. -/
structure LifecycleNote where
  code : Option String := none
  message : Option String := none
  details : Option JsonObject := none

def lifecycleEvent (command : FabricResolvedCommand) (stage : FabricCommandLifecycleStage)
    (messageId : Uuid) (occurredAt : Instant) (note : LifecycleNote) :
    FabricCommandLifecycleEvent where
  messageId := messageId
  commandId := command.commandId
  requestMessageId := command.requestMessageId
  sessionId := command.sessionId
  targetNodeId := command.targetNodeId
  stage := stage
  occurredAt := occurredAt
  correlationId := command.correlationId
  code := note.code
  message := note.message
  details := note.details.getD JsonObject.empty

/-- `FabricCommandLifecycleEvent.model_validate`. -/
def validateLifecycle (lifecycle : FabricCommandLifecycleEvent) : Except FabricError Unit :=
  raiseIf (lifecycle.validates = false) (.value "FabricCommandLifecycleEvent: validation error")

/-- `_append_lifecycle`: the `draw`-th identifier and clock reading of the call go into the
record, which is validated before it is stored. -/
def appendLifecycle (ambient : Ambient) (draw : ℕ) (command : FabricResolvedCommand)
    (stage : FabricCommandLifecycleStage) (note : LifecycleNote) :
    FabricM FabricCommandLifecycleEvent := do
  let lifecycle := lifecycleEvent command stage (ambient.uuid draw) (ambient.clock draw) note
  Effect.read fun _ => validateLifecycle lifecycle
  Effect.commit fun repo => (repo.appendFabricLifecycle lifecycle).map fun r => (r.1, lifecycle)

/-- How far a submission came in one go. -/
inductive SubmitProgress where
  | finished (lifecycle : List FabricCommandLifecycleEvent)
  | dispatching (command : FabricResolvedCommand) (node : IntegrationNode)
      (lifecycle : List FabricCommandLifecycleEvent)

def requireBinding (session : InteractionSession) (role : Identifier) :
    Except FabricError RoleBinding :=
  match session.roleBindings.find? fun item => item.role = role with
  | none => .error (.conflict "ROLE_NOT_ASSIGNED" s!"Role {PyString.repr role.text} is not assigned")
  | some binding => .ok binding

def resolveCommand (request : FabricCommandRequest) (targetNodeId : Identifier)
    (commandId : Uuid) : FabricResolvedCommand where
  commandId := commandId
  requestMessageId := request.messageId
  sessionId := request.sessionId
  targetNodeId := targetNodeId
  action := request.action
  parameters := request.parameters
  priority := request.priority
  idempotencyKey := request.idempotencyKey
  requestedAt := request.requestedAt
  expiresAt := request.requestedAt + milliseconds request.ttlMs
  safetyProfile := request.safetyProfile
  correlationId := request.correlationId
  causationId := request.causationId
  sourceNodeId := request.sourceNodeId

def leaseConflictNote (decision : FabricLeaseDecision) : LifecycleNote where
  code := some "CONTROL_LEASE_CONFLICT"
  message := some "A higher or equal priority session owns this capability"
  details := some (JsonObject.empty.set "holderSessionId"
    (.str ((decision.holderSessionId.map (·.text)).getD "unknown")))

def preemptionNote (decision : FabricLeaseDecision) : LifecycleNote where
  details := decision.preemptedSessionId.map fun sessionId =>
    JsonObject.empty.set "preemptedSessionId" (.str sessionId.text)

def authorizeCommand (dispatcherInstalled : Bool) (ambient : Ambient)
    (command : FabricResolvedCommand) (node : IntegrationNode)
    (lifecycle : List FabricCommandLifecycleEvent) : FabricM SubmitProgress := do
  let decision ← Effect.commit fun repo =>
    .ok (repo.acquireFabricControlLease command (ambient.clock 0) (ambient.uuid 5))
  if decision.acquired then
    let authorized ← appendLifecycle ambient 3 command .authorized (preemptionNote decision)
    if dispatcherInstalled then
      return .dispatching command node (lifecycle ++ [authorized])
    else
      let failed ← appendLifecycle ambient 4 command .failed
        { code := some "ADAPTER_TRANSPORT_UNAVAILABLE"
          message := some "No adapter transport is available for the target node" }
      return .finished (lifecycle ++ [authorized, failed])
  else
    let rejected ← appendLifecycle ambient 3 command .rejected (leaseConflictNote decision)
    return .finished (lifecycle ++ [rejected])

/-- The gate of a newly claimed command. -/
def admitCommand (allowPhysical dispatcherInstalled : Bool) (ambient : Ambient)
    (command : FabricResolvedCommand) (session : InteractionSession) (node : IntegrationNode) :
    FabricM SubmitProgress := do
  let proposed ← appendLifecycle ambient 1 command .proposed {}
  match validateCommand allowPhysical command session node (ambient.clock 0) with
  | some (code, message) =>
    let rejected ← appendLifecycle ambient 2 command .rejected
      { code := some code, message := some message }
    return .finished [proposed, rejected]
  | none =>
    let validated ← appendLifecycle ambient 2 command .validated {}
    authorizeCommand dispatcherInstalled ambient command node [proposed, validated]

/-- `submit_command` up to `await dispatcher(resolved, node)`. -/
def submitStart (allowPhysical dispatcherInstalled : Bool) (ambient : Ambient)
    (request : FabricCommandRequest) : FabricM SubmitProgress := do
  let session ← Effect.read (·.requireSession request.sessionId)
  let binding ← Effect.read fun _ => requireBinding session request.targetRole
  let node ← Effect.read (·.requireNode binding.nodeId)
  let resolved := resolveCommand request binding.nodeId (ambient.uuid 0)
  let (command, isNew) ← Effect.commit (·.claimFabricCommand resolved)
  if isNew then
    admitCommand allowPhysical dispatcherInstalled ambient resolved session node
  else
    Effect.read fun repo =>
      .ok (.finished (repo.listFabricLifecycle command.commandId Repository.fabricPageLimit))

/-- `value or default`. -/
def orDefault (value : Option String) (default_ : String) : String :=
  match value with
  | none => default_
  | some text => if text = "" then default_ else text

/-- What a terminal stage reports of the outcome. -/
def FabricDispatchOutcome.note (outcome : FabricDispatchOutcome) : LifecycleNote where
  code := outcome.code
  message := outcome.message
  details := outcome.details

def FabricDispatchOutcome.refusal (outcome : FabricDispatchOutcome) : LifecycleNote where
  code := some (orDefault outcome.code "ADAPTER_REJECTED")
  message := some (orDefault outcome.message "The adapter rejected the command")
  details := outcome.details

/-- `submit_command` from the end of the awaited dispatcher. -/
def submitResume (ambient : Ambient) (command : FabricResolvedCommand) :
    DispatchReply → FabricM (List FabricCommandLifecycleEvent)
  | .raised => do
    let failed ← appendLifecycle ambient 0 command .failed
      { code := some "ADAPTER_DISPATCH_FAILED"
        message := some "The adapter transport failed before accepting the command" }
    return [failed]
  | .outcome outcome =>
    if outcome.accepted then do
      let dispatched ← appendLifecycle ambient 0 command .dispatched {}
      match outcome.terminalStage with
      | none => return [dispatched]
      | some stage =>
        let last ← appendLifecycle ambient 1 command stage outcome.note
        return [dispatched, last]
    else do
      let rejected ← appendLifecycle ambient 0 command (outcome.terminalStage.getD .rejected)
        outcome.refusal
      return [rejected]

namespace Repository
variable (repo : Repository)

/-- The checks of `accept_adapter_lifecycle`. -/
def checkAdapterLifecycle (lifecycle : FabricCommandLifecycleEvent) : Except FabricError Unit :=
  match repo.getFabricCommand lifecycle.commandId with
  | none => .error (.notFound "COMMAND_NOT_FOUND" "Adapter command is unknown")
  | some command =>
    if lifecycle.requestMessageId ≠ command.requestMessageId then
      .error (.policy "COMMAND_IDENTITY_MISMATCH"
        "Adapter lifecycle request identity does not match the command")
    else if lifecycle.targetNodeId ≠ command.targetNodeId then
      .error (.policy "COMMAND_TARGET_MISMATCH"
        "Adapter lifecycle target does not match the exact command target")
    else if lifecycle.sessionId ≠ command.sessionId ∨
        lifecycle.correlationId ≠ command.correlationId then
      .error (.policy "COMMAND_CONTEXT_MISMATCH"
        "Adapter lifecycle context does not match the command")
    else
      match (repo.listFabricLifecycle command.commandId fabricPageLimit).getLast? with
      | none => .error (.conflict "COMMAND_STATE_MISSING" "Command has no lifecycle state")
      | some current =>
        if lifecycle.stage ∈ commandTransitions current.stage then .ok ()
        else .error (.conflict "INVALID_COMMAND_TRANSITION"
          s!"Command cannot transition from {current.stage.value} to {lifecycle.stage.value}")

end Repository

def acceptAdapterLifecycle (lifecycle : FabricCommandLifecycleEvent) :
    FabricM (Option StoredFabricLifecycle) := do
  Effect.read (·.checkAdapterLifecycle lifecycle)
  Effect.commit (·.appendFabricLifecycle lifecycle)

end CitPhysicalXR.Fabric
