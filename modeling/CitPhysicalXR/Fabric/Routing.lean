import CitPhysicalXR.Fabric.Commands

/-! Event ingestion: the checks of an event, its durable storage, and the command requests
that the flows of the session's course pack derive from it. -/
namespace CitPhysicalXR.Fabric
open Foundation

def maxFlowCommandTtl : Duration := seconds 2

/-- The trigger conditions that read only the event. -/
def triggerMatches (flow : FlowRecipe) (event : FabricEventEnvelope) : Bool :=
  let confident := match flow.trigger.minimumConfidence, event.confidence with
    | none, _ => true
    | some _, none => false
    | some minimum, some confidence => !confidence.lt minimum
  let expected := match flow.trigger.payloadEquals with
    | none => []
    | some expected => expected.fields
  flow.enabled && decide (flow.trigger.event = event.topic) && confident &&
    expected.all fun (key, value) => ((event.payload.get? key).getD .null).pyEq value

def debounceFlowId (flow : FlowRecipe) (role : Identifier) : String :=
  match flow.target with
  | .payload .. => flow.flowId.text ++ ":" ++ role.text
  | _ => flow.flowId.text

/-- The fixed parameters with the bound payload fields; `none` when the payload lacks one. -/
def flowParameters (payload : JsonObject) (parameters : JsonObject) :
    List FlowParameterBinding → Option JsonObject
  | [] => some parameters
  | binding :: rest =>
    match payload.get? binding.payloadField.text with
    | none => none
    | some value => flowParameters payload (parameters.set binding.parameter.text value) rest

/-- `flow:{session}:{flow}:{role}:{message}`. -/
def flowIdempotencyKey (sessionId flowId role : Identifier) (messageId : Uuid) : String :=
  "flow:" ++ sessionId.text ++ ":" ++ flowId.text ++ ":" ++ role.text ++ ":" ++ messageId.text

def flowTtlMs (event : FabricEventEnvelope) (now : Instant) : ℤ :=
  let remaining := event.timestamp + milliseconds event.ttlMs - now
  let ttl := min (max remaining (milliseconds 1)) maxFlowCommandTtl
  max 1 (ttl / milliseconds 1)

def flowRequest (flow : FlowRecipe) (event : FabricEventEnvelope) (session : InteractionSession)
    (now : Instant) (parameters : JsonObject) (role : Identifier) (messageId : Uuid) :
    FabricCommandRequest where
  messageId := messageId
  action := flow.command.action
  targetRole := role
  sessionId := session.sessionId
  parameters := parameters
  priority := .lesson_automation
  idempotencyKey := flowIdempotencyKey session.sessionId flow.flowId role event.messageId
  requestedAt := now
  ttlMs := flowTtlMs event now
  safetyProfile := flow.safetyProfile
  correlationId := orDefault event.correlationId event.messageId.text
  causationId := some event.messageId.text
  sourceNodeId := some event.sourceNodeId

namespace Repository
variable (repo : Repository)

/-- Whether a target role has a bound node that meets the guards of the flow. -/
def roleAccepts (flow : FlowRecipe) (session : InteractionSession) (role : Identifier) : Bool :=
  match session.roleBindings.find? fun item => item.role = role with
  | none => false
  | some binding =>
    match repo.getFabricNode binding.nodeId with
    | none => false
    | some target =>
      !(.target_is_connected ∈ flow.guards && target.connectionState ≠ .connected) &&
        !(.target_is_armed ∈ flow.guards && target.physical && !session.armed) &&
        (flowTargetRequiredCapability flow).all fun required =>
          (consumedCapability target required.text).isSome

end Repository

/-- The loop over the target roles; each request is validated when it is built. -/
def buildRequests (flow : FlowRecipe) (event : FabricEventEnvelope)
    (session : InteractionSession) (now : Instant) (parameters : JsonObject)
    (accepts : Identifier → Bool) (messageId : ℕ → Uuid) (draw : ℕ) :
    List Identifier → Except FabricError (List FabricCommandRequest)
  | [] => .ok []
  | role :: rest =>
    if accepts role then
      let request := flowRequest flow event session now parameters role (messageId draw)
      if request.validates then
        (buildRequests flow event session now parameters accepts messageId (draw + 1) rest).map
          (request :: ·)
      else .error (.value "FabricCommandRequest: validation error")
    else buildRequests flow event session now parameters accepts messageId draw rest

/-- The debounce of a trigger: whether it may fire. -/
def claimTrigger (flow : FlowRecipe) (event : FabricEventEnvelope) (session : InteractionSession)
    (now : Instant) (role : Identifier) : FabricM Bool :=
  let debounce := milliseconds (flow.trigger.debounceMs.getD 0)
  if debounce = 0 then pure true
  else Effect.commit fun repo =>
    .ok (repo.claimFlowDebounce session.sessionId (debounceFlowId flow role) event.sourceNodeId
      now debounce)

def requestsFromFlow (flow : FlowRecipe) (event : FabricEventEnvelope)
    (session : InteractionSession) (now : Instant) (messageId : ℕ → Uuid) :
    FabricM (List FabricCommandRequest) :=
  if !triggerMatches flow event then pure []
  else
    match resolveFlowTargetRoles flow event.payload with
    | [] => pure []
    | role :: roles => do
      let fires ← claimTrigger flow event session now role
      let isHeld := .session_is_active ∈ flow.guards ∧ session.state ≠ .active
      match flowParameters event.payload flow.command.fixedParameters
          flow.command.parameterBindings with
      | none => return []
      | some parameters =>
        if !fires ∨ isHeld then
          return []
        else
          Effect.read fun repo => buildRequests flow event session now parameters
            (repo.roleAccepts flow session) messageId 0 (role :: roles)

/-- The requests of all flows in the order of the course pack. -/
def routeFlows (event : FabricEventEnvelope) (session : InteractionSession) (now : Instant)
    (messageId : ℕ → ℕ → Uuid) (index : ℕ) :
    List FlowRecipe → FabricM (List (FlowRecipe × FabricCommandRequest))
  | [] => pure []
  | flow :: flows => do
    let requests ← requestsFromFlow flow event session now (messageId index)
    let others ← routeFlows event session now messageId (index + 1) flows
    return requests.map (flow, ·) ++ others

/-- The requests in the order of submission; those of one parallel group go together, where
the first of them stands. -/
def submissionBatches (routed : List (FlowRecipe × FabricCommandRequest)) :
    List Identifier → List (FlowRecipe × FabricCommandRequest) → List (List FabricCommandRequest)
  | _, [] => []
  | completed, (flow, request) :: rest =>
    match flow.parallelGroup with
    | none => [request] :: submissionBatches routed completed rest
    | some group =>
      if group ∈ completed then submissionBatches routed completed rest
      else (routed.filter fun entry => entry.1.parallelGroup = some group).map Prod.snd ::
        submissionBatches routed (group :: completed) rest

theorem mem_submissionBatches {routed rest : List (FlowRecipe × FabricCommandRequest)}
    {completed : List Identifier} (hrest : ∀ entry ∈ rest, entry ∈ routed)
    {batch : List FabricCommandRequest} (hbatch : batch ∈ submissionBatches routed completed rest)
    {request : FabricCommandRequest} (hrequest : request ∈ batch) :
    ∃ flow, (flow, request) ∈ routed := by
  induction rest generalizing completed with
  | nil => simp [submissionBatches] at hbatch
  | cons entry rest ih =>
    obtain ⟨flow, first⟩ := entry
    have htail : ∀ entry ∈ rest, entry ∈ routed := fun entry h => hrest entry (by simp [h])
    unfold submissionBatches at hbatch
    split at hbatch
    · rcases List.mem_cons.mp hbatch with rfl | hbatch
      · obtain rfl := List.mem_singleton.mp hrequest
        exact ⟨flow, hrest _ (by simp)⟩
      · exact ih htail hbatch
    · split at hbatch
      · exact ih htail hbatch
      · rcases List.mem_cons.mp hbatch with rfl | hbatch
        · obtain ⟨entry, hentry, rfl⟩ := List.mem_map.mp hrequest
          exact ⟨entry.1, (List.mem_filter.mp hentry).1⟩
        · exact ih htail hbatch

namespace Repository
variable (repo : Repository)

def isVerifiedInactiveSafeStateResult (event : FabricEventEnvelope) : Bool :=
  match event.causationId with
  | none => false
  | some causationId =>
    let isOff := match event.payload.get? "on" with
      | some (.bool false) => true
      | _ => false
    let fromCommand := ((event.payload.get? "source").bind JsonValue.str?) = some "command"
    let isState := event.topic.text = "power.switch.state"
    let isTelemetry := event.topic.text = "telemetry.power.electrical"
    (isState || isTelemetry) && fromCommand && (!isState || isOff) &&
      (repo.commands.find? fun command => command.commandId.text = causationId).any fun command =>
        isSafeStateCommand command && command.action.text = powerSwitchSet &&
          command.sessionId = event.sessionId && command.targetNodeId = event.sourceNodeId &&
          command.correlationId = event.correlationId.getD "None" &&
          (repo.listFabricLifecycle command.commandId 10).getLast?.any (·.stage = .succeeded)

def checkEventSource (event : FabricEventEnvelope) (session : InteractionSession)
    (node : IntegrationNode) : Except FabricError Unit := do
  raiseIf (node.siteId ≠ event.siteId ∨ node.roomId ≠ event.roomId) (.policy "EVENT_SCOPE_MISMATCH"
    "Event site or room does not match its registered source node")
  raiseIf (event.siteId ≠ session.siteId ∨ event.roomId ≠ session.roomId)
    (.policy "SESSION_SCOPE_MISMATCH"
      "Event site or room does not match its interaction session")
  raiseIf (!session.roleBindings.any fun binding => binding.nodeId = node.nodeId)
    (.policy "NODE_NOT_ASSIGNED" "Event source is not assigned to an interaction-session role")
  raiseIf (!nodePublishes node event.sourceCapability.text) (.policy "CAPABILITY_NOT_PUBLISHED"
    "Source node does not publish the declared capability")
  raiseIf (event.topic ≠ event.sourceCapability) (.policy "TOPIC_CAPABILITY_MISMATCH"
    "Event topic must equal the published source capability in version 1")
  raiseIf (event.dataClassification ∉ node.dataClassifications)
    (.policy "DATA_CLASSIFICATION_MISMATCH"
      "Event data classification is not advertised by the source node")

/-- The checks of `ingest_event` before the event is stored: the session, and whether the
event is the result of a safe-state command outside an active lesson. -/
def checkEvent (event : FabricEventEnvelope) (now : Instant) :
    Except FabricError (InteractionSession × Bool) := do
  raiseIf (now + maxClockSkew < event.timestamp)
    (.policy "EVENT_FROM_FUTURE" "Event timestamp is too far in the future")
  raiseIf (event.timestamp + milliseconds event.ttlMs ≤ now)
    (.policy "EVENT_EXPIRED" "Event TTL has expired")
  let session ← repo.requireSession event.sessionId
  let accepts := session.state = .active ∨ session.state = .paused
  let inactiveResult := decide (¬ accepts) && repo.isVerifiedInactiveSafeStateResult event
  raiseIf (¬ accepts ∧ !inactiveResult)
    (.conflict "SESSION_NOT_ACTIVE" "Semantic events require an active or paused session")
  let node ← repo.requireNode event.sourceNodeId
  checkEventSource event session node
  return (session, inactiveResult)

end Repository

/-- The errors of `append_fabric_event` as `ingest_event` raises them. -/
def eventStoreError : FabricError → FabricError
  | .sequenceConflict message => .conflict "EVENT_SEQUENCE_CONFLICT" message
  | .value _ => .policy "EVENT_DATA_POLICY_DENIED" "Event payload violates Fabric persistence policy"
  | e => e

/-- How far an ingestion came before its first submission. -/
inductive IngestProgress where
  | finished (storedEvent : Option StoredFabricEvent) (duplicate : Bool)
  | routing (storedEvent : StoredFabricEvent) (session : InteractionSession)

/-- `ingest_event` up to the storage of the event. -/
def storeEvent (event : FabricEventEnvelope) (now : Instant) : FabricM IngestProgress := do
  let (session, inactiveResult) ← Effect.read (·.checkEvent event now)
  if session.state = .paused then
    return .finished none false
  else
    let stored ← Effect.commit fun repo => (repo.appendFabricEvent event).mapError eventStoreError
    match stored with
    | none => return .finished none true
    | some stored =>
      if inactiveResult then return .finished (some stored) false
      else return .routing stored session

/-- The routing of a stored event: the batches of requests to submit. -/
def routeEvent (event : FabricEventEnvelope) (session : InteractionSession) (now : Instant)
    (messageId : ℕ → ℕ → Uuid) : FabricM (List (List FabricCommandRequest)) := do
  let coursePack ← Effect.read (·.requireCoursePack session)
  let routed ← routeFlows event session now messageId 0 coursePack.flows
  return submissionBatches routed [] routed

end CitPhysicalXR.Fabric
