import CitPhysicalXR.Bridge.Outbox

/-! How the bridge answers a command of the fabric: it confirms what the agent mesh already
did, and refuses the rest. `sha256` stands for the hexadecimal digest of a text. -/
namespace CitPhysicalXR.Bridge
open Foundation Fabric

structure AdapterCommandFrame where
  frameId : Uuid
  command : FabricResolvedCommand
  sentAt : Instant

structure AgentMeshSession where
  sessionId : String

structure AgentMeshFabricMapping where
  nodes : List Identifier
  agentSessionByNodeId : Identifier → Option AgentMeshSession

def agentPromptCapability : String := "agent.prompt.submit"
def displayCapability : String := "display.text.render"

def terminalStages : List FabricCommandLifecycleStage :=
  [.succeeded, .failed, .cancelled, .timed_out, .rejected]

def hexDigit (c : Char) : ℕ :=
  if c.isDigit then c.toNat - '0'.toNat else c.toNat - 'a'.toNat + 10

/-- The first 32 digits of the digest, with the version 5 and the variant 8 written in. -/
def deterministicUuid (sha256 : String → String) (source : String) : Uuid :=
  let digits := ((sha256 source).toList.take 32).map hexDigit
  ⟨Fin.ofNat _ (Nat.ofDigits 16 ((digits.set 12 5).set 16 8).reverse)⟩

def exactTextParameter (parameters : JsonObject) (name : String) (maximumUtf8Bytes : ℕ) :
    Option String :=
  if parameters.fields.length ≠ 1 then none
  else
    match parameters.get? name with
    | some (.str value) =>
      if JsString.isBlank value ∨ maximumUtf8Bytes < PyString.encodedLength value then none
      else some value
    | _ => none

namespace MirrorCommandHandler
variable (sha256 : String → String)

structure Report where
  code : Option String := none
  message : Option String := none
  details : JsonObject := .empty

def lifecycleFrame (command : FabricResolvedCommand) (stage : FabricCommandLifecycleStage)
    (now : Instant) (report : Report) : AdapterCommandLifecycleFrame where
  frameId := deterministicUuid sha256 s!"frame:{command.commandId.text}:{stage.value}"
  lifecycle := {
    messageId := deterministicUuid sha256 s!"lifecycle:{command.commandId.text}:{stage.value}"
    commandId := command.commandId
    requestMessageId := command.requestMessageId
    sessionId := command.sessionId
    targetNodeId := command.targetNodeId
    stage
    occurredAt := now
    correlationId := command.correlationId
    code := report.code
    message := report.message
    details := report.details }
  sentAt := now

def lifecycle (command : FabricResolvedCommand) (stage : FabricCommandLifecycleStage)
    (now : Instant) (report : Report) : BridgeM AdapterCommandLifecycleFrame :=
  Durable.read fun _ => do
    let frame := lifecycleFrame sha256 command stage now report
    raiseIf (frame.lifecycle.validates = false) (.type "Invalid adapter lifecycle: ")
    return frame

def terminal (command : FabricResolvedCommand) (stage : FabricCommandLifecycleStage)
    (now : Instant) (report : Report) : BridgeM AdapterCommandLifecycleFrame := do
  let _ ← BridgeOutbox.updateCommand command.commandId stage none now
  lifecycle sha256 command stage now report

/-- The only frame of a command that is refused. -/
def reject (command : FabricResolvedCommand) (code message : String) (now : Instant) :
    BridgeM (List AdapterCommandLifecycleFrame) := do
  return [← terminal sha256 command .rejected now { code, message }]

/-- The frames of a command that was done before it came. -/
def confirm (command : FabricResolvedCommand) (now : Instant) (accepted succeeded : Report) :
    BridgeM (List AdapterCommandLifecycleFrame) := do
  let first ← lifecycle sha256 command .accepted now accepted
  let last ← terminal sha256 command .succeeded now succeeded
  return [first, last]

private def flags (names : List String) (h : names.Nodup) : JsonObject :=
  ⟨names.map fun name => (name, .bool true), by simpa [Function.comp_def] using h⟩

def causingReceipt (command : FabricResolvedCommand) : BridgeM (Option BridgeEventReceipt) :=
  Durable.read fun outbox =>
    match command.causationId with
    | none => .ok none
    | some causationId => outbox.receiptForMessage causationId

def recordDispatchedRoute (command : FabricResolvedCommand) (receipt : BridgeEventReceipt)
    (now : Instant) : BridgeM Unit :=
  match receipt.agentMeshDispatchedSessionId with
  | none => pure ()
  | some agentMeshSessionId => BridgeOutbox.recordAgentRoute {
      agentMeshSessionId
      targetNodeId := command.targetNodeId
      correlationId := command.correlationId
      updatedAt := now }

/-- The receipt that a mirrored prompt may be confirmed from. -/
def mirroredIntent (receipt : Option BridgeEventReceipt) : Option BridgeEventReceipt :=
  receipt.filter fun receipt => receipt.kind = .intent && receipt.alreadyDispatched

def confirmPrompt (command : FabricResolvedCommand) (targetSession : AgentMeshSession)
    (receipt : BridgeEventReceipt) (now : Instant) :
    BridgeM (List AdapterCommandLifecycleFrame) := do
  recordDispatchedRoute command receipt now
  confirm sha256 command now
    { details := flags ["compatibilityMode", "duplicateExecutionPrevented"] (by decide) }
    { code := "AGENT_MESH_ALREADY_DISPATCHED"
      message := "Existing Agent Mesh delivery was preserved without a duplicate prompt"
      details := ⟨[("compatibilityMode", .bool true),
        ("agentMeshCommandId", .str (receipt.agentMeshCommandId.getD "unknown")),
        ("agentMeshSessionId", .str targetSession.sessionId)], by simp⟩ }

/-- The prompt against the receipt of its cause. -/
def matchPrompt (command : FabricResolvedCommand) (targetSession : AgentMeshSession)
    (prompt : String) (receipt : Option BridgeEventReceipt) (now : Instant) :
    BridgeM (List AdapterCommandLifecycleFrame) :=
  match mirroredIntent receipt with
  | none => reject sha256 command "COMPATIBILITY_MIRROR_ONLY"
      "Native Fabric-to-Agent-Mesh dispatch is not enabled in compatibility mode" now
  | some receipt =>
    if receipt.agentMeshSessionId ≠ some targetSession.sessionId then
      reject sha256 command "MIRROR_TARGET_MISMATCH"
        "The mirrored prompt was already sent to a different Agent Mesh session" now
    else if receipt.semanticSha256 ≠ some (sha256 prompt) then
      reject sha256 command "MIRROR_PAYLOAD_MISMATCH"
        "The command prompt differs from the mirrored semantic intent" now
    else confirmPrompt sha256 command targetSession receipt now

def agentPrompt (command : FabricResolvedCommand) (mapping : AgentMeshFabricMapping)
    (now : Instant) : BridgeM (List AdapterCommandLifecycleFrame) :=
  match mapping.agentSessionByNodeId command.targetNodeId with
  | none => reject sha256 command "TARGET_UNKNOWN"
      "Target is not a registered Agent Mesh session" now
  | some targetSession =>
    match exactTextParameter command.parameters "prompt" 32768 with
    | none => reject sha256 command "INVALID_PARAMETERS"
        "Prompt command requires exactly one bounded prompt" now
    | some prompt => do
      let receipt ← causingReceipt command
      matchPrompt sha256 command targetSession prompt receipt now

def projected (receipt : Option BridgeEventReceipt) (text : String) : Bool :=
  match receipt with
  | none => false
  | some receipt => receipt.kind = .completion && receipt.legacyDisplayDelivered &&
      receipt.semanticSha256 = some (sha256 text)

def matchDisplay (command : FabricResolvedCommand) (text : String)
    (receipt : Option BridgeEventReceipt) (now : Instant) :
    BridgeM (List AdapterCommandLifecycleFrame) :=
  if projected sha256 receipt text = false then
    reject sha256 command "DISPLAY_SINK_UNAVAILABLE"
      "Compatibility mode only confirms output already projected by Agent Mesh" now
  else
    confirm sha256 command now
      { details := flags ["compatibilityMode", "legacyProjection"] (by decide) }
      { code := "DISPLAY_ALREADY_PROJECTED"
        message := "Existing Agent Mesh glasses projection was preserved"
        details := flags ["compatibilityMode", "duplicateDisplayPrevented"] (by decide) }

def display (command : FabricResolvedCommand) (mapping : AgentMeshFabricMapping)
    (now : Instant) : BridgeM (List AdapterCommandLifecycleFrame) :=
  if command.targetNodeId ∉ mapping.nodes then
    reject sha256 command "TARGET_UNKNOWN" "Target is not registered by this bridge" now
  else
    match exactTextParameter command.parameters "text" 4096 with
    | none => reject sha256 command "INVALID_PARAMETERS"
        "Display command requires exactly one bounded text value" now
    | some text => do
      let receipt ← causingReceipt command
      matchDisplay sha256 command text receipt now

def finish (command : FabricResolvedCommand) (mapping : AgentMeshFabricMapping) (now : Instant) :
    BridgeM (List AdapterCommandLifecycleFrame) :=
  if command.expiresAt.getTime ≤ now.getTime then do
    return [← terminal sha256 command .timed_out now {
      code := "COMMAND_EXPIRED"
      message := "Command expired before adapter execution" }]
  else if command.action.text = agentPromptCapability then agentPrompt sha256 command mapping now
  else if command.action.text = displayCapability then display sha256 command mapping now
  else reject sha256 command "CAPABILITY_UNSUPPORTED"
    "Agent Mesh bridge does not consume this capability" now

/-- A command that has a row already: the same command again goes on unless it is done. -/
def resume (existing : BridgeCommandReceipt) (command : FabricResolvedCommand)
    (mapping : AgentMeshFabricMapping) (now : Instant) :
    BridgeM (List AdapterCommandLifecycleFrame) := do
  Durable.read fun _ => raiseIf
    (existing.idempotencyKey ≠ command.idempotencyKey ∨
      existing.targetNodeId ≠ command.targetNodeId ∨
      existing.correlationId ≠ command.correlationId)
    (BridgeError.error "Fabric command identity was reused for a different operation")
  if existing.stage ∈ terminalStages then pure [] else finish sha256 command mapping now

def begin (command : FabricResolvedCommand) (mapping : AgentMeshFabricMapping) (now : Instant) :
    BridgeM (List AdapterCommandLifecycleFrame) := do
  let _ ← BridgeOutbox.recordCommand {
    commandId := command.commandId
    idempotencyKey := command.idempotencyKey
    targetNodeId := command.targetNodeId
    stage := .dispatched
    correlationId := command.correlationId
    updatedAt := now }
  finish sha256 command mapping now

def handleFrom (command : FabricResolvedCommand) (mapping : AgentMeshFabricMapping)
    (now : Instant) :
    Option BridgeCommandReceipt → BridgeM (List AdapterCommandLifecycleFrame)
  | some existing => resume sha256 existing command mapping now
  | none => begin sha256 command mapping now

def handle (frame : AdapterCommandFrame) (mapping : AgentMeshFabricMapping) (now : Instant) :
    BridgeM (List AdapterCommandLifecycleFrame) := do
  let existing ← Durable.read fun outbox => .ok (outbox.command frame.command.commandId)
  handleFrom sha256 frame.command mapping now existing

end MirrorCommandHandler
end CitPhysicalXR.Bridge
