import CitPhysicalXR.Fabric.Protocol
import CitPhysicalXR.Foundation.Durable
import CitPhysicalXR.Foundation.JsText
import CitPhysicalXR.Foundation.KeyedTable
import CitPhysicalXR.Foundation.OrderedRows
import CitPhysicalXR.Foundation.UniqueTable
import Mathlib.Data.Prod.Lex
import Mathlib.Data.String.Basic

/-! The SQLite outbox of the agent mesh bridge: events waiting for the fabric, the receipts of
those it accepted, lifecycle frames, commands and routes. A rejected insert or update leaves
the tables alone. -/
namespace CitPhysicalXR.Bridge
open Foundation Fabric

inductive BridgeError where
  | type (message : String)
  | error (message : String)

def maxFrameBytes : ℕ := 65536

structure AdapterEventFrame where
  frameId : Uuid
  event : FabricEventEnvelope
  sentAt : Instant

structure AdapterCommandLifecycleFrame where
  frameId : Uuid
  lifecycle : FabricCommandLifecycleEvent
  sentAt : Instant

section Encoding

private def member (name value : String) : String × JsonValue := (name, .str value)

private def memberIf (name : String) : Option String → List (String × JsonValue)
  | none => []
  | some value => [member name value]

def AdapterEventFrame.toJson (frame : AdapterEventFrame) : JsonValue :=
  let event := frame.event
  .obj [member "frameType" "adapter.event", member "frameId" frame.frameId.text,
    ("protocolVersion", .int 1),
    ("event", .obj ([member "messageId" event.messageId.text, member "schemaVersion" "1.0",
      member "messageType" "event", member "topic" event.topic.text,
      member "sourceNodeId" event.sourceNodeId.text,
      member "sourceCapability" event.sourceCapability.text, member "siteId" event.siteId.text,
      member "roomId" event.roomId.text, member "sessionId" event.sessionId.text] ++
      memberIf "participantId" (event.participantId.map (·.text)) ++
      [member "timestamp" event.timestamp.toISOString,
        ("monotonicTimestamp", .int event.monotonicTimestamp),
        ("sequence", .int event.sequence)] ++
      memberIf "correlationId" event.correlationId ++ memberIf "causationId" event.causationId ++
      (match event.confidence with
        | none => []
        | some confidence => [("confidence", .float confidence)]) ++
      [("ttlMs", .int event.ttlMs),
        member "dataClassification" event.dataClassification.value,
        ("payload", event.payload.toJson)])),
    member "sentAt" frame.sentAt.toISOString]

def AdapterCommandLifecycleFrame.toJson (frame : AdapterCommandLifecycleFrame) : JsonValue :=
  let lifecycle := frame.lifecycle
  .obj [member "frameType" "adapter.command_lifecycle", member "frameId" frame.frameId.text,
    ("protocolVersion", .int 1),
    ("lifecycle", .obj ([member "messageId" lifecycle.messageId.text,
      member "schemaVersion" "1.0", member "messageType" "command.lifecycle",
      member "commandId" lifecycle.commandId.text,
      member "requestMessageId" lifecycle.requestMessageId.text,
      member "sessionId" lifecycle.sessionId.text,
      member "targetNodeId" lifecycle.targetNodeId.text, member "stage" lifecycle.stage.value,
      member "occurredAt" lifecycle.occurredAt.toISOString,
      member "correlationId" lifecycle.correlationId] ++
      memberIf "code" lifecycle.code ++ memberIf "message" lifecycle.message ++
      [("details", lifecycle.details.toJson)])),
    member "sentAt" frame.sentAt.toISOString]

end Encoding

inductive BridgeEventKind where
  | intent | interaction | completion
  deriving DecidableEq

structure BridgeEventReceipt where
  messageId : Uuid
  sourceKey : String
  kind : BridgeEventKind
  agentMeshIntentId : Option String := none
  agentMeshCommandId : Option String := none
  agentMeshSessionId : Option String := none
  agentMeshDispatchedSessionId : Option String := none
  alreadyDispatched : Bool
  legacyDisplayDelivered : Bool
  semanticSha256 : Option String := none

/-- `parseReceipt`, of what it checks beyond the types: `/^[0-9a-f]{64}$/u` on the digest. -/
def BridgeEventReceipt.parses (receipt : BridgeEventReceipt) : Bool :=
  match receipt.semanticSha256 with
  | none => true
  | some digest => digest.length == 64 &&
      digest.toList.all fun c => c.isDigit || ('a' ≤ c && c ≤ 'f')

/-- A row of `bridge_outbox`; its other columns are fields of the frame and the receipt. -/
structure PendingBridgeEvent where
  frame : AdapterEventFrame
  receipt : BridgeEventReceipt
  createdAt : Instant

/-- `ORDER BY created_at, frame_id`; both columns are texts. -/
def PendingBridgeEvent.position (row : PendingBridgeEvent) : String ×ₗ String :=
  toLex (row.createdAt.toISOString, row.frame.frameId.text)

/-- The unique columns `frame_id`, `message_id` and `source_key`. -/
def PendingBridgeEvent.keys : List (PendingBridgeEvent → Uuid ⊕ String) :=
  [fun row => .inl row.frame.frameId, fun row => .inl row.frame.event.messageId,
    fun row => .inr row.receipt.sourceKey]

theorem PendingBridgeEvent.eq_of_sourceKey {table : UniqueTable keys} {row other : PendingBridgeEvent}
    (hrow : row ∈ table) (hother : other ∈ table)
    (h : row.receipt.sourceKey = other.receipt.sourceKey) : row = other := by
  have hkey : (fun row : PendingBridgeEvent => (.inr row.receipt.sourceKey : Uuid ⊕ String)) ∈ keys :=
    List.mem_cons_of_mem _ (List.mem_cons_of_mem _ List.mem_cons_self)
  exact UniqueTable.eq_of_key_eq hkey hrow hother (congrArg Sum.inr h)

/-- The unique columns `message_id` and `source_key` of `bridge_event_receipts`. -/
def BridgeEventReceipt.keys : List (BridgeEventReceipt → Uuid ⊕ String) :=
  [fun row => .inl row.messageId, fun row => .inr row.sourceKey]

structure PendingLifecycleFrame where
  frame : AdapterCommandLifecycleFrame
  createdAt : Instant

def PendingLifecycleFrame.position (row : PendingLifecycleFrame) : String ×ₗ String :=
  toLex (row.createdAt.toISOString, row.frame.frameId.text)

/-- `PRIMARY KEY (frame_id)` and `UNIQUE (command_id, stage)`. -/
def PendingLifecycleFrame.keys :
    List (PendingLifecycleFrame → Uuid ⊕ (Uuid × FabricCommandLifecycleStage)) :=
  [fun row => .inl row.frame.frameId,
    fun row => .inr (row.frame.lifecycle.commandId, row.frame.lifecycle.stage)]

theorem PendingLifecycleFrame.eq_of_frameId {table : UniqueTable keys}
    {row other : PendingLifecycleFrame} (hrow : row ∈ table) (hother : other ∈ table)
    (h : row.frame.frameId = other.frame.frameId) : row = other := by
  have hkey : (fun row : PendingLifecycleFrame =>
      (.inl row.frame.frameId : Uuid ⊕ (Uuid × FabricCommandLifecycleStage))) ∈ keys :=
    List.mem_cons_self
  exact UniqueTable.eq_of_key_eq hkey hrow hother (congrArg Sum.inl h)

structure BridgeCommandReceipt where
  commandId : Uuid
  idempotencyKey : String
  targetNodeId : Identifier
  stage : FabricCommandLifecycleStage
  agentMeshCommandId : Option String := none
  correlationId : String
  updatedAt : Instant

def BridgeCommandReceipt.keys : List (BridgeCommandReceipt → Uuid ⊕ String) :=
  [fun row => .inl row.commandId, fun row => .inr row.idempotencyKey]

theorem BridgeCommandReceipt.eq_of_commandId {table : UniqueTable keys}
    {row other : BridgeCommandReceipt} (hrow : row ∈ table) (hother : other ∈ table)
    (h : row.commandId = other.commandId) : row = other := by
  have hkey : (fun row : BridgeCommandReceipt => (.inl row.commandId : Uuid ⊕ String)) ∈ keys :=
    List.mem_cons_self
  exact UniqueTable.eq_of_key_eq hkey hrow hother (congrArg Sum.inl h)

def BridgeCommandReceipt.withStage (row : BridgeCommandReceipt)
    (stage : FabricCommandLifecycleStage) (agentMeshCommandId : Option String)
    (updatedAt : Instant) : BridgeCommandReceipt :=
  { row with
    stage, updatedAt
    agentMeshCommandId := agentMeshCommandId.orElse fun _ => row.agentMeshCommandId }

theorem BridgeCommandReceipt.withStage_keys {stage : FabricCommandLifecycleStage} {agentMeshCommandId : Option String}
    {updatedAt : Instant} : ∀ key ∈ keys, ∀ row,
    key (row.withStage stage agentMeshCommandId updatedAt) = key row := by
  intro key hkey row
  simp only [keys, List.mem_cons, List.not_mem_nil, or_false] at hkey
  rcases hkey with rfl | rfl <;> rfl

structure BridgeAgentRoute where
  agentMeshSessionId : String
  targetNodeId : Identifier
  correlationId : String
  updatedAt : Instant

structure BridgeOutbox where
  events : UniqueTable PendingBridgeEvent.keys
  receipts : UniqueTable BridgeEventReceipt.keys
  lifecycles : UniqueTable PendingLifecycleFrame.keys
  commands : UniqueTable BridgeCommandReceipt.keys
  routes : Table BridgeAgentRoute.agentMeshSessionId

abbrev BridgeM := Effect (Durable BridgeOutbox) BridgeError

/-- A statement that cannot be refused. -/
def execute (f : BridgeOutbox → BridgeOutbox) : BridgeM Unit :=
  Durable.write fun outbox => .ok (f outbox, ())

namespace BridgeOutbox

def empty : BridgeOutbox := ⟨.empty, .empty, .empty, .empty, .empty⟩

/-- The checks of `enqueueEvent` before it writes; the validator's list of errors is left out
of the message. -/
def checkEvent (sourceKey : String) (frame : AdapterEventFrame) : Except BridgeError Unit := do
  raiseIf (frame.event.validates = false) (.type "Invalid Fabric adapter event: ")
  raiseIf (maxFrameBytes < frame.toJson.stringifyBytes)
    (.type "Bridge event exceeds its 64 KiB durable-delivery limit")
  raiseIf (JsString.isBlank sourceKey ∨ 500 < JsString.length sourceKey)
    (.type "Bridge event source key must contain 1 through 500 characters")

def parseReceipt (receipt : BridgeEventReceipt) : Except BridgeError BridgeEventReceipt := do
  raiseIf (receipt.parses = false) (.error "Bridge event receipt is invalid")
  return receipt

/-- The row that `enqueueEvent` answers with: the pending one, or the accepted one's receipt. -/
def eventRow (outbox : BridgeOutbox) (sourceKey : String) (row : PendingBridgeEvent) :
    Except BridgeError PendingBridgeEvent :=
  match outbox.events.find? (·.receipt.sourceKey = sourceKey) with
  | some pending => do
    let receipt ← parseReceipt pending.receipt
    return { pending with receipt }
  | none =>
    match outbox.receipts.find? (·.sourceKey = sourceKey) with
    | none => throw (.error "Bridge event could not be persisted")
    | some accepted => do
      let receipt ← parseReceipt accepted
      return { row with receipt }

def enqueueEvent (sourceKey : String) (frame : AdapterEventFrame) (receipt : BridgeEventReceipt)
    (createdAt : Instant) : BridgeM PendingBridgeEvent := do
  Durable.read fun _ => checkEvent sourceKey frame
  let exactReceipt := { receipt with messageId := frame.event.messageId, sourceKey }
  let row := { frame, receipt := exactReceipt, createdAt }
  execute fun outbox => { outbox with events := outbox.events.insertOrIgnore row }
  Durable.read fun outbox => eventRow outbox sourceKey row

def pendingEvents (outbox : BridgeOutbox) (limit : ℤ) :
    Except BridgeError (List PendingBridgeEvent) := do
  raiseIf (limit < 1 ∨ 100 < limit) (.type "Bridge outbox limit must be from 1 through 100")
  ((orderedBy PendingBridgeEvent.position outbox.events.rows).take limit.toNat).mapM fun row => do
    let receipt ← parseReceipt row.receipt
    return { row with receipt }

/-- An event of another session, or one that its time to live has run out for. -/
def Undeliverable (sessionId : String) (now : ℤ) (row : PendingBridgeEvent) : Prop :=
  row.frame.event.sessionId.text ≠ sessionId ∨
    row.frame.event.timestamp.getTime + row.frame.event.ttlMs ≤ now

instance (sessionId : String) (now : ℤ) : DecidablePred (Undeliverable sessionId now) :=
  fun _ => inferInstanceAs (Decidable (_ ∨ _))

/-- What `discardUndeliverableFrames` leaves. -/
def discarded (sessionId : String) (at_ : Instant) (outbox : BridgeOutbox) : BridgeOutbox :=
  { outbox with
    events := outbox.events.delete (Undeliverable sessionId at_.getTime)
    lifecycles := outbox.lifecycles.delete (·.frame.lifecycle.sessionId.text ≠ sessionId) }

def discardUndeliverableFrames (sessionId : String) (at_ : Instant) : BridgeM (ℕ × ℕ) :=
  Durable.write fun outbox =>
    let kept := outbox.discarded sessionId at_
    .ok (kept, outbox.events.rows.length - kept.events.rows.length,
      outbox.lifecycles.rows.length - kept.lifecycles.rows.length)

/-- One transaction; the receipt's other columns are never read. -/
def acknowledgeFrame (frameId : Uuid) : BridgeM (Option BridgeEventReceipt) :=
  Durable.write fun outbox =>
    match outbox.events.find? (·.frame.frameId = frameId) with
    | none => .ok (outbox, none)
    | some row => do
      let receipt ← parseReceipt row.receipt
      let receipts := outbox.receipts.insertOrIgnore row.receipt
      let events := outbox.events.delete (·.frame.frameId = frameId)
      return ({ outbox with receipts, events }, some receipt)

def receiptForMessage (outbox : BridgeOutbox) (messageId : String) :
    Except BridgeError (Option BridgeEventReceipt) :=
  let pending := outbox.events.find? (·.frame.event.messageId.text = messageId)
  let accepted := outbox.receipts.find? (·.messageId.text = messageId)
  match (pending.map (·.receipt)).orElse fun _ => accepted with
  | none => .ok none
  | some receipt => do return some (← parseReceipt receipt)

/-- The checks of `enqueueLifecycle` before it writes. -/
def checkLifecycle (frame : AdapterCommandLifecycleFrame) : Except BridgeError Unit := do
  raiseIf (frame.lifecycle.validates = false) (.type "Invalid Fabric lifecycle frame: ")
  raiseIf (maxFrameBytes < frame.toJson.stringifyBytes)
    (.type "Bridge lifecycle exceeds its 64 KiB durable-delivery limit")

def pendingLifecycle? (outbox : BridgeOutbox) (commandId : Uuid)
    (stage : FabricCommandLifecycleStage) : Option PendingLifecycleFrame :=
  outbox.lifecycles.find? fun row =>
    row.frame.lifecycle.commandId = commandId ∧ row.frame.lifecycle.stage = stage

def enqueueLifecycle (frame : AdapterCommandLifecycleFrame) (createdAt : Instant) :
    BridgeM PendingLifecycleFrame := do
  Durable.read fun _ => checkLifecycle frame
  execute fun outbox =>
    { outbox with lifecycles := outbox.lifecycles.insertOrIgnore { frame, createdAt } }
  Durable.read fun outbox =>
    match outbox.pendingLifecycle? frame.lifecycle.commandId frame.lifecycle.stage with
    | none => throw (.error "Bridge lifecycle could not be persisted")
    | some row => .ok row

def pendingLifecycles (outbox : BridgeOutbox) (limit : ℤ) :
    Except BridgeError (List PendingLifecycleFrame) := do
  raiseIf (limit < 1 ∨ 100 < limit)
    (.type "Bridge lifecycle outbox limit must be from 1 through 100")
  return (orderedBy PendingLifecycleFrame.position outbox.lifecycles.rows).take limit.toNat

/-- The row that the frame had, `none` when nothing was deleted. -/
def acknowledgeLifecycleFrame (frameId : Uuid) : BridgeM (Option PendingLifecycleFrame) :=
  Durable.write fun outbox =>
    .ok ({ outbox with lifecycles := outbox.lifecycles.delete (·.frame.frameId = frameId) },
      outbox.lifecycles.find? (·.frame.frameId = frameId))

def command (outbox : BridgeOutbox) (commandId : Uuid) : Option BridgeCommandReceipt :=
  outbox.commands.find? (·.commandId = commandId)

def recordCommand (input : BridgeCommandReceipt) : BridgeM BridgeCommandReceipt :=
  Durable.write fun outbox =>
    match outbox.commands.find? fun row =>
        row.commandId = input.commandId ∨ row.idempotencyKey = input.idempotencyKey with
    | some existing => do
      raiseIf (existing.commandId ≠ input.commandId ∨ existing.targetNodeId ≠ input.targetNodeId ∨
          existing.correlationId ≠ input.correlationId)
        (.error "Fabric command identity was reused for a different operation")
      return (outbox, existing)
    | none => .ok ({ outbox with commands := outbox.commands.insertOrIgnore input }, input)

/-- The tables after `UPDATE bridge_commands`. -/
def updated (outbox : BridgeOutbox) (commandId : Uuid) (stage : FabricCommandLifecycleStage)
    (agentMeshCommandId : Option String) (updatedAt : Instant) : BridgeOutbox :=
  { outbox with
    commands := outbox.commands.update (·.commandId = commandId)
      (·.withStage stage agentMeshCommandId updatedAt) BridgeCommandReceipt.withStage_keys }

theorem mem_updated {outbox : BridgeOutbox} {commandId : Uuid}
    {stage : FabricCommandLifecycleStage} {agentMeshCommandId : Option String}
    {updatedAt : Instant} {row : BridgeCommandReceipt} :
    row ∈ (outbox.updated commandId stage agentMeshCommandId updatedAt).commands ↔
      (∃ row₀ ∈ outbox.commands, row₀.commandId = commandId ∧
        row₀.withStage stage agentMeshCommandId updatedAt = row) ∨
      (row ∈ outbox.commands ∧ row.commandId ≠ commandId) :=
  UniqueTable.mem_update _ BridgeCommandReceipt.withStage_keys

def updateCommand (commandId : Uuid) (stage : FabricCommandLifecycleStage)
    (agentMeshCommandId : Option String) (updatedAt : Instant) : BridgeM BridgeCommandReceipt :=
  Durable.write fun outbox => do
    raiseIf (outbox.command commandId = none) (.error "Unknown Fabric bridge command")
    match (outbox.updated commandId stage agentMeshCommandId updatedAt).command commandId with
    | none => throw (.error "Fabric bridge command update was lost")
    | some row => return (outbox.updated commandId stage agentMeshCommandId updatedAt, row)

def recordAgentRoute (route : BridgeAgentRoute) : BridgeM Unit :=
  execute fun outbox => { outbox with routes := outbox.routes.upsert route }

end BridgeOutbox

end CitPhysicalXR.Bridge
