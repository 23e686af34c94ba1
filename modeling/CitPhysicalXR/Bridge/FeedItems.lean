import CitPhysicalXR.Bridge.CommandHandler
import CitPhysicalXR.Fabric.Records
import Mathlib.Data.List.DropRight
import Mathlib.Logic.Function.Basic

/-! The feeds of the agent mesh and the frames that the bridge makes of their items. The number
table of the bridge holds a cursor for each feed and a sequence for each node. -/
namespace CitPhysicalXR.Bridge
open Foundation Fabric

inductive CitFabricDeviceControlAction where
  | forward | backward | left | right | stop | light | demo | takeoff | land | power_on
  | power_off | activate
  deriving DecidableEq

def CitFabricDeviceControlAction.value : CitFabricDeviceControlAction → String
  | .forward => "forward"
  | .backward => "backward"
  | .left => "left"
  | .right => "right"
  | .stop => "stop"
  | .light => "light"
  | .demo => "demo"
  | .takeoff => "takeoff"
  | .land => "land"
  | .power_on => "power_on"
  | .power_off => "power_off"
  | .activate => "activate"

inductive CitFabricDeviceControlTarget where
  | ground_outputs | tello_fleet | power_outputs | assigned_output | all_outputs
  deriving DecidableEq

def CitFabricDeviceControlTarget.value : CitFabricDeviceControlTarget → String
  | .ground_outputs => "ground_outputs"
  | .tello_fleet => "tello_fleet"
  | .power_outputs => "power_outputs"
  | .assigned_output => "assigned_output"
  | .all_outputs => "all_outputs"

inductive AgentMeshWearableKind where
  | even_g2 | ray_ban
  deriving DecidableEq

def AgentMeshWearableKind.value : AgentMeshWearableKind → String
  | .even_g2 => "even_g2"
  | .ray_ban => "ray_ban"

inductive RingGesture where
  | tap | double_tap | scroll_up | scroll_down
  deriving DecidableEq

def RingGesture.value : RingGesture → String
  | .tap => "tap"
  | .double_tap => "double_tap"
  | .scroll_up => "scroll_up"
  | .scroll_down => "scroll_down"

inductive CompletionOutcome where
  | completed | failed | interrupted
  deriving DecidableEq

def CompletionOutcome.value : CompletionOutcome → String
  | .completed => "completed"
  | .failed => "failed"
  | .interrupted => "interrupted"

/-- `Number.MAX_SAFE_INTEGER`. -/
def maxSafeInteger : ℕ := 2 ^ 53 - 1

/-- What `positiveInteger` accepts. -/
structure FeedSequence where
  value : ℕ
  positive : 0 < value
  safe : value ≤ maxSafeInteger
  deriving DecidableEq

structure AgentMeshRingInteraction where
  interactionId : Uuid
  sequence : FeedSequence
  deviceId : String
  createdAt : Instant
  gesture : RingGesture

structure AgentMeshDeviceControlInteraction where
  interactionId : Uuid
  sequence : FeedSequence
  deviceId : String
  createdAt : Instant
  deviceKind : AgentMeshWearableKind
  action : CitFabricDeviceControlAction
  target : CitFabricDeviceControlTarget
  targetRole : Option String
  batchId : Option Uuid

inductive IntentRoute where
  | managed | continuation
  deriving DecidableEq

def IntentRoute.value : IntentRoute → String
  | .managed => "managed"
  | .continuation => "continuation"

structure AgentMeshIntent where
  intentId : Uuid
  sequence : FeedSequence
  deviceId : String
  deviceKind : AgentMeshWearableKind
  requestedSessionId : String
  dispatchedSessionId : String
  agentMeshCommandId : Uuid
  prompt : String
  route : IntentRoute
  createdAt : Instant

inductive CompletionAgent where
  | codex | claude
  deriving DecidableEq

def CompletionAgent.value : CompletionAgent → String
  | .codex => "codex"
  | .claude => "claude"

structure AgentMeshCompletion where
  notificationId : Uuid
  sequence : FeedSequence
  sessionId : String
  agent : CompletionAgent
  workspaceName : String
  outcome : CompletionOutcome
  title : String
  displayText : String
  speechText : String
  createdAt : Instant

inductive FeedName where
  | interaction | intent | completion
  deriving DecidableEq

/-- An item of one of the three feeds. -/
inductive FeedItem where
  | ring (interaction : AgentMeshRingInteraction)
  | deviceControl (interaction : AgentMeshDeviceControlInteraction)
  | intent (intent : AgentMeshIntent)
  | completion (completion : AgentMeshCompletion)

namespace FeedItem

def feed : FeedItem → FeedName
  | .ring _ | .deviceControl _ => .interaction
  | .intent _ => .intent
  | .completion _ => .completion

def sequence : FeedItem → ℕ
  | .ring item => item.sequence.value
  | .deviceControl item => item.sequence.value
  | .intent item => item.sequence.value
  | .completion item => item.sequence.value

theorem sequence_pos (item : FeedItem) : 0 < item.sequence := by
  cases item with
  | ring item => exact item.sequence.positive
  | deviceControl item => exact item.sequence.positive
  | intent item => exact item.sequence.positive
  | completion item => exact item.sequence.positive

theorem sequence_le (item : FeedItem) : item.sequence ≤ maxSafeInteger := by
  cases item with
  | ring item => exact item.sequence.safe
  | deviceControl item => exact item.sequence.safe
  | intent item => exact item.sequence.safe
  | completion item => exact item.sequence.safe

end FeedItem

/-- The nodes that a discovery made of the wearables, of their rings and of the sessions. -/
structure FeedMapping extends AgentMeshFabricMapping where
  wearableNodeByDeviceId : String → Option IntegrationNode
  companionNodeByParentDeviceId : String → Option IntegrationNode

structure BridgeConfig where
  siteId : Identifier
  roomId : Identifier
  fabricSessionId : Identifier

def flightSequenceIntentCapability : CapabilityIdentifier :=
  ⟨"interaction.intent.flight_sequence_start", by decide⟩

def intentCapability : CapabilityIdentifier := ⟨"interaction.intent.agent_prompt", by decide⟩

def ringGestureCapability : CapabilityIdentifier := ⟨"interaction.gesture.smart_ring", by decide⟩

def deviceControlIntentCapability : CapabilityIdentifier :=
  ⟨"interaction.intent.device_control", by decide⟩

def agentOutputCapability : CapabilityIdentifier := ⟨"agent.output.completed", by decide⟩

/-- The keys of `bridge_state`. -/
inductive StateKey where
  | nodeSequence (nodeId : Identifier)
  | cursor (feed : FeedName)
  deriving DecidableEq

def StateKey.text : StateKey → String
  | .nodeSequence nodeId => "node-sequence:" ++ nodeId.text
  | .cursor .interaction => "agent-mesh-interaction-cursor"
  | .cursor .intent => "agent-mesh-intent-cursor"
  | .cursor .completion => "agent-mesh-completion-cursor"

/-- The outbox with `bridge_state`; a key without a row reads as 0. -/
structure BridgeDatabase where
  outbox : BridgeOutbox
  numbers : StateKey → ℕ

abbrev FeedM := Effect (Durable BridgeDatabase) BridgeError

namespace BridgeDatabase

def empty : BridgeDatabase := ⟨.empty, fun _ => 0⟩

def cursor (db : BridgeDatabase) (feed : FeedName) : ℕ := db.numbers (.cursor feed)

def setNumber (db : BridgeDatabase) (key : StateKey) (value : ℕ) : BridgeDatabase :=
  { db with numbers := Function.update db.numbers key value }

def setStateNumber (key : StateKey) (value : ℕ) : FeedM Unit :=
  Durable.write fun db => do
    raiseIf (maxSafeInteger < value) (.type "Bridge cursor must be a non-negative safe integer")
    return (db.setNumber key value, ())

/-- The database after `setStateNumber` on a cursor, whether it returned or not. -/
def withCursor (db : BridgeDatabase) (feed : FeedName) (value : ℕ) : BridgeDatabase :=
  (Effect.final (setStateNumber (.cursor feed) value (.boot db))).current

theorem withCursor_eq {value : ℕ} (h : value ≤ maxSafeInteger) (db : BridgeDatabase)
    (feed : FeedName) : db.withCursor feed value = db.setNumber (.cursor feed) value := by
  have hsafe : ¬ maxSafeInteger < value := by omega
  have hcheck : raiseIf (maxSafeInteger < value)
      (BridgeError.type "Bridge cursor must be a non-negative safe integer") = .ok () :=
    raiseIf_eq_ok.mpr hsafe
  unfold withCursor setStateNumber Durable.write Effect.commit
  rw [hcheck]
  rfl

theorem cursor_setNumber (db : BridgeDatabase) (feed : FeedName) (value : ℕ) :
    (db.setNumber (.cursor feed) value).cursor = Function.update db.cursor feed value := by
  funext other
  by_cases hother : other = feed
  · subst hother
    simp [cursor, setNumber]
  · simp [cursor, setNumber, hother]

/-- One transaction. -/
def nextNodeSequence (nodeId : Identifier) : FeedM ℕ :=
  Durable.write fun db => do
    let next := db.numbers (.nodeSequence nodeId) + 1
    raiseIf (maxSafeInteger < next) (.type "Bridge cursor must be a non-negative safe integer")
    return (db.setNumber (.nodeSequence nodeId) next, next)

/-- A call on the tables of the outbox. -/
def onOutbox {α : Type} (m : BridgeM α) : FeedM α :=
  Durable.zoom BridgeDatabase.outbox (fun db outbox => { db with outbox }) m

end BridgeDatabase

def BridgeOutbox.latestCorrelationForTarget (outbox : BridgeOutbox) (targetNodeId : Identifier) :
    Option String :=
  let latest (best : Option BridgeCommandReceipt) (row : BridgeCommandReceipt) :=
    match best with
    | none => some row
    | some found => if found.updatedAt.getTime < row.updatedAt.getTime then some row else best
  ((outbox.commands.rows.filter (·.targetNodeId = targetNodeId)).foldl latest none).map
    (·.correlationId)

/-- What one frame draws: its ids and the clock. -/
structure Draw where
  frameId : Uuid
  messageId : Uuid
  now : Instant

structure PhraseRules where
  normalizeNfkc : String → String
  toLocaleLowerCase : String → String

def flightSequencePhrases : List String :=
  ["start drone sequence", "launch drone sequence", "take off drones", "드론 순차 이륙",
    "드론 이륙 시작"]

/-- `replace(/\s+/gu, " ")`. -/
def collapseSpaces (inSpace : Bool) : List Char → List Char
  | [] => []
  | c :: rest =>
    if JsString.isSpace c then
      if inSpace then collapseSpaces true rest else ' ' :: collapseSpaces true rest
    else c :: collapseSpaces false rest

def normalizedPhrase (rules : PhraseRules) (prompt : String) : String :=
  let lower := (rules.toLocaleLowerCase (rules.normalizeNfkc prompt)).toList
  let trimmed := (lower.dropWhile JsString.isSpace).rdropWhile JsString.isSpace
  let bare := trimmed.rdropWhile fun c => c ∈ ['.', '!', '?', '…']
  String.ofList (collapseSpaces false bare)

/-- Whether `flightSequenceIntentFrame` makes a frame of the intent. -/
def startsFlightSequence (rules : PhraseRules) (node : IntegrationNode)
    (intent : AgentMeshIntent) : Bool :=
  (node.publishedCapabilities.any fun capability =>
    capability.name = flightSequenceIntentCapability) &&
  flightSequencePhrases.contains (normalizedPhrase rules intent.prompt)

section Frames
variable (config : BridgeConfig)

/-- What the events of the bridge have in common. -/
def eventFrame (draw : Draw) (messageId : Uuid) (topic : CapabilityIdentifier)
    (nodeId : Identifier) (createdAt : Instant) (correlationId causationId : Option String)
    (ttlMs : ℕ) (dataClassification : FabricDataClassification) (payload : JsonObject)
    (sequence : ℕ) : AdapterEventFrame where
  frameId := draw.frameId
  event := {
    messageId, topic
    sourceNodeId := nodeId
    sourceCapability := topic
    siteId := config.siteId
    roomId := config.roomId
    sessionId := config.fabricSessionId
    participantId := none
    timestamp := createdAt
    monotonicTimestamp := draw.now.getTime.toNat
    sequence, correlationId, causationId
    confidence := some (.finite 1)
    ttlMs, dataClassification, payload }
  sentAt := draw.now

/-- `assertValid("AdapterEventFrame", frame)` on a frame with the node's next sequence. -/
def validFrame (nodeId : Identifier) (frame : ℕ → AdapterEventFrame) : FeedM AdapterEventFrame := do
  let sequence ← BridgeDatabase.nextNodeSequence nodeId
  Durable.read fun _ => do
    raiseIf ((frame sequence).event.validates = false) (.type "Invalid AdapterEventFrame: ")
    return frame sequence

def ringGestureEventFrame (interaction : AgentMeshRingInteraction) (node : IntegrationNode)
    (draw : Draw) : FeedM AdapterEventFrame :=
  validFrame node.nodeId <| eventFrame config draw interaction.interactionId ringGestureCapability
    node.nodeId interaction.createdAt (some interaction.interactionId.text) none 5000 .operational
    ((((JsonObject.empty.set "gesture" (.str interaction.gesture.value)).set "inputModality"
      (.str "smart_ring")).set "inputDevice" (.str "even_r1")).set "pairedGlassesDeviceId"
      (.str interaction.deviceId))

/-- The fields that a device control carries only when they are given. -/
def setIfGiven (payload : JsonObject) (name : String) : Option String → JsonObject
  | none => payload
  | some value => payload.set name (.str value)

def deviceControlEventFrame (interaction : AgentMeshDeviceControlInteraction)
    (node : IntegrationNode) (draw : Draw) : FeedM AdapterEventFrame :=
  let batchId := interaction.batchId.map (·.text)
  let chosen := (JsonObject.empty.set "action" (.str interaction.action.value)).set "target"
    (.str interaction.target.value)
  let addressed := setIfGiven (setIfGiven chosen "targetRole" interaction.targetRole) "batchId"
    batchId
  validFrame node.nodeId <| eventFrame config draw interaction.interactionId
    deviceControlIntentCapability node.nodeId interaction.createdAt
    (some (batchId.getD interaction.interactionId.text)) none 5000 .operational
    (((addressed.set "confirmed" (.bool true)).set "inputModality" (.str "voice")).set "deviceKind"
      (.str interaction.deviceKind.value))

def ringFlightSequenceIntentFrame (interaction : AgentMeshRingInteraction)
    (node : IntegrationNode) (draw : Draw) : FeedM (Option AdapterEventFrame) :=
  if interaction.gesture ≠ .double_tap then pure none
  else do
    let frame ← validFrame node.nodeId <| eventFrame config draw draw.messageId
      flightSequenceIntentCapability node.nodeId interaction.createdAt
      (some interaction.interactionId.text) (some interaction.interactionId.text) 5000 .operational
      ((((JsonObject.empty.set "intent" (.str "start")).set "inputModality"
        (.str "smart_ring")).set "deviceKind" (.str "even_r1")).set "gesture"
        (.str interaction.gesture.value))
    return some frame

def intentEventFrame (intent : AgentMeshIntent) (node : IntegrationNode) (draw : Draw) :
    FeedM AdapterEventFrame :=
  validFrame node.nodeId <| eventFrame config draw intent.intentId intentCapability
    node.nodeId intent.createdAt (some intent.intentId.text) (some intent.agentMeshCommandId.text)
    30000 .voice_transcript
    ((((((JsonObject.empty.set "text" (.str intent.prompt)).set "requestedSessionId"
      (.str intent.requestedSessionId)).set "dispatchedSessionId"
      (.str intent.dispatchedSessionId)).set "agentMeshCommandId"
      (.str intent.agentMeshCommandId.text)).set "route" (.str intent.route.value)).set
      "alreadyDispatched" (.bool true))

def flightSequenceIntentFrame (rules : PhraseRules) (intent : AgentMeshIntent)
    (node : IntegrationNode) (draw : Draw) : FeedM (Option AdapterEventFrame) :=
  if startsFlightSequence rules node intent = false then pure none
  else do
    let frame ← validFrame node.nodeId <| eventFrame config draw draw.messageId
      flightSequenceIntentCapability node.nodeId intent.createdAt (some intent.intentId.text)
      (some intent.agentMeshCommandId.text) 5000 .operational
      (((JsonObject.empty.set "intent" (.str "start")).set "inputModality" (.str "voice")).set
        "deviceKind" (.str intent.deviceKind.value))
    return some frame

def completionEventFrame (completion : AgentMeshCompletion) (nodeId : Identifier) (draw : Draw) :
    FeedM AdapterEventFrame := do
  let sequence ← BridgeDatabase.nextNodeSequence nodeId
  let correlation ← Durable.read fun db => .ok (db.outbox.latestCorrelationForTarget nodeId)
  Durable.read fun _ => do
    let frame := eventFrame config draw completion.notificationId agentOutputCapability nodeId
      completion.createdAt (some (correlation.getD completion.notificationId.text)) none 300000
      .source_code
      (((((((JsonObject.empty.set "outcome" (.str completion.outcome.value)).set "title"
        (.str completion.title)).set "displayText" (.str completion.displayText)).set "speechText"
        (.str completion.speechText)).set "agent" (.str completion.agent.value)).set
        "agentMeshSessionId" (.str completion.sessionId)).set "workspaceName"
        (.str completion.workspaceName)) sequence
    raiseIf (frame.event.validates = false) (.type "Invalid AdapterEventFrame: ")
    return frame

end Frames

end CitPhysicalXR.Bridge
