import CitPhysicalXR.Bridge.Bridge
import CitPhysicalXR.Bridge.FeedItems

/-! The poll loop of the bridge: it asks each feed for what follows its cursor, enqueues the
events of each item and moves the cursor behind the item. A crash may come between any two
commits, and the other calls on the outbox between any two steps. -/
namespace CitPhysicalXR.Bridge
open Foundation Fabric

namespace CitAgentMeshBridge

structure ItemDraw where
  first : Draw
  second : Draw

def enqueueEvent (sourceKey : String) (frame : AdapterEventFrame) (receipt : BridgeEventReceipt)
    (draw : Draw) : FeedM Unit :=
  (BridgeDatabase.onOutbox (BridgeOutbox.enqueueEvent sourceKey frame receipt draw.now)).discard

/-- The second event of an item, when it has one. -/
def enqueueIfMade (sourceKey : String) (receipt : BridgeEventReceipt) (draw : Draw) :
    Option AdapterEventFrame → FeedM Unit
  | none => pure ()
  | some frame => enqueueEvent sourceKey frame receipt draw

def connectedNode (node : Option IntegrationNode) (message : String) : FeedM IntegrationNode :=
  Durable.read fun _ =>
    match node with
    | none => throw (.error message)
    | some node => do
      raiseIf (node.connectionState ≠ .connected) (.error message)
      return node

def mappedNode (node : Option IntegrationNode) (message : String) : FeedM IntegrationNode :=
  Durable.read fun _ =>
    match node with
    | none => throw (.error message)
    | some node => .ok node

def completionNode (mapping : FeedMapping) (outbox : BridgeOutbox)
    (completion : AgentMeshCompletion) : Option Identifier :=
  (outbox.routes.get? completion.sessionId).bind fun route =>
    mapping.nodes.find? (· = route.targetNodeId)

def deviceControlKey (item : AgentMeshDeviceControlInteraction) : String :=
  "device-control:" ++ item.interactionId.text

def ringKey (item : AgentMeshRingInteraction) : String :=
  "ring-interaction:" ++ item.interactionId.text

def ringFlightKey (item : AgentMeshRingInteraction) : String :=
  "ring-fleet-intent:" ++ item.interactionId.text

def intentKey (item : AgentMeshIntent) : String := "intent:" ++ item.intentId.text

def intentFlightKey (item : AgentMeshIntent) : String := "fleet-intent:" ++ item.intentId.text

def completionKey (item : AgentMeshCompletion) : String :=
  "completion:" ++ item.notificationId.text

/-- A receipt before `enqueueEvent` completes it with the message and the source key. -/
def receiptOf (kind : BridgeEventKind) (sha256 : String) : BridgeEventReceipt where
  messageId := ⟨0⟩
  sourceKey := ""
  kind := kind
  alreadyDispatched := false
  legacyDisplayDelivered := false
  semanticSha256 := some sha256

def intentReceipt (item : AgentMeshIntent) (sha256 : String) : BridgeEventReceipt :=
  { receiptOf .intent sha256 with
    agentMeshIntentId := some item.intentId.text
    agentMeshCommandId := some item.agentMeshCommandId.text
    agentMeshSessionId := some item.requestedSessionId
    agentMeshDispatchedSessionId := some item.dispatchedSessionId }

section Items
variable (semanticSha256 : String → String) (rules : PhraseRules) (config : BridgeConfig)
  (mapping : FeedMapping)

def handleDeviceControl (item : AgentMeshDeviceControlInteraction) (draw : ItemDraw) :
    FeedM Unit := do
  let node ← connectedNode (mapping.wearableNodeByDeviceId item.deviceId)
    "Agent Mesh device control requires refreshed wearable discovery"
  let frame ← deviceControlEventFrame config item node draw.first
  let role := item.targetRole.getD ""
  let batch := (item.batchId.map (·.text)).getD ""
  enqueueEvent (deviceControlKey item) frame
    (receiptOf .interaction (semanticSha256
      s!"{item.target.value}:{role}:{item.action.value}:{batch}")) draw.first

def handleRing (item : AgentMeshRingInteraction) (draw : ItemDraw) : FeedM Unit := do
  let node ← connectedNode (mapping.companionNodeByParentDeviceId item.deviceId)
    "Agent Mesh R1 interaction requires refreshed companion discovery"
  let frame ← ringGestureEventFrame config item node draw.first
  enqueueEvent (ringKey item) frame
    (receiptOf .interaction (semanticSha256 s!"even_r1:{item.gesture.value}")) draw.first
  let flight ← ringFlightSequenceIntentFrame config item node draw.second
  enqueueIfMade (ringFlightKey item)
    (receiptOf .interaction (semanticSha256 "ring:flight_sequence_start")) draw.second flight

def handleIntent (item : AgentMeshIntent) (draw : ItemDraw) : FeedM Unit := do
  let node ← mappedNode (mapping.wearableNodeByDeviceId item.deviceId)
    "Agent Mesh intent references a device absent from discovery"
  let frame ← intentEventFrame config item node draw.first
  enqueueEvent (intentKey item) frame
    { intentReceipt item (semanticSha256 item.prompt) with alreadyDispatched := true } draw.first
  let flight ← flightSequenceIntentFrame config rules item node draw.second
  enqueueIfMade (intentFlightKey item)
    (intentReceipt item (semanticSha256 "flight_sequence_start")) draw.second flight

/-- The items whose handling waits for the acknowledgement of the mesh; a completion has none,
and moves its cursor at once. -/
def handleCompletion (item : AgentMeshCompletion) (draw : ItemDraw) : FeedM Unit := do
  let node ← Durable.read fun db => .ok (completionNode mapping db.outbox item)
  match node with
  | none => BridgeDatabase.setStateNumber (.cursor .completion) item.sequence.value
  | some nodeId =>
    let frame ← completionEventFrame config item nodeId draw.first
    enqueueEvent (completionKey item) frame
      { receiptOf .completion (semanticSha256 item.displayText) with
        agentMeshSessionId := some item.sessionId
        legacyDisplayDelivered := true } draw.first
    BridgeDatabase.setStateNumber (.cursor .completion) item.sequence.value

def handleItem (draw : ItemDraw) : FeedItem → FeedM Unit
  | .ring item => handleRing semanticSha256 config mapping item draw
  | .deviceControl item => handleDeviceControl semanticSha256 config mapping item draw
  | .intent item => handleIntent semanticSha256 rules config mapping item draw
  | .completion item => handleCompletion semanticSha256 config mapping item draw

def sourceKeys : FeedItem → List String
  | .ring item => ringKey item :: if item.gesture = .double_tap then [ringFlightKey item] else []
  | .deviceControl item => [deviceControlKey item]
  | .intent item => intentKey item ::
      if (mapping.wearableNodeByDeviceId item.deviceId).any
        (startsFlightSequence rules · item) then [intentFlightKey item] else []
  | .completion item => [completionKey item]

end Items
end CitAgentMeshBridge

structure FeedPage where
  items : List FeedItem
  nextCursor : ℕ
  safe : nextCursor ≤ maxSafeInteger

/-- An answer of a feed that returns its items in ascending order. `mesh` are the items that the
feeds ever have; an answer leaves out nothing before its last item, and one without items says
how far nothing follows the cursor. -/
structure FeedPage.Answers (mesh : Set FeedItem) (feed : FeedName) (after : ℕ) (page : FeedPage) :
    Prop where
  published : ∀ item ∈ page.items, item ∈ mesh ∧ item.feed = feed ∧ after < item.sequence
  ascending : page.items.Pairwise fun item later => item.sequence < later.sequence
  gapless : ∀ item ∈ mesh, item.feed = feed → after < item.sequence →
    ∀ last ∈ page.items, item.sequence ≤ last.sequence → item ∈ page.items
  exhausted : page.items = [] → ∀ item ∈ mesh, item.feed = feed → after < item.sequence →
    page.nextCursor < item.sequence

/-- Where the poll loop is: not running, about to ask a feed, waiting for its answer, about to
handle the next item, or waiting for the acknowledgement of the item it has enqueued. -/
inductive PollPosition where
  | stopped
  | ready (feed : FeedName)
  | asked (feed : FeedName) (cursor : ℕ)
  | items (feed : FeedName) (rest : List FeedItem)
  | acknowledging (item : FeedItem) (rest : List FeedItem)

def FeedName.next : FeedName → FeedName
  | .interaction => .intent
  | .intent => .completion
  | .completion => .interaction

/-- A call that the receive loop or a flush makes, not the poll loop. -/
def BridgeCall.OfOtherTasks : BridgeCall → Prop
  | .enqueueEvent .. => False
  | _ => True

/-- The poll loop ends with its process. -/
def BridgeCall.pollAfter (poll : PollPosition) : BridgeCall → PollPosition
  | .handleCommand _ _ _ _ (some _) | .restart => .stopped
  | _ => poll

structure BridgeProcess where
  db : BridgeDatabase
  mapping : FeedMapping
  poll : PollPosition

/-- The steps of the process. `call` is any other call on the outbox, of the receive loop or of a
flush; `failed` is a request that was rejected, a lost socket, or a crash at an `await`. -/
inductive ProcessEvent where
  | connected (mapping : FeedMapping)
  | call (call : BridgeCall)
  | ask
  | answered (page : FeedPage)
  | handled (draw : CitAgentMeshBridge.ItemDraw) (crash : Option ℕ)
  | acknowledged
  | finished
  | failed

section Process
variable (sha256 : String → String) (rules : PhraseRules) (config : BridgeConfig)
  (mesh : Set FeedItem)

/-- What the handling of an item leaves: the states of its commits, when a crash cuts it short. -/
inductive HandledTo (p : BridgeProcess) (item : FeedItem) (rest : List FeedItem)
    (draw : CitAgentMeshBridge.ItemDraw) : Option ℕ → BridgeProcess → Prop
  | done {d : Durable BridgeDatabase} :
      CitAgentMeshBridge.handleItem sha256 rules config p.mapping draw item (.boot p.db) = .ok () d →
      HandledTo p item rest draw none { p with
        db := d.current
        poll := if item.feed = .completion then .items .completion rest
          else .acknowledging item rest }
  | raised {e : BridgeError} {d : Durable BridgeDatabase} :
      CitAgentMeshBridge.handleItem sha256 rules config p.mapping draw item (.boot p.db) =
        .error e d →
      HandledTo p item rest draw none { p with db := d.current, poll := .stopped }
  | cut {commits : ℕ} {db : BridgeDatabase} :
      (Effect.final (CitAgentMeshBridge.handleItem sha256 rules config p.mapping draw item
        (.boot p.db))).points[commits]? = some db →
      HandledTo p item rest draw (some commits) { p with db := db, poll := .stopped }

/-- The poll loop over an answer without items. -/
def emptyAnswer (db : BridgeDatabase) (feed : FeedName) (cursor nextCursor : ℕ) : BridgeDatabase :=
  if cursor < nextCursor then db.withCursor feed nextCursor else db

inductive ProcessStep (p : BridgeProcess) : ProcessEvent → BridgeProcess → Prop
  | connected {mapping : FeedMapping} : p.poll = .stopped →
      ProcessStep p (.connected mapping)
        { p with mapping := mapping, poll := .ready .interaction }
  | call {call : BridgeCall} {outbox : BridgeOutbox} {out : List BridgeReport} :
      call.OfOtherTasks → CitAgentMeshBridge.Leaves sha256 p.db.outbox call outbox out →
      ProcessStep p (.call call)
        { p with db := { p.db with outbox := outbox }, poll := call.pollAfter p.poll }
  | ask {feed : FeedName} : p.poll = .ready feed →
      ProcessStep p .ask { p with poll := .asked feed (p.db.cursor feed) }
  | empty {feed : FeedName} {cursor : ℕ} {page : FeedPage} : p.poll = .asked feed cursor →
      page.Answers mesh feed cursor → page.items = [] →
      ProcessStep p (.answered page) { p with
        db := emptyAnswer p.db feed cursor page.nextCursor
        poll := .ready feed.next }
  | answered {feed : FeedName} {cursor : ℕ} {page : FeedPage} : p.poll = .asked feed cursor →
      page.Answers mesh feed cursor → page.items ≠ [] →
      ProcessStep p (.answered page) { p with poll := .items feed page.items }
  | handled {feed : FeedName} {item : FeedItem} {rest : List FeedItem}
      {draw : CitAgentMeshBridge.ItemDraw} {crash : Option ℕ} {p' : BridgeProcess} :
      p.poll = .items feed (item :: rest) →
      HandledTo sha256 rules config p item rest draw crash p' →
      ProcessStep p (.handled draw crash) p'
  | acknowledged {item : FeedItem} {rest : List FeedItem} : p.poll = .acknowledging item rest →
      ProcessStep p .acknowledged { p with
        db := p.db.withCursor item.feed item.sequence
        poll := .items item.feed rest }
  | finished {feed : FeedName} : p.poll = .items feed [] →
      ProcessStep p .finished { p with poll := .ready feed.next }
  | failed : ProcessStep p .failed { p with poll := .stopped }

def bridgeProcess : Machine BridgeProcess ProcessEvent Empty where
  Initial p := p.db = .empty ∧ p.poll = .stopped
  Step p event p' _ := ProcessStep sha256 rules config mesh p event p'

end Process

end CitPhysicalXR.Bridge
