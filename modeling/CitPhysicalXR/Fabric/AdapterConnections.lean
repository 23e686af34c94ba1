import CitPhysicalXR.Foundation.KeyedList
import CitPhysicalXR.Foundation.KeyedTable
import CitPhysicalXR.Foundation.Transition
import Mathlib.Data.Rat.Defs

/-! The connections of the out-of-process adapters: the map from nodes to connections, the
handlers that serve the connections concurrently, and the frames in both directions. -/
namespace CitPhysicalXR.Fabric
open Foundation

/-- Where the handler of a connection is; an installation closes the connections it replaces one
after the other. -/
inductive ConnectionPhase where
  | installing (replaced : List ℕ)
  | receiving
  | acknowledging
  | ending

structure AdapterConnection where
  id : ℕ
  nodeIds : List String
  phase : ConnectionPhase
  /-- The runtime has closed the socket. -/
  closed : Bool := false
  seenFrameIds : List String := []
  frameTimes : List ℚ := []

structure Registration where
  nodeIds : List String
  nonempty : nodeIds ≠ []
  nodup : nodeIds.Nodup

/-- A frame of an adapter; `accepted` tells whether the fabric takes the message or raises. -/
inductive AdapterFrame where
  | heartbeat (frameId : String) (reports : List (String × Bool))
  | event (frameId nodeId : String) (accepted : Bool)
  | lifecycle (frameId nodeId : String) (accepted : Bool)

namespace AdapterFrame

def frameId : AdapterFrame → String
  | heartbeat frameId _ | event frameId _ _ | lifecycle frameId _ _ => frameId

def nodeIds : AdapterFrame → List String
  | heartbeat _ reports => reports.map Prod.fst
  | event _ nodeId _ | lifecycle _ nodeId _ => [nodeId]

end AdapterFrame

inductive MessageKind where
  | health
  | event
  | lifecycle
  deriving DecidableEq

inductive ConnectionReport where
  | installed (connection : ℕ) (nodeIds : List String)
  /-- A connection is removed, and the fabric marks nodes as disconnected. -/
  | removed (connection : ℕ) (disconnected : List String)
  | sent (nodeId : String) (connection : ℕ)
  | sendFailed (nodeId : String)
  | offline (nodeId : String)
  | applied (kind : MessageKind) (nodeId : String) (connection : ℕ)
  deriving DecidableEq

namespace AdapterConnection

def new (id : ℕ) (nodeIds : List String) : AdapterConnection where
  id := id
  nodeIds := nodeIds
  phase := .installing []

variable (c : AdapterConnection)

def maxSeenFrameIds : ℕ := 4096

def maxFramesPerSecond : ℕ := 200

/-- `_enforce_rate`: nothing when the connection sends too much. -/
def enforceRate (now : ℚ) : Option AdapterConnection :=
  let recent := c.frameTimes.dropWhile fun time => decide (time < now - 1)
  if maxFramesPerSecond ≤ recent.length then none
  else some { c with frameTimes := recent ++ [now] }

/-- `_remember_frame`, for a frame that has not been seen. -/
def rememberFrame (frameId : String) : AdapterConnection :=
  let order := c.seenFrameIds ++ [frameId]
  { c with seenFrameIds := order.drop (order.length - maxSeenFrameIds) }

/-- `_handle_heartbeat`: the reports up to the first one that is refused. -/
def handleHeartbeat : List (String × Bool) → List ConnectionReport × Bool
  | [] => ([], true)
  | (nodeId, accepted) :: reports =>
    if nodeId ∈ c.nodeIds ∧ accepted then
      let (applied, goesOn) := handleHeartbeat reports
      (.applied .health nodeId c.id :: applied, goesOn)
    else ([], false)

/-- A message about one node, whose owner is checked before a duplicate is dropped. -/
def handleMessage (kind : MessageKind) (nodeId : String) (accepted duplicate : Bool) :
    List ConnectionReport × Bool :=
  if nodeId ∉ c.nodeIds then ([], false)
  else if duplicate then ([], true)
  else if accepted then ([.applied kind nodeId c.id], true)
  else ([], false)

/-- What a frame comes to, and whether it is acknowledged. -/
def handle (frame : AdapterFrame) (duplicate : Bool) : List ConnectionReport × Bool :=
  match frame with
  | .heartbeat _ reports => if duplicate then ([], true) else c.handleHeartbeat reports
  | .event _ nodeId accepted => c.handleMessage .event nodeId accepted duplicate
  | .lifecycle _ nodeId accepted => c.handleMessage .lifecycle nodeId accepted duplicate

end AdapterConnection

structure NodeConnection where
  nodeId : String
  connection : ℕ

structure PendingSend where
  id : ℕ
  nodeId : String
  connection : ℕ

structure AdapterConnections where
  byNodeId : Table NodeConnection.nodeId := .empty
  connections : List AdapterConnection := []
  nextConnection : ℕ := 0
  sends : List PendingSend := []
  nextSend : ℕ := 0

/-- The steps of the handlers and of the callers that send; `raises` is a send or a close of a
socket that fails. -/
inductive ConnectionEvent where
  | install (registration : Registration) (raises : Bool)
  /-- An installation closes the next connection that it replaces, or it is answered. -/
  | proceed (connection : ℕ) (raises : Bool)
  | frame (connection : ℕ) (frame : AdapterFrame) (now : ℚ)
  | acknowledged (connection : ℕ) (raises : Bool)
  | remove (connection : ℕ)
  | dispatch (nodeId : String)
  /-- `stop_nodes`: a frame for every node of the map. -/
  | stopNodes
  | send (id : ℕ) (raises : Bool)

namespace AdapterConnections
variable (s : AdapterConnections)

def connectionOf (nodeId : String) : Option ℕ :=
  (s.byNodeId.get? nodeId).map NodeConnection.connection

def connection? (id : ℕ) : Option AdapterConnection :=
  s.connections.find? fun connection => connection.id = id

def update (id : ℕ) (f : AdapterConnection → AdapterConnection) : AdapterConnections :=
  { s with connections := KeyedList.update AdapterConnection.id id f s.connections }

def setPhase (id : ℕ) (phase : ConnectionPhase) : AdapterConnections :=
  s.update id fun connection => { connection with phase }

/-- The other connections that a registration replaces, each once. -/
def replaced (nodeIds : List String) : List ℕ := (nodeIds.filterMap s.connectionOf).eraseDups

def closeNext (installer : ℕ) (replaced : List ℕ) (raises : Bool) : AdapterConnections :=
  match replaced with
  | [] => s.setPhase installer (.installing [])
  | previous :: rest =>
    let again := (s.connection? previous).any AdapterConnection.closed
    (s.update previous fun connection => { connection with closed := true }).setPhase installer
      (if raises || again then .ending else .installing rest)

/-- Map nodes to a connection. -/
def mapped (id : ℕ) (nodeIds : List String) : Table NodeConnection.nodeId :=
  nodeIds.foldl (fun (table : Table NodeConnection.nodeId) nodeId => table.upsert ⟨nodeId, id⟩)
    s.byNodeId

/-- `_install_connection`. -/
def install (registration : Registration) (raises : Bool) :
    AdapterConnections × List ConnectionReport :=
  let id := s.nextConnection
  let installed : AdapterConnections := { s with
    byNodeId := s.mapped id registration.nodeIds
    connections := s.connections ++ [.new id registration.nodeIds]
    nextConnection := id + 1 }
  (installed.closeNext id (s.replaced registration.nodeIds) raises,
    [.installed id registration.nodeIds])

def receive (c : AdapterConnection) (frame : AdapterFrame) (now : ℚ) :
    AdapterConnections × List ConnectionReport :=
  match c.enforceRate now with
  | none => (s.setPhase c.id .ending, [])
  | some counted =>
    let duplicate := c.seenFrameIds.contains frame.frameId
    let remembered := if duplicate then counted else counted.rememberFrame frame.frameId
    let (applied, goesOn) := c.handle frame duplicate
    let phase := if goesOn then .acknowledging else .ending
    (s.update c.id fun connection => { connection with
      phase := phase
      seenFrameIds := remembered.seenFrameIds
      frameTimes := remembered.frameTimes }, applied)

/-- `_remove_connection`: the nodes that are still mapped to the connection are disconnected. -/
def remove (c : AdapterConnection) : AdapterConnections × List ConnectionReport :=
  let removed := c.nodeIds.filter fun nodeId => decide (s.connectionOf nodeId = some c.id)
  ({ s with
    byNodeId := s.byNodeId.filterRows fun row => !removed.contains row.nodeId
    connections := s.connections.filter fun other => decide (other.id ≠ c.id) },
    [.removed c.id removed])

/-- A send gets the lock; a socket that is closed sends nothing. -/
def send (pending : PendingSend) (raises : Bool) : AdapterConnections × List ConnectionReport :=
  let sent := { s with sends := s.sends.filter fun other => decide (other.id ≠ pending.id) }
  let isOpen := (s.connection? pending.connection).any fun connection => !connection.closed
  (sent,
    if isOpen && !raises then [.sent pending.nodeId pending.connection]
    else [.sendFailed pending.nodeId])

/-- Frames for nodes of the map, each on the connection that the map has now. -/
def enqueue (rows : List NodeConnection) : AdapterConnections :=
  { s with
    sends := s.sends ++
      rows.mapIdx fun i row => ⟨s.nextSend + i, row.nodeId, row.connection⟩
    nextSend := s.nextSend + rows.length }

def step : ConnectionEvent → Option (AdapterConnections × List ConnectionReport)
  | .install registration raises => some (s.install registration raises)
  | .proceed id raises =>
    (s.connection? id).bind fun connection =>
      match connection.phase with
      | .installing [] =>
        some (s.setPhase id (if raises || connection.closed then .ending else .receiving), [])
      | .installing replaced => some (s.closeNext id replaced raises, [])
      | _ => none
  | .frame id frame now =>
    (s.connection? id).bind fun connection =>
      match connection.phase with
      | .receiving => some (s.receive connection frame now)
      | _ => none
  | .acknowledged id raises =>
    (s.connection? id).bind fun connection =>
      match connection.phase with
      | .acknowledging =>
        some (s.setPhase id (if raises || connection.closed then .ending else .receiving), [])
      | _ => none
  | .remove id => (s.connection? id).map fun connection => s.remove connection
  | .dispatch nodeId =>
    match s.byNodeId.get? nodeId with
    | none => some (s, [.offline nodeId])
    | some row => some (s.enqueue [row], [])
  | .stopNodes => some (s.enqueue s.byNodeId.rows, [])
  | .send id raises =>
    (s.sends.find? fun pending => pending.id = id).map fun pending => s.send pending raises

end AdapterConnections

/-- The connections of a runtime, in every interleaving of their handlers. -/
def adapterConnections : Machine AdapterConnections ConnectionEvent ConnectionReport where
  Initial s := s = {}
  Step s e s' out := s.step e = some (s', out)

end CitPhysicalXR.Fabric
