import CitPhysicalXR.Foundation.KeyedList
import CitPhysicalXR.Foundation.PyRepr
import CitPhysicalXR.Foundation.PyText
import CitPhysicalXR.Foundation.Transition

/-! The client of the Matter controller: calls in flight, the futures that they wait for, and
the receive loops. A step runs from one suspension of a task to the next. -/
namespace CitPhysicalXR.Plugs
open Foundation

/-- `_integer`; `none` is its `ValueError`. -/
def matterInteger? : Option JsonValue → Option ℕ
  | some (.int n) => if 0 ≤ n then some n.toNat else none
  | some (.str s) =>
    if s ≠ "" ∧ s.toList.all fun c => (TextRules.cpython.decimal? c).isSome then
      (TextRules.cpython.toInt? s).map Int.toNat
    else none
  | _ => none

/-- The `MatterServerError` of `_node_object`. -/
def nodeError? : Option JsonValue → Option String
  | some (.obj fields) =>
    if (matterInteger? (fields.lookup "node_id")).isNone then none
    else match fields.lookup "attributes" with
      | some (.obj _) => none
      | _ => some "Matter controller node has no attribute map"
  | _ => some "Matter controller returned an invalid node"

/-- What escapes `_handle_event`. It only keeps the inventory of nodes, which no call waits for,
and catches the errors of a number. -/
def eventError? (message : JsonObject) : Option String :=
  match message.get? "event" with
  | some (.arr _) => some "unhashable type: 'list'"
  | some (.obj _) => some "unhashable type: 'dict'"
  | some (.str event) =>
    if event = "node_added" ∨ event = "node_updated" then nodeError? (message.get? "data")
    else none
  | _ => none

/-- What a future is set to. -/
inductive MatterAnswer where
  | result (value : JsonValue)
  /-- The controller answers with an error. -/
  | refused (diagnostic : String)
  /-- The connection of the client is gone. -/
  | lost (reason : String)

def diagnostic (message : JsonObject) : String :=
  match message.get? "details" with
  | some details =>
    if details.truthy then String.ofList (details.pyStr.toList.take 500) else unnamed
  | none => unnamed
where
  unnamed : String :=
    "Matter controller error " ++ ((message.get? "error_code").getD .null).pyStr

def responseAnswer? (message : JsonObject) : Option MatterAnswer :=
  if (message.get? "error_code").isSome then some (.refused (diagnostic message))
  else (message.get? "result").map .result

/-- A `command` that is suspended: in the send of its message, or on its future. -/
structure MatterCall where
  number : ℕ
  connection : ℕ
  sent : Bool
  future : Option MatterAnswer

/-- A future is set once. -/
def MatterCall.settle (call : MatterCall) (answer : Option MatterAnswer) : MatterCall :=
  { call with future := call.future <|> answer }

structure ReceiveLoop where
  connection : ℕ
  cancelled : Bool
  deriving DecidableEq

structure MatterClient where
  socket : Option ℕ := none
  receiver : Option ℕ := none
  loops : List ReceiveLoop := []
  /-- The connections that a `close` is waiting for. -/
  closings : List ℕ := []
  /-- The numbers of the message ids in `_pending`. -/
  pending : List ℕ := []
  calls : List MatterCall := []
  nextMessageId : ℕ := 0
  nextConnection : ℕ := 0

/-- How a `command` ends. -/
inductive MatterOutcome where
  | answered (answer : MatterAnswer)
  | timedOut
  | sendFailed
  | cancelled
  /-- Its arguments cannot be written as JSON. -/
  | unwritable

inductive MatterReport where
  | ended (number : ℕ) (outcome : MatterOutcome)
  /-- The error of a `command` without a connection, which takes no message id. -/
  | notConnected

/-- What the tasks, the controller and the clock do. -/
inductive MatterStep where
  /-- `connect` keeps its socket and starts the receive loop; one `connect` runs at a time. -/
  | connect
  /-- `connect` fails after that, and has closed its socket. -/
  | abandon
  | call (writable : Bool)
  | sent (number : ℕ)
  | sendFailed (number : ℕ)
  /-- A call finds its future set. -/
  | resume (number : ℕ)
  | timeout (number : ℕ)
  | cancel (number : ℕ)
  /-- A message, or the error of one that is no JSON object. -/
  | receive (connection : ℕ) (message : Except String JsonObject)
  /-- The connection fails. -/
  | failed (connection : ℕ) (error : String)
  /-- The connection is closed in order, which ends the loop over its messages. -/
  | closedInOrder (connection : ℕ)
  /-- The loop takes the cancellation by `close`. -/
  | loopCancelled (connection : ℕ)
  | close
  /-- A `close` when nothing is left to close. -/
  | closeIdle
  /-- `close` has closed the socket and seen the end of the loop. -/
  | closed (connection : ℕ)

namespace MatterClient
variable (s : MatterClient)

def failPending (answer : MatterAnswer) : MatterClient :=
  { s with
    calls := s.calls.map fun call =>
      if call.number ∈ s.pending then call.settle (some answer) else call
    pending := [] }

/-- The `finally` of the receive loop. -/
def endLoop (connection : ℕ) : MatterClient :=
  { s with
    loops := s.loops.filter fun loop => loop.connection ≠ connection
    socket := if s.socket = some connection then none else s.socket }

def failReason (error : String) : MatterAnswer :=
  .lost ("Matter controller connection failed: " ++ error)

/-- The receive loop ends with an exception. -/
def failLoop (connection : ℕ) (error : String) : MatterClient :=
  (s.failPending (failReason error)).endLoop connection

/-- A response settles the future that is pending under its message id. -/
def settle (messageId : String) (answer : Option MatterAnswer) : MatterClient :=
  match s.pending.find? fun number => toString number = messageId with
  | some number =>
    { s with calls := KeyedList.update MatterCall.number number (·.settle answer) s.calls }
  | none => s

def receive (connection : ℕ) : Except String JsonObject → MatterClient
  | .error error => s.failLoop connection error
  | .ok message =>
    if (message.get? "event").isSome then
      match eventError? message with
      | some error => s.failLoop connection error
      | none => s
    else match message.get? "message_id" with
      | some (.str messageId) => s.settle messageId (responseAnswer? message)
      | _ => s

/-- `command` up to the send of its message. Its entry stays pending when the message cannot be
written. -/
def beginCall (connection : ℕ) (writable : Bool) : MatterClient :=
  let number := s.nextMessageId + 1
  { s with
    nextMessageId := number
    pending := s.pending ++ [number]
    calls := if writable then s.calls ++ [⟨number, connection, false, none⟩] else s.calls }

/-- The `finally` of `command`. -/
def endCall (number : ℕ) : MatterClient :=
  { s with
    calls := s.calls.filter fun call => call.number ≠ number
    pending := s.pending.filter fun other => other ≠ number }

/-- A call in flight with a property. -/
def hasCall (number : ℕ) (p : MatterCall → Bool) : Bool :=
  s.calls.any fun call => decide (call.number = number) && p call

def isReceiving (connection : ℕ) : Bool := s.loops.contains ⟨connection, false⟩

/-- `close` up to the close of the socket. -/
def beginClose (connection : ℕ) : MatterClient :=
  { s with
    receiver := none
    socket := none
    loops := s.loops.map fun loop =>
      if loop.connection = connection then { loop with cancelled := true } else loop
    closings := s.closings ++ [connection] }

def closeReason : MatterAnswer := .lost "Matter controller connection closed"

def step : MatterStep → Option (MatterClient × List MatterReport)
  | .connect =>
    if s.socket = none then
      some ({ s with
        socket := some s.nextConnection
        receiver := some s.nextConnection
        loops := s.loops ++ [⟨s.nextConnection, false⟩]
        nextConnection := s.nextConnection + 1 }, [])
    else none
  | .abandon => some ({ s with socket := none }, [])
  | .call writable =>
    match s.socket with
    | none => some (s, [.notConnected])
    | some connection => some (s.beginCall connection writable,
        if writable then [] else [.ended (s.nextMessageId + 1) .unwritable])
  | .sent number =>
    if s.hasCall number fun call => !call.sent then
      some ({ s with
        calls := KeyedList.update MatterCall.number number (fun call => { call with sent := true })
          s.calls }, [])
    else none
  | .sendFailed number =>
    if s.hasCall number fun call => !call.sent then
      some (s.endCall number, [.ended number .sendFailed])
    else none
  | .resume number =>
    match s.calls.find? fun call => call.number = number with
    | some call =>
      if call.sent then
        call.future.map fun answer => (s.endCall number, [.ended number (.answered answer)])
      else none
    | none => none
  | .timeout number =>
    if s.hasCall number fun call => call.sent then
      some (s.endCall number, [.ended number .timedOut])
    else none
  | .cancel number =>
    if s.hasCall number fun _ => true then
      some (s.endCall number, [.ended number .cancelled])
    else none
  | .receive connection message =>
    if s.isReceiving connection then some (s.receive connection message, []) else none
  | .failed connection error =>
    if s.isReceiving connection then some (s.failLoop connection error, []) else none
  | .closedInOrder connection =>
    if s.isReceiving connection then some (s.endLoop connection, []) else none
  | .loopCancelled connection =>
    if s.loops.contains ⟨connection, true⟩ then some (s.endLoop connection, []) else none
  | .close => s.receiver.map fun connection => (s.beginClose connection, [])
  | .closeIdle =>
    if s.receiver = none then
      some ({ s with socket := none }.failPending closeReason, [])
    else none
  | .closed connection =>
    if connection ∈ s.closings ∧ (s.loops.all fun loop => loop.connection ≠ connection) then
      some ({ s with
        closings := s.closings.filter fun other => other ≠ connection }.failPending closeReason, [])
    else none

end MatterClient

/-- The client under every interleaving of its tasks with the controller. -/
def matterClient : Machine MatterClient MatterStep MatterReport where
  Initial s := s = {}
  Step s e s' out := s.step e = some (s', out)

end CitPhysicalXR.Plugs
