import CitPhysicalXR.Lego.HubAdapter
import CitPhysicalXR.Lego.HubAgent
import CitPhysicalXR.Foundation.PyNumerals

/-! The adapter, its handshakes, the link and the hub agent as one system. The link keeps the
order of the lines and may lose some. Each line carries what it was sent for, which neither side
can see. -/
namespace CitPhysicalXR.Lego
open Foundation

/-- What a line was sent for: a request or a handshake that waits for its answer, or neither. -/
inductive Origin where
  | request (call : ℕ)
  | handshake (id : ℕ)
  | other
  deriving DecidableEq

structure Sent where
  text : String
  origin : Origin

/-- A handshake in flight, of `connect` or of `reconcile`. -/
structure Handshake where
  id : ℕ
  reconciling : Bool
  startedAt : ℚ
  deadline : Option ℚ

structure LinkSettings where
  adapter : HubSettings
  handshakeTimeoutSeconds : ℚ
  /-- The model that the adapter is for, and how many ports it has. -/
  modelId : String
  portCount : ℕ
  /-- The interpreter that the hub runs, and what it is built of. -/
  rules : TextRules
  known : rules ∈ TextRules.interpreters
  machine : Hub.HubMachine

structure HubLink where
  host : HubAdapter
  hub : HubAgent
  handshakes : List Handshake := []
  nextHandshake : ℕ := 0
  /-- The calls of `disconnect` that are suspended in a send. -/
  leaving : ℕ := 0
  toHub : List Sent := []
  toHost : List Sent := []
  /-- The lines in the buffer of the transport. -/
  buffered : List Sent := []

inductive LinkStep where
  /-- A step of `execute` or `tick`, or the end of a `stop`. -/
  | call (step : HubStep)
  | stop (reason : String)
  | greet (reconciling : Bool) (now : ℚ)
  | greetSent (id : ℕ) (now : ℚ)
  | greetFailed (id : ℕ)
  /-- A handshake that waits for its answer looks into the buffer. -/
  | greetPoll (id : ℕ) (now : ℚ)
  | greetCancelled (id : ℕ)
  | disconnect
  | disconnected (reached : Bool)
  | recover
  /-- The hub reads the line that stands first, or the pieces of lines that were lost. -/
  | deliver (now : ℤ) (readings : Hub.HubReadings)
  | garbled (text : String) (now : ℤ) (readings : Hub.HubReadings)
  | hubPoll (now : ℤ) (readings : Hub.HubReadings)
  | arrive (now : ℚ)
  | lose
  | loseReply

structure Taken where
  waiting : Origin
  reply : Frame
  line : Option Sent

def sanitizeText (text : String) : String :=
  let filtered := String.ofList (text.toList.filter (· ∈ allowedArgumentChars))
  String.ofList ((TextRules.cpython.strip filtered).toList.take maxArgumentChars)

def frameLine (sequence : ℤ) (operation : Operation) (arguments : List String) (origin : Origin) :
    List Sent :=
  match Frame.create sequence operation arguments with
  | .ok frame => [⟨frame.encodeLine, origin⟩]
  | .error _ => []

/-- The operations that `_frame_for` makes of a command. -/
def Operation.isCommand : Operation → Bool
  | .motorRun | .motorRunAngle | .motorRunTarget | .motorStop | .drive | .driveStraight | .turn
  | .sensorRead | .display | .sound => true
  | .hello | .heartbeat | .ack | .error | .sensorSubscribe | .stopAll | .telemetry => false

/-- The batch of `_await_frame` for a `HELLO`, whatever its number. Nothing becomes an event
before the adapter was connected once. -/
def awaitHello (recording : Bool) (matched : Option Frame) :
    List Frame → Except CodecError (Option Frame) × List HubEvent
  | [] => (.ok matched, [])
  | frame :: frames =>
    if matched.isNone && decide (frame.operation = .hello) then
      awaitHello recording (some frame) frames
    else
      match if recording then queueUnsolicited frame else .ok [] with
      | .error e => (.error e, [])
      | .ok events =>
        let rest := awaitHello recording matched frames
        (rest.1, events ++ rest.2)

def namesRequest (sequence : ℤ) (line : String) : Bool :=
  decide ((HubAdapter.replyIn? line).bind Frame.replyTo? = some sequence)

def bringsHello (line : String) : Bool :=
  match decode line with
  | .ok frame => decide (frame.operation = .hello)
  | .error _ => false

namespace HubLink
variable (settings : LinkSettings) (s : HubLink)

/-- The adapter goes on; the buffer keeps its newest lines. -/
def follow (host : HubAdapter) (arrived : List Sent := []) : HubLink :=
  { s with host := host, buffered := (s.buffered ++ arrived).rtake host.lines.length }

def send (lines : List Sent) : HubLink := { s with toHub := s.toHub ++ lines }

/-- What a step of the adapter sends. -/
def sentBy (after : HubAdapter) : HubStep → List Sent
  | .execute operation arguments _ =>
    if s.host.nextCall < after.nextCall then
      frameLine after.sequence operation arguments (.request s.host.nextCall)
    else []
  | .tick _ _ =>
    if s.host.heartbeats < after.heartbeats then
      frameLine after.sequence .heartbeat
        [toString ⌊settings.adapter.heartbeatIntervalSeconds * 1000⌋] .other
    else []
  | _ => []

def answerLine (sequence : ℤ) : Option Sent :=
  s.buffered.find? fun sent => namesRequest sequence sent.text

def takenBy : HubReport → List Taken
  | .received call reply =>
    [⟨.request call, reply, (s.host.requests.find? fun request => request.call = call).bind
      fun request => s.answerLine request.sequence⟩]
  | _ => []

/-- The steps of the adapter that the system takes as they are. -/
def ofCall : HubStep → Bool
  | .execute operation _ _ => operation.isCommand
  | .stop | .arrive _ _ => false
  | _ => true

def dropHandshake (id : ℕ) : List Handshake :=
  s.handshakes.filter fun handshake => handshake.id ≠ id

/-- The numbers and the ports that the hub reports can be read. -/
def describesHub (reply : Frame) : Bool :=
  (reply.integer 2).isOk &&
    match reply.argument 3 with
    | .ok ports => decide (ports.length = settings.portCount) &&
      ports.toList.all fun c => c.toString ∈ Hub.portCodes.map Prod.snd
    | .error _ => false

/-- `connect` after its handshake. -/
def completeConnect (host : HubAdapter) (startedAt : ℚ) (reply : Frame) : HubAdapter :=
  if (reply.argument 1).toOption ≠ some settings.modelId then { host with available := false }
  else if (reply.integer 0).isOk && describesHub settings reply then
    { host with
      connected := true
      lastHeartbeatAt := some startedAt
      events := host.events ++ [⟨"connection", "connection.connected"⟩] }
  else { host with connected := true }

/-- `reconcile` after its handshake. -/
def completeReconcile (host : HubAdapter) (reply : Frame) : HubAdapter :=
  if describesHub settings reply then
    { host with events := host.events ++ [⟨"diagnostic", "diagnostic.reconciled"⟩] }
  else host

def completeHandshake (host : HubAdapter) (handshake : Handshake) (reply : Frame) : HubAdapter :=
  if handshake.reconciling then completeReconcile settings host reply
  else completeConnect settings host handshake.startedAt reply

/-- The handshake ends without an answer; `connect` takes the hub for gone. -/
def failHandshake (host : HubAdapter) (handshake : Handshake) : HubAdapter :=
  if handshake.reconciling then host else { host with available := false }

/-- `_handshake` up to the send of its line. -/
def beginHandshake (reconciling : Bool) (now : ℚ) : HubLink :=
  if reconciling && !s.host.connected then s
  else
    let sequence := nextSequence s.host.sequence
    { s with
      host := { s.host with sequence := sequence }
      handshakes := s.handshakes ++ [⟨s.nextHandshake, reconciling, now, none⟩]
      nextHandshake := s.nextHandshake + 1
      toHub := s.toHub ++ frameLine sequence .hello [toString protocolVersion, "cit-runtime"]
        (.handshake s.nextHandshake) }

/-- The first line of the buffer that brings a `HELLO`. -/
def helloLine : Option Sent := s.buffered.find? fun sent => bringsHello sent.text

/-- One round of the loop of `_await_frame`, for a handshake. -/
def pollHandshake (handshake : Handshake) (deadline now : ℚ) : HubLink × List Taken :=
  let ended := { s with handshakes := s.dropHandshake handshake.id }
  match s.host.takeFrames with
  | (drained, .error _) => (ended.follow drained, [])
  | (drained, .ok frames) =>
    let (result, events) := awaitHello s.host.lastHeartbeatAt.isSome none frames
    let queued := { drained with events := drained.events ++ events }
    match result with
    | .error _ => (ended.follow queued, [])
    | .ok (some reply) => (ended.follow (completeHandshake settings queued handshake reply),
        [⟨.handshake handshake.id, reply, s.helloLine⟩])
    | .ok none =>
      if deadline ≤ now then (ended.follow (failHandshake queued handshake), [])
      else (s.follow queued, [])

/-- The hub handles a line; an exception that escapes leaves no answer. -/
def handle (text : String) (origin : Origin) (now : ℤ) (readings : Hub.HubReadings) : HubLink :=
  let result := Hub.handleLine settings.rules settings.machine readings text now s.hub
  { s with
    hub := Effect.final result
    toHost := s.toHost ++ ((Effect.returned result).getD []).map fun reply => ⟨reply, origin⟩ }

def pollHub (now : ℤ) (readings : Hub.HubReadings) : HubLink :=
  let result := Hub.poll readings now s.hub
  { s with
    hub := Effect.final result
    toHost := s.toHost ++ ((Effect.returned result).getD []).map fun line => ⟨line, .other⟩ }

def step : LinkStep → Option (HubLink × List Taken)
  | .call step =>
    if ofCall step then
      (s.host.step settings.adapter step).map fun after =>
        ((s.follow after.1).send (s.sentBy settings after.1 step), after.2.flatMap s.takenBy)
    else none
  | .stop reason =>
    let text := sanitizeText reason
    (s.host.step settings.adapter .stop).map fun after =>
      ((s.follow after.1).send
        (frameLine after.1.sequence .stopAll [if text = "" then "stop" else text] .other), [])
  | .greet reconciling now => some (s.beginHandshake reconciling now, [])
  | .greetSent id now =>
    if s.handshakes.any fun handshake => decide (handshake.id = id ∧ handshake.deadline = none) then
      some ({ s with
        handshakes := s.handshakes.map fun handshake =>
          if handshake.id = id then
            { handshake with deadline := some (now + settings.handshakeTimeoutSeconds) }
          else handshake }, [])
    else none
  | .greetFailed id =>
    match s.handshakes.find? fun handshake =>
        decide (handshake.id = id ∧ handshake.deadline = none) with
    | some handshake => some ({ s with
        host := failHandshake s.host handshake
        handshakes := s.dropHandshake id }, [])
    | none => none
  | .greetPoll id now =>
    match s.handshakes.find? fun handshake => handshake.id = id with
    | some handshake => handshake.deadline.map fun deadline =>
        s.pollHandshake settings handshake deadline now
    | none => none
  | .greetCancelled id => some ({ s with handshakes := s.dropHandshake id }, [])
  | .disconnect =>
    if s.host.connected then
      let sequence := nextSequence s.host.sequence
      some ({ s with
        host := { s.host with sequence := sequence }
        leaving := s.leaving + 1
        toHub := s.toHub ++ frameLine sequence .stopAll ["disconnect"] .other }, [])
    else some ({ s with host := { s.host with
        events := s.host.events ++ [⟨"connection", "connection.disconnected"⟩] } }, [])
  | .disconnected _ =>
    if 0 < s.leaving then
      some ({ s with
        leaving := s.leaving - 1
        host := { s.host with
          connected := false
          events := s.host.events ++ [⟨"connection", "connection.disconnected"⟩] } }, [])
    else none
  | .recover => some ({ s with host := { s.host with
      available := true
      connected := false
      events := s.host.events ++ [⟨"connection", "connection.recovered"⟩] } }, [])
  | .deliver now readings =>
    match s.toHub with
    | [] => none
    | sent :: rest =>
      some ({ s with toHub := rest }.handle settings sent.text sent.origin now readings, [])
  | .garbled text now readings => some (s.handle settings text .other now readings, [])
  | .hubPoll now readings => some (s.pollHub now readings, [])
  | .arrive now =>
    match s.toHost with
    | [] => none
    | sent :: rest =>
      (s.host.step settings.adapter (.arrive sent.text now)).map fun after =>
        ({ s with toHost := rest }.follow after.1 [sent], [])
  | .lose =>
    match s.toHub with
    | [] => none
    | _ :: rest => some ({ s with toHub := rest }, [])
  | .loseReply =>
    match s.toHost with
    | [] => none
    | _ :: rest => some ({ s with toHost := rest }, [])

end HubLink

def HubAdapter.new : HubAdapter where
  connected := false
  available := true
  sequence := 0
  lastHeartbeatAt := none

/-- The system from the construction of the adapter on, with a hub in any state; every reply that
is handed to a call is an output. -/
def hubLink (settings : LinkSettings) : Machine HubLink LinkStep Taken where
  Initial s := ∃ hub, s = { host := .new, hub := hub }
  Step s e s' out := s.step settings e = some (s', out)

end CitPhysicalXR.Lego
