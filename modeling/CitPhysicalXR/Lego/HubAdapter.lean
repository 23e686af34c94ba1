import CitPhysicalXR.Fabric.Protocol
import CitPhysicalXR.Foundation.Transition
import CitPhysicalXR.Lego.Protocol

/-! The host's adapter of one hub. Every call that talks to the hub drains the one buffer of
lines that the transport fills, and is suspended while it sends and while it waits. -/
namespace CitPhysicalXR.Lego
open Foundation

namespace Frame

def argument (frame : Frame) (index : ℕ) : Except CodecError String :=
  match frame.arguments[index]? with
  | some argument => .ok argument
  | none => .error (.frame (frame.operation.value ++ s!" has no argument {index}"))

def integer (frame : Frame) (index : ℕ) : Except CodecError ℤ := do
  let raw ← frame.argument index
  match TextRules.cpython.toInt? raw with
  | some value => .ok value
  | none => .error (.frame (PyString.repr raw ++ " is not an integer"))

/-- An answer to a request. -/
def isReply (frame : Frame) : Bool :=
  decide (frame.operation = .ack) || decide (frame.operation = .error)

/-- The request that an answer names. -/
def replyTo? (frame : Frame) : Option ℤ :=
  if frame.isReply then (frame.integer 0).toOption else none

end Frame

def nextSequence (current : ℤ) : ℤ := (current + 1) % sequenceModulus

structure HubEvent where
  category : String
  name : String

/-- `_queue_unsolicited`. The name of an event has to be a dotted identifier. -/
def queueUnsolicited (frame : Frame) : Except CodecError (List HubEvent) :=
  if frame.operation = .telemetry then do
    let kind ← frame.argument 0
    let _ ← frame.argument 1
    if kind = "button" then .ok [⟨"safety", "safety.hub_button"⟩]
    else
      let category := if kind = "battery" then "telemetry" else "sensor"
      let name := category ++ "." ++ kind
      raiseIf (!Fabric.isCapabilityIdentifier name)
        (.value "DeviceEvent.name does not match its pattern")
      .ok [⟨category, name⟩]
  else if frame.operation = .error then do
    let _ ← frame.argument 1
    let _ ← frame.argument 0
    .ok [⟨"diagnostic", "diagnostic.hub_error"⟩]
  else .ok []

/-- `_read_frames` over drained lines: the frames, or the exception that is no `FrameError`,
and the diagnostics of the lines read so far. -/
def readFrames : List String → Except CodecError (List Frame) × List String
  | [] => (.ok [], [])
  | line :: lines =>
    match decode line with
    | .ok frame =>
      let (frames, diagnostics) := readFrames lines
      (frames.map (frame :: ·), diagnostics)
    | .error (.frame message) =>
      let (frames, diagnostics) := readFrames lines
      (frames, message :: diagnostics)
    | .error e => (.error e, [])

/-- The batch of `_await_frame`: the first answer to the request is kept and everything else
becomes an event, to the end of the batch. -/
def awaitFrame (sequence : ℤ) (matched : Option Frame) :
    List Frame → Except CodecError (Option Frame) × List HubEvent
  | [] => (.ok matched, [])
  | frame :: frames =>
    if matched.isNone && frame.isReply then
      match frame.integer 0 with
      | .error e => (.error e, [])
      | .ok named =>
        if named = sequence then awaitFrame sequence (some frame) frames
        else unsolicited frame (awaitFrame sequence matched frames)
    else unsolicited frame (awaitFrame sequence matched frames)
where
  unsolicited (frame : Frame) (rest : Except CodecError (Option Frame) × List HubEvent) :
      Except CodecError (Option Frame) × List HubEvent :=
    match queueUnsolicited frame with
    | .error e => (.error e, [])
    | .ok events => (rest.1, events ++ rest.2)

/-- What the adapter is configured with; `capacity` bounds the lines that a transport keeps. -/
structure HubSettings where
  ackTimeoutSeconds : ℚ
  heartbeatIntervalSeconds : ℚ
  capacity : Option ℕ

/-- An `execute` in flight; it has no deadline while its line is being sent. -/
structure HubRequest where
  call : ℕ
  sequence : ℤ
  startedAt : ℚ
  deadline : Option ℚ

structure HubAdapter where
  connected : Bool
  available : Bool
  sequence : ℤ
  lastHeartbeatAt : Option ℚ
  lines : List String := []
  diagnostics : List String := []
  events : List HubEvent := []
  requests : List HubRequest := []
  /-- The ticks and the stops that are suspended in a send. -/
  heartbeats : ℕ := 0
  stops : ℕ := 0
  nextCall : ℕ := 0

/-- What happens to the calls, each with the number of its `execute`. -/
inductive HubReport where
  /-- The answer to a request in flight arrives at the transport, before its timeout. -/
  | answered (call : ℕ) (reply : Frame)
  | received (call : ℕ) (reply : Frame)
  /-- `execute` ends as DEVICE_OFFLINE, for the request that it sent. -/
  | offline (call : ℕ)
  /-- An exception leaves `execute`. -/
  | raised (call : ℕ)
  | cancelled (call : ℕ)

/-- The calls, and what the transport and the clock do. -/
inductive HubStep where
  /-- An `execute` of a command that passed the checks before its frame is made. -/
  | execute (operation : Operation) (arguments : List String) (now : ℚ)
  | sent (call : ℕ) (now : ℚ)
  | sendFailed (call : ℕ)
  /-- An `execute` that waits for its answer looks into the buffer. -/
  | poll (call : ℕ) (now : ℚ)
  | cancel (call : ℕ)
  | tick (transportConnected : Bool) (now : ℚ)
  | heartbeatSent (reached : Bool)
  | stop
  | stopSent (reached : Bool)
  | arrive (line : String) (now : ℚ)

namespace HubAdapter
variable (settings : HubSettings) (s : HubAdapter)

def drop (call : ℕ) : List HubRequest := s.requests.filter fun request => request.call ≠ call

def markLinkLost : HubAdapter :=
  { s with
    connected := false
    available := false
    events := s.events ++ [⟨"connection", "connection.failed"⟩] }

/-- `_drain_transport` over the frames of a batch. -/
def queueAll : List Frame → Except CodecError Unit × List HubEvent
  | [] => (.ok (), [])
  | frame :: frames =>
    match queueUnsolicited frame with
    | .error e => (.error e, [])
    | .ok events =>
      let (result, more) := queueAll frames
      (result, events ++ more)

/-- The diagnostics that are pending become events. -/
def recordDiagnostics : HubAdapter :=
  { s with
    events := s.events ++ s.diagnostics.map fun _ => ⟨"diagnostic", "diagnostic.bad_frame"⟩
    diagnostics := [] }

/-- `_read_frames`: it empties the buffer of the transport whatever becomes of the lines. -/
def takeFrames : HubAdapter × Except CodecError (List Frame) :=
  let (frames, diagnostics) := readFrames s.lines
  ({ s with lines := [], diagnostics := s.diagnostics ++ diagnostics }, frames)

/-- `_drain_transport`, and whether it returns. -/
def drainTransport : HubAdapter × Bool :=
  match s.takeFrames with
  | (drained, .error _) => (drained, false)
  | (drained, .ok frames) =>
    let (result, events) := queueAll frames
    let queued := { drained with events := drained.events ++ events }
    match result with
    | .error _ => (queued, false)
    | .ok () => (queued.recordDiagnostics, true)

/-- An `execute` that passed its checks up to the send of its line. -/
def beginExecute (operation : Operation) (arguments : List String) (now : ℚ) : HubAdapter :=
  let sequence := nextSequence s.sequence
  if !s.connected then s
  else
    match Frame.create sequence operation arguments with
    | .error _ => { s with sequence := sequence }
    | .ok frame =>
      { s with
        sequence := sequence
        requests := s.requests ++ [⟨s.nextCall, frame.sequence, now, none⟩]
        nextCall := s.nextCall + 1 }

/-- The end of an `execute` whose answer is found. -/
def completeExecute (request : HubRequest) (reply : Frame) : HubAdapter :=
  if reply.operation = .error then s
  else { s with lastHeartbeatAt := some request.startedAt }.recordDiagnostics

/-- One round of the loop of `_await_frame`, and what `execute` makes of it. -/
def poll (request : HubRequest) (deadline now : ℚ) : HubAdapter × List HubReport :=
  match s.takeFrames with
  | (drained, .error _) =>
    ({ drained with requests := s.drop request.call }, [.raised request.call])
  | (drained, .ok frames) =>
    let (result, events) := awaitFrame request.sequence none frames
    let queued := { drained with events := drained.events ++ events }
    match result with
    | .error _ => ({ queued with requests := s.drop request.call }, [.raised request.call])
    | .ok (some reply) =>
      ({ queued with requests := s.drop request.call }.completeExecute request reply,
        [.received request.call reply])
    | .ok none =>
      if deadline ≤ now then
        ({ queued with requests := s.drop request.call }.markLinkLost, [.offline request.call])
      else (queued, [])

/-- `tick` up to the send of a heartbeat. -/
def beginTick (transportConnected : Bool) (now : ℚ) : HubAdapter :=
  if !s.connected then s
  else if !transportConnected then s.markLinkLost
  else
    match s.drainTransport with
    | (drained, false) => drained
    | (drained, true) =>
      if s.lastHeartbeatAt.all fun last =>
          decide (settings.heartbeatIntervalSeconds ≤ now - last) then
        { drained with
          lastHeartbeatAt := some now
          sequence := nextSequence s.sequence
          heartbeats := s.heartbeats + 1 }
      else drained

/-- `_send_best_effort` swallows the error of a link that is gone. -/
def sentBestEffort (reached : Bool) : HubAdapter := { s with connected := s.connected && reached }

/-- A line reaches the transport, which may have to drop its oldest one. -/
def keepLine (line : String) : List String :=
  match settings.capacity with
  | none => s.lines ++ [line]
  | some capacity => (s.lines ++ [line]).drop (s.lines.length + 1 - capacity)

/-- The answer that a line brings. -/
def replyIn? (line : String) : Option Frame :=
  match decode line with
  | .ok frame => if frame.isReply then some frame else none
  | .error _ => none

/-- The requests that a line answers before their timeout. -/
def answersTo (line : String) (now : ℚ) : List HubReport :=
  match replyIn? line with
  | none => []
  | some reply =>
    (s.requests.filter fun request =>
      decide (reply.replyTo? = some request.sequence) &&
        request.deadline.all fun deadline => decide (now < deadline)).map fun request =>
      .answered request.call reply

def step : HubStep → Option (HubAdapter × List HubReport)
  | .execute operation arguments now => some (s.beginExecute operation arguments now, [])
  | .sent call now =>
    if s.requests.any fun request => decide (request.call = call ∧ request.deadline = none) then
      some ({ s with
        requests := s.requests.map fun request =>
          if request.call = call then
            { request with deadline := some (now + settings.ackTimeoutSeconds) }
          else request }, [])
    else none
  | .sendFailed call =>
    if s.requests.any fun request => decide (request.call = call ∧ request.deadline = none) then
      some ({ s with requests := s.drop call }.markLinkLost, [.offline call])
    else none
  | .poll call now =>
    match s.requests.find? fun request => request.call = call with
    | some request => request.deadline.map fun deadline => s.poll request deadline now
    | none => none
  | .cancel call =>
    if s.requests.any fun request => decide (request.call = call) then
      some ({ s with requests := s.drop call }, [.cancelled call])
    else none
  | .tick transportConnected now => some (s.beginTick settings transportConnected now, [])
  | .heartbeatSent reached =>
    if 0 < s.heartbeats then
      some ((({ s with heartbeats := s.heartbeats - 1 }.sentBestEffort reached).drainTransport).1,
        [])
    else none
  | .stop => some ({ s with sequence := nextSequence s.sequence, stops := s.stops + 1 }, [])
  | .stopSent reached =>
    if 0 < s.stops then
      let sent := { s with stops := s.stops - 1 }.sentBestEffort reached
      some ({ sent with events := sent.events ++ [⟨"safety", "safety.stopped"⟩] }, [])
    else none
  | .arrive line now => some ({ s with lines := s.keepLine settings line }, s.answersTo line now)

end HubAdapter

/-- The adapter from its connection on, under every interleaving of its calls. -/
def hubAdapter (settings : HubSettings) : Machine HubAdapter HubStep HubReport where
  Initial s := s.requests = [] ∧ s.heartbeats = 0 ∧ s.stops = 0 ∧ s.lines = []
  Step s e s' out := s.step settings e = some (s', out)

end CitPhysicalXR.Lego
