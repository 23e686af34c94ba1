import CitPhysicalXR.Foundation.Execution
import CitPhysicalXR.Runtime.ClassroomApi
import CitPhysicalXR.Runtime.DeviceStatus

/-! Replay beside the live events: two runtimes receive the same live events, and recordings are
replayed to one of them only. -/
namespace CitPhysicalXR.Runtime
open Foundation

/-- A runtime with what its event stream feeds: the status of the devices, and the events that
the pump has sent to the sockets. -/
structure LiveRuntime where
  room : Classroom
  status : DeviceStatusProjection := {}
  sent : List ReceivedEvent := []

/-- An event that an adapter reports. -/
abbrev LiveEvent := { event : ReceivedEvent // event.historical = false }

namespace EventRouter

def isRetry (router : EventRouter) (event : ReceivedEvent) : Bool :=
  decide (event.historical = false ∧ event.eventId ∈ router.seen)

end EventRouter

namespace LiveRuntime
variable (s : LiveRuntime)

def router : EventRouter := s.room.router

/-- An event for every subscriber, unless it is a retry. -/
def publish (event : ReceivedEvent) : LiveRuntime :=
  if s.router.isRetry event then s
  else { s with
    room := { s.room with router := (s.router.publish event).1 }
    status := s.status.observe event.toDeviceEvent }

def replay (recording : Recording) : LiveRuntime := recording.replayed.foldl publish s

/-- One round of `pump`: it waits while there is nothing to send. -/
def pump : LiveRuntime :=
  match s.router.broadcast with
  | [] => s
  | event :: rest => { s with
    room := { s.room with router := { s.router with broadcast := rest } }
    sent := s.sent ++ [event] }

def noteCommand (deviceId capability action result : String) (at_ : Instant) : LiveRuntime :=
  { s with status := s.status.noteCommand deviceId capability action result at_ }

def startRecording (recordingId sessionId actorId : String) (now : Instant) : LiveRuntime :=
  { s with room := s.room.startRecording recordingId sessionId actorId now }

def stopRecording (recordingId actorId : String) (now : Instant) (diskFails : Bool) :
    LiveRuntime :=
  match s.router.recorders.get? recordingId with
  | none => s
  | some recording => { s with room := s.room.stopRecording recording actorId now diskFails }

/-- The values that `_read_sensor` answers with, if there are any. -/
def readSensor (deviceId sensor : String) : Option JsonObject :=
  (ClassroomApi.lastReading s.room deviceId sensor).map (·.values)

end LiveRuntime

structure ReplayTwin where
  shown : LiveRuntime
  plain : LiveRuntime

inductive StreamEvent where
  | published (event : LiveEvent)
  | replayed (recording : Recording)
  | pumped
  | commandNoted (deviceId capability action result : String) (at_ : Instant)
  | recordingStarted (recordingId sessionId actorId : String) (now : Instant)
  | recordingStopped (recordingId actorId : String) (now : Instant) (diskFails : Bool)
  | sensorRead (deviceId sensor : String)

structure SensorAnswers where
  shown : Option JsonObject
  plain : Option JsonObject

namespace ReplayTwin

/-- The same call on both runtimes. -/
def both (p : ReplayTwin) (call : LiveRuntime → LiveRuntime) : ReplayTwin :=
  ⟨call p.shown, call p.plain⟩

def step (p : ReplayTwin) : StreamEvent → Option (ReplayTwin × List SensorAnswers)
  | .published event => some (p.both (·.publish event), [])
  | .replayed recording => some ({ p with shown := p.shown.replay recording }, [])
  | .pumped => some (p.both LiveRuntime.pump, [])
  | .commandNoted deviceId capability action result at_ =>
    some (p.both (·.noteCommand deviceId capability action result at_), [])
  | .recordingStarted recordingId sessionId actorId now =>
    some (p.both (·.startRecording recordingId sessionId actorId now), [])
  | .recordingStopped recordingId actorId now diskFails =>
    some (p.both (·.stopRecording recordingId actorId now diskFails), [])
  | .sensorRead deviceId sensor =>
    some (p, [⟨p.shown.readSensor deviceId sensor, p.plain.readSensor deviceId sensor⟩])

end ReplayTwin

/-- Two runtimes that start as one, before any event. -/
def replayTwin : Machine ReplayTwin StreamEvent SensorAnswers where
  Initial p := p.shown = p.plain ∧ p.plain.sent = [] ∧ p.plain.router = {}
  Step p e p' out := p.step e = some (p', out)

end CitPhysicalXR.Runtime
