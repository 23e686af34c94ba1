import CitPhysicalXR.Runtime.Confinement
import CitPhysicalXR.Foundation.Execution

/-! The runtime as a system: sessions, bindings, arms and the links of the devices, between two
awaits. A link that is being opened or closed holds the record of its device as it was before
the await, and writes that record back. -/
namespace CitPhysicalXR.Runtime
open Foundation

namespace SafetySupervisor

def getPolicy (s : SafetySupervisor) (policyId : String) : Except HttpError SafetyPolicy :=
  match s.policies.get? policyId with
  | some policy => .ok policy
  | none => .error (.notFound (PyString.repr s!"Unknown safety policy {PyString.repr policyId}"))

/-- `arm` with a validated program; nothing catches an `ArmingError`. -/
def arm (s : SafetySupervisor) (deviceId sessionId instructorId policyId : String)
    (now : Instant) : Except HttpError SafetySupervisor := do
  raiseIf (instructorId = "") .unhandled
  let policy ← s.getPolicy policyId
  return { s with arms := s.arms.upsert {
    deviceId, sessionId
    armedBy := instructorId
    armedAt := now
    expiresAt := now + policy.armTtl } }

/-- The session's policy under another time to live, when one is asked for. -/
def withTtl (s : SafetySupervisor) (policyId : String) :
    Option Duration → Except HttpError SafetySupervisor
  | none => .ok s
  | some ttl => do
    let policy ← s.getPolicy policyId
    return { s with policies := s.policies.upsert { policy with armTtl := ttl } }

end SafetySupervisor

namespace Classroom
variable (s : Classroom)

def setFailurePolicy (sessionId : String) (policy : FailurePolicy) :
    Except HttpError Classroom := do
  let session ← s.getSession sessionId
  return { s with sessions := s.sessions.upsert { session with failurePolicy := policy } }

/-- `arm`; whether the device is bound to the session is not asked. -/
def arm (sessionId deviceId instructorId : String) (ttl : Option Duration) (now : Instant) :
    Except HttpError Classroom := do
  let session ← s.getSession sessionId
  raiseIf (session.state ∉ [SessionState.ready, .waitingForArm]) (.conflict
    (s!"Session {PyString.repr sessionId} must validate before arming " ++
      s!"(state {session.state.value})"))
  let supervisor ← s.supervisor.withTtl session.safetyPolicyId ttl
  let armed ← supervisor.arm deviceId sessionId instructorId session.safetyPolicyId now
  return { s with supervisor := armed }.record .deviceArmed instructorId now
    [("deviceId", .str deviceId), ("sessionId", .str sessionId)]

/-- The room once `arm` has registered the session's policy with an explicit time to live. -/
def ttlRegistered (sessionId : String) (ttl : Option Duration) : Classroom :=
  match s.getSession sessionId with
  | .error _ => s
  | .ok session =>
    if session.state ∈ [SessionState.ready, .waitingForArm] then
      match s.supervisor.withTtl session.safetyPolicyId ttl with
      | .error _ => s
      | .ok supervisor => { s with supervisor := supervisor }
    else s

/-- What `arm` leaves; the time to live stays registered when the supervisor refuses. -/
def armLeaves (sessionId deviceId instructorId : String) (ttl : Option Duration) (now : Instant) :
    Classroom :=
  match s.arm sessionId deviceId instructorId ttl now with
  | .ok after => after
  | .error _ => s.ttlRegistered sessionId ttl

def disarmDevice (deviceId actorId : String) (now : Instant) : Classroom :=
  { s with supervisor := s.supervisor.disarm deviceId }.record .deviceDisarmed actorId now
    [("deviceId", .str deviceId)]

/-- `disarm_all` of the supervisor. -/
def disarmAll : Classroom := { s with supervisor := s.supervisor.disarmAll }

/-- What `stop_all` does once every adapter has stopped. -/
def allStopped (reason actorId : String) (stopped : List String) (now : Instant) : Classroom :=
  s.disarmAll.record .stopAll actorId now
    [("reason", .str reason), ("result", .str (String.intercalate "," stopped))]

def watchdogDisarmed (expiry : WatchdogExpiry) (now : Instant) : Classroom :=
  let cleared := s.supervisor.clearWatchdog expiry.deviceId expiry.kind
  { s with supervisor := cleared.disarm expiry.deviceId }.record .watchdogFired "system" now
    [("deviceId", .str expiry.deviceId), ("watchdog", .str expiry.kind.value)]

def setDevice (device : ClassroomDevice) : Classroom :=
  { s with devices := s.devices.upsert device }

/-- What a provider finds: a device that is known keeps its state and its session. -/
def discovered (found : ClassroomDevice) : Classroom :=
  match s.devices.get? found.deviceId with
  | none => s.setDevice { found with
      state := .discovered
      assignedSessionId := none
      failureReason := none }
  | some existing => s.setDevice { found with
      state := existing.state
      assignedSessionId := existing.assignedSessionId
      failureReason := existing.failureReason }

/-- `registry.release`. -/
def releaseDevice (deviceId : String) : Except HttpError Classroom := do
  let device ← s.getDevice deviceId
  return s.setDevice { device with assignedSessionId := none }

/-- `connect` up to its await. -/
def connecting (device : ClassroomDevice) : Classroom :=
  s.setDevice { device with state := .connecting }

/-- `connect` after its await, over the record from before it: the adapter has connected, or has
raised for a reason. -/
def linked (device : ClassroomDevice) : Option String → Classroom
  | none => s.setDevice { device with state := .connected, failureReason := none }
  | some reason => s.setDevice { device with state := .failed, failureReason := some reason }

/-- A live session that has the device. -/
def isActiveFor (session : ClassroomSession) (deviceId : String) : Bool :=
  decide (deviceId ∈ session.deviceBindings) && !session.state.isTerminal

/-- `handle_disconnect` for one session. -/
def disconnectSession (deviceId reason : String) (now : Instant) (session : ClassroomSession) :
    ClassroomSession :=
  if isActiveFor session deviceId ∧ session.state ≠ .disconnected then
    { session with
      state := .disconnected
      lastActivityAt := now
      endedAt := none
      failureReason := some reason }
  else session

/-- `handle_disconnect`: the device is disarmed and failed, and its sessions are disconnected. -/
def handleDisconnect (deviceId reason : String) (now : Instant) : Except HttpError Classroom := do
  let (discarded, _) := s.discard deviceId ("device disconnected: " ++ reason) now
  let disarmed : Classroom := { discarded with
    supervisor := discarded.supervisor.disarm deviceId }
  let device ← disarmed.getDevice deviceId
  let failed := disarmed.setDevice { device with state := .failed, failureReason := some reason }
  return { failed with
    sessions := failed.sessions.mapRows (disconnectSession deviceId reason now) fun session => by
      unfold disconnectSession
      split <;> rfl }.record .deviceDisconnected "system" now
    [("deviceId", .str deviceId), ("reason", .str reason)]

/-- `disconnect_device` after the adapter's disconnect, over the record from before it. -/
def unlinked (device : ClassroomDevice) (reason : String) (now : Instant) :
    Except HttpError Classroom :=
  (s.setDevice { device with state := .disconnected }).handleDisconnect device.deviceId reason now

/-- `revoke_lease` once the device has stopped: its lease and its session are taken from it. -/
def revoked (deviceId actorId : String) (cleared : ℕ) (events : List ReceivedEvent)
    (now : Instant) : Except HttpError Classroom := do
  let stopped := s.stopped deviceId "lease revoked" actorId cleared events now
  let leases := stopped.leases.filter fun lease => decide (lease.deviceId ≠ deviceId)
  let freed ← ({ stopped with leases := leases } : Classroom).releaseDevice deviceId
  let recorded := freed.record .leaseRevoked actorId now
    [("deviceId", .str deviceId), ("count", .int (stopped.leases.length - leases.length))]
  return { recorded with supervisor := recorded.supervisor.disarm deviceId }

end Classroom

/-- A call on the adapter of a device that has not come back; it has read the device's record. -/
inductive LinkTask where
  | connecting (device : ClassroomDevice)
  | disconnecting (device : ClassroomDevice) (reason : String)

def LinkTask.device : LinkTask → ClassroomDevice
  | .connecting device | .disconnecting device _ => device

structure RuntimeState where
  room : Classroom
  links : List LinkTask

/-- What happens between two awaits to what the sessions hold. Everything else that the runtime
does leaves sessions, devices and arms alone. -/
inductive RuntimeEvent where
  | createSession (request : CreateSessionRequest) (userId : String) (now : Instant)
  | bindDevices (sessionId : String) (deviceIds : List String) (now : Instant)
  | transition (sessionId : String) (state : SessionState) (reason : Option String)
      (now : Instant)
  | setFailurePolicy (sessionId : String) (policy : FailurePolicy)
  | arm (sessionId deviceId instructorId : String) (ttl : Option Duration) (now : Instant)
  | disarm (deviceId : Option String) (actorId : String) (now : Instant)
  | lookArm (deviceId : String) (now : Instant)
  | discard (deviceId reason : String) (now : Instant)
  | stopped (deviceId reason actorId : String) (cleared : ℕ) (events : List ReceivedEvent)
      (now : Instant)
  | allStopped (reason actorId : String) (stopped : List String) (now : Instant)
  | watchdogDisarmed (expiry : WatchdogExpiry) (now : Instant)
  | dispatch (command : DeviceCommandIntent) (reading : Reading)
  | revoked (deviceId actorId : String) (cleared : ℕ) (events : List ReceivedEvent)
      (now : Instant)
  | discovered (device : ClassroomDevice)
  | connect (deviceId : String)
  | connected (link : ℕ) (failure : Option String)
  | disconnect (deviceId reason : String)
  | disconnected (link : ℕ) (now : Instant)

namespace RuntimeState

def sessionOf (request : CreateSessionRequest) (userId : String) (now : Instant) :
    ClassroomSession where
  sessionId := request.sessionId
  userId := userId
  executionMode := request.executionMode
  state := .created
  deviceBindings := []
  projectId := request.projectId
  authoringMode := request.authoringMode
  safetyPolicyId := request.safetyPolicyId
  startedAt := now
  lastActivityAt := now
  instructorId := request.instructorId

/-- What a call that may raise leaves: one that raises here has changed nothing. -/
def orUnchanged (s : Classroom) (result : Except HttpError Classroom) : Classroom :=
  match result with
  | .ok after => after
  | .error _ => s

/-- The room after a call that is over before its next await. -/
def roomAfter (s : Classroom) : RuntimeEvent → Classroom
  | .createSession request userId now =>
    orUnchanged s (s.createSession (sessionOf request userId now) now)
  | .bindDevices sessionId deviceIds now =>
    match s.getSession sessionId with
    | .error _ => s
    | .ok session => (s.bindDevices session deviceIds now).1
  | .transition sessionId state reason now =>
    match s.getSession sessionId with
    | .error _ => s
    | .ok session => orUnchanged s ((s.transition session state reason now).map Prod.snd)
  | .setFailurePolicy sessionId policy => orUnchanged s (s.setFailurePolicy sessionId policy)
  | .arm sessionId deviceId instructorId ttl now =>
    s.armLeaves sessionId deviceId instructorId ttl now
  | .disarm (some deviceId) actorId now => s.disarmDevice deviceId actorId now
  | .disarm none _ _ => s.disarmAll
  | .lookArm deviceId now => { s with supervisor := (s.supervisor.armState deviceId now).2 }
  | .discard deviceId reason now => (s.discard deviceId reason now).1
  | .stopped deviceId reason actorId cleared events now =>
    s.stopped deviceId reason actorId cleared events now
  | .allStopped reason actorId stopped now => s.allStopped reason actorId stopped now
  | .watchdogDisarmed expiry now => s.watchdogDisarmed expiry now
  | .dispatch command reading => s.withPipeline (s.pipeline.dispatch command reading).1
  | .revoked deviceId actorId cleared events now =>
    orUnchanged s (s.revoked deviceId actorId cleared events now)
  | .discovered device => s.discovered device
  | .connect _ | .connected _ _ | .disconnect _ _ | .disconnected _ _ => s

/-- One step, with the commands that it hands to an adapter. -/
def step (p : RuntimeState) (event : RuntimeEvent) : Option (RuntimeState × List DispatchReport) :=
  match event with
  | .connect deviceId =>
    match p.room.devices.get? deviceId with
    | none => some (p, [])
    | some device => some (⟨p.room.connecting device, p.links ++ [.connecting device]⟩, [])
  | .connected link failure =>
    match p.links[link]? with
    | some (.connecting device) => some (⟨p.room.linked device failure, p.links.eraseIdx link⟩, [])
    | _ => none
  | .disconnect deviceId reason =>
    match p.room.devices.get? deviceId with
    | none => some (p, [])
    | some device => some ({ p with links := p.links ++ [.disconnecting device reason] }, [])
  | .disconnected link now =>
    match p.links[link]? with
    | some (.disconnecting device reason) =>
      some (⟨orUnchanged p.room (p.room.unlinked device reason now), p.links.eraseIdx link⟩, [])
    | _ => none
  | .dispatch command reading => some (⟨roomAfter p.room (.dispatch command reading), p.links⟩,
      (p.room.pipeline.dispatch command reading).2)
  | event => some (⟨roomAfter p.room event, p.links⟩, [])

end RuntimeState

/-- A runtime with its devices, before its first session. -/
def classroomRuntime : Machine RuntimeState RuntimeEvent DispatchReport where
  Initial p := p.links = [] ∧ p.room.sessions = .empty ∧ p.room.devices = .empty ∧
    p.room.supervisor.arms = .empty
  Step p event p' out := RuntimeState.step p event = some (p', out)

end CitPhysicalXR.Runtime
