import CitPhysicalXR.Foundation.ExpiringClaims
import CitPhysicalXR.Runtime.Lanes
import CitPhysicalXR.Runtime.Supervisor

/-! The one path from an intent to an adapter: identity is claimed before safety is asked, safety
is asked before a lease is taken, and a lease is held before an adapter is touched. -/
namespace CitPhysicalXR.Runtime
open Foundation

inductive SessionState where
  | created
  | validating
  | waitingForDevices
  | waitingForArm
  | ready
  | running
  | paused
  | stopping
  | stopped
  | completed
  | failed
  | disconnected
  | emergencyStopped
  deriving DecidableEq

namespace SessionState

def value : SessionState → String
  | created => "created"
  | validating => "validating"
  | waitingForDevices => "waiting_for_devices"
  | waitingForArm => "waiting_for_arm"
  | ready => "ready"
  | running => "running"
  | paused => "paused"
  | stopping => "stopping"
  | stopped => "stopped"
  | completed => "completed"
  | failed => "failed"
  | disconnected => "disconnected"
  | emergencyStopped => "emergency_stopped"

def isTerminal : SessionState → Bool
  | stopped | completed | failed | emergencyStopped => true
  | _ => false

end SessionState

inductive ExecutionMode where
  | simulation
  | physical
  deriving DecidableEq

structure ProgramSession where
  sessionId : String
  userId : String
  executionMode : ExecutionMode
  state : SessionState
  deviceBindings : List String

inductive DeviceConnectionState where
  | discovered
  | connecting
  | connected
  | disconnected
  | failed
  deriving DecidableEq

def DeviceConnectionState.value : DeviceConnectionState → String
  | discovered => "discovered"
  | connecting => "connecting"
  | connected => "connected"
  | disconnected => "disconnected"
  | failed => "failed"

structure RegisteredDevice where
  deviceId : String
  physical : Bool
  state : DeviceConnectionState

abbrev CommandLedger := Claims String Instant

def CommandLedger.claimCommand (ledger : CommandLedger) (command : DeviceCommandIntent)
    (now : Instant) : Disposition × CommandLedger :=
  Claims.claim ledger command.idempotencyKey command.expiresAt now

inductive LeaseMode where
  | read
  | write
  deriving DecidableEq

structure DeviceLease where
  deviceId : String
  sessionId : String
  mode : LeaseMode
  acquiredAt : Instant
  expiresAt : Instant

namespace DeviceLeases

/-- The leases go in order: those that the session renews are dropped, until another session is
found to hold the device. -/
def renew (deviceId sessionId : String) :
    List DeviceLease → Except String Unit × List DeviceLease
  | [] => (.ok (), [])
  | lease :: leases =>
    if lease.deviceId ≠ deviceId ∨ lease.mode ≠ .write then
      let (outcome, kept) := renew deviceId sessionId leases
      (outcome, lease :: kept)
    else if lease.sessionId = sessionId then renew deviceId sessionId leases
    else (.error lease.sessionId, lease :: leases)

/-- A new lease, or the session that holds the device. -/
def acquire (leases : List DeviceLease) (deviceId sessionId : String) (mode : LeaseMode)
    (now : Instant) (ttl : Duration) : Except String Unit × List DeviceLease :=
  let live := leases.filter fun lease => decide (now < lease.expiresAt)
  let (outcome, kept) := match mode with
    | .write => renew deviceId sessionId live
    | .read => (.ok (), live)
  match outcome with
  | .error holder => (.error holder, kept)
  | .ok () => (.ok (), kept ++ [⟨deviceId, sessionId, mode, now, now + ttl⟩])

end DeviceLeases

structure CommandPipeline where
  sessions : Table ProgramSession.sessionId
  devices : Table RegisteredDevice.deviceId
  supervisor : SafetySupervisor
  ledger : CommandLedger
  leases : List DeviceLease
  queue : List QueueItem

/-- A command that is handed to its adapter. -/
structure Execution where
  command : DeviceCommandIntent
  bounded : DeviceCommandIntent
  now : Instant

/-- What a dispatch records, and what it hands to an adapter. -/
inductive DispatchReport where
  | denied (command : DeviceCommandIntent) (denial : Denial)
  | clamped (command : DeviceCommandIntent) (clampedFields : List String)
  | executed (execution : Execution)

namespace CommandPipeline
variable (p : CommandPipeline)

def leaseTtl : Duration := seconds 30

def resolve (command : DeviceCommandIntent) : Except Denial (ProgramSession × RegisteredDevice) :=
  match p.sessions.get? command.sessionId with
  | none => .error {
      code := .deviceNotAssigned
      reason := s!"Unknown session {PyString.repr command.sessionId}"
      recovery := "Start a session before sending commands." }
  | some session =>
    if session.state.isTerminal then .error {
      code := .safetyPolicyDenied
      reason := s!"Session {PyString.repr command.sessionId} is {session.state.value}"
      recovery := "Start a new session; this one has ended." }
    else
      match p.devices.get? command.deviceId with
      | none => .error {
          code := .deviceNotFound
          reason := s!"Unknown device {PyString.repr command.deviceId}"
          recovery := "Run discovery, then bind the device to this session." }
      | some device =>
        if device.state ≠ .connected then .error {
          code := .deviceOffline
          reason := s!"Device {PyString.repr command.deviceId} is {device.state.value}"
          recovery := "Reconnect the device, then arm it again before sending commands." }
        else .ok (session, device)

/-- Why a claim of an identity is refused. -/
def claimDenial : Disposition → Option Denial
  | .accepted => none
  | .expired => some {
      code := .commandExpired
      reason := "Command expiry time has passed"
      recovery := "Issue a fresh command; expired motion is never replayed." }
  | .duplicate => some {
      code := .commandDuplicate
      reason := "Command identity was already claimed"
      recovery := "This command already ran; no second execution was performed." }

def lease (command : DeviceCommandIntent) (now : Instant) : Option Denial × CommandPipeline :=
  let (outcome, leases) :=
    DeviceLeases.acquire p.leases command.deviceId command.sessionId .write now leaseTtl
  let denial := match outcome with
    | .ok () => none
    | .error holder => some {
        code := .deviceLeaseConflict
        reason := s!"Device {PyString.repr command.deviceId} already has a write lease held by " ++
          s!"session {PyString.repr holder}"
        recovery := "Another session holds this device; ask an instructor to reassign it." }
  (denial, { p with leases := leases })

/-- Safety and the lease, for a command whose identity is claimed. -/
def authorize (session : ProgramSession) (device : RegisteredDevice)
    (command : DeviceCommandIntent) (reading : Reading) :
    CommandPipeline × List DispatchReport :=
  let physical := decide (session.executionMode = .physical) && device.physical
  let (verdict, supervisor) :=
    p.supervisor.evaluate command session.deviceBindings physical reading
  let evaluated := { p with supervisor := supervisor }
  match verdict with
  | .error denial => (evaluated, [.denied command denial])
  | .ok bounds =>
    let (refused, leased) := evaluated.lease command reading.now
    match refused with
    | some denial => (leased, [.denied command denial])
    | none =>
      let execution := ⟨command, { command with arguments := bounds.arguments }, reading.now⟩
      (leased,
        (if bounds.clampedFields = [] then [] else [.clamped command bounds.clampedFields]) ++
          [.executed execution])

/-- `_dispatch`, up to the adapter: one command goes through every gate, in order. -/
def dispatch (command : DeviceCommandIntent) (reading : Reading) :
    CommandPipeline × List DispatchReport :=
  match p.resolve command with
  | .error denial => (p, [.denied command denial])
  | .ok (session, device) =>
    let (disposition, ledger) := p.ledger.claimCommand command reading.now
    let claimed := { p with ledger := ledger }
    match claimDenial disposition with
    | some denial => (claimed, [.denied command denial])
    | none => claimed.authorize session device command reading

end CommandPipeline
end CitPhysicalXR.Runtime
