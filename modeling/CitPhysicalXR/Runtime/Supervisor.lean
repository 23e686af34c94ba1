import Mathlib
import CitPhysicalXR.Foundation.Effect
import CitPhysicalXR.Foundation.KeyedTable
import CitPhysicalXR.Runtime.Protocol

/-! The physical safety supervisor: policies, arms, watchdogs, and the verdict on a command. -/
namespace CitPhysicalXR.Runtime
open Foundation

inductive ErrorCode where
  | deviceNotFound
  | deviceOffline
  | deviceNotAssigned
  | deviceLeaseConflict
  | deviceNotArmed
  | deviceCapabilityUnsupported
  | commandExpired
  | commandDuplicate
  | safetyPolicyDenied
  deriving DecidableEq

/-- Why a command is refused. -/
structure Denial where
  code : ErrorCode
  reason : String
  recovery : String
  deriving DecidableEq

def movementPrefixes : List String :=
  ["actuator.", "chassis.", "drive.", "gimbal.", "motion.", "motor."]

def isMovement (capability : String) : Bool :=
  movementPrefixes.any fun pre => PyString.startsWith capability pre

namespace FoundationSafetyGate

/-- `capability.rsplit(".", maxsplit=1)[-1]`. -/
def capabilityName (capability : String) : String :=
  String.ofList (capability.toList.reverse.takeWhile (· ≠ '.')).reverse

def isStop (command : DeviceCommandIntent) : Bool :=
  stopActions.contains command.action || stopActions.contains (capabilityName command.capability)

/-- The floor for physical execution: its code and reason for a refusal. -/
def evaluate (command : DeviceCommandIntent) : Except (ErrorCode × String) Unit :=
  if isStop command then .ok ()
  else if isMovement command.capability ∧ command.source = .agentMesh then
    .error (.safetyPolicyDenied, "Agent Mesh may propose but may not initiate physical movement")
  else if isMovement command.capability ∧ ¬ command.safetyContext.armed then
    .error (.deviceNotArmed, "Physical movement requires an armed safety context")
  else .ok ()

end FoundationSafetyGate

structure MotionBounds where
  maxSpeed : PyFloat := .finite (1 / 2)
  maxAcceleration : Option PyFloat := none
  maxDurationSeconds : PyFloat := .finite 2
  minInputConfidence : ℚ := 3 / 5
  speed_positive : maxSpeed.le (.finite 0) = false := by norm_num
  duration_positive : maxDurationSeconds.le (.finite 0) = false := by norm_num
  confidence_unit : 0 ≤ minInputConfidence ∧ minInputConfidence ≤ 1 := by norm_num

structure SafetyPolicy where
  policyId : String
  bounds : MotionBounds := {}
  allowedCapabilities : List String := []
  deniedCapabilities : List String := ["weapon.blaster"]
  armTtl : Duration := minutes 5
  requireDeadman : Bool := true

def SafetyPolicy.permits (policy : SafetyPolicy) (capability : String) : Bool :=
  if policy.deniedCapabilities.contains capability then false
  else if policy.allowedCapabilities.isEmpty then true
  else policy.allowedCapabilities.contains capability

/-- Arming is granted by an instructor and expires by itself. -/
structure ArmState where
  deviceId : String
  sessionId : String
  armedBy : String
  armedAt : Instant
  expiresAt : Instant

def ArmState.isActive (arm : ArmState) (now : Instant) : Bool := decide (now < arm.expiresAt)

inductive WatchdogKind where
  | s1ContinuousMotion
  | legoContinuousMotion
  | questDeadmanHeartbeat
  | leapContinuousInput
  | adapterProcessHeartbeat
  deriving DecidableEq

namespace WatchdogKind

def value : WatchdogKind → String
  | s1ContinuousMotion => "s1_continuous_motion"
  | legoContinuousMotion => "lego_continuous_motion"
  | questDeadmanHeartbeat => "quest_deadman_heartbeat"
  | leapContinuousInput => "leap_continuous_input"
  | adapterProcessHeartbeat => "adapter_process_heartbeat"

/-- In seconds. -/
def timeout : WatchdogKind → ℚ
  | s1ContinuousMotion | questDeadmanHeartbeat | leapContinuousInput => 3 / 10
  | legoContinuousMotion => 1 / 2
  | adapterProcessHeartbeat => 1

end WatchdogKind

inductive WatchdogAction where
  | stop
  | disarm
  deriving DecidableEq

def WatchdogKind.action : WatchdogKind → WatchdogAction
  | .questDeadmanHeartbeat => .disarm
  | _ => .stop

structure Heartbeat where
  deviceId : String
  kind : WatchdogKind
  lastSeen : ℚ

def Heartbeat.key (beat : Heartbeat) : String × WatchdogKind := (beat.deviceId, beat.kind)

structure WatchdogExpiry where
  deviceId : String
  kind : WatchdogKind
  action : WatchdogAction
  elapsedSeconds : ℚ
  deriving DecidableEq

/-- What the clocks show while a command is checked: the wall clock when the pipeline reads it
and when the arm is looked up, and the monotonic clock. -/
structure Reading where
  now : Instant
  checkedAt : Instant
  monotonic : ℚ

structure SafetySupervisor where
  policies : Table SafetyPolicy.policyId
  arms : Table ArmState.deviceId
  heartbeats : Table Heartbeat.key
  disabledSources : List String

structure Bounded where
  arguments : JsonObject
  clampedFields : List String

namespace SafetySupervisor
variable (s : SafetySupervisor)

/-- A supervisor knows the policy of the simulation. -/
def new : SafetySupervisor where
  policies := Table.empty.upsert { policyId := "simulation-only" }
  arms := .empty
  heartbeats := .empty
  disabledSources := []

def disarm (deviceId : String) : SafetySupervisor :=
  { s with arms := s.arms.filterRows fun arm => arm.deviceId ≠ deviceId }

def disarmAll : SafetySupervisor := { s with arms := .empty }

/-- The arm of a device; one that has expired is dropped. -/
def armState (deviceId : String) (now : Instant) : Option ArmState × SafetySupervisor :=
  match s.arms.get? deviceId with
  | none => (none, s)
  | some arm => if arm.isActive now then (some arm, s) else (none, s.disarm deviceId)

def heartbeat (deviceId : String) (kind : WatchdogKind) (now : ℚ) : SafetySupervisor :=
  { s with heartbeats := s.heartbeats.upsert ⟨deviceId, kind, now⟩ }

def clearWatchdog (deviceId : String) (kind : WatchdogKind) : SafetySupervisor :=
  { s with heartbeats := s.heartbeats.filterRows fun beat => beat.key ≠ (deviceId, kind) }

/-- True only while a fresh dead-man heartbeat keeps arriving. -/
def deadmanAttested (deviceId : String) (now : ℚ) : Bool :=
  match s.heartbeats.get? (deviceId, .questDeadmanHeartbeat) with
  | none => false
  | some beat => decide (now - beat.lastSeen ≤ WatchdogKind.questDeadmanHeartbeat.timeout)

/-- The order in which watchdogs are polled: by device, then by kind. -/
def pollsBefore (first second : Heartbeat) : Prop :=
  first.deviceId < second.deviceId ∨
    first.deviceId = second.deviceId ∧ first.kind.value ≤ second.kind.value

instance : DecidableRel pollsBefore := by
  unfold pollsBefore
  infer_instance

def expiry? (now : ℚ) (beat : Heartbeat) : Option WatchdogExpiry :=
  if now - beat.lastSeen ≤ beat.kind.timeout then none
  else some ⟨beat.deviceId, beat.kind, beat.kind.action, now - beat.lastSeen⟩

/-- Every watchdog whose deadline has passed. -/
def expiredWatchdogs (now : ℚ) : List WatchdogExpiry :=
  (s.heartbeats.rows.insertionSort pollsBefore).filterMap (expiry? now)

/-- The checks of a command that is no stop, up to the arm. -/
def permission (command : DeviceCommandIntent) (sessionDeviceIds : List String)
    (physical : Bool) : Except Denial SafetyPolicy := do
  raiseIf (command.source.value ∈ s.disabledSources) {
    code := .safetyPolicyDenied
    reason := s!"Input source {command.source.repr} is disabled for this classroom"
    recovery := "An instructor turned this input off. Ask them to enable it again." }
  raiseIf (command.deviceId ∉ sessionDeviceIds) {
    code := .deviceNotAssigned
    reason := s!"Device {PyString.repr command.deviceId} is not bound to session " ++
      PyString.repr command.sessionId
    recovery := "Bind the device to this session before sending commands to it." }
  let policy ← match s.policies.get? command.safetyContext.policyId with
    | some policy => .ok policy
    | none => .error {
        code := .safetyPolicyDenied
        reason := s!"Unknown safety policy {PyString.repr command.safetyContext.policyId}"
        recovery := "Select a registered safety profile for this session." }
  raiseIf (!policy.permits command.capability) {
    code := .deviceCapabilityUnsupported
    reason := s!"Policy {PyString.repr policy.policyId} does not permit " ++
      PyString.repr command.capability
    recovery := "Ask an instructor to choose a profile that allows this capability." }
  raiseIf (isMovement command.capability ∧ command.source = .agentMesh) {
    code := .safetyPolicyDenied
    reason := "Agent Mesh may propose but may not initiate movement"
    recovery := "Ask a person to review and issue the movement themselves." }
  if physical then
    match FoundationSafetyGate.evaluate command with
    | .ok () => .ok policy
    | .error (code, reason) =>
      .error ⟨code, reason, "An instructor must arm the device before it can move."⟩
  else .ok policy

def physicalMovementDenial (command : DeviceCommandIntent) (policy : SafetyPolicy)
    (arm : Option ArmState) (monotonic : ℚ) : Option Denial :=
  match arm with
  | none => some {
      code := .deviceNotArmed
      reason := s!"Device {PyString.repr command.deviceId} is not armed or its arm window expired"
      recovery := "An instructor must arm the device again before it can move." }
  | some arm =>
    if arm.sessionId ≠ command.sessionId then some {
      code := .deviceLeaseConflict
      reason := s!"Device {PyString.repr command.deviceId} is armed for session " ++
        PyString.repr arm.sessionId
      recovery :=
        "Wait for the other session to finish, or ask an instructor to reassign it." }
    else if policy.requireDeadman ∧ s.deadmanAttested command.deviceId monotonic = false then some {
      code := .safetyPolicyDenied
      reason := "No dead-man heartbeat has arrived for this device within the last " ++
        PyFloat.fixed 0 (WatchdogKind.questDeadmanHeartbeat.timeout * 1000) ++ " ms"
      recovery := "Hold the dead-man control while the robot is moving." }
    else
      match command.safetyContext.inputConfidence with
      | none => none
      | some confidence =>
        if confidence < policy.bounds.minInputConfidence then some {
          code := .safetyPolicyDenied
          reason := s!"Input confidence {PyFloat.fixed 2 confidence} is below the required " ++
            PyFloat.fixed 2 policy.bounds.minInputConfidence
          recovery := "Improve tracking or confirm the command before the robot moves." }
        else none

/-- A number that is no `bool`. -/
def numeric? : JsonValue → Option PyFloat
  | .int n => some (.finite n)
  | .float x => some x
  | _ => none

def clamp (bounded : Bounded) (name : String) (ceiling : PyFloat) : Bounded :=
  match (bounded.arguments.get? name).bind numeric? with
  | none => bounded
  | some x =>
    if ceiling.lt x.abs then
      { arguments := bounded.arguments.set name
          (.float (if (PyFloat.finite 0).lt x then ceiling else ceiling.neg))
        clampedFields := bounded.clampedFields ++ [name] }
    else bounded

/-- Clamp rather than reject. -/
def boundArguments (command : DeviceCommandIntent) (policy : SafetyPolicy) : Bounded :=
  if isMovement command.capability then
    let bounds := policy.bounds
    let sped := clamp ⟨command.arguments, []⟩ "speed" bounds.maxSpeed
    let accelerated := match bounds.maxAcceleration with
      | none => sped
      | some ceiling => clamp sped "acceleration" ceiling
    let timed := clamp accelerated "durationSeconds" bounds.maxDurationSeconds
    if "durationSeconds" ∈ timed.arguments.keys then timed
    else
      { arguments := timed.arguments.set "durationSeconds" (.float bounds.maxDurationSeconds)
        clampedFields := timed.clampedFields ++ ["durationSeconds"] }
  else ⟨command.arguments, []⟩

/-- Answer one command. A stop is never blocked by arm state, ownership or bounds, and goes on
without arguments. -/
def evaluate (command : DeviceCommandIntent) (sessionDeviceIds : List String) (physical : Bool)
    (reading : Reading) : Except Denial Bounded × SafetySupervisor :=
  if command.action ∈ stopActions then (.ok ⟨.empty, []⟩, s)
  else
    match s.permission command sessionDeviceIds physical with
    | .error denial => (.error denial, s)
    | .ok policy =>
      if physical ∧ isMovement command.capability then
        let (arm, checked) := s.armState command.deviceId reading.checkedAt
        match checked.physicalMovementDenial command policy arm reading.monotonic with
        | some denial => (.error denial, checked)
        | none => (.ok (boundArguments command policy), checked)
      else (.ok (boundArguments command policy), s)

end SafetySupervisor
end CitPhysicalXR.Runtime
