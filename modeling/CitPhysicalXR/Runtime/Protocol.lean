import CitPhysicalXR.Fabric.Protocol

/-! The commands of the classroom runtime, and their ranks. -/
namespace CitPhysicalXR.Runtime
open Foundation Fabric

inductive Source where
  | studentBlocks
  | studentPython
  | quest
  | leap
  | instructor
  | agentMesh
  | system
  deriving DecidableEq

def Source.value : Source → String
  | .studentBlocks => "student_blocks"
  | .studentPython => "student_python"
  | .quest => "quest"
  | .leap => "leap"
  | .instructor => "instructor"
  | .agentMesh => "agent_mesh"
  | .system => "system"

/-- `repr` of a member of the enumeration. -/
def Source.repr (source : Source) : String :=
  s!"<Source.{source.value}: " ++ PyString.repr source.value ++ ">"

structure SafetyContext where
  policyId : String
  armed : Bool
  deadmanActive : Option Bool
  inputConfidence : Option ℚ

structure DeviceCommandIntent where
  commandId : String
  sessionId : String
  deviceId : String
  capability : String
  action : String
  arguments : JsonObject
  source : Source
  issuedAt : Instant
  expiresAt : Instant
  idempotencyKey : String
  safetyContext : SafetyContext

/-- A lower rank preempts a higher one. -/
inductive CommandPriority where
  | physicalEmergencyStop
  | instructorStopAll
  | runtimeSafetyStop
  | deviceWatchdog
  | programStop
  | studentCommand
  | aiOrWearableProposal
  deriving DecidableEq

def CommandPriority.rank : CommandPriority → ℕ
  | .physicalEmergencyStop => 1
  | .instructorStopAll => 2
  | .runtimeSafetyStop => 3
  | .deviceWatchdog => 4
  | .programStop => 5
  | .studentCommand => 6
  | .aiOrWearableProposal => 7

def Source.priority : Source → CommandPriority
  | .system => .runtimeSafetyStop
  | .instructor | .studentBlocks | .studentPython | .quest | .leap => .studentCommand
  | .agentMesh => .aiOrWearableProposal

def stopActions : List String := ["emergency_stop", "halt", "stop", "stop_all"]

/-- Rank a command by what issued it and whether it is a stop. -/
def classifyPriority (command : DeviceCommandIntent) : CommandPriority :=
  if command.action ∈ stopActions then
    if command.source = .instructor then .instructorStopAll
    else if command.source = .system then .runtimeSafetyStop
    else .programStop
  else command.source.priority

end CitPhysicalXR.Runtime
