import CitPhysicalXR.Adapters.CommandHandlers

/-! The command handlers of the small ground robots: Dash and Dot, Sphero BOLT and Sphero Ollie.
They check the parameters of a command only when they execute it; `plan` is the call of the
transport that a valid command stands for. -/
namespace CitPhysicalXR.Adapters
open Foundation Fabric

def lightSet : String := "robot.light.set"
def soundCue : String := "media.audio.cue.play"
def headPose : String := "robot.head.set_pose"
def aimReset : String := "sphero.aim.reset"

/-- A call of a transport; a nudge remembers the direction it was given. -/
inductive GroundCall where
  | stop
  | velocity (forward right clockwise : PyFloat)
  | nudgeStop
  | nudge (direction : String) (forward right clockwise : PyFloat)
  | color (red green blue : ℤ)
  | cue (cueIndex : ℤ)
  | head (panDegrees tiltDegrees : ℤ)
  | resetAim

def lightCall (parameters : JsonObject) : Except AdapterError GroundCall := do
  expectKeys parameters ["blue", "green", "red"]
  let red ← integralNumber parameters "red" 0 255
  let green ← integralNumber parameters "green" 0 255
  let blue ← integralNumber parameters "blue" 0 255
  return .color red green blue

def nudgeDirections : List String := ["forward", "backward", "left", "right", "stop"]

def nudgeDirection (parameters : JsonObject) : Except AdapterError String := do
  let known ← memberOf (parameters.get? "direction") nudgeDirections
  raiseIf (known = false)
    (valueError "direction must be forward, backward, left, right, or stop")
  return textOf (parameters.get? "direction")

def colorDetails (red green blue : ℤ) : JsonObject :=
  ((JsonObject.empty.set "red" (.int red)).set "green" (.int green)).set "blue" (.int blue)

def safeState : String × JsonValue := ("safeState", .str "stopped")

inductive WonderRobotModel where
  | dash | dot
  deriving DecidableEq

structure WonderTransport where
  stop : Except AdapterError Unit
  setVelocity : PyFloat → PyFloat → PyFloat → Except AdapterError Unit
  setColor : ℤ → ℤ → ℤ → Except AdapterError Unit
  playCue : ℤ → Except AdapterError Unit
  setHeadPose : ℤ → ℤ → Except AdapterError Unit

namespace WonderCommandHandler

def maxForward : PyFloat := .ofRat (20 / 100)
def maxClockwise : PyFloat := .ofRat (6108652382 / 10000000000)

/-- `abs(x) > 1e-9`. -/
def moves (x : PyFloat) : Bool := (PyFloat.ofRat (1 / 1000000000)).lt x.abs

def requireDash (model : WonderRobotModel) (feature : String) : Except AdapterError Unit :=
  raiseIf (model = .dot) (valueError ("Dot does not expose a " ++ feature))

def velocityCall (model : WonderRobotModel) (parameters : JsonObject) :
    Except AdapterError GroundCall := do
  requireDash model "drive"
  expectKeys parameters sortedVelocityFields
  let forward ← number (parameters.get? "forwardMetersPerSecond")
    "forwardMetersPerSecond must be numeric"
  let right ← number (parameters.get? "rightMetersPerSecond")
    "rightMetersPerSecond must be numeric"
  let clockwise ← number (parameters.get? "clockwiseRadiansPerSecond")
    "clockwiseRadiansPerSecond must be numeric"
  raiseIf (moves right) (valueError "Dash differential drive cannot strafe")
  raiseIf (maxForward.lt forward.abs ∨ maxClockwise.lt clockwise.abs)
    (valueError "Dash velocity exceeds the adapter classroom bounds")
  raiseIf (moves forward ∧ moves clockwise)
    (valueError "Dash cannot combine linear and angular velocity")
  return .velocity forward right clockwise

def nudgeCall (model : WonderRobotModel) (parameters : JsonObject) :
    Except AdapterError GroundCall := do
  requireDash model "drive"
  expectKeys parameters ["direction"]
  let direction ← nudgeDirection parameters
  match direction with
  | "stop" => .ok .nudgeStop
  | "forward" => .ok (.nudge direction (.ofRat (12 / 100)) (.finite 0) (.finite 0))
  | "backward" => .ok (.nudge direction (.ofRat (-12 / 100)) (.finite 0) (.finite 0))
  | "left" => .ok (.nudge direction (.finite 0) (.finite 0) (.ofRat (-4 / 10)))
  | _ => .ok (.nudge direction (.finite 0) (.finite 0) (.ofRat (4 / 10)))

def cueCall (parameters : JsonObject) : Except AdapterError GroundCall := do
  expectKeys parameters ["cueIndex"]
  let cue ← integralNumber parameters "cueIndex" 0 2
  return .cue cue

def headCall (model : WonderRobotModel) (parameters : JsonObject) :
    Except AdapterError GroundCall := do
  requireDash model "movable head"
  expectKeys parameters ["panDegrees", "tiltDegrees"]
  let pan ← integralNumber parameters "panDegrees" (-53) 53
  let tilt ← integralNumber parameters "tiltDegrees" (-5) 10
  return .head pan tilt

/-- `_execute_once` up to the call of the transport. -/
def plan (model : WonderRobotModel) (action : String) (parameters : JsonObject) :
    Except AdapterError GroundCall :=
  if action = groundStop then do
    expectKeys parameters []
    return .stop
  else if action = groundVelocity then velocityCall model parameters
  else if action = groundNudge then nudgeCall model parameters
  else if action = lightSet then lightCall parameters
  else if action = soundCue then cueCall parameters
  else if action = headPose then headCall model parameters
  else .error (valueError ("Unsupported Dash/Dot Fabric action " ++ PyString.repr action))

def watchdog : String × JsonValue := ("watchdogMilliseconds", .int 350)

/-- The call of the transport and the details of its result. -/
def perform (transport : WonderTransport) : GroundCall → Except AdapterError JsonObject
  | .stop => do
    transport.stop
    return JsonObject.empty.set safeState.1 safeState.2
  | .velocity forward right clockwise => do
    transport.setVelocity forward right clockwise
    return JsonObject.empty.set watchdog.1 watchdog.2
  | .nudgeStop => do
    transport.stop
    return (JsonObject.empty.set "direction" (.str "stop")).set safeState.1 safeState.2
  | .nudge direction forward right clockwise => do
    transport.setVelocity forward right clockwise
    return (JsonObject.empty.set "direction" (.str direction)).set watchdog.1 watchdog.2
  | .color red green blue => do
    transport.setColor red green blue
    return colorDetails red green blue
  | .cue cueIndex => do
    transport.playCue cueIndex
    return JsonObject.empty.set "cueIndex" (.int cueIndex)
  | .head panDegrees tiltDegrees => do
    transport.setHeadPose panDegrees tiltDegrees
    return (JsonObject.empty.set "panDegrees" (.int panDegrees)).set "tiltDegrees"
      (.int tiltDegrees)
  -- no plan of Dash and Dot resets an aim
  | .resetAim => .ok JsonObject.empty

end WonderCommandHandler

structure Roll where
  headingDegrees : ℤ
  speedValue : ℤ

structure RollTransport where
  stop : Except AdapterError Unit
  setVelocity : PyFloat → PyFloat → PyFloat → Except AdapterError Roll
  setColor : ℤ → ℤ → ℤ → Except AdapterError Unit
  resetAim : Except AdapterError Unit

/-- `_execute_once` of a rolling robot up to the call of the transport. -/
def rollPlan (name : String) (nudgeSpeed : ℚ) (action : String) (parameters : JsonObject) :
    Except AdapterError GroundCall :=
  if action = groundStop then do
    expectKeys parameters []
    return .stop
  else if action = groundVelocity then velocityCall
  else if action = groundNudge then nudgeCall
  else if action = lightSet then lightCall parameters
  else if action = aimReset then do
    expectKeys parameters []
    return .resetAim
  else .error (valueError ("Unsupported " ++ name ++ " Fabric action " ++ PyString.repr action))
where
  velocityCall : Except AdapterError GroundCall := do
    expectKeys parameters sortedVelocityFields
    let forward ← number (parameters.get? "forwardMetersPerSecond")
      "forwardMetersPerSecond must be numeric"
    let right ← number (parameters.get? "rightMetersPerSecond")
      "rightMetersPerSecond must be numeric"
    let clockwise ← number (parameters.get? "clockwiseRadiansPerSecond")
      "clockwiseRadiansPerSecond must be numeric"
    return .velocity forward right clockwise
  nudgeCall : Except AdapterError GroundCall := do
    expectKeys parameters ["direction"]
    let direction ← nudgeDirection parameters
    match direction with
    | "stop" => .ok .nudgeStop
    | "forward" => .ok (.nudge direction (.ofRat nudgeSpeed) (.finite 0) (.finite 0))
    | "backward" => .ok (.nudge direction (.ofRat (-nudgeSpeed)) (.finite 0) (.finite 0))
    | "left" => .ok (.nudge direction (.finite 0) (.ofRat (-nudgeSpeed)) (.finite 0))
    | _ => .ok (.nudge direction (.finite 0) (.ofRat nudgeSpeed) (.finite 0))

def rollDetails (details : JsonObject) (roll : Roll) : JsonObject :=
  ((details.set "headingDegrees" (.int roll.headingDegrees)).set "speedValue"
    (.int roll.speedValue)).set "watchdogMilliseconds" (.int 750)

/-- The call of a rolling robot's transport and the details of its result. -/
def rollPerform (transport : RollTransport) : GroundCall → Except AdapterError JsonObject
  | .stop => do
    transport.stop
    return JsonObject.empty.set safeState.1 safeState.2
  | .velocity forward right clockwise => do
    let roll ← transport.setVelocity forward right clockwise
    return rollDetails JsonObject.empty roll
  | .nudgeStop => do
    transport.stop
    return (JsonObject.empty.set "direction" (.str "stop")).set safeState.1 safeState.2
  | .nudge direction forward right clockwise => do
    let roll ← transport.setVelocity forward right clockwise
    return rollDetails (JsonObject.empty.set "direction" (.str direction)) roll
  | .color red green blue => do
    transport.setColor red green blue
    return colorDetails red green blue
  | .resetAim => do
    transport.stop
    transport.resetAim
    return (JsonObject.empty.set "aim" (.str "current-direction-is-forward")).set safeState.1
      safeState.2
  -- no plan of a rolling robot plays a cue or moves a head
  | .cue _ | .head _ _ => .ok JsonObject.empty

namespace SpheroCommandHandler

def plan : String → JsonObject → Except AdapterError GroundCall :=
  rollPlan "Sphero BOLT" (12 / 100)

def perform : RollTransport → GroundCall → Except AdapterError JsonObject := rollPerform

end SpheroCommandHandler

namespace OllieCommandHandler

def plan : String → JsonObject → Except AdapterError GroundCall :=
  rollPlan "Sphero Ollie" (8 / 100)

def perform : RollTransport → GroundCall → Except AdapterError JsonObject := rollPerform

end OllieCommandHandler

/-- What a ground handler is made of: its texts, the requirement of its demonstration, the
actions that supersede one, and the robot's answers. -/
structure GroundHandler where
  nodeId : String
  wrongTarget : String
  expired : String
  requireDrive : Except AdapterError Unit
  supersedes : List String
  startDemonstration : PyFloat → Except AdapterError Unit
  cancelDemonstration : Except AdapterError Unit
  plan : String → JsonObject → Except AdapterError GroundCall
  perform : GroundCall → Except AdapterError JsonObject

namespace GroundHandler
variable (handler : GroundHandler)

def startDemonstrationOf (parameters : JsonObject) : Except AdapterError JsonObject := do
  handler.requireDrive
  expectKeys parameters ["distanceMeters"]
  let distance ← number (parameters.get? "distanceMeters") "distanceMeters must be numeric"
  handler.startDemonstration distance
  return demonstrationDetails (.float distance)

def run (command : FabricResolvedCommand) : Except AdapterError JsonObject :=
  let action := command.action.text
  if action = groundDemonstration then handler.startDemonstrationOf command.parameters
  else do
    if action ∈ handler.supersedes then handler.cancelDemonstration else .ok ()
    let call ← handler.plan action command.parameters
    handler.perform call

/-- `{**details, "replayed": flag}`. -/
def withReplayed (details : JsonObject) (replayed : Bool) : JsonObject :=
  details.set "replayed" (.bool replayed)

def execute (now : Instant) (command : FabricResolvedCommand)
    (executions : CommandReplayCache JsonObject) :
    Except AdapterError (JsonObject × CommandReplayCache JsonObject) := do
  checkTarget handler.nodeId now command handler.wrongTarget handler.expired
  match executions.get? command.idempotencyKey with
  | some (details, executions) => .ok (withReplayed details true, executions)
  | none => do
    let details ← handler.run command
    return (withReplayed details false, executions.remember command.idempotencyKey details)

end GroundHandler

structure DemonstrationCalls where
  start : PyFloat → Except AdapterError Unit
  cancel : Except AdapterError Unit
  safeStop : Except AdapterError Unit

def WonderCommandHandler.handler (nodeId : String) (model : WonderRobotModel)
    (transport : WonderTransport) (demonstration : DemonstrationCalls) : GroundHandler where
  nodeId := nodeId
  wrongTarget := "Command target is not this Dash/Dot robot"
  expired := "Command expired before Dash/Dot execution"
  requireDrive := requireDash model "drive demonstration"
  supersedes := [groundStop, groundVelocity, groundNudge]
  startDemonstration := demonstration.start
  cancelDemonstration := demonstration.cancel
  plan := plan model
  perform := perform transport

def SpheroCommandHandler.handler (nodeId : String) (transport : RollTransport)
    (demonstration : DemonstrationCalls) : GroundHandler where
  nodeId := nodeId
  wrongTarget := "Command target is not this Sphero BOLT"
  expired := "Command expired before Sphero BOLT execution"
  requireDrive := .ok ()
  supersedes := [groundStop, groundVelocity, groundNudge, aimReset]
  startDemonstration := demonstration.start
  cancelDemonstration := demonstration.cancel
  plan := plan
  perform := perform transport

def OllieCommandHandler.handler (nodeId : String) (transport : RollTransport)
    (demonstration : DemonstrationCalls) : GroundHandler where
  nodeId := nodeId
  wrongTarget := "Command target is not this Sphero Ollie"
  expired := "Command expired before Sphero Ollie execution"
  requireDrive := .ok ()
  supersedes := [groundStop, groundVelocity, groundNudge, aimReset]
  startDemonstration := demonstration.start
  cancelDemonstration := demonstration.cancel
  plan := plan
  perform := perform transport

end CitPhysicalXR.Adapters
