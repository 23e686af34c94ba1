import CitPhysicalXR.Adapters.Parameters

/-! The command handlers that check a command before they execute it: Tello, the fleet
sequence, RoboMaster, the Matter plug and LEGO. A handler reads its clock at every check, and
the device backends answer with a result or an exception. -/
namespace CitPhysicalXR.Adapters
open Foundation Fabric

def checkTarget (nodeId : String) (now : Instant) (command : FabricResolvedCommand)
    (wrongTarget expired : String) : Except AdapterError Unit := do
  raiseIf (command.targetNodeId.text ≠ nodeId) (valueError wrongTarget)
  raiseIf (command.expiresAt ≤ now) (valueError expired)

/-- `{**details, "duplicatePrevented": flag}`. -/
def withDuplicate (details : JsonObject) (prevented : Bool) : JsonObject :=
  details.set "duplicatePrevented" (.bool prevented)

structure TelloBackend where
  takeoff : Except AdapterError JsonObject
  move : String → ℤ → Except AdapterError JsonObject
  rotate : Bool → ℤ → Except AdapterError JsonObject
  land : String → Except AdapterError JsonObject
  emergencyStop : String → Except AdapterError JsonObject

namespace TelloCommandHandler

def takeoffCapability : String := "mobility.flight.takeoff"
def moveCapability : String := "mobility.flight.move"
def rotateCapability : String := "mobility.flight.rotate"
def landCapability : String := "mobility.flight.land"
def emergencyStopCapability : String := "mobility.flight.emergency_stop"

def confirmations : List String := ["instructorPresent", "flightAreaClear", "emergencyPlanReady"]

def checkTakeoff (parameters : JsonObject) : Except AdapterError Unit :=
  raiseIf (parameters.hasExactly confirmations = false ∨
      confirmations.all parameters.isTrue = false)
    (valueError "Tello takeoff requires all instructor safety confirmations")

def checkMove (parameters : JsonObject) : Except AdapterError Unit := do
  raiseIf (parameters.hasExactly (confirmations ++ ["direction", "distanceCentimeters"]) = false)
    (valueError "Tello movement parameters are incomplete or unsupported")
  raiseIf (confirmations.all parameters.isTrue = false)
    (valueError "Tello movement requires all instructor safety confirmations")
  let known ← memberOf (parameters.get? "direction")
    ["forward", "back", "left", "right", "up", "down"]
  raiseIf (known = false) (valueError "Tello movement direction is unsupported")
  raiseIf (integerWithin (parameters.get? "distanceCentimeters") 20 50 = none)
    (valueError "Tello movement must be between 20 and 50 centimeters")

def checkRotate (parameters : JsonObject) : Except AdapterError Unit := do
  raiseIf (parameters.hasExactly (confirmations ++ ["clockwise", "degrees"]) = false)
    (valueError "Tello rotation parameters are incomplete or unsupported")
  raiseIf (confirmations.all parameters.isTrue = false)
    (valueError "Tello rotation requires all instructor safety confirmations")
  raiseIf (((parameters.get? "clockwise").map JsonValue.isBool).getD false = false)
    (valueError "Tello rotation direction must be boolean")
  raiseIf (integerWithin (parameters.get? "degrees") 1 90 = none)
    (valueError "Tello rotation must be between 1 and 90 degrees")

def checkParameters (action : String) (parameters : JsonObject) : Except AdapterError Unit :=
  if action = takeoffCapability then checkTakeoff parameters
  else if action = moveCapability then checkMove parameters
  else if action = rotateCapability then checkRotate parameters
  else .ok ()

def validate (nodeId : String) (now : Instant) (command : FabricResolvedCommand) :
    Except AdapterError Unit := do
  checkTarget nodeId now command "Command target is not this Tello node"
    "Command expired before Tello execution"
  raiseIf (command.action.text ∉ [takeoffCapability, moveCapability, rotateCapability,
      landCapability, emergencyStopCapability])
    (valueError "Tello command is unsupported")
  raiseIf ((command.action.text = landCapability ∨ command.action.text = emergencyStopCapability) ∧
      command.parameters.fields ≠ [])
    (valueError "Tello safe-state commands do not accept parameters")
  checkParameters command.action.text command.parameters

/-- The call of the backend that the action stands for. -/
def dispatch (backend : TelloBackend) (command : FabricResolvedCommand) :
    Except AdapterError JsonObject :=
  let parameters := command.parameters
  if command.action.text = takeoffCapability then backend.takeoff
  else if command.action.text = moveCapability then
    backend.move (textOf (parameters.get? "direction")) (intOf (parameters.get? "distanceCentimeters"))
  else if command.action.text = rotateCapability then
    backend.rotate (boolOf (parameters.get? "clockwise")) (intOf (parameters.get? "degrees"))
  else if command.action.text = landCapability then backend.land "fabric_command"
  else backend.emergencyStop "fabric_command"

def execute (nodeId : String) (backend : TelloBackend) (now : Instant)
    (command : FabricResolvedCommand) (executions : CommandReplayCache JsonObject) :
    Except AdapterError (JsonObject × CommandReplayCache JsonObject) :=
  if executions.contains command.commandId.text then
    .ok (withDuplicate JsonObject.empty true, executions)
  else do
    validate nodeId now command
    let details ← dispatch backend command
    return (withDuplicate details false, executions.remember command.commandId.text details)

end TelloCommandHandler

structure FleetSequenceBackend where
  arm : JsonObject → Except AdapterError JsonObject
  trigger : Option Identifier → Except AdapterError JsonObject
  stop : String → Except AdapterError JsonObject

namespace FleetSequenceCommandHandler

def armCapability : String := "mobility.flight.fleet_sequence.arm"
def startCapability : String := "mobility.flight.fleet_sequence.start"
def stopCapability : String := "mobility.flight.fleet_sequence.stop"

def armConfirmations : List String :=
  ["instructorPresent", "flightAreaClear", "emergencyPlanReady", "independentRoutesConfirmed"]

def armParameters : List String :=
  ["droneIds", "allowedSourceNodeIds", "launchIntervalSeconds", "minimumBatteryPercent"] ++
    armConfirmations

/-- `not isinstance(item, str) or not item or len(item) > 128`. -/
def isInvalidItem : JsonValue → Bool
  | .str s => decide (s = "" ∨ 128 < s.length)
  | _ => true

def identifierList (value : Option JsonValue) (name : String) (minimum maximum : ℕ) :
    Except AdapterError (List String) :=
  match value with
  | some (.arr items) => do
    raiseIf (items.length < minimum ∨ maximum < items.length)
      (valueError s!"{name} must contain {minimum} to {maximum} identifiers")
    raiseIf (items.any isInvalidItem) (valueError (name ++ " contains an invalid identifier"))
    let result := items.filterMap JsonValue.str?
    raiseIf (¬ result.Nodup) (valueError (name ++ " must not contain duplicates"))
    return result
  | _ => .error (valueError s!"{name} must contain {minimum} to {maximum} identifiers")

def boundedNumber (value : Option JsonValue) (name : String) (minimum maximum : ℕ) :
    Except AdapterError PyFloat := do
  let result ← number value (name ++ " must be numeric")
  raiseIf (floatWithin result minimum maximum = false)
    (valueError s!"{name} must be between {minimum} and {maximum}")
  return result

def boundedInteger (value : Option JsonValue) (name : String) (minimum maximum : ℤ) :
    Except AdapterError ℤ :=
  match integerWithin value minimum maximum with
  | some n => .ok n
  | none => .error (valueError s!"{name} must be an integer from {minimum} to {maximum}")

def checkStart (command : FabricResolvedCommand) : Except AdapterError Unit := do
  raiseIf (command.parameters.fields ≠ []) (valueError "Fleet start does not accept parameters")
  raiseIf (command.priority ≠ .instructor_override ∧ command.priority ≠ .lesson_automation)
    (valueError "Fleet start requires a tutor or approved lesson trigger")
  raiseIf (command.priority = .lesson_automation ∧ command.sourceNodeId = none)
    (valueError "Lesson-triggered fleet start requires an exact source node")

def checkArm (command : FabricResolvedCommand) : Except AdapterError Unit := do
  raiseIf (command.priority ≠ .instructor_override)
    (valueError "Fleet arming requires instructor priority")
  let parameters := command.parameters
  raiseIf (parameters.hasExactly armParameters = false)
    (valueError "Fleet arm parameters do not match the bounded contract")
  armConfirmations.forM fun confirmation =>
    raiseIf (parameters.isTrue confirmation = false)
      (valueError (confirmation ++ " must be explicitly confirmed"))
  let _ ← identifierList (parameters.get? "droneIds") "droneIds" 1 8
  let _ ← identifierList (parameters.get? "allowedSourceNodeIds") "allowedSourceNodeIds" 0 8
  let _ ← boundedNumber (parameters.get? "launchIntervalSeconds") "launchIntervalSeconds" 1 15
  let _ ← boundedInteger (parameters.get? "minimumBatteryPercent") "minimumBatteryPercent" 20 100

def checkAction (command : FabricResolvedCommand) : Except AdapterError Unit :=
  if command.action.text = stopCapability then
    raiseIf (command.parameters.fields ≠ []) (valueError "Fleet stop does not accept parameters")
  else if command.action.text = startCapability then checkStart command
  else if command.action.text ≠ armCapability then
    .error (valueError "Only fleet arm, start, and stop are supported")
  else checkArm command

def validate (nodeId : String) (now : Instant) (command : FabricResolvedCommand) :
    Except AdapterError Unit := do
  checkTarget nodeId now command "Command target is not this fleet sequence controller"
    "Command expired before fleet-controller execution"
  checkAction command

def dispatch (backend : FleetSequenceBackend) (command : FabricResolvedCommand) :
    Except AdapterError JsonObject :=
  if command.action.text = armCapability then backend.arm command.parameters
  else if command.action.text = startCapability then backend.trigger command.sourceNodeId
  else backend.stop "fabric_command"

def execute (nodeId : String) (backend : FleetSequenceBackend) (now : Instant)
    (command : FabricResolvedCommand) (executions : CommandReplayCache JsonObject) :
    Except AdapterError (JsonObject × CommandReplayCache JsonObject) :=
  if executions.contains command.commandId.text then
    .ok (withDuplicate JsonObject.empty true, executions)
  else do
    validate nodeId now command
    let details ← dispatch backend command
    return (withDuplicate details false, executions.remember command.commandId.text details)

end FleetSequenceCommandHandler

structure RobotBackend where
  setVelocity : PyFloat × PyFloat × PyFloat → String → Except AdapterError JsonObject
  setLight : ℤ × ℤ × ℤ → String → Except AdapterError JsonObject
  stop : String → Except AdapterError Unit
  startDemonstration : PyFloat → Except AdapterError Unit
  cancelDemonstration : String → Except AdapterError Unit

def groundVelocity : String := "mobility.ground.set_velocity"
def groundNudge : String := "mobility.ground.nudge"
def groundDemonstration : String := "mobility.ground.demonstration.start"
def groundStop : String := "mobility.ground.stop"
def robotLight : String := "robot.light.set"

def demonstrationDetails (distance : JsonValue) : JsonObject :=
  ((JsonObject.empty.set "started" (.bool true)).set "distanceMetersEachWay" distance).set
    "preemptibleBy" (.str groundStop)

namespace RobotCommandHandler

/-- `math.radians(35.0)`. -/
def maxClockwise : ℚ := 6108652381980153 / 10000000000000000

def velocityNumber (parameters : JsonObject) (name : String) (limit : ℚ) :
    Except AdapterError PyFloat := do
  let value ← number (parameters.get? name) (name ++ " must be numeric")
  raiseIf (value.isFinite = false) (valueError (name ++ " must be finite"))
  raiseIf ((PyFloat.ofRat limit).lt value.abs)
    (valueError (name ++ " exceeds the device-level bound"))
  return value

/-- `validate_velocity_parameters`. -/
def velocityParameters (parameters : JsonObject) :
    Except AdapterError (PyFloat × PyFloat × PyFloat) := do
  raiseIf (parameters.hasExactly velocityFields = false)
    (valueError ("Velocity parameters differ from the canonical contract: " ++
      listRepr (differingKeys parameters velocityFields)))
  let forward ← velocityNumber parameters "forwardMetersPerSecond" (35 / 100)
  let right ← velocityNumber parameters "rightMetersPerSecond" (35 / 100)
  let clockwise ← velocityNumber parameters "clockwiseRadiansPerSecond" maxClockwise
  return (forward, right, clockwise)

def nudgeVelocity (parameters : JsonObject) :
    Except AdapterError (PyFloat × PyFloat × PyFloat) := do
  raiseIf (parameters.hasExactly ["direction"] = false)
    (valueError "Ground nudge requires exactly one direction")
  let speed := 12 / 100
  match parameters.get? "direction" with
  | some (.str "stop") => .ok (.finite 0, .finite 0, .finite 0)
  | some (.str "forward") => .ok (.ofRat speed, .finite 0, .finite 0)
  | some (.str "backward") => .ok (.ofRat (-speed), .finite 0, .finite 0)
  | some (.str "left") => .ok (.finite 0, .ofRat (-speed), .finite 0)
  | some (.str "right") => .ok (.finite 0, .ofRat speed, .finite 0)
  | _ => .error (valueError "Ground nudge direction is invalid")

def demonstrationDistance (parameters : JsonObject) : Except AdapterError PyFloat := do
  raiseIf (parameters.hasExactly ["distanceMeters"] = false)
    (valueError "Ground demonstration requires exactly distanceMeters")
  let distance ← number (parameters.get? "distanceMeters")
    "Ground demonstration distance is invalid"
  raiseIf (floatWithin distance (5 / 100) (10 / 100) = false)
    (valueError "Ground demonstration distance must be from 0.05 through 0.1 metres")
  return distance

def lightChannel (parameters : JsonObject) (name : String) : Except AdapterError ℤ :=
  match integerWithin (parameters.get? name) 0 255 with
  | some channel => .ok channel
  | none => .error (valueError
      ("RoboMaster light " ++ name ++ " must be an integer from 0 through 255"))

def lightColor (parameters : JsonObject) : Except AdapterError (ℤ × ℤ × ℤ) := do
  raiseIf (parameters.hasExactly ["red", "green", "blue"] = false)
    (valueError "RoboMaster light requires exactly red, green, and blue")
  let red ← lightChannel parameters "red"
  let green ← lightChannel parameters "green"
  let blue ← lightChannel parameters "blue"
  return (red, green, blue)

def checkAction (command : FabricResolvedCommand) : Except AdapterError Unit :=
  let action := command.action.text
  let parameters := command.parameters
  if action = groundStop then
    raiseIf (parameters.fields ≠ []) (valueError "Ground-robot stop does not accept parameters")
  else if action = groundVelocity then discardResult (velocityParameters parameters)
  else if action = groundNudge then discardResult (nudgeVelocity parameters)
  else if action = groundDemonstration then discardResult (demonstrationDistance parameters)
  else if action = robotLight then discardResult (lightColor parameters)
  else .error (valueError ("Unsupported RoboMaster action " ++ PyString.repr action))
where
  discardResult {α : Type} (x : Except AdapterError α) : Except AdapterError Unit := do
    let _ ← x

def validate (nodeId : String) (now : Instant) (command : FabricResolvedCommand) :
    Except AdapterError Unit := do
  checkTarget nodeId now command "Command target is not this RoboMaster node"
    "Command expired before adapter execution"
  checkAction command

def stopped : JsonObject := JsonObject.empty.set "stopped" (.bool true)

def nudge (backend : RobotBackend) (command : FabricResolvedCommand) :
    Except AdapterError JsonObject := do
  let velocity ← nudgeVelocity command.parameters
  match command.parameters.get? "direction" with
  | some (.str "stop") => do
    backend.stop "fabric_nudge_stop"
    return stopped.set "direction" (.str "stop")
  | _ => backend.setVelocity velocity command.idempotencyKey

/-- The calls of an accepted command; motion supersedes a running demonstration. -/
def dispatch (backend : RobotBackend) (command : FabricResolvedCommand) :
    Except AdapterError JsonObject :=
  let action := command.action.text
  if action = groundDemonstration then do
    let distance ← demonstrationDistance command.parameters
    backend.startDemonstration distance
    return demonstrationDetails (.float distance)
  else if action = robotLight then do
    let color ← lightColor command.parameters
    backend.setLight color command.idempotencyKey
  else do
    backend.cancelDemonstration "superseded_by_command"
    move backend command
where
  move (backend : RobotBackend) (command : FabricResolvedCommand) :
      Except AdapterError JsonObject :=
    if command.action.text = groundStop then do
      backend.stop "fabric_command"
      return stopped
    else if command.action.text = groundVelocity then do
      let velocity ← velocityParameters command.parameters
      backend.setVelocity velocity command.idempotencyKey
    else nudge backend command

def execute (nodeId : String) (backend : RobotBackend) (now : Instant)
    (command : FabricResolvedCommand) (executions : CommandReplayCache JsonObject) :
    Except AdapterError (JsonObject × CommandReplayCache JsonObject) :=
  match executions.get? command.commandId.text with
  | some (details, executions) => .ok (withDuplicate details true, executions)
  | none => do
    validate nodeId now command
    let details ← dispatch backend command
    return (details, executions.remember command.commandId.text details)

end RobotCommandHandler

namespace MatterCommandHandler

def validate (nodeId : String) (now : Instant) (command : FabricResolvedCommand) :
    Except AdapterError Bool := do
  checkTarget nodeId now command "Command target is not this Matter plug node"
    "Command expired before adapter execution"
  raiseIf (command.action.text ≠ powerSwitchSet)
    (valueError ("Unsupported Matter plug action " ++ PyString.repr command.action.text))
  raiseIf (command.parameters.hasExactly ["on"] = false)
    (valueError "Matter plug command requires exactly one boolean 'on' parameter")
  match command.parameters.get? "on" with
  | some (.bool on) => .ok on
  | _ => .error (valueError "Matter plug command requires exactly one boolean 'on' parameter")

def execute (nodeId : String) (setPower : Bool → Except AdapterError Bool) (now : Instant)
    (command : FabricResolvedCommand) (executions : CommandReplayCache Bool) :
    Except AdapterError (JsonObject × CommandReplayCache Bool) :=
  match executions.get? command.commandId.text with
  | some (state, executions) => .ok (details state true, executions)
  | none => do
    let on ← validate nodeId now command
    let state ← setPower on
    return (details state false, executions.remember command.commandId.text state)
where
  details (state prevented : Bool) : JsonObject :=
    withDuplicate (JsonObject.empty.set "on" (.bool state)) prevented

end MatterCommandHandler

/-- What the hub adapter is asked to do; the envelope of the command is copied from the
command of the fabric. -/
structure DeviceCommandIntent where
  commandId : Uuid
  sessionId : Identifier
  deviceId : Identifier
  capability : String
  action : String
  arguments : JsonObject
  issuedAt : Instant
  expiresAt : Instant
  idempotencyKey : String
  policyId : Identifier

inductive CommandStatus where
  | accepted | completed | rejected | duplicate | expired | failed
  deriving DecidableEq

def CommandStatus.value : CommandStatus → String
  | .accepted => "accepted"
  | .completed => "completed"
  | .rejected => "rejected"
  | .duplicate => "duplicate"
  | .expired => "expired"
  | .failed => "failed"

structure CommandResult where
  status : CommandStatus
  message : Option String
  details : Option JsonObject

/-- `PybricksHubAdapter` with the bounded demonstration, as the handler sees them. -/
structure LegoHub where
  deviceId : String
  capabilities : List String
  execute : DeviceCommandIntent → Except AdapterError CommandResult
  stop : String → Except AdapterError Unit
  startDemonstration : PyFloat → Except AdapterError Unit
  cancelDemonstration : String → Except AdapterError Unit

namespace LegoCommandHandler

def demonstrationDistance (parameters : JsonObject) : Except AdapterError PyFloat := do
  raiseIf (parameters.hasExactly ["distanceMeters"] = false)
    (valueError "Ground demonstration requires exactly distanceMeters")
  let distance ← number (parameters.get? "distanceMeters") "distanceMeters must be numeric"
  raiseIf (floatWithin distance (5 / 100) (10 / 100) = false)
    (valueError "Ground demonstration distance must be from 0.05 through 0.1 metres")
  return distance

/-- Division of a float by a constant. -/
def divide (x : PyFloat) (divisor : ℚ) : PyFloat :=
  match x, PyFloat.ofRat divisor with
  | .finite q, .finite d => .ofRat (q / d)
  | x, _ => x

def run (speed : PyFloat) (turnRate : ℤ) : String × String × JsonObject :=
  ("drive.velocity", "run", ((JsonObject.empty.set "speed" (.float speed)).set "turnRate"
    (.int turnRate)).set "durationSeconds" (.float (.ofRat (2 / 10))))

def stop : String × String × JsonObject := ("drive.stop", "stop", JsonObject.empty)

/-- `round(clockwise / 0.6108652382 * 100)`. -/
def turnRate (clockwise : PyFloat) : Except AdapterError ℤ :=
  match divide clockwise (6108652382 / 10000000000) with
  | .finite q =>
    match PyFloat.ofRat (q * 100) with
    | .finite rate => .ok (roundHalfEven rate)
    | _ => .error ⟨.exception, "cannot convert float infinity to integer"⟩
  | .infinite _ => .error ⟨.exception, "cannot convert float infinity to integer"⟩
  | .nan => .error (valueError "cannot convert float NaN to integer")

def velocity (parameters : JsonObject) : Except AdapterError (String × String × JsonObject) := do
  raiseIf (parameters.hasExactly velocityFields = false)
    (valueError "Ground velocity requires the three canonical velocity fields")
  let forward ← number (parameters.get? "forwardMetersPerSecond")
    "forwardMetersPerSecond must be numeric"
  let right ← number (parameters.get? "rightMetersPerSecond")
    "rightMetersPerSecond must be numeric"
  let clockwise ← number (parameters.get? "clockwiseRadiansPerSecond")
    "clockwiseRadiansPerSecond must be numeric"
  raiseIf ((PyFloat.ofRat (1 / 1000000000)).lt right.abs)
    (valueError "This differential-drive LEGO hub cannot strafe")
  raiseIf ((PyFloat.ofRat (35 / 100)).lt forward.abs ∨
      (PyFloat.ofRat (6108652382 / 10000000000)).lt clockwise.abs)
    (valueError "LEGO velocity exceeds the canonical classroom bounds")
  let rate ← turnRate clockwise
  return run (divide forward (35 / 100)) rate

def nudge (parameters : JsonObject) : Except AdapterError (String × String × JsonObject) := do
  raiseIf (parameters.hasExactly ["direction"] = false)
    (valueError "Ground nudge requires exactly one direction")
  let known ← memberOf (parameters.get? "direction") ["forward", "backward", "left", "right", "stop"]
  raiseIf (known = false) (valueError "Ground nudge direction is invalid")
  match textOf (parameters.get? "direction") with
  | "stop" => .ok stop
  | "forward" => .ok (run (divide (.ofRat (12 / 100)) (35 / 100)) 0)
  | "backward" => .ok (run (divide (.ofRat (-12 / 100)) (35 / 100)) 0)
  | "left" => .ok (run (.finite 0) (-66))
  | _ => .ok (run (.finite 0) 66)

def motion (command : FabricResolvedCommand) :
    Except AdapterError (String × String × JsonObject) :=
  if command.action.text = groundStop then do
    raiseIf (command.parameters.fields ≠ [])
      (valueError "Ground-robot stop does not accept parameters")
    return stop
  else if command.action.text = groundVelocity then velocity command.parameters
  else if command.action.text = groundNudge then nudge command.parameters
  else .error (valueError ("Unsupported LEGO Fabric action " ++
    PyString.repr command.action.text))

def translate (hub : LegoHub) (now : Instant) (command : FabricResolvedCommand) :
    Except AdapterError DeviceCommandIntent := do
  checkTarget hub.deviceId now command "Command target is not this LEGO hub"
    "Command expired before LEGO execution"
  let (capability, action, arguments) ← motion command
  return {
    commandId := command.commandId
    sessionId := command.sessionId
    deviceId := command.targetNodeId
    capability := capability
    action := action
    arguments := arguments
    issuedAt := command.requestedAt
    expiresAt := command.expiresAt
    idempotencyKey := command.idempotencyKey
    policyId := command.safetyProfile }

def validate (hub : LegoHub) (now : Instant) (command : FabricResolvedCommand) :
    Except AdapterError Unit :=
  if command.action.text = groundDemonstration then do
    checkTarget hub.deviceId now command "Command target is not this LEGO hub"
      "Command expired before LEGO execution"
    let _ ← demonstrationDistance command.parameters
    raiseIf ("drive.velocity" ∉ hub.capabilities)
      (valueError "This LEGO hub does not expose ground mobility")
  else do
    let _ ← translate hub now command

/-- `result.message or default`. -/
def resultDetails (result : CommandResult) : Except AdapterError JsonObject :=
  if result.status = .completed ∨ result.status = .duplicate then
    .ok ((result.details.getD JsonObject.empty).fields.foldl (fun details field =>
      details.set field.1 field.2)
        (JsonObject.empty.set "legacyStatus" (.str result.status.value)))
  else
    .error (valueError (orDefault result.message ("LEGO command ended as " ++ result.status.value)))

/-- The clock is read for the check, and again for the translation. -/
def execute (hub : LegoHub) (clock : ℕ → Instant) (command : FabricResolvedCommand) :
    Except AdapterError JsonObject := do
  validate hub (clock 0) command
  dispatch hub (clock 1) command
where
  dispatch (hub : LegoHub) (now : Instant) (command : FabricResolvedCommand) :
      Except AdapterError JsonObject :=
    if command.action.text = groundDemonstration then do
      let distance ← demonstrationDistance command.parameters
      hub.startDemonstration distance
      return demonstrationDetails (.float distance)
    else do
      hub.cancelDemonstration "superseded_by_command"
      let intent ← translate hub now command
      let result ← hub.execute intent
      resultDetails result

end LegoCommandHandler
end CitPhysicalXR.Adapters
