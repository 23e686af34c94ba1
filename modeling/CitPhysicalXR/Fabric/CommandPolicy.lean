import CitPhysicalXR.Fabric.Repository

/-! The policy gate of a resolved command: safe-state commands, the bounded flight
workflows, the declared parameter constraints and `_validate_command`. -/
namespace CitPhysicalXR.Fabric
open Foundation

def maxClockSkew : Duration := seconds 30

def brainFlightDemoArm : String := "mobility.flight.brain_demo.arm"
def brainFlightDemoSafetyProfile : String := "classroom-drone-monitoring"
def fleetSequenceArm : String := "mobility.flight.fleet_sequence.arm"
def fleetSequenceStart : String := "mobility.flight.fleet_sequence.start"
def fleetSequenceSafetyProfile : String := "classroom-drone-monitoring"
def manualFlightTakeoff : String := "mobility.flight.takeoff"
def manualFlightMove : String := "mobility.flight.move"
def manualFlightRotate : String := "mobility.flight.rotate"
def manualFlightSafetyProfile : String := "classroom-drone-monitoring"
def powerSwitchSet : String := "power.switch.set"

def nodePublishes (node : IntegrationNode) (capability : String) : Bool :=
  node.publishedCapabilities.any fun item => item.name.text == capability

def consumedCapability (node : IntegrationNode) (capability : String) :
    Option CapabilityDescriptor :=
  node.consumedCapabilities.find? fun item => item.name.text == capability

def nodeHasCapability (node : IntegrationNode) (capability : String) : Bool :=
  nodePublishes node capability || (consumedCapability node capability).isSome

def capabilityDescriptor (node : IntegrationNode) (capability : String) :
    Except FabricError CapabilityDescriptor :=
  match (node.publishedCapabilities ++ node.consumedCapabilities).find? fun item =>
      item.name.text == capability with
  | none => .error (.value s!"Node does not advertise capability '{capability}'")
  | some descriptor => .ok descriptor

def isActuationClass : FabricSafetyClassification → Bool
  | .bounded_physical | .flight | .electrical => true
  | .none | .informational => false

def isStopAction (action : String) : Bool :=
  PyString.startsWith action "safety." ||
    [".stop", ".land", ".disarm"].any fun suffix => PyString.endsWith action suffix

def isSafeStateCommand (command : FabricResolvedCommand) : Bool :=
  isStopAction command.action.text ||
    (command.action.text == powerSwitchSet &&
      command.parameters.toJson.pyEq (.obj [("on", .bool false)]))

def isBoundedBrainFlightDemoArm (command : FabricResolvedCommand) : Bool :=
  command.action.text == brainFlightDemoArm &&
    command.safetyProfile.text == brainFlightDemoSafetyProfile &&
    command.priority = .instructor_override &&
    ["instructorPresent", "flightAreaClear", "emergencyPlanReady"].all command.parameters.isTrue

private def isIdentifierCharacter (c : Char) : Bool :=
  c.isAlphanum || c == '.' || c == '_' || c == '-'

/-- Strings of 1 to 128 ASCII identifier characters, pairwise distinct. -/
def isBoundedIdentifierList (value : Option JsonValue) (minimum maximum : ℕ) : Bool :=
  match value with
  | some (.arr items) =>
    decide (minimum ≤ items.length ∧ items.length ≤ maximum) &&
      items.length == (items.filterMap JsonValue.str?).eraseDups.length &&
      items.all fun item =>
        match item with
        | .str s =>
          match s.toList with
          | [] => false
          | c :: cs => decide (s.length ≤ 128) && c.isAlphanum &&
              (c :: cs).all isIdentifierCharacter
        | _ => false
  | _ => false

private def isNumberWithin (value : Option JsonValue) (minimum maximum : ℤ) : Bool :=
  match value with
  | some (.int n) => decide (minimum ≤ n ∧ n ≤ maximum)
  | some (.float x) => (PyFloat.finite minimum).le x && x.le (.finite maximum)
  | _ => false

private def isIntegerWithin (value : Option JsonValue) (minimum maximum : ℤ) : Bool :=
  match value with
  | some (.int n) => decide (minimum ≤ n ∧ n ≤ maximum)
  | _ => false

def isBoundedFleetSequenceCommand (command : FabricResolvedCommand) : Bool :=
  if command.safetyProfile.text ≠ fleetSequenceSafetyProfile then false
  else
    let parameters := command.parameters
    if command.action.text = fleetSequenceStart then
      parameters.fields.isEmpty &&
        decide (command.priority = .instructor_override ∨ command.priority = .lesson_automation) &&
        (command.priority = .instructor_override || command.sourceNodeId.isSome)
    else if command.action.text ≠ fleetSequenceArm ∨ command.priority ≠ .instructor_override then
      false
    else
      parameters.hasExactly ["droneIds", "allowedSourceNodeIds", "launchIntervalSeconds",
        "minimumBatteryPercent", "instructorPresent", "flightAreaClear", "emergencyPlanReady",
        "independentRoutesConfirmed"] &&
      ["instructorPresent", "flightAreaClear", "emergencyPlanReady",
        "independentRoutesConfirmed"].all parameters.isTrue &&
      isBoundedIdentifierList (parameters.get? "droneIds") 1 8 &&
      isBoundedIdentifierList (parameters.get? "allowedSourceNodeIds") 0 8 &&
      isNumberWithin (parameters.get? "launchIntervalSeconds") 1 15 &&
      isIntegerWithin (parameters.get? "minimumBatteryPercent") 20 100

def isBoundedManualTelloCommand (command : FabricResolvedCommand) : Bool :=
  let parameters := command.parameters
  let confirmations := ["instructorPresent", "flightAreaClear", "emergencyPlanReady"]
  if command.safetyProfile.text ≠ manualFlightSafetyProfile ∨
      command.priority ≠ .instructor_override then false
  else if !confirmations.all parameters.isTrue then false
  else if command.action.text = manualFlightTakeoff then parameters.hasExactly confirmations
  else if command.action.text = manualFlightMove then
    parameters.hasExactly (confirmations ++ ["direction", "distanceCentimeters"]) &&
      (match parameters.get? "direction" with
        | some (.str direction) =>
          ["forward", "back", "left", "right", "up", "down"].contains direction
        | _ => false) &&
      isIntegerWithin (parameters.get? "distanceCentimeters") 20 50
  else if command.action.text = manualFlightRotate then
    parameters.hasExactly (confirmations ++ ["clockwise", "degrees"]) &&
      (match parameters.get? "clockwise" with
        | some (.bool _) => true
        | _ => false) &&
      isIntegerWithin (parameters.get? "degrees") 1 90
  else false

def isBoundedFlightWorkflow (command : FabricResolvedCommand) : Bool :=
  isBoundedBrainFlightDemoArm command || isBoundedFleetSequenceCommand command ||
    isBoundedManualTelloCommand command

/-- A required single text parameter of an action, bounded in bytes. -/
private def textParameterError (parameters : JsonObject) (name countError blankError sizeError :
    String) (limit : ℕ) : Option String :=
  if !parameters.hasExactly [name] then some countError
  else
    match parameters.get? name with
    | some (.str s) =>
      if PyString.isBlank s then some blankError
      else if limit < PyString.encodedLength s then some sizeError
      else none
    | _ => some blankError

def agentPromptError (parameters : JsonObject) : Option String :=
  textParameterError parameters "prompt"
    "Agent prompt command requires exactly one prompt parameter"
    "Agent prompt must be a non-empty string"
    "Agent prompt exceeds the 32 KiB Fabric limit" 32768

def displayTextError (parameters : JsonObject) : Option String :=
  textParameterError parameters "text"
    "Display command requires exactly one text parameter"
    "Display text must be a non-empty string"
    "Display text exceeds the 4 KiB Fabric limit" 4096

def powerSwitchError (parameters : JsonObject) : Option String :=
  if parameters.hasExactly ["on"] && ((parameters.get? "on").any JsonValue.isBool) then none
  else some "Smart-plug command requires exactly one boolean 'on' parameter"

def numberBound (bounds : List (String × JsonValue)) (name : String) : Option PyFloat :=
  (bounds.lookup name).bind JsonValue.number?

/-- `bounds.get("type") == type`. -/
def declaresType (bounds : List (String × JsonValue)) (type : String) : Bool :=
  (bounds.lookup "type").any (JsonValue.pyEq · (.str type))

/-- The check of one parameter against its declared bounds. -/
def boundsError (name : String) (bounds : List (String × JsonValue)) (value : JsonValue) :
    Option String :=
  if declaresType bounds "boolean" then
    if value.isBool then none else some s!"Parameter {PyString.repr name} must be boolean"
  else if declaresType bounds "string" then
    match value with
    | .str _ =>
      match bounds.lookup "enum" with
      | some (.arr choices) =>
        if choices.any (JsonValue.pyEq value) then none
        else some s!"Parameter {PyString.repr name} is not an allowed value"
      | _ => none
    | _ => some s!"Parameter {PyString.repr name} must be a string"
  else
    match (if value.isBool then none else value.number?) with
    | none => some s!"Parameter {PyString.repr name} must be numeric"
    | some x =>
      if (numberBound bounds "minimum").any x.lt then
        some s!"Parameter {PyString.repr name} is below its minimum"
      else if (numberBound bounds "maximum").any (·.lt x) then
        some s!"Parameter {PyString.repr name} exceeds its maximum"
      else none

/-- The first violated entry of the declared `arguments`, in their order. -/
def argumentsError (parameters : JsonObject) : List (String × JsonValue) → Option String
  | [] => none
  | (name, bounds) :: rest =>
    match bounds, parameters.get? name with
    | .obj bounds, some value =>
      match boundsError name bounds value with
      | some message => some message
      | none => argumentsError parameters rest
    | _, _ => argumentsError parameters rest

def validateCommandParameters (command : FabricResolvedCommand)
    (capability : CapabilityDescriptor) : Option String :=
  let parameters := command.parameters
  let actionError :=
    if command.action.text = "agent.prompt.submit" then agentPromptError parameters
    else if command.action.text = "display.text.render" then displayTextError parameters
    else if command.action.text = powerSwitchSet then powerSwitchError parameters
    else none
  match actionError with
  | some message => some message
  | none =>
    match capability.constraints.get? "arguments" with
    | some (.obj limits) =>
      let unknown := parameters.keys.filter fun name => !(limits.map Prod.fst).contains name
      if unknown.isEmpty then argumentsError parameters limits
      else
        let names := PyString.joinComma (unknown.insertionSort (· ≤ ·))
        some s!"Unsupported parameters: {names}"
    | _ => none

/-- Commands that need an armed physical session: a real node on a capability of an
actuation class. -/
def requiresPhysicalSafety (capability : CapabilityDescriptor) (node : IntegrationNode) : Bool :=
  isActuationClass capability.safetyClassification && !node.simulated

/-- The part of `_validate_command` that guards physical actuation. -/
def physicalSafetyDenial (allowPhysical : Bool) (command : FabricResolvedCommand)
    (session : InteractionSession) (capability : CapabilityDescriptor) :
    Option (String × String) :=
  if !session.armed then
    some ("SESSION_NOT_ARMED", "Physical outputs require an armed session")
  else if !allowPhysical then
    some ("PHYSICAL_EXECUTION_DISABLED", "Physical command execution is disabled")
  else if command.priority = .autonomous_agent then
    some ("AGENT_PHYSICAL_CONTROL_DENIED", "Autonomous agents cannot command hardware")
  else if capability.safetyClassification = .flight && !isBoundedFlightWorkflow command then
    some ("SAFETY_PROFILE_NOT_IMPLEMENTED",
      "Only explicitly confirmed bounded flight workflows are enabled")
  else if capability.safetyClassification = .electrical && command.action.text ≠ powerSwitchSet then
    some ("SAFETY_PROFILE_NOT_IMPLEMENTED",
      "Only the exact boolean smart-plug electrical command is enabled")
  else none

/-- `_validate_command`: the code and message of a denial. -/
def validateCommand (allowPhysical : Bool) (command : FabricResolvedCommand)
    (session : InteractionSession) (node : IntegrationNode) (now : Instant) :
    Option (String × String) :=
  if now + maxClockSkew < command.requestedAt then
    some ("COMMAND_FROM_FUTURE", "Command request time is too far in the future")
  else if command.expiresAt ≤ now then
    some ("COMMAND_EXPIRED", "Command TTL has expired")
  else if session.state ≠ .active && !isSafeStateCommand command then
    some ("SESSION_NOT_ACTIVE", "Only an active session can dispatch this command")
  else if command.safetyProfile ≠ session.safetyProfile then
    some ("SAFETY_PROFILE_MISMATCH", "Command safety profile differs from the session")
  else if node.connectionState ≠ .connected then
    some ("NODE_UNAVAILABLE", "Target node is not connected and healthy enough to command")
  else
    match consumedCapability node command.action.text with
    | none =>
      some ("CAPABILITY_NOT_CONSUMED", "Target node does not consume the requested action")
    | some capability =>
      let denial :=
        if requiresPhysicalSafety capability node && !isSafeStateCommand command then
          physicalSafetyDenial allowPhysical command session capability
        else none
      match denial with
      | some denial => some denial
      | none =>
        (validateCommandParameters command capability).map fun message =>
          ("INVALID_COMMAND_PARAMETERS", message)

end CitPhysicalXR.Fabric
