import CitPhysicalXR.Foundation.Effect
import CitPhysicalXR.Foundation.PyText
import Mathlib.Data.List.Sort
import Mathlib.Data.String.Basic

/-! Autonomous mode: the program for the hub itself, which is rendered from a list of steps. -/
namespace CitPhysicalXR.Lego
open Foundation

inductive PortKind where
  | empty | motor | distance | color | force
  deriving DecidableEq

structure HubModel where
  displayName : String
  /-- The class that a downloaded program imports for this hub. -/
  pybricksHubClass : String
  ports : List String
  deriving DecidableEq

namespace HubModel

def spikePrime : HubModel where
  displayName := "LEGO SPIKE Prime Hub"
  pybricksHubClass := "PrimeHub"
  ports := ["A", "B", "C", "D", "E", "F"]

def spikeEssential : HubModel where
  displayName := "LEGO SPIKE Essential Hub"
  pybricksHubClass := "EssentialHub"
  ports := ["A", "B"]

def robotInventor : HubModel where
  displayName := "LEGO MINDSTORMS Robot Inventor Hub"
  pybricksHubClass := "InventorHub"
  ports := ["A", "B", "C", "D", "E", "F"]

/-- `HUB_MODELS`: the hubs that the adapter claims. -/
def supported : List HubModel := [spikePrime, spikeEssential, robotInventor]

variable (model : HubModel)

def hasPort (port : String) : Bool := port ∈ model.ports

end HubModel

/-- A port map of a hub: a dictionary by ports of the hub, as `parse_port_map` and `decode_ports`
make one. -/
structure PortMap (model : HubModel) where
  entries : List (String × PortKind)
  nodup : (entries.map Prod.fst).Nodup
  onHub : ∀ entry ∈ entries, entry.1 ∈ model.ports

variable {model : HubModel}

namespace PortMap
variable (ports : PortMap model)

def get? (port : String) : Option PortKind :=
  (ports.entries.find? fun entry => entry.1 = port).map Prod.snd

def motorPorts : List String :=
  ((ports.entries.filter fun entry => entry.2 = .motor).map Prod.fst).insertionSort (· ≤ ·)

end PortMap

/-- The cases of texts. Of characters that are not ASCII it only matters that none of them has a
port's letter as its upper case. -/
structure CaseTable where
  upper : String → String
  lower : String → String
  upper_ascii : ∀ s : String, (∀ c ∈ s.toList, c.toNat < 128) →
    (upper s).toList = s.toList.map Char.toUpper
  lower_ascii : ∀ s : String, (∀ c ∈ s.toList, c.toNat < 128) →
    (lower s).toList = s.toList.map Char.toLower
  ascii_of_upper : ∀ s : String, upper s ∈ ["A", "B", "C", "D", "E", "F"] →
    ∀ c ∈ s.toList, c.toNat < 128

inductive ProgramFailure where
  /-- A step that cannot be turned into a program for this hub. -/
  | programError (text : String)
  | overflowError
  | valueError
  deriving DecidableEq

/-- The text of a number; one of more than 4300 digits has none. -/
def formatInt (n : ℤ) : Except ProgramFailure String := do
  raiseIf (4300 < (toString n.natAbs).length) .valueError
  return toString n

def roundFloat : PyFloat → Except ProgramFailure ℤ
  | .finite q => .ok (roundHalfEven q)
  | .infinite _ => .error .overflowError
  | .nan => .error .valueError

/-- `min(a, b)`: the first one, unless the second one is smaller. -/
def floatMin (a b : PyFloat) : PyFloat := if b.lt a then b else a

def floatMax (a b : PyFloat) : PyFloat := if a.lt b then b else a

/-- `x * 1000`. -/
def thousandfold : PyFloat → PyFloat
  | .finite q => PyFloat.ofRat (q * 1000)
  | x => x

/-- `a / b` of two integers. -/
def trueDivide (a b : ℤ) : Except ProgramFailure PyFloat :=
  match PyFloat.ofRat ((a : ℚ) / b) with
  | .finite q => .ok (.finite q)
  | _ => .error .overflowError

structure DriveGeometry where
  wheelDiameterMm : ℤ := 56
  axleTrackMm : ℤ := 114

inductive Step where
  | motorRun (port : String) (speed seconds : PyFloat)
  | motorAngle (port : String) (angle : ℤ) (speed : PyFloat)
  | driveStraight (millimetres : ℤ) (speed : PyFloat)
  | driveTurn (angle : ℤ) (speed : PyFloat)
  | wait (seconds : PyFloat)
  | display (text : String)
  deriving DecidableEq

/-- The arguments of `build_program` apart from the hub and the steps. -/
structure ProgramSettings where
  maxMotorPercent : ℤ := 75
  maxCommandMilliseconds : ℤ := 2000
  geometry : Option DriveGeometry := none

def maxMotorDegreesPerSecond : ℤ := 1000

variable (cases : CaseTable)

def motorName (port : String) : String := s!"motor_{cases.lower port}"

def degreesPerSecond (speed : PyFloat) (maxPercent : ℤ) : Except ProgramFailure ℤ := do
  let bounded := floatMax (.finite (-1)) (floatMin (.finite 1) speed)
  let ceiling ← trueDivide (maxMotorDegreesPerSecond * maxPercent) 100
  roundFloat (floatMax ceiling.neg (floatMin ceiling (thousandfold bounded)))

def milliseconds (seconds : PyFloat) (maximum : ℤ) : Except ProgramFailure ℤ := do
  let rounded ← roundFloat (thousandfold seconds.abs)
  return max 1 (min maximum rounded)

def requireMotor (ports : PortMap model) (port : String) : Except ProgramFailure Unit := do
  let letter := cases.upper port
  raiseIf (!model.hasPort letter) (.programError
    s!"{model.displayName} has no port {letter}. Ports: {PyString.joinComma model.ports}.")
  raiseIf (ports.get? letter ≠ some .motor) (.programError
    s!"Port {letter} has no motor in it, so it cannot be told to run")

def requireDriveBase (motors : List String) : Except ProgramFailure Unit :=
  raiseIf (motors.length < 2) (.programError
    s!"Driving straight or turning needs two motors; this hub has {motors.length}")

/-- `text.replace(c, replacement)`. -/
def replace (c : Char) (replacement text : List Char) : List Char :=
  text.flatMap fun d => if d = c then replacement else [d]

def escaped (text : List Char) : List Char :=
  replace '\n' [' '] (replace '"' ['\\', '"'] (replace '\\' ['\\', '\\'] text))

def literal (text : String) : String :=
  String.ofList ('"' :: (escaped text.toList).take 32 ++ ['"'])

def Step.drives : Step → Bool
  | .driveStraight _ _ | .driveTurn _ _ => true
  | _ => false

def stepLine (ports : PortMap model) (settings : ProgramSettings) :
    Step → Except ProgramFailure String
  | .motorRun port speed seconds => do
    requireMotor cases ports port
    let degrees ← degreesPerSecond speed settings.maxMotorPercent
    let duration ← milliseconds seconds settings.maxCommandMilliseconds
    return s!"    {motorName cases port}.run_time({degrees}, {duration})"
  | .motorAngle port angle speed => do
    requireMotor cases ports port
    let degrees ← degreesPerSecond speed settings.maxMotorPercent
    let target ← formatInt angle
    return s!"    {motorName cases port}.run_angle({degrees}, {target})"
  | .driveStraight millimetres _ => do
    requireDriveBase ports.motorPorts
    let distance ← formatInt millimetres
    return s!"    drive_base.straight({distance})"
  | .driveTurn angle _ => do
    requireDriveBase ports.motorPorts
    let target ← formatInt angle
    return s!"    drive_base.turn({target})"
  | .wait seconds => do
    let duration ← milliseconds seconds settings.maxCommandMilliseconds
    return s!"    wait({duration})"
  | .display text => return s!"    hub.display.text({literal text})"

def driveBaseLine (motors : List String) (geometry : DriveGeometry) :
    Except ProgramFailure String := do
  let wheel ← formatInt geometry.wheelDiameterMm
  let axle ← formatInt geometry.axleTrackMm
  return "drive_base = DriveBase(" ++ motorName cases (motors.headD "") ++ ", " ++
    motorName cases (motors.tail.headD "") ++ ", " ++
    s!"wheel_diameter={wheel}, axle_track={axle})"

def headerLines (model : HubModel) (motors : List String) (usesDriveBase : Bool)
    (settings : ProgramSettings) : Except ProgramFailure (List String) := do
  let percent ← formatInt settings.maxMotorPercent
  let driveBase ← (if usesDriveBase then
      (driveBaseLine cases motors (settings.geometry.getD {})).map fun line => [line]
    else .ok [])
  return [s!"# Generated by CIT Physical XR for a {model.displayName}.",
      "# Autonomous mode (FR-048): this program runs on the hub with no computer",
      s!"# attached. Motor power is capped at {percent} percent, and the",
      "# program stops every motor even when a step fails.",
      s!"from pybricks.hubs import {model.pybricksHubClass}",
      "from pybricks.parameters import Port",
      "from pybricks.pupdevices import Motor"] ++
    (if usesDriveBase then ["from pybricks.robotics import DriveBase"] else []) ++
    ["from pybricks.tools import wait", "", s!"hub = {model.pybricksHubClass}()"] ++
    motors.map (fun port => s!"{motorName cases port} = Motor(Port.{port})") ++ driveBase

def footerLines (motors : List String) (usesDriveBase : Bool) : List String :=
  ["", "", "try:", "    main()", "finally:"] ++
    (if usesDriveBase then ["    drive_base.stop()"] else []) ++
    motors.map fun port => s!"    {motorName cases port}.stop()"

def buildProgram (ports : PortMap model) (steps : List Step) (settings : ProgramSettings) :
    Except ProgramFailure String := do
  raiseIf (steps = []) (.programError "An autonomous program needs at least one step")
  let motors := ports.motorPorts
  raiseIf (motors = []) (.programError
    s!"{model.displayName} has no motor in any port, so it has nothing to run")
  let body ← steps.mapM (stepLine cases ports settings)
  let usesDriveBase := steps.any Step.drives
  let header ← headerLines cases model motors usesDriveBase settings
  let lines := header ++ ["", "", "def main():"] ++ body ++ footerLines cases motors usesDriveBase
  return PyString.join '\n' lines ++ "\n"

end CitPhysicalXR.Lego
