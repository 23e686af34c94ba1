import CitPhysicalXR.Foundation.JsNumber

/-! The block catalog, with the parts of a specification that the generator reads. -/
namespace CitPhysicalXR.Blocks
open Foundation

inductive BlockType where
  | onStart | every | repeat_ | wait | log | parallel | if_ | driveVelocity | stop | motorRun
  | motorAngle | driveStraight | driveTurn | hubDisplay | gimbal | readDistance | readColor
  | readForce | hudShow | onGesture
  deriving DecidableEq

/-- The identifier that a project file stores. -/
def BlockType.text : BlockType → String
  | .onStart => "cit_on_start"
  | .every => "cit_every"
  | .repeat_ => "cit_repeat"
  | .wait => "cit_wait"
  | .log => "cit_log"
  | .parallel => "cit_parallel"
  | .if_ => "cit_if"
  | .driveVelocity => "cit_drive_velocity"
  | .stop => "cit_stop"
  | .motorRun => "cit_motor_run"
  | .motorAngle => "cit_motor_angle"
  | .driveStraight => "cit_drive_straight"
  | .driveTurn => "cit_drive_turn"
  | .hubDisplay => "cit_hub_display"
  | .gimbal => "cit_gimbal"
  | .readDistance => "cit_read_distance"
  | .readColor => "cit_read_color"
  | .readForce => "cit_read_force"
  | .hudShow => "cit_hud_show"
  | .onGesture => "cit_on_gesture"

inductive FieldKind where
  | number | text | device | choice | statement | value
  deriving DecidableEq

structure BlockFieldSpec where
  name : String
  kind : FieldKind
  default : Option JsonValue

structure BlockSpec where
  type : BlockType
  fields : List BlockFieldSpec

def numberField (name : String) (default : ℚ) : BlockFieldSpec :=
  ⟨name, .number, some (.float (.ofRat default))⟩

def bodyField : BlockFieldSpec := ⟨"body", .statement, none⟩

def deviceField : BlockFieldSpec := ⟨"device", .device, none⟩

def choiceField (name default : String) : BlockFieldSpec := ⟨name, .choice, some (.str default)⟩

def textField (name default : String) : BlockFieldSpec := ⟨name, .text, some (.str default)⟩

/-- Blocks that never touch a device. -/
def coreBlocks : List BlockSpec := [
  ⟨.onStart, [bodyField]⟩,
  ⟨.every, [numberField "seconds" 1, bodyField]⟩,
  ⟨.repeat_, [numberField "times" 4, bodyField]⟩,
  ⟨.wait, [numberField "seconds" 1]⟩,
  ⟨.log, [textField "message" "hello"]⟩,
  ⟨.parallel, [bodyField]⟩,
  ⟨.if_, [⟨"condition", .value, none⟩, bodyField]⟩]

def deviceBlocks : List BlockSpec := [
  ⟨.driveVelocity, [deviceField, numberField "speed" (2 / 10), numberField "durationSeconds" 1]⟩,
  ⟨.stop, [deviceField]⟩,
  ⟨.motorRun, [deviceField, choiceField "port" "A", numberField "speed" (3 / 10),
    numberField "durationSeconds" 1]⟩,
  ⟨.motorAngle, [deviceField, choiceField "port" "A", numberField "angle" 90,
    numberField "speed" (3 / 10)]⟩,
  ⟨.driveStraight, [deviceField, numberField "distanceMillimetres" 200,
    numberField "speed" (3 / 10)]⟩,
  ⟨.driveTurn, [deviceField, numberField "angle" 90, numberField "speed" (3 / 10)]⟩,
  ⟨.hubDisplay, [deviceField, textField "text" "hi"]⟩,
  ⟨.gimbal, [deviceField, numberField "pitch" 0, numberField "yaw" 0]⟩,
  ⟨.readDistance, [deviceField]⟩,
  ⟨.readColor, [deviceField]⟩,
  ⟨.readForce, [deviceField]⟩,
  ⟨.hudShow, [deviceField, textField "text" "hello"]⟩,
  ⟨.onGesture, [deviceField, choiceField "gesture" "open_palm", bodyField]⟩]

def blockCatalog : List BlockSpec := coreBlocks ++ deviceBlocks

def blockSpec (type : String) : Option BlockSpec :=
  blockCatalog.find? fun spec => spec.type.text == type

def blockType (type : String) : Option BlockType := (blockSpec type).map BlockSpec.type

def BlockSpec.hasDevice (spec : BlockSpec) : Bool :=
  spec.fields.any fun entry => entry.kind == .device

def BlockSpec.defaultOf (spec : BlockSpec) (name : String) : PyFloat :=
  match (spec.fields.find? fun entry => entry.name == name).bind BlockFieldSpec.default with
  | some (.int n) => .ofRat n
  | some (.float x) => x
  | _ => .finite 0

theorem hasDevice_eq {type : String} {spec : BlockSpec} (h : blockSpec type = some spec) :
    spec.hasDevice = match spec.type with
      | .onStart | .every | .repeat_ | .wait | .log | .parallel | .if_ => false
      | _ => true := by
  have hall : ∀ spec ∈ blockCatalog, spec.hasDevice = match spec.type with
      | .onStart | .every | .repeat_ | .wait | .log | .parallel | .if_ => false
      | _ => true := by
    decide
  exact hall spec (List.mem_of_find?_eq_some h)

theorem defaultOf_isFinite {type : String} {spec : BlockSpec} (h : blockSpec type = some spec)
    (name : String) : (spec.defaultOf name).isFinite = true := by
  have hcatalog : ∀ spec ∈ blockCatalog, ∀ entry ∈ spec.fields,
      (match entry.default with
        | some (.int n) => PyFloat.ofRat n
        | some (.float x) => x
        | _ => .finite 0).isFinite = true := by
    decide +kernel
  have hspec := List.mem_of_find?_eq_some h
  unfold BlockSpec.defaultOf
  cases hfound : spec.fields.find? fun entry => entry.name == name with
  | none => rfl
  | some entry =>
    rw [Option.bind_some]
    exact hcatalog spec hspec entry (List.mem_of_find?_eq_some hfound)

end CitPhysicalXR.Blocks
