import CitPhysicalXR.Blocks.Catalog
import Mathlib.Data.List.Sort

/-! Blocks to Python: the emitter, one branch for every block, and the module around them. -/
namespace CitPhysicalXR.Blocks
open Foundation

structure GeneratorBlock where
  id : String
  type : String
  fields : List (String × JsonValue)
  children : List GeneratorBlock
  disabled : Bool
  comment : Option String

structure GeneratorBinding where
  alias_ : String
  deviceId : String

structure SourceMapEntry where
  line : ℕ
  blockId : String
  blockType : String
  deviceAlias : Option String

structure GeneratorWarning where
  blockId : String
  blockType : String
  message : String
  recovery : String

inductive SdkName where
  | device | every | log | parallel | sleep | when
  deriving DecidableEq

def SdkName.text : SdkName → String
  | .device => "device"
  | .every => "every"
  | .log => "log"
  | .parallel => "parallel"
  | .sleep => "sleep"
  | .when => "when"

structure GenerateResult where
  python : String
  sourceMap : List SourceMapEntry
  warnings : List GeneratorWarning
  usedImports : List SdkName

structure SourceOrigin where
  blockId : String
  blockType : String
  deviceAlias : Option String

structure Emitter where
  lines : List String
  sourceMap : List SourceMapEntry
  warnings : List GeneratorWarning
  used : List SdkName

namespace Emitter

def empty : Emitter := ⟨[], [], [], []⟩

/-- Four blanks for each level. -/
def indent (depth : ℕ) : String := String.ofList (List.replicate (4 * depth) ' ')

def emit (emitter : Emitter) (text : String) (depth : ℕ) (origin : Option SourceOrigin) :
    Emitter :=
  let lines := emitter.lines ++ [if text = "" then "" else indent depth ++ text]
  match origin with
  | none => { emitter with lines }
  | some origin =>
    let entry : SourceMapEntry :=
      ⟨lines.length, origin.blockId, origin.blockType, origin.deviceAlias⟩
    { emitter with lines, sourceMap := emitter.sourceMap ++ [entry] }

def warn (emitter : Emitter) (block : GeneratorBlock) (message recovery : String) : Emitter :=
  { emitter with warnings := emitter.warnings ++ [⟨block.id, block.type, message, recovery⟩] }

def use (emitter : Emitter) (name : SdkName) : Emitter :=
  { emitter with used := emitter.used ++ [name] }

end Emitter

def GeneratorBlock.field (block : GeneratorBlock) (name : String) : Option JsonValue :=
  block.fields.lookup name

/-- `value ?? text`. -/
def orText (value : Option JsonValue) (text : String) : Option JsonValue :=
  match value with
  | none | some .null => some (.str text)
  | some value => some value

def pythonNumber (value : Option JsonValue) (fallback : PyFloat) : String :=
  let numeric : PyFloat := match value with
    | none => .nan
    | some value => value.toNumber
  if numeric.isFinite then numeric.toJsString else fallback.toJsString

/-- `text.replace(/c/g, replacement)`. -/
def replaceAll (c : Char) (replacement text : List Char) : List Char :=
  text.flatMap fun d => if d = c then replacement else [d]

def escaped (text : List Char) : List Char :=
  replaceAll '\n' ['\\', 'n'] (replaceAll '"' ['\\', '"'] (replaceAll '\\' ['\\', '\\'] text))

/-- The text that `pythonString` quotes. -/
def textOf : Option JsonValue → String
  | none | some .null => ""
  | some value => value.toJsString

def pythonString (value : Option JsonValue) : String :=
  String.ofList ('"' :: escaped (textOf value).toList ++ ['"'])

/-- Characters that no identifier has are replaced, one for each UTF-16 unit. -/
def identifierChars (alias_ : String) : List Char :=
  alias_.toList.flatMap fun c =>
    if c.isAlphanum ∨ c = '_' then [c]
    else List.replicate (if c.toNat < 0x10000 then 1 else 2) '_'

def aliasIdentifier (alias_ : String) : String :=
  match identifierChars alias_ with
  | [] => "device_1"
  | c :: rest => String.ofList (if c.isDigit then '_' :: c :: rest else c :: rest)

/-- `seconds.replace(".", "_")`: the first point only. -/
def replacePoint (text : List Char) : List Char :=
  match text.dropWhile (· != '.') with
  | [] => text
  | _ :: rest => text.takeWhile (· != '.') ++ '_' :: rest

variable (bindings : List GeneratorBinding)

/-- The device that a block acts on, if it can be told. -/
def resolveAlias (block : GeneratorBlock) (emitter : Emitter) : Option String × Emitter :=
  let unnamed : Option String × Emitter :=
    match bindings with
    | [binding] => (some binding.alias_, emitter)
    | _ => (none, emitter.warn block "This block does not say which device it should act on."
        "Pick a device in the block's device field.")
  match block.field "device" with
  | some (.str requested) =>
    if requested = "" then unnamed
    else if bindings.any fun binding =>
        binding.alias_ == requested || binding.deviceId == requested then
      match bindings.find? fun binding => binding.deviceId == requested with
      | some binding => (some binding.alias_, emitter)
      | none => (some requested, emitter)
    else (none, emitter.warn block
      ("This block uses '" ++ requested ++ "', which is not bound in this project.")
      "Bind that device to the project, or choose one that is bound.")
  | _ => unnamed

/-- `unnamed` of `resolveAlias`. -/
def unnamedAlias (block : GeneratorBlock) (emitter : Emitter) : Option String × Emitter :=
  match bindings with
  | [binding] => (some binding.alias_, emitter)
  | _ => (none, emitter.warn block "This block does not say which device it should act on."
      "Pick a device in the block's device field.")

def emitExpression (block : GeneratorBlock) (emitter : Emitter) : String × Emitter :=
  let (alias_, emitter) := resolveAlias bindings block emitter
  let target := (alias_.map aliasIdentifier).getD "device"
  match blockType block.type with
  | some .readDistance => ("(await " ++ target ++ ".sensor(\"sensor.distance\")).value", emitter)
  | some .readColor => ("(await " ++ target ++ ".sensor(\"sensor.color\")).value", emitter)
  | some .readForce => ("(await " ++ target ++ ".sensor(\"sensor.force\")).value", emitter)
  | _ => ("None", emitter.warn block ("'" ++ block.type ++ "' cannot be used as a value here.")
      "Remove the block, or use it as its own step.")

/-- A call of a method of a device with keyword arguments. -/
def callText (target method : String) (arguments : List (String × String)) : String :=
  target ++ "." ++ method ++ "(" ++
    String.intercalate ", " (arguments.map fun argument => argument.1 ++ "=" ++ argument.2) ++ ")"

def deviceCall (block : GeneratorBlock) (target : Option String) (spec : BlockSpec)
    (emitter : Emitter) : Option String × Emitter :=
  let number (name : String) := pythonNumber (block.field name) (spec.defaultOf name)
  let port := pythonString (orText (block.field "port") "A")
  match target with
  | none => (none, emitter)
  | some target =>
    match spec.type with
    | .driveVelocity => (some (callText target "drive.velocity"
        [("speed", number "speed"), ("durationSeconds", number "durationSeconds")]), emitter)
    | .stop => (some (callText target "stop" []), emitter)
    | .motorRun => (some (callText target "motor.run"
        [("port", port), ("speed", number "speed"),
          ("durationSeconds", number "durationSeconds")]), emitter)
    | .motorAngle => (some (callText target "motor.run_angle"
        [("port", port), ("angle", number "angle"), ("speed", number "speed")]), emitter)
    | .driveStraight => (some (callText target "drive.straight"
        [("distanceMillimetres", number "distanceMillimetres"), ("speed", number "speed")]),
        emitter)
    | .driveTurn => (some (callText target "drive.turn"
        [("angle", number "angle"), ("speed", number "speed")]), emitter)
    | .hubDisplay => (some (callText target "hub.display"
        [("text", pythonString (block.field "text"))]), emitter)
    | .gimbal => (some (callText target "gimbal.pitch_yaw"
        [("pitch", number "pitch"), ("yaw", number "yaw")]), emitter)
    | .hudShow => (some (callText target "xr.hud"
        [("text", pythonString (block.field "text"))]), emitter)
    | _ => (none, emitter.warn block ("'" ++ block.type ++ "' has no Python form yet.")
        "Remove the block; a later milestone adds it.")

/-- The bare awaitable that an argument of `parallel(...)` needs. -/
def parallelCall (block : GeneratorBlock) (emitter : Emitter) : String × Emitter :=
  let spec := blockSpec block.type
  let (alias_, emitter) := resolveAlias bindings block emitter
  match spec with
  | none => ("None", emitter)
  | some spec =>
    match spec.type with
    | .wait => ("sleep(" ++ pythonNumber (block.field "seconds") (spec.defaultOf "seconds") ++ ")",
        emitter.use .sleep)
    | .log => ("log(" ++ pythonString (block.field "message") ++ ")", emitter.use .log)
    | _ =>
      let (call, emitter) := deviceCall block (alias_.map aliasIdentifier) spec emitter
      (call.getD "None", emitter)

/-- The lines of a text that is not empty, as comments. -/
def emitComment (comment : Option String) (depth : ℕ) (emitter : Emitter) : Emitter :=
  match comment with
  | none => emitter
  | some comment =>
    if comment = "" then emitter
    else (comment.toList.splitOn '\n').foldl (fun emitter line =>
      emitter.emit ("# " ++ String.ofList line) depth none) emitter

/-- A suite in which no line was emitted gets a statement. Lines are counted, not blocks. -/
def closeBody (before : ℕ) (depth : ℕ) (emitter : Emitter) : Emitter :=
  if emitter.lines.length = before then emitter.emit "pass" depth none else emitter

mutual

def emitStatement (block : GeneratorBlock) (depth : ℕ) (emitter : Emitter) : Emitter :=
  match block with
  | block@⟨id, type, _, children, _, comment⟩ =>
    match blockSpec type with
    | none => emitter.warn block ("'" ++ type ++ "' is not a block this version knows.")
        "Delete it, or open the project in the Studio version that made it."
    | some spec =>
      let emitter := emitComment comment depth emitter
      let (alias_, emitter) :=
        if spec.hasDevice then resolveAlias bindings block emitter else (none, emitter)
      let target := alias_.map aliasIdentifier
      let origin : Option SourceOrigin := some ⟨id, type, alias_⟩
      let seconds := pythonNumber (block.field "seconds") (spec.defaultOf "seconds")
      let emitBody (children : Emitter → Emitter) (emitter : Emitter) :=
        closeBody emitter.lines.length (depth + 1) (children emitter)
      match spec.type with
      | .onStart =>
        emitBody (emitStatements children (depth + 1)) (emitter.emit "async def main():" depth origin)
      | .every =>
        let emitter := (emitter.use .every).emit ("@every(" ++ seconds ++ ")") depth origin
        let name := "every_" ++ String.ofList (replacePoint seconds.toList) ++ "s"
        emitBody (emitStatements children (depth + 1))
          (emitter.emit ("async def " ++ name ++ "():") depth none)
      | .onGesture =>
        let gesture := pythonString (orText (block.field "gesture") "open_palm")
        let source := target.getD "leap"
        let emitter := (emitter.use .when).emit
          ("@when(" ++ source ++ ".gesture(" ++ gesture ++ "))") depth origin
        emitBody (emitStatements children (depth + 1))
          (emitter.emit "async def on_gesture():" depth none)
      | .repeat_ =>
        let times := pythonNumber (block.field "times") (spec.defaultOf "times")
        emitBody (emitStatements children (depth + 1))
          (emitter.emit ("for _ in range(" ++ times ++ "):") depth origin)
      | .if_ =>
        match children with
        | [] => emitBody (fun emitter => emitter) (emitter.emit "if True:" depth origin)
        | condition :: rest =>
          let (rendered, emitter) := emitExpression bindings condition emitter
          emitBody (emitStatements rest (depth + 1))
            (emitter.emit ("if " ++ rendered ++ ":") depth origin)
      | .parallel =>
        let emitter := emitter.use .parallel
        match children.filter fun child => !child.disabled with
        | [] => emitter.emit "pass" depth origin
        | actions =>
          (actions.foldl (fun emitter action =>
            let (call, emitter) := parallelCall bindings action emitter
            emitter.emit (call ++ ",") (depth + 1) (some ⟨action.id, action.type, none⟩))
            (emitter.emit "await parallel(" depth origin)).emit ")" depth none
      | .wait => (emitter.use .sleep).emit ("await sleep(" ++ seconds ++ ")") depth origin
      | .log => (emitter.use .log).emit
          ("await log(" ++ pythonString (block.field "message") ++ ")") depth origin
      | _ =>
        let (call, emitter) := deviceCall block target spec emitter
        match call with
        | some call => emitter.emit ("await " ++ call) depth origin
        | none => emitter

/-- The blocks that are not disabled, one after the other. -/
def emitStatements (children : List GeneratorBlock) (depth : ℕ) (emitter : Emitter) : Emitter :=
  match children with
  | [] => emitter
  | child :: rest =>
    emitStatements rest depth (if child.disabled then emitter else emitStatement child depth emitter)

end

def emitBody (children : List GeneratorBlock) (depth : ℕ) (emitter : Emitter) : Emitter :=
  closeBody emitter.lines.length depth (emitStatements bindings children depth emitter)

/-- Blocks that produce their own declaration. -/
def isTopLevel (block : GeneratorBlock) : Bool :=
  match blockType block.type with
  | some .onStart | some .every | some .onGesture => true
  | _ => false

def isStart (block : GeneratorBlock) : Bool := block.type == BlockType.onStart.text

def importOrder : List SdkName := [.device, .every, .log, .parallel, .sleep, .when]

/-- The declarations: the events, then `main()` with the steps of the start blocks and the blocks
that stand alone. -/
def emitDeclarations (blocks : List GeneratorBlock) : Emitter :=
  let enabled := blocks.filter fun block => !block.disabled
  let events := enabled.filter fun block => isTopLevel block && !isStart block
  let starts := enabled.filter isStart
  let loose := enabled.filter fun block => !isTopLevel block
  let body := events.foldl (fun body block =>
    (emitBody bindings [block] 0 body).emit "" 0 none) Emitter.empty
  match starts ++ loose with
  | [] => body
  | anchor :: _ =>
    let body := starts.foldl (fun body start => emitComment start.comment 0 body) body
    let body := body.emit "async def main():" 0 (some ⟨anchor.id, anchor.type, none⟩)
    (emitBody bindings (starts.flatMap GeneratorBlock.children ++ loose) 1 body).emit "" 0 none

/-- The imports and the devices, in an order that does not depend on the layout of the blocks. -/
def emitPreamble (localeCompare : String → String → Ordering) (imports : List SdkName) : Emitter :=
  let names := String.intercalate ", " (imports.map SdkName.text)
  let emitter := ((Emitter.empty.emit ("from citxr import " ++ names) 0 none).emit "" 0 none).emit
    "" 0 none
  let sorted := bindings.insertionSort fun a b => localeCompare a.alias_ b.alias_ ≠ .gt
  let emitter := sorted.foldl (fun emitter binding =>
    emitter.emit (aliasIdentifier binding.alias_ ++ " = device(" ++
      pythonString (some (.str binding.deviceId)) ++ ")") 0 none) emitter
  if sorted.isEmpty then emitter else (emitter.emit "" 0 none).emit "" 0 none

/-- The text of a program: lines without blank ones at the end. -/
def programText (lines : List String) : String :=
  String.intercalate "\n" (lines.reverse.dropWhile (· == "")).reverse ++ "\n"

def generatePython (localeCompare : String → String → Ordering) (blocks : List GeneratorBlock) :
    GenerateResult :=
  let body := emitDeclarations bindings blocks
  let imports := importOrder.filter fun name => name ∈ body.used ∨ name = .device
  let emitter := emitPreamble bindings localeCompare imports
  let offset := emitter.lines.length
  { python := programText (emitter.lines ++ body.lines)
    sourceMap := emitter.sourceMap ++ body.sourceMap.map fun entry =>
      { entry with line := entry.line + offset }
    warnings := emitter.warnings ++ body.warnings
    usedImports := imports }

end CitPhysicalXR.Blocks
