import CitPhysicalXR.Blocks.EmittedBlocks

/-! What the generator writes, piece by piece: lines with the block that each is written for,
warnings and names. An emitter is the sum of the pieces that it has written. -/
namespace CitPhysicalXR.Blocks
open Foundation

/-- What a line is to its block: the first line of its code, a later one, the statement of a suite
without lines, the bracket that closes a call, or a line of its comment. -/
inductive LineRole where
  | head | later | filler | closing | comment
  deriving DecidableEq

inductive Piece where
  | line (role : LineRole) (owner : SourceOrigin) (text : String) (depth : ℕ)
  | blank
  | warning (warning : GeneratorWarning)
  | name (name : SdkName)

namespace Piece

def isLine : Piece → Bool
  | .line .. | .blank => true
  | .warning _ | .name _ => false

/-- What the emitter is told to be the origin of the line. -/
def origin? : Piece → Option SourceOrigin
  | .line .head owner _ _ => some owner
  | _ => none

end Piece

namespace Emitter

def write (emitter : Emitter) : Piece → Emitter
  | .line role owner text depth =>
    emitter.emit text depth (Piece.line role owner text depth).origin?
  | .blank => emitter.emit "" 0 none
  | .warning warning => { emitter with warnings := emitter.warnings ++ [warning] }
  | .name name => emitter.use name

def writeAll (emitter : Emitter) (pieces : List Piece) : Emitter := pieces.foldl write emitter

@[simp] theorem writeAll_nil (emitter : Emitter) : emitter.writeAll [] = emitter := rfl

@[simp] theorem writeAll_cons (emitter : Emitter) (piece : Piece) (pieces : List Piece) :
    emitter.writeAll (piece :: pieces) = (emitter.write piece).writeAll pieces := rfl

@[simp] theorem writeAll_append (emitter : Emitter) (first second : List Piece) :
    emitter.writeAll (first ++ second) = (emitter.writeAll first).writeAll second :=
  List.foldl_append

theorem writeAll_flatMap {α : Type} (emitter : Emitter) (items : List α)
    (pieces : α → List Piece) :
    emitter.writeAll (items.flatMap pieces) =
      items.foldl (fun emitter item => emitter.writeAll (pieces item)) emitter := by
  induction items generalizing emitter with
  | nil => rfl
  | cons item items ih => rw [List.flatMap_cons, writeAll_append, ih, List.foldl_cons]

/-- The warnings and names that a step without lines has left. -/
def quietPieces (emitter : Emitter) : List Piece :=
  emitter.warnings.map .warning ++ emitter.used.map .name

end Emitter

section
variable (bindings : List GeneratorBinding)

def aliasPieces (block : GeneratorBlock) : List Piece :=
  (resolveAlias bindings block Emitter.empty).2.quietPieces

def commentPieces (owner : SourceOrigin) (comment : Option String) (depth : ℕ) : List Piece :=
  match comment with
  | none => []
  | some comment =>
    if comment = "" then []
    else (comment.toList.splitOn '\n').map fun line =>
      .line .comment owner ("# " ++ String.ofList line) depth

/-- A suite; without a line it gets a statement. -/
def suitePieces (owner : SourceOrigin) (depth : ℕ) (pieces : List Piece) : List Piece :=
  if pieces.any Piece.isLine then pieces else pieces ++ [Piece.line .filler owner "pass" depth]

/-- An argument of a call of `parallel`. -/
def actionPieces (depth : ℕ) (action : GeneratorBlock) : List Piece :=
  let (call, emitter) := parallelCall bindings action Emitter.empty
  emitter.quietPieces ++ [Piece.line .head ⟨action.id, action.type, none⟩ (call ++ ",") depth]

mutual

def statementPieces (block : GeneratorBlock) (depth : ℕ) : List Piece :=
  match block with
  | block@⟨id, type, _, children, _, comment⟩ =>
    match blockSpec type with
    | none => [Piece.warning ⟨id, type, "'" ++ type ++ "' is not a block this version knows.",
        "Delete it, or open the project in the Studio version that made it."⟩]
    | some spec =>
      let alias_ := if spec.hasDevice then resolvedAlias bindings block else none
      let owner : SourceOrigin := ⟨id, type, alias_⟩
      let head (text : String) : Piece := .line .head owner text depth
      let later (text : String) : Piece := .line .later owner text depth
      let suite (pieces : List Piece) := suitePieces owner (depth + 1) pieces
      let seconds := pythonNumber (block.field "seconds") (spec.defaultOf "seconds")
      commentPieces owner comment depth ++
        (if spec.hasDevice then aliasPieces bindings block else []) ++
      match spec.type with
      | .onStart => head "async def main():" :: suite (statementsPieces children (depth + 1))
      | .every =>
        [Piece.name .every, head ("@every(" ++ seconds ++ ")"),
          later ("async def " ++ ("every_" ++ String.ofList (replacePoint seconds.toList) ++ "s") ++
            "():")] ++
          suite (statementsPieces children (depth + 1))
      | .onGesture =>
        let gesture := pythonString (orText (block.field "gesture") "open_palm")
        let source := (alias_.map aliasIdentifier).getD "leap"
        [Piece.name .when, head ("@when(" ++ source ++ ".gesture(" ++ gesture ++ "))"),
          later "async def on_gesture():"] ++
          suite (statementsPieces children (depth + 1))
      | .repeat_ =>
        let times := pythonNumber (block.field "times") (spec.defaultOf "times")
        head ("for _ in range(" ++ times ++ "):") :: suite (statementsPieces children (depth + 1))
      | .if_ =>
        match children with
        | [] => head "if True:" :: suite []
        | condition :: rest =>
          let (rendered, emitter) := emitExpression bindings condition Emitter.empty
          emitter.quietPieces ++ (head ("if " ++ rendered ++ ":") ::
            suite (statementsPieces rest (depth + 1)))
      | .parallel =>
        Piece.name .parallel ::
          match children.filter fun child => !child.disabled with
          | [] => [head "pass"]
          | actions => head "await parallel(" ::
              (actions.flatMap (actionPieces bindings (depth + 1)) ++
                [Piece.line .closing owner ")" depth])
      | .wait => [Piece.name .sleep, head ("await sleep(" ++ seconds ++ ")")]
      | .log =>
        [Piece.name .log, head ("await log(" ++ pythonString (block.field "message") ++ ")")]
      | _ =>
        let (call, emitter) := deviceCall block (alias_.map aliasIdentifier) spec Emitter.empty
        emitter.quietPieces ++ (call.map fun call => head ("await " ++ call)).toList

def statementsPieces (children : List GeneratorBlock) (depth : ℕ) : List Piece :=
  match children with
  | [] => []
  | child :: rest =>
    (if child.disabled then [] else statementPieces child depth) ++ statementsPieces rest depth

end

end

theorem writeAll_warnings (emitter : Emitter) (warnings : List GeneratorWarning) :
    emitter.writeAll (warnings.map .warning) =
      { emitter with warnings := emitter.warnings ++ warnings } := by
  induction warnings generalizing emitter with
  | nil => rw [List.map_nil, Emitter.writeAll_nil, List.append_nil]
  | cons warning warnings ih =>
    rw [List.map_cons, Emitter.writeAll_cons, ih]
    simp [Emitter.write]

theorem writeAll_names (emitter : Emitter) (names : List SdkName) :
    emitter.writeAll (names.map .name) = { emitter with used := emitter.used ++ names } := by
  induction names generalizing emitter with
  | nil => rw [List.map_nil, Emitter.writeAll_nil, List.append_nil]
  | cons name names ih =>
    rw [List.map_cons, Emitter.writeAll_cons, ih]
    simp [Emitter.write, Emitter.use]

theorem writeAll_quietPieces (emitter quiet : Emitter) :
    emitter.writeAll quiet.quietPieces =
      { emitter with
        warnings := emitter.warnings ++ quiet.warnings
        used := emitter.used ++ quiet.used } := by
  unfold Emitter.quietPieces
  rw [Emitter.writeAll_append, writeAll_warnings, writeAll_names]

/-- A step that tells something and writes what it would write first. -/
def Quiet {α : Type} (step : Emitter → α × Emitter) : Prop :=
  ∀ emitter, step emitter =
    ((step Emitter.empty).1, emitter.writeAll (step Emitter.empty).2.quietPieces)

theorem Quiet.same {α : Type} (value : α) : Quiet fun emitter => (value, emitter) :=
  fun _ => rfl

theorem Quiet.warn {α : Type} (value : α) (block : GeneratorBlock) (message recovery : String) :
    Quiet fun emitter => (value, emitter.warn block message recovery) := by
  intro emitter
  rw [writeAll_quietPieces]
  simp [Emitter.warn, Emitter.empty]

theorem Quiet.use {α : Type} (value : α) (name : SdkName) :
    Quiet fun emitter => (value, emitter.use name) := by
  intro emitter
  rw [writeAll_quietPieces]
  simp [Emitter.use, Emitter.empty]

theorem Quiet.bind {α β : Type} {first : Emitter → α × Emitter}
    {second : α → Emitter → β × Emitter} (hfirst : Quiet first)
    (hsecond : ∀ value, Quiet (second value)) :
    Quiet fun emitter => second (first emitter).1 (first emitter).2 := by
  intro emitter
  have hinner := hsecond (first Emitter.empty).1 (first Emitter.empty).2
  dsimp only
  rw [hfirst emitter]
  dsimp only
  rw [hsecond _ (emitter.writeAll _), hinner]
  simp only [writeAll_quietPieces, List.append_assoc]

theorem Quiet.after {α : Type} {step : Emitter → α × Emitter} (h : Quiet step)
    (emitter : Emitter) :
    (step emitter).2 = emitter.writeAll (step Emitter.empty).2.quietPieces := by rw [h emitter]

section
variable (bindings : List GeneratorBinding)

theorem resolveAlias_quiet (block : GeneratorBlock) : Quiet (resolveAlias bindings block) := by
  have hunnamed : Quiet (unnamedAlias bindings block) := by
    unfold unnamedAlias
    split
    · exact .same _
    · exact .warn _ _ _ _
  unfold resolveAlias
  dsimp only
  split
  · split
    · exact hunnamed
    · split
      · split
        · exact .same _
        · exact .same _
      · exact .warn _ _ _ _
  · exact hunnamed

theorem sensorValue_quiet (block : GeneratorBlock) (alias_ : Option String) :
    Quiet fun emitter : Emitter =>
      match blockType block.type with
      | some .readDistance => ("(await " ++ (alias_.map aliasIdentifier).getD "device" ++
          ".sensor(\"sensor.distance\")).value", emitter)
      | some .readColor => ("(await " ++ (alias_.map aliasIdentifier).getD "device" ++
          ".sensor(\"sensor.color\")).value", emitter)
      | some .readForce => ("(await " ++ (alias_.map aliasIdentifier).getD "device" ++
          ".sensor(\"sensor.force\")).value", emitter)
      | _ => ("None", emitter.warn block ("'" ++ block.type ++ "' cannot be used as a value here.")
          "Remove the block, or use it as its own step.") := by
  split
  · exact .same _
  · exact .same _
  · exact .same _
  · exact .warn _ _ _ _

theorem emitExpression_quiet (block : GeneratorBlock) : Quiet (emitExpression bindings block) :=
  (resolveAlias_quiet bindings block).bind (sensorValue_quiet block)

theorem deviceCall_quiet (block : GeneratorBlock) (target : Option String) (spec : BlockSpec) :
    Quiet (deviceCall block target spec) := by
  unfold deviceCall
  cases target with
  | none => exact .same none
  | some target =>
    dsimp only
    cases spec.type
    case driveVelocity | stop | motorRun | motorAngle | driveStraight | driveTurn | hubDisplay |
        gimbal | hudShow => exact .same _
    all_goals exact .warn _ _ _ _

theorem parallelCall_quiet (block : GeneratorBlock) : Quiet (parallelCall bindings block) := by
  unfold parallelCall
  cases hspec : blockSpec block.type with
  | none =>
    have hnone (alias_ : Option String) : Quiet fun emitter : Emitter => ("None", emitter) :=
      .same "None"
    exact (resolveAlias_quiet bindings block).bind hnone
  | some spec =>
    have hdevice (alias_ : Option String) : Quiet fun emitter =>
        ((deviceCall block (alias_.map aliasIdentifier) spec emitter).1.getD "None",
          (deviceCall block (alias_.map aliasIdentifier) spec emitter).2) :=
      (deviceCall_quiet block _ spec).bind fun call => .same (call.getD "None")
    dsimp only
    cases htype : spec.type
    case wait =>
      exact (resolveAlias_quiet bindings block).bind fun _ => .use _ _
    case log =>
      exact (resolveAlias_quiet bindings block).bind fun _ => .use _ _
    all_goals exact (resolveAlias_quiet bindings block).bind hdevice

theorem emitComment_write (emitter : Emitter) (owner : SourceOrigin) (comment : Option String)
    (depth : ℕ) :
    emitComment comment depth emitter = emitter.writeAll (commentPieces owner comment depth) := by
  unfold emitComment commentPieces
  cases comment with
  | none => rfl
  | some comment =>
    dsimp only
    split
    · rfl
    · rw [Emitter.writeAll, List.foldl_map]
      rfl

/-- The lines with the origins that they are given, one after the other. -/
def linesOf (pieces : List Piece) : List String :=
  pieces.filterMap fun piece => match piece with
    | .line _ _ text depth => some (if text = "" then "" else Emitter.indent depth ++ text)
    | .blank => some ""
    | .warning _ | .name _ => none

theorem lines_write (emitter : Emitter) (piece : Piece) :
    (emitter.write piece).lines = emitter.lines ++ linesOf [piece] := by
  cases piece with
  | line role owner text depth =>
    show (emitter.emit text depth (Piece.line role owner text depth).origin?).lines = _
    unfold Emitter.emit
    cases (Piece.line role owner text depth).origin? <;> rfl
  | blank => rfl
  | warning warning => exact (List.append_nil _).symm
  | name name => exact (List.append_nil _).symm

theorem linesOf_append (first second : List Piece) :
    linesOf (first ++ second) = linesOf first ++ linesOf second := List.filterMap_append

theorem lines_writeAll (emitter : Emitter) (pieces : List Piece) :
    (emitter.writeAll pieces).lines = emitter.lines ++ linesOf pieces := by
  induction pieces generalizing emitter with
  | nil => exact (List.append_nil _).symm
  | cons piece pieces ih =>
    have happend : linesOf (piece :: pieces) = linesOf [piece] ++ linesOf pieces :=
      linesOf_append [piece] pieces
    rw [Emitter.writeAll_cons, ih, lines_write, happend, List.append_assoc]

theorem linesOf_eq_nil (pieces : List Piece) :
    linesOf pieces = [] ↔ pieces.any Piece.isLine = false := by
  induction pieces with
  | nil => simp [linesOf]
  | cons piece pieces ih =>
    have happend : linesOf (piece :: pieces) = linesOf [piece] ++ linesOf pieces :=
      linesOf_append [piece] pieces
    rw [happend, List.append_eq_nil_iff, ih, List.any_cons, Bool.or_eq_false_iff]
    cases piece <;> simp [linesOf, Piece.isLine]

theorem closeBody_write (emitter : Emitter) (owner : SourceOrigin) (depth : ℕ)
    (pieces : List Piece) :
    closeBody emitter.lines.length depth (emitter.writeAll pieces) =
      emitter.writeAll (suitePieces owner depth pieces) := by
  have hsame : (emitter.writeAll pieces).lines.length = emitter.lines.length ↔
      pieces.any Piece.isLine = false := by
    rw [lines_writeAll, List.length_append, ← linesOf_eq_nil, ← List.length_eq_zero_iff]
    omega
  unfold closeBody suitePieces
  cases hany : pieces.any Piece.isLine with
  | true =>
    rw [if_neg (by rw [hsame, hany]; decide), if_pos rfl]
  | false =>
    rw [if_pos (hsame.mpr hany), if_neg (by decide), Emitter.writeAll_append]
    rfl

theorem resolved_write (block : GeneratorBlock) (spec : BlockSpec) (emitter : Emitter) :
    (if spec.hasDevice then resolveAlias bindings block emitter else (none, emitter)) =
      (if spec.hasDevice then resolvedAlias bindings block else none,
        emitter.writeAll (if spec.hasDevice then aliasPieces bindings block else [])) := by
  cases spec.hasDevice with
  | true => exact resolveAlias_quiet bindings block emitter
  | false => rfl

theorem actions_write (actions : List GeneratorBlock) (depth : ℕ) (emitter : Emitter) :
    actions.foldl (fun emitter action =>
        let (call, emitter) := parallelCall bindings action emitter
        emitter.emit (call ++ ",") depth (some ⟨action.id, action.type, none⟩)) emitter =
      emitter.writeAll (actions.flatMap (actionPieces bindings depth)) := by
  rw [Emitter.writeAll_flatMap]
  congr 1
  funext emitter action
  unfold actionPieces
  dsimp only
  rw [parallelCall_quiet bindings action emitter]
  dsimp only
  rw [Emitter.writeAll_append]
  rfl

mutual

theorem emitStatement_write (block : GeneratorBlock) (depth : ℕ) (emitter : Emitter) :
    emitStatement bindings block depth emitter =
      emitter.writeAll (statementPieces bindings block depth) := by
  match block with
  | ⟨id, type, fields, children, disabled, comment⟩ =>
    rw [emitStatement.eq_def, statementPieces.eq_def]
    cases hspec : blockSpec type with
    | none => simp only [hspec]; rfl
    | some spec =>
      simp only [hspec]
      rw [resolved_write, emitComment_write emitter ⟨id, type, if spec.hasDevice then
        resolvedAlias bindings ⟨id, type, fields, children, disabled, comment⟩ else none⟩]
      generalize (if spec.hasDevice = true then
        resolvedAlias bindings ⟨id, type, fields, children, disabled, comment⟩ else none) = alias_
      generalize (if spec.hasDevice = true then
        aliasPieces bindings ⟨id, type, fields, children, disabled, comment⟩ else []) = pieces
      rw [Emitter.writeAll_append, Emitter.writeAll_append]
      generalize (emitter.writeAll _).writeAll pieces = later
      dsimp only
      have hsuite (before : Emitter) : closeBody before.lines.length (depth + 1)
          (emitStatements bindings children (depth + 1) before) =
          before.writeAll (suitePieces ⟨id, type, alias_⟩ (depth + 1)
            (statementsPieces bindings children (depth + 1))) := by
        rw [emitStatements_write children (depth + 1) before]
        exact closeBody_write before ⟨id, type, alias_⟩ (depth + 1) _
      cases htype : spec.type
      case onStart => exact hsuite _
      case every => exact hsuite _
      case onGesture => exact hsuite _
      case repeat_ => exact hsuite _
      case wait => rfl
      case log => rfl
      case if_ =>
        cases children with
        | nil => exact closeBody_write _ ⟨id, type, alias_⟩ (depth + 1) []
        | cons condition rest =>
          dsimp only
          rw [emitExpression_quiet bindings condition later, Emitter.writeAll_append,
            emitStatements_write rest (depth + 1)]
          exact closeBody_write _ ⟨id, type, alias_⟩ (depth + 1) _
      case parallel =>
        dsimp only
        cases hactions : children.filter fun child => !child.disabled with
        | nil => rfl
        | cons action actions =>
          dsimp only
          rw [actions_write, Emitter.writeAll_cons, Emitter.writeAll_cons, Emitter.writeAll_append]
          rfl
      all_goals
        dsimp only
        rw [deviceCall_quiet _ _ spec later, Emitter.writeAll_append]
        dsimp only
        split
        · rename_i hcall
          rw [hcall]
          rfl
        · rename_i hcall
          rw [hcall]
          rfl

theorem emitStatements_write (children : List GeneratorBlock) (depth : ℕ) (emitter : Emitter) :
    emitStatements bindings children depth emitter =
      emitter.writeAll (statementsPieces bindings children depth) := by
  match children with
  | [] =>
    rw [emitStatements, statementsPieces]
    rfl
  | child :: rest =>
    rw [emitStatements, statementsPieces, Emitter.writeAll_append, emitStatements_write rest depth]
    cases hdisabled : child.disabled with
    | true => rfl
    | false =>
      simp only [Bool.false_eq_true, if_false]
      rw [emitStatement_write child depth emitter]

end

theorem emitBody_write (children : List GeneratorBlock) (owner : SourceOrigin) (depth : ℕ)
    (emitter : Emitter) :
    emitBody bindings children depth emitter =
      emitter.writeAll (suitePieces owner depth (statementsPieces bindings children depth)) := by
  unfold emitBody
  rw [emitStatements_write]
  exact closeBody_write emitter owner depth _

/-- The function `main()`, which stands for its first start block, or for its first step. -/
def mainPieces (starts loose : List GeneratorBlock) (anchor : GeneratorBlock) : List Piece :=
  let owner : SourceOrigin := ⟨anchor.id, anchor.type, none⟩
  starts.flatMap (fun start => commentPieces ⟨start.id, start.type, none⟩ start.comment 0) ++
    Piece.line .head owner "async def main():" 0 ::
      (suitePieces owner 1
        (statementsPieces bindings (starts.flatMap GeneratorBlock.children ++ loose) 1) ++
        [Piece.blank])

def declarationPieces (blocks : List GeneratorBlock) : List Piece :=
  let enabled := blocks.filter fun block => !block.disabled
  let events := enabled.filter fun block => isTopLevel block && !isStart block
  let starts := enabled.filter isStart
  let loose := enabled.filter fun block => !isTopLevel block
  events.flatMap (fun block =>
    suitePieces ⟨block.id, block.type, none⟩ 0 (statementsPieces bindings [block] 0) ++
      [Piece.blank]) ++
    match starts ++ loose with
    | [] => []
    | anchor :: _ => mainPieces bindings starts loose anchor

theorem emitDeclarations_write (blocks : List GeneratorBlock) :
    emitDeclarations bindings blocks =
      Emitter.empty.writeAll (declarationPieces bindings blocks) := by
  unfold emitDeclarations declarationPieces
  dsimp only
  have hevents (events : List GeneratorBlock) : events.foldl (fun body block =>
      (emitBody bindings [block] 0 body).emit "" 0 none) Emitter.empty =
      Emitter.empty.writeAll (events.flatMap fun block =>
        suitePieces ⟨block.id, block.type, none⟩ 0 (statementsPieces bindings [block] 0) ++
          [Piece.blank]) := by
    rw [Emitter.writeAll_flatMap]
    congr 1
    funext body block
    rw [emitBody_write bindings [block] ⟨block.id, block.type, none⟩, Emitter.writeAll_append]
    rfl
  rw [hevents, Emitter.writeAll_append]
  generalize Emitter.empty.writeAll _ = body
  cases List.filter isStart (blocks.filter fun block => !block.disabled) ++
      List.filter (fun block => !isTopLevel block) (blocks.filter fun block => !block.disabled) with
  | nil => rfl
  | cons anchor others =>
    dsimp only
    unfold mainPieces
    dsimp only
    rw [emitBody_write bindings _ ⟨anchor.id, anchor.type, none⟩, Emitter.writeAll_append,
      Emitter.writeAll_cons, Emitter.writeAll_append, Emitter.writeAll_flatMap]
    have hcomments : (fun body start => emitComment start.comment 0 body) =
        fun (emitter : Emitter) (start : GeneratorBlock) =>
          emitter.writeAll (commentPieces ⟨start.id, start.type, none⟩ start.comment 0) := by
      funext body start
      exact emitComment_write body _ start.comment 0
    rw [hcomments]
    rfl

end

end CitPhysicalXR.Blocks
