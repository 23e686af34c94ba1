import CitPhysicalXR.Blocks.Pieces
import CitPhysicalXR.Blocks.Preamble
import CitPhysicalXR.Foundation.Lines
import CitPhysicalXR.Foundation.PythonStrings

/-! Every piece of a program is one line of its text: the texts of the pieces hold no line end. -/
namespace CitPhysicalXR.Blocks
open Foundation PythonText Scan

def OneLine (text : String) : Prop := '\n' ∉ text.toList

instance (text : String) : Decidable (OneLine text) :=
  inferInstanceAs (Decidable ('\n' ∉ text.toList))

@[simp] theorem oneLine_append (first second : String) :
    OneLine (first ++ second) ↔ OneLine first ∧ OneLine second := by
  simp [OneLine, not_or]

theorem oneLine_of_chars {text : String} (h : ∀ c ∈ text.toList, isLineEnd c = false) :
    OneLine text := by
  intro hmem
  cases h '\n' hmem

theorem oneLine_of_word {text : String} (h : isWord text.toList = true) : OneLine text :=
  oneLine_of_chars fun c hc => isLineEnd_of_isNameChar (isNameChar_of_isWord h c hc)

theorem aliasIdentifier_oneLine (alias_ : String) : OneLine (aliasIdentifier alias_) :=
  oneLine_of_word (aliasIdentifier_word alias_)

/-- The characters of a number. -/
def isNumeric (c : Char) : Bool := c.isDigit || c ∈ ['.', 'e', '+', '-']

theorem pythonNumber_isNumeric (value : Option JsonValue) {fallback : PyFloat}
    (h : fallback.isFinite = true) :
    ∀ c ∈ (pythonNumber value fallback).toList, isNumeric c = true := by
  obtain ⟨text, hshape, htext⟩ := pythonNumber_shape value h
  have hnumber : ∀ c ∈ text, isNumeric c = true := by
    have hplain {text : List Char} (h : PlainShape text) : ∀ c ∈ text, isNumeric c = true := by
      intro c hc
      rcases h.plain c hc with hdigit | rfl
      · simp [isNumeric, hdigit]
      · rfl
    cases hshape with
    | plain text shape => exact hplain shape
    | exponent mantissa sign e digits shape signed decimals =>
      intro c hc
      rcases List.mem_append.mp hc with hc | hc
      · exact hplain shape c hc
      · rcases List.mem_cons.mp hc with rfl | hc
        · rfl
        · rcases List.mem_cons.mp hc with rfl | hc
          · rcases signed with rfl | rfl <;> rfl
          · simp [isNumeric, decimals c hc]
  rcases htext with htext | htext
  · rw [htext]
    exact hnumber
  · rw [htext]
    exact List.forall_mem_cons.mpr ⟨rfl, hnumber⟩

theorem mem_replacePoint {text : List Char} {c : Char} (h : c ∈ replacePoint text) :
    c = '_' ∨ c ∈ text := by
  induction text with
  | nil => cases h
  | cons d text ih =>
    by_cases hd : d = '.'
    · subst hd
      rw [replacePoint_point] at h
      rcases List.mem_cons.mp h with rfl | h
      · exact .inl rfl
      · exact .inr (.tail _ h)
    · rw [replacePoint_cons hd] at h
      rcases List.mem_cons.mp h with rfl | h
      · exact .inr (List.mem_cons_self ..)
      · exact (ih h).imp_right (List.mem_cons_of_mem _)

theorem notMem_pythonNumber {c : Char} (hc : isNumeric c = false) (value : Option JsonValue)
    {fallback : PyFloat} (h : fallback.isFinite = true) :
    c ∉ (pythonNumber value fallback).toList := by
  intro hmem
  rw [pythonNumber_isNumeric value h c hmem] at hc
  cases hc

theorem notMem_timer {c : Char} (hc : isNumeric c = false) (hmark : c ≠ '_')
    (value : Option JsonValue) {fallback : PyFloat} (h : fallback.isFinite = true) :
    c ∉ (String.ofList (replacePoint (pythonNumber value fallback).toList)).toList := by
  rw [String.toList_ofList]
  intro hmem
  rcases mem_replacePoint hmem with rfl | hmem
  · exact hmark rfl
  · exact notMem_pythonNumber hc value h hmem

theorem pythonNumber_oneLine (value : Option JsonValue) {fallback : PyFloat}
    (h : fallback.isFinite = true) : OneLine (pythonNumber value fallback) :=
  notMem_pythonNumber (by decide) value h

theorem pythonString_oneLine (value : Option JsonValue) : OneLine (pythonString value) := by
  unfold OneLine
  rw [pythonString_toList]
  intro hmem
  simp only [List.mem_append, List.mem_cons, List.mem_flatMap] at hmem
  rcases hmem with (hquote | ⟨c, _, hc⟩) | hquote
  · cases hquote
  · unfold escapeChar at hc
    split at hc
    · simp at hc
    · split at hc
      · simp at hc
      · split at hc
        · simp at hc
        · rename_i hnewline
          exact hnewline (List.mem_singleton.mp hc).symm
  · simp at hquote

theorem oneLine_intercalate {texts : List String} (h : ∀ text ∈ texts, OneLine text) :
    OneLine (String.intercalate ", " texts) := by
  induction texts with
  | nil => decide
  | cons text texts ih =>
    have hfirst := h text (List.mem_cons_self ..)
    cases texts with
    | nil => simpa using hfirst
    | cons next texts =>
      rw [String.intercalate_cons_cons, oneLine_append, oneLine_append]
      exact ⟨⟨hfirst, by decide⟩, ih fun other hother => h other (.tail _ hother)⟩

theorem deviceCall_form {block : GeneratorBlock} {spec : BlockSpec}
    (hspec : blockSpec block.type = some spec) {target : Option String} {emitter : Emitter}
    {call : String} (h : (deviceCall block target spec emitter).1 = some call) :
    ∃ name method arguments, target = some name ∧ call = callText name method arguments ∧
      OneLine method ∧ ∀ argument ∈ arguments, OneLine argument.1 ∧ OneLine argument.2 := by
  have hnumber (name : String) :
      OneLine (pythonNumber (block.field name) (spec.defaultOf name)) :=
    pythonNumber_oneLine _ (defaultOf_isFinite hspec name)
  cases target with
  | none => cases h
  | some name =>
    unfold deviceCall at h
    dsimp only at h
    cases htype : spec.type <;> rw [htype] at h
    case driveVelocity | stop | motorRun | motorAngle | driveStraight | driveTurn | hubDisplay |
        gimbal | hudShow =>
      refine ⟨name, _, _, rfl, (Option.some.inj h).symm, by decide, ?_⟩
      simp only [List.forall_mem_cons, List.not_mem_nil, false_imp_iff, implies_true, and_true,
        hnumber, pythonString_oneLine]
      try decide
    all_goals exact nomatch h

theorem callText_oneLine {target method : String} {arguments : List (String × String)}
    (htarget : OneLine target) (hmethod : OneLine method)
    (h : ∀ argument ∈ arguments, OneLine argument.1 ∧ OneLine argument.2) :
    OneLine (callText target method arguments) := by
  unfold callText
  simp only [oneLine_append]
  refine ⟨⟨⟨⟨⟨htarget, by decide⟩, hmethod⟩, by decide⟩, oneLine_intercalate ?_⟩, by decide⟩
  intro text htext
  obtain ⟨argument, hargument, rfl⟩ := List.mem_map.mp htext
  obtain ⟨hname, hvalue⟩ := h argument hargument
  simp only [oneLine_append]
  exact ⟨⟨hname, by decide⟩, hvalue⟩

theorem deviceCall_oneLine {block : GeneratorBlock} {spec : BlockSpec}
    (hspec : blockSpec block.type = some spec) {alias_ : Option String} {emitter : Emitter}
    {call : String}
    (h : (deviceCall block (alias_.map aliasIdentifier) spec emitter).1 = some call) :
    OneLine call := by
  obtain ⟨name, method, arguments, hname, rfl, hmethod, harguments⟩ := deviceCall_form hspec h
  obtain ⟨alias_, _, rfl⟩ := Option.map_eq_some_iff.mp hname
  exact callText_oneLine (aliasIdentifier_oneLine alias_) hmethod harguments

section
variable (bindings : List GeneratorBinding)

theorem parallelCall_oneLine (block : GeneratorBlock) (emitter : Emitter) :
    OneLine (parallelCall bindings block emitter).1 := by
  have hnone : OneLine "None" := by decide
  unfold parallelCall
  dsimp only
  cases hspec : blockSpec block.type with
  | none => exact hnone
  | some spec =>
    have hdevice (target : Option String) (emitter : Emitter) : OneLine
        ((deviceCall block (target.map aliasIdentifier) spec emitter).1.getD "None") := by
      cases hcall : (deviceCall block (target.map aliasIdentifier) spec emitter).1 with
      | none => exact hnone
      | some call => exact deviceCall_oneLine hspec hcall
    dsimp only
    cases htype : spec.type
    case wait =>
      simp only [oneLine_append]
      exact ⟨⟨by decide, pythonNumber_oneLine _ (defaultOf_isFinite hspec _)⟩, by decide⟩
    case log =>
      simp only [oneLine_append]
      exact ⟨⟨by decide, pythonString_oneLine _⟩, by decide⟩
    all_goals exact hdevice _ _

theorem emitExpression_oneLine (block : GeneratorBlock) (emitter : Emitter) :
    OneLine (emitExpression bindings block emitter).1 := by
  have htarget (alias_ : Option String) : OneLine ((alias_.map aliasIdentifier).getD "device") := by
    cases alias_ with
    | none => decide
    | some alias_ => exact aliasIdentifier_oneLine alias_
  have hnone : OneLine "None" := by decide
  unfold emitExpression
  dsimp only
  split
  · simp only [oneLine_append]
    exact ⟨⟨by decide, htarget _⟩, by decide⟩
  · simp only [oneLine_append]
    exact ⟨⟨by decide, htarget _⟩, by decide⟩
  · simp only [oneLine_append]
    exact ⟨⟨by decide, htarget _⟩, by decide⟩
  · exact hnone

/-- A line that is not blank and ends where it should. -/
def Piece.IsTidy : Piece → Prop
  | .line _ _ text _ => text ≠ "" ∧ OneLine text
  | .blank | .warning _ | .name _ => True

theorem quietPieces_isTidy (emitter : Emitter) : ∀ piece ∈ emitter.quietPieces, piece.IsTidy := by
  intro piece hpiece
  rcases List.mem_append.mp hpiece with hpiece | hpiece
  · obtain ⟨warning, _, rfl⟩ := List.mem_map.mp hpiece
    trivial
  · obtain ⟨name, _, rfl⟩ := List.mem_map.mp hpiece
    trivial

theorem commentPieces_isTidy (owner : SourceOrigin) (comment : Option String) (depth : ℕ) :
    ∀ piece ∈ commentPieces owner comment depth, piece.IsTidy := by
  intro piece hpiece
  unfold commentPieces at hpiece
  cases comment with
  | none => cases hpiece
  | some comment =>
    dsimp only at hpiece
    split at hpiece
    · cases hpiece
    · obtain ⟨line, hline, rfl⟩ := List.mem_map.mp hpiece
      refine ⟨by simp, ?_⟩
      rw [oneLine_append]
      refine ⟨by decide, ?_⟩
      unfold OneLine
      rw [String.toList_ofList]
      exact Lines.notMem_of_mem_splitOn hline

theorem suitePieces_isTidy (owner : SourceOrigin) (depth : ℕ) {pieces : List Piece}
    (h : ∀ piece ∈ pieces, piece.IsTidy) :
    ∀ piece ∈ suitePieces owner depth pieces, piece.IsTidy := by
  intro piece hpiece
  unfold suitePieces at hpiece
  split at hpiece
  · exact h piece hpiece
  · rcases List.mem_append.mp hpiece with hpiece | hpiece
    · exact h piece hpiece
    · rw [List.mem_singleton.mp hpiece]
      exact ⟨by decide, by decide⟩

theorem actionPieces_isTidy (depth : ℕ) (action : GeneratorBlock) :
    ∀ piece ∈ actionPieces bindings depth action, piece.IsTidy := by
  intro piece hpiece
  unfold actionPieces at hpiece
  rcases List.mem_append.mp hpiece with hpiece | hpiece
  · exact quietPieces_isTidy _ piece hpiece
  · rw [List.mem_singleton.mp hpiece]
    refine ⟨by simp, ?_⟩
    rw [oneLine_append]
    exact ⟨parallelCall_oneLine bindings action _, by decide⟩

mutual

theorem statementPieces_isTidy (block : GeneratorBlock) (depth : ℕ) :
    ∀ piece ∈ statementPieces bindings block depth, piece.IsTidy := by
  match block with
  | ⟨id, type, fields, children, disabled, comment⟩ =>
    rw [statementPieces.eq_def]
    cases hspec : blockSpec type with
    | none =>
      simp only [hspec]
      intro piece hpiece
      rw [List.mem_singleton.mp hpiece]
      trivial
    | some spec =>
      have hnumber (name : String) (value : Option JsonValue) :
          OneLine (pythonNumber value (spec.defaultOf name)) :=
        pythonNumber_oneLine _ (defaultOf_isFinite hspec name)
      have halias : ∀ piece ∈ (if spec.hasDevice = true then
          aliasPieces bindings ⟨id, type, fields, children, disabled, comment⟩ else []),
          piece.IsTidy := by
        split
        · exact quietPieces_isTidy _
        · simp
      simp only [hspec]
      generalize (if spec.hasDevice = true then
        aliasPieces bindings ⟨id, type, fields, children, disabled, comment⟩ else []) = quiet
        at halias ⊢
      generalize (if spec.hasDevice = true then
        resolvedAlias bindings ⟨id, type, fields, children, disabled, comment⟩ else none) = alias_
      have hsource : OneLine ((alias_.map aliasIdentifier).getD "leap") := by
        cases alias_ with
        | none => decide
        | some alias_ => exact aliasIdentifier_oneLine alias_
      have hsuite := suitePieces_isTidy ⟨id, type, alias_⟩ (depth + 1)
        (statementsPieces_isTidy children (depth + 1))
      have hhead {text : String} (h : OneLine text) (hfilled : text ≠ "") :
          (Piece.line .head ⟨id, type, alias_⟩ text depth).IsTidy := ⟨hfilled, h⟩
      have hlater {text : String} (h : OneLine text) (hfilled : text ≠ "") :
          (Piece.line .later ⟨id, type, alias_⟩ text depth).IsTidy := ⟨hfilled, h⟩
      refine List.forall_mem_append.mpr ⟨List.forall_mem_append.mpr
        ⟨commentPieces_isTidy _ _ _, halias⟩, ?_⟩
      cases htype : spec.type
      case onStart =>
        exact List.forall_mem_cons.mpr ⟨hhead (by decide) (by decide), hsuite⟩
      case repeat_ =>
        refine List.forall_mem_cons.mpr ⟨hhead ?_ (by simp), hsuite⟩
        simp only [oneLine_append]
        exact ⟨⟨by decide, hnumber _ _⟩, by decide⟩
      case every =>
        refine List.forall_mem_cons.mpr ⟨trivial, List.forall_mem_cons.mpr ⟨hhead ?_ (by simp),
          List.forall_mem_cons.mpr ⟨hlater ?_ (by simp), hsuite⟩⟩⟩
        · simp only [oneLine_append]
          exact ⟨⟨by decide, hnumber _ _⟩, by decide⟩
        · simp only [oneLine_append]
          refine ⟨⟨by decide, ⟨by decide, ?_⟩, by decide⟩, by decide⟩
          exact notMem_timer (by decide) (by decide) _ (defaultOf_isFinite hspec _)
      case onGesture =>
        refine List.forall_mem_cons.mpr ⟨trivial, List.forall_mem_cons.mpr ⟨hhead ?_ (by simp),
          List.forall_mem_cons.mpr ⟨hlater (by decide) (by decide), hsuite⟩⟩⟩
        simp only [oneLine_append]
        exact ⟨⟨⟨⟨by decide, hsource⟩, by decide⟩, pythonString_oneLine _⟩, by decide⟩
      case wait =>
        refine List.forall_mem_cons.mpr ⟨trivial, List.forall_mem_singleton.mpr
          (hhead ?_ (by simp))⟩
        simp only [oneLine_append]
        exact ⟨⟨by decide, hnumber _ _⟩, by decide⟩
      case log =>
        refine List.forall_mem_cons.mpr ⟨trivial, List.forall_mem_singleton.mpr
          (hhead ?_ (by simp))⟩
        simp only [oneLine_append]
        exact ⟨⟨by decide, pythonString_oneLine _⟩, by decide⟩
      case if_ =>
        cases children with
        | nil =>
          exact List.forall_mem_cons.mpr ⟨hhead (by decide) (by decide),
            suitePieces_isTidy _ _ (by simp)⟩
        | cons condition rest =>
          have hrest := suitePieces_isTidy ⟨id, type, alias_⟩ (depth + 1)
            (statementsPieces_isTidy rest (depth + 1))
          refine List.forall_mem_append.mpr ⟨quietPieces_isTidy _,
            List.forall_mem_cons.mpr ⟨hhead ?_ (by simp), hrest⟩⟩
          simp only [oneLine_append]
          exact ⟨⟨by decide, emitExpression_oneLine bindings condition _⟩, by decide⟩
      case parallel =>
        refine List.forall_mem_cons.mpr ⟨trivial, ?_⟩
        split
        · exact List.forall_mem_singleton.mpr (hhead (by decide) (by decide))
        · refine List.forall_mem_cons.mpr ⟨hhead (by decide) (by decide),
            List.forall_mem_append.mpr ⟨?_, List.forall_mem_singleton.mpr
              ⟨by decide, by decide⟩⟩⟩
          intro piece hpiece
          obtain ⟨action, _, haction⟩ := List.mem_flatMap.mp hpiece
          exact actionPieces_isTidy bindings _ action piece haction
      all_goals
        refine List.forall_mem_append.mpr ⟨quietPieces_isTidy _, ?_⟩
        intro piece hpiece
        rw [Option.mem_toList, Option.map_eq_some_iff] at hpiece
        obtain ⟨call, hcall, rfl⟩ := hpiece
        refine hhead ?_ (by simp)
        rw [oneLine_append]
        exact ⟨by decide, deviceCall_oneLine hspec hcall⟩

theorem statementsPieces_isTidy (children : List GeneratorBlock) (depth : ℕ) :
    ∀ piece ∈ statementsPieces bindings children depth, piece.IsTidy := by
  match children with
  | [] => simp [statementsPieces]
  | child :: rest =>
    intro piece hpiece
    rw [statementsPieces, List.mem_append] at hpiece
    rcases hpiece with hpiece | hpiece
    · split at hpiece
      · cases hpiece
      · exact statementPieces_isTidy child depth piece hpiece
    · exact statementsPieces_isTidy rest depth piece hpiece

end

theorem mainPieces_isTidy (starts loose : List GeneratorBlock) (anchor : GeneratorBlock) :
    ∀ piece ∈ mainPieces bindings starts loose anchor, piece.IsTidy := by
  refine List.forall_mem_append.mpr ⟨?_, List.forall_mem_cons.mpr ⟨⟨by decide, by decide⟩,
    List.forall_mem_append.mpr ⟨suitePieces_isTidy _ _ (statementsPieces_isTidy bindings _ _),
      List.forall_mem_singleton.mpr trivial⟩⟩⟩
  intro piece hpiece
  obtain ⟨start, _, hstart⟩ := List.mem_flatMap.mp hpiece
  exact commentPieces_isTidy _ _ _ piece hstart

theorem declarationPieces_isTidy (blocks : List GeneratorBlock) :
    ∀ piece ∈ declarationPieces bindings blocks, piece.IsTidy := by
  refine List.forall_mem_append.mpr ⟨?_, ?_⟩
  · intro piece hpiece
    obtain ⟨block, _, hblock⟩ := List.mem_flatMap.mp hpiece
    rcases List.mem_append.mp hblock with hblock | hblank
    · exact suitePieces_isTidy _ _ (statementsPieces_isTidy bindings [block] 0) piece hblock
    · rw [List.mem_singleton.mp hblank]
      trivial
  · split
    · simp
    · exact mainPieces_isTidy bindings _ _ _

theorem linesOf_oneLine {pieces : List Piece} (h : ∀ piece ∈ pieces, piece.IsTidy) :
    ∀ line ∈ linesOf pieces, OneLine line := by
  intro line hline
  obtain ⟨piece, hpiece, hline⟩ := List.mem_filterMap.mp hline
  have htidy := h piece hpiece
  cases piece with
  | line role owner text depth =>
    obtain ⟨hfilled, htext⟩ := htidy
    dsimp only at hline
    rw [if_neg hfilled, Option.some.injEq] at hline
    subst hline
    rw [oneLine_append]
    refine ⟨?_, htext⟩
    unfold OneLine Emitter.indent
    rw [String.toList_ofList]
    intro hmem
    cases (List.mem_replicate.mp hmem).2
  | blank =>
    obtain rfl := Option.some.inj hline
    decide
  | warning warning => cases hline
  | name name => cases hline

variable (localeCompare : String → String → Ordering) (blocks : List GeneratorBlock)

def importLine (imports : List SdkName) : String :=
  "from citxr import " ++ String.intercalate ", " (imports.map SdkName.text)

theorem importLine_isTidy (imports : List SdkName) :
    importLine imports ≠ "" ∧ OneLine (importLine imports) := by
  unfold importLine
  refine ⟨by simp, ?_⟩
  rw [oneLine_append]
  refine ⟨by decide, oneLine_intercalate ?_⟩
  intro text htext
  obtain ⟨name, _, rfl⟩ := List.mem_map.mp htext
  cases name <;> decide

theorem deviceLine_oneLine (binding : GeneratorBinding) : OneLine (deviceLine binding) := by
  unfold deviceLine
  simp only [oneLine_append]
  exact ⟨⟨⟨aliasIdentifier_oneLine _, by decide⟩, pythonString_oneLine _⟩, by decide⟩

theorem emit_margin (emitter : Emitter) (text : String) :
    emitter.emit text 0 none = { emitter with lines := emitter.lines ++ [text] } := by
  have hindent : (if text = "" then "" else Emitter.indent 0 ++ text) = text := by
    split
    · rename_i hempty
      exact hempty.symm
    · exact String.empty_append
  unfold Emitter.emit
  dsimp only
  rw [hindent]

theorem emitPreamble_lines (imports : List SdkName) :
    emitPreamble bindings localeCompare imports =
      ⟨[importLine imports, "", ""] ++ (sortedBindings localeCompare bindings).map deviceLine ++
        (if (sortedBindings localeCompare bindings).isEmpty then [] else ["", ""]),
        [], [], []⟩ := by
  have himports : importsEmitter imports = ⟨[importLine imports, "", ""], [], [], []⟩ := by
    unfold importsEmitter importLine
    rw [emit_margin, emit_margin, emit_margin]
    rfl
  have hdevices (devices : List GeneratorBinding) (lines : List String) :
      devices.foldl (fun (emitter : Emitter) binding => emitter.emit (deviceLine binding) 0 none)
        ⟨lines, [], [], []⟩ = ⟨lines ++ devices.map deviceLine, [], [], []⟩ := by
    induction devices generalizing lines with
    | nil => simp
    | cons binding devices ih =>
      rw [List.foldl_cons, emit_margin, ih, List.map_cons, List.append_assoc]
      rfl
  rw [emitPreamble_eq, himports]
  dsimp only
  rw [hdevices]
  split
  · rw [List.append_nil]
  · rw [emit_margin, emit_margin]
    dsimp only
    rw [List.append_assoc]
    rfl

def importedNames : List SdkName :=
  importOrder.filter fun name => name ∈ (emitDeclarations bindings blocks).used ∨ name = .device

def programLines : List String :=
  (emitPreamble bindings localeCompare (importedNames bindings blocks)).lines ++
    linesOf (declarationPieces bindings blocks)

theorem generatePython_python :
    (generatePython bindings localeCompare blocks).python =
      programText (programLines bindings localeCompare blocks) := by
  have hlines : (emitDeclarations bindings blocks).lines =
      linesOf (declarationPieces bindings blocks) := by
    rw [emitDeclarations_write, lines_writeAll]
    rfl
  unfold programLines
  rw [← hlines]
  rfl

theorem programLines_oneLine : ∀ line ∈ programLines bindings localeCompare blocks,
    OneLine line := by
  refine List.forall_mem_append.mpr ⟨?_,
    linesOf_oneLine (declarationPieces_isTidy bindings blocks)⟩
  rw [emitPreamble_lines]
  refine List.forall_mem_append.mpr ⟨List.forall_mem_append.mpr ⟨?_, ?_⟩, ?_⟩
  · simp only [List.forall_mem_cons, List.not_mem_nil, false_imp_iff, implies_true, and_true]
    exact ⟨(importLine_isTidy _).2, by decide, by decide⟩
  · intro line hline
    obtain ⟨binding, _, rfl⟩ := List.mem_map.mp hline
    exact deviceLine_oneLine binding
  · split
    · simp
    · intro line hline
      simp only [List.mem_cons, List.not_mem_nil, or_false, or_self] at hline
      rw [hline]
      decide

theorem programText_toList {lines : List String} {first : String} (hfirst : first ∈ lines)
    (hfilled : first ≠ "") :
    (programText lines).toList = PythonSource.unlines (lines.rdropWhile (· == "")) := by
  have hne : lines.rdropWhile (· == "") ≠ [] := by
    rw [Ne, List.rdropWhile_eq_nil_iff]
    intro hall
    exact hfilled (by simpa using hall first hfirst)
  exact PythonSource.join_newline hne

theorem split_programText {lines : List String} (h : ∀ line ∈ lines, OneLine line)
    {first : String} (hfirst : first ∈ lines) (hfilled : first ≠ "") :
    PyString.split (programText lines) '\n' = lines.rdropWhile (· == "") ++ [""] := by
  have hkept : ∀ line ∈ lines.rdropWhile (· == ""), '\n' ∉ line.toList := by
    intro line hline
    exact h line ((List.rdropWhile_prefix _ lines).subset hline)
  have hlines := PythonSource.lines_unlines hkept []
  rw [PythonSource.Source.lines] at hlines
  rw [← programText_toList hfirst hfilled, String.ofList_toList] at hlines
  exact hlines

theorem split_python :
    PyString.split (generatePython bindings localeCompare blocks).python '\n' =
      (programLines bindings localeCompare blocks).rdropWhile (· == "") ++ [""] := by
  rw [generatePython_python]
  have hfirst : importLine (importedNames bindings blocks) ∈
      programLines bindings localeCompare blocks := by
    unfold programLines
    rw [emitPreamble_lines]
    exact List.mem_append_left _ (List.mem_append_left _ (List.mem_append_left _
      (List.mem_cons_self ..)))
  exact split_programText (programLines_oneLine bindings localeCompare blocks) hfirst
    (importLine_isTidy _).1

end

end CitPhysicalXR.Blocks
