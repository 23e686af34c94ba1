import CitPhysicalXR.Blocks.PieceLines
import CitPhysicalXR.Foundation.CodeLines

/-! The lines that the generator writes for a block beside those for the same block without its
texts: alike but for the value of one literal. -/
namespace CitPhysicalXR.Blocks
open Foundation

/-- Code without literals, comments and line ends. -/
def IsPlainText (text : String) : Prop := ∀ c ∈ text.toList, PythonSource.isPlain c = true

instance (text : String) : Decidable (IsPlainText text) :=
  List.decidableBAll (fun c => PythonSource.isPlain c = true) text.toList

@[simp] theorem isPlainText_append (first second : String) :
    IsPlainText (first ++ second) ↔ IsPlainText first ∧ IsPlainText second := by
  unfold IsPlainText
  rw [String.toList_append]
  exact List.forall_mem_append

theorem isPlain_of_class {p : Char → Bool} (hp : ['\n', '\r', '#', '"', '\'', '\x00'].any p = false)
    {c : Char} (hc : p c = true) : PythonSource.isPlain c = true := by
  have hne {d : Char} (hd : d ∈ ['\n', '\r', '#', '"', '\'', '\x00']) : (c == d) = false := by
    rw [beq_eq_false_iff_ne]
    rintro rfl
    exact List.any_eq_false.mp hp c hd hc
  simp only [PythonSource.isPlain, PythonSource.isLineEnd, PythonSource.isQuote, bne,
    @hne '\n' (by decide), @hne '\r' (by decide), @hne '#' (by decide), @hne '"' (by decide),
    @hne '\'' (by decide), @hne '\x00' (by decide)]
  rfl

theorem pythonNumber_plain (value : Option JsonValue) {fallback : PyFloat}
    (h : fallback.isFinite = true) : IsPlainText (pythonNumber value fallback) :=
  fun c hc => isPlain_of_class (by decide) (pythonNumber_isNumeric value h c hc)

theorem timer_plain (value : Option JsonValue) {fallback : PyFloat}
    (h : fallback.isFinite = true) :
    IsPlainText (String.ofList (replacePoint (pythonNumber value fallback).toList)) := by
  intro c hc
  rw [String.toList_ofList] at hc
  rcases mem_replacePoint hc with rfl | hc
  · rfl
  · exact pythonNumber_plain value h c hc

theorem aliasIdentifier_plain (alias_ : String) : IsPlainText (aliasIdentifier alias_) := by
  intro c hc
  have hname := PythonText.isNameChar_of_isWord (aliasIdentifier_word alias_) c hc
  exact isPlain_of_class (p := PythonText.isNameChar) (by decide) hname

theorem target_plain (alias_ : Option String) {fallback : String} (h : IsPlainText fallback) :
    IsPlainText ((alias_.map aliasIdentifier).getD fallback) := by
  cases alias_ with
  | none => exact h
  | some alias_ => exact aliasIdentifier_plain alias_

theorem intercalate_plain {texts : List String} (h : ∀ text ∈ texts, IsPlainText text) :
    IsPlainText (String.intercalate ", " texts) := by
  induction texts with
  | nil => decide
  | cons text texts ih =>
    have hfirst := h text (List.mem_cons_self ..)
    cases texts with
    | nil => simpa using hfirst
    | cons next texts =>
      rw [String.intercalate_cons_cons, isPlainText_append, isPlainText_append]
      exact ⟨⟨hfirst, by decide⟩, ih fun other hother => h other (.tail _ hother)⟩

/-- The characters of a text that can be quoted are read back. -/
theorem denotes_escaped {text : List Char} (h : ∀ c ∈ text, c ≠ '\r' ∧ c ≠ '\x00') :
    PythonSource.Denotes .cpython '"' (text.flatMap escapeChar) text := by
  induction text with
  | nil => exact PythonSource.denotes_nil '"'
  | cons c text ih =>
    have hrest := ih fun d hd => h d (.tail _ hd)
    obtain ⟨hreturn, hnull⟩ := h c (List.mem_cons_self ..)
    have hfirst : PythonSource.Denotes .cpython '"' (escapeChar c) [c] := by
      unfold escapeChar
      split
      · rename_i hc
        subst hc
        exact PythonSource.denotes_escape (by decide) (by decide) (by decide)
      · split
        · rename_i hc
          subst hc
          exact PythonSource.denotes_escape (by decide) (by decide) (by decide)
        · split
          · rename_i hc
            subst hc
            exact PythonSource.denotes_escape (by decide) (by decide) (by decide)
          · rename_i hslash hquote hnewline
            have hend : PythonSource.isLineEnd c = false := by
              simp [PythonSource.isLineEnd, hnewline, hreturn]
            exact PythonSource.denotes_char hend hquote hslash
              (PythonSource.refuses_graphic hnull)
    exact hfirst.append hrest

theorem literal_none {text : List Char} (h : ∃ c ∈ text, c = '\r' ∨ c = '\x00')
    (value rest : List Char) :
    PythonSource.read .cpython (.literal '"' value) (text.flatMap escapeChar ++ rest) = none := by
  induction text generalizing value with
  | nil =>
    obtain ⟨c, hc, _⟩ := h
    cases hc
  | cons c text ih =>
    rw [List.flatMap_cons, List.append_assoc]
    by_cases hbad : c = '\r' ∨ c = '\x00'
    · have hescape : escapeChar c = [c] := by
        rcases hbad with rfl | rfl <;> rfl
      rw [hescape]
      apply PythonSource.read_literal_none
      rcases hbad with rfl | rfl
      · exact .inl rfl
      · exact .inr rfl
    · have hone := @denotes_escaped [c] (by simpa [not_or] using hbad)
      rw [List.flatMap_singleton] at hone
      rw [hone]
      refine ih ?_ _
      obtain ⟨d, hd, hdbad⟩ := h
      rcases List.mem_cons.mp hd with rfl | hd
      · exact absurd hdbad hbad
      · exact ⟨d, hd, hdbad⟩

/-- A line and the same line without its text; whether the text can be quoted. -/
inductive Beside : Bool → String → String → Prop
  | same {text : String} (hplain : IsPlainText text)
    (hfilled : PythonSource.isBlankLine text = false) : Beside true text text
  | quoted {before after : String} (value bare : Option JsonValue) (hbefore : IsPlainText before)
    (hopens : before.toList.getLast?.any PythonSource.opens = true) (hafter : IsPlainText after)
    (hbare : isQuotable (textOf bare) = true) :
    Beside (isQuotable (textOf value)) (before ++ pythonString value ++ after)
      (before ++ pythonString bare ++ after)

theorem isBlankLine_append (first second : String) :
    PythonSource.isBlankLine (first ++ second) =
      (PythonSource.isBlankLine first && PythonSource.isBlankLine second) := by
  unfold PythonSource.isBlankLine
  rw [String.toList_append, List.all_append]

/-- Code around a line. -/
theorem Beside.wrap {quotes : Bool} {text bare before after : String} (h : Beside quotes text bare)
    (hbefore : IsPlainText before) (hafter : IsPlainText after) :
    Beside quotes (before ++ text ++ after) (before ++ bare ++ after) := by
  cases h with
  | same hplain hfilled =>
    refine .same ?_ ?_
    · simp only [isPlainText_append]
      exact ⟨⟨hbefore, hplain⟩, hafter⟩
    · rw [isBlankLine_append, isBlankLine_append, hfilled, Bool.and_false, Bool.false_and]
  | @quoted inner outer value bare hinner hopens houter hbare =>
    have hshape (middle : String) : before ++ (inner ++ middle ++ outer) ++ after =
        (before ++ inner) ++ middle ++ (outer ++ after) := by
      simp only [String.append_assoc]
    rw [hshape, hshape]
    refine .quoted value bare ?_ ?_ ?_ hbare
    · rw [isPlainText_append]
      exact ⟨hbefore, hinner⟩
    · rw [String.toList_append, List.getLast?_append]
      cases hlast : inner.toList.getLast? with
      | none => rw [hlast] at hopens; cases hopens
      | some c => rw [hlast] at hopens; exact hopens
    · rw [isPlainText_append]
      exact ⟨houter, hafter⟩

theorem Beside.before {quotes : Bool} {text bare before : String} (h : Beside quotes text bare)
    (hbefore : IsPlainText before) : Beside quotes (before ++ text) (before ++ bare) := by
  have hboth := h.wrap hbefore (show IsPlainText "" by decide)
  rwa [String.append_empty, String.append_empty] at hboth

theorem Beside.codeOf {quotes : Bool} {text bare : String} (h : Beside quotes text bare) :
    ∃ code, PythonSource.codeOf .cpython [bare] = some [code] ∧
      PythonSource.codeOf .cpython [text] = if quotes then some [code] else none := by
  cases h with
  | same hplain hfilled =>
    have hline : '\n' ∉ text.toList := by
      intro hmem
      cases hplain '\n' hmem
    have hreads := PythonSource.codeOf_readsLine
      (@PythonSource.readsLine_plain .cpython _ hplain) hline hfilled
    exact ⟨text, hreads, hreads⟩
  | @quoted before after value bare hbefore hopens hafter hbare =>
    have hlast : PythonSource.opens (before.toList.getLast?.getD '\n') = true := by
      cases hlast : before.toList.getLast? with
      | none => rw [hlast] at hopens; cases hopens
      | some c => rw [hlast] at hopens; exact hopens
    have hreads {value : Option JsonValue} (h : isQuotable (textOf value) = true) :
        PythonSource.codeOf .cpython [before ++ pythonString value ++ after] =
          some [before ++ "\"\"" ++ after] := by
      have hbody := @denotes_escaped (textOf value).toList fun c hc => by
        simpa using List.all_eq_true.mp h c hc
      have hline := PythonSource.readsLine_literal hbefore hlast hbody hafter
      refine @PythonSource.codeOf_readsLine .cpython _ _ [String.ofList (textOf value).toList] ?_ ?_
        ?_
      · simpa [pythonString_toList] using hline
      · have hone {part : String} (h : IsPlainText part) : '\n' ∉ part.toList := by
          intro hmem
          cases h '\n' hmem
        simp [hone hbefore, hone hafter]
      · rw [isBlankLine_append, isBlankLine_append]
        have hquote : PythonSource.isBlankLine "\"\"" = false := by rfl
        rw [hquote, Bool.and_false, Bool.false_and]
    refine ⟨before ++ "\"\"" ++ after, hreads hbare, ?_⟩
    cases hvalue : isQuotable (textOf value) with
    | true => exact hreads hvalue
    | false =>
      have hbad : ∃ c ∈ (textOf value).toList, c = '\r' ∨ c = '\x00' := by
        obtain ⟨c, hc, hbad⟩ := List.all_eq_false.mp hvalue
        refine ⟨c, hc, ?_⟩
        simp only [Bool.and_eq_true, bne_iff_ne, not_and_or, not_not] at hbad
        exact hbad
      apply PythonSource.codeOf_breaksLine
      have hbreaks := @PythonSource.breaksLine_literal .cpython _
        ((textOf value).toList.flatMap escapeChar ++ '"' :: after.toList) hbefore hlast
        (by
          intro rest
          rw [List.append_assoc]
          exact literal_none hbad [] _)
      simpa [pythonString_toList] using hbreaks

/-- The fields that are written as literals. -/
def textFields : List String := ["message", "text", "gesture", "port"]

def eraseField (entry : String × JsonValue) : String × JsonValue :=
  if entry.1 ∈ textFields then (entry.1, .str "") else entry

mutual

/-- A block without its texts and comments, and those of the blocks in it. -/
def GeneratorBlock.erased (block : GeneratorBlock) : GeneratorBlock :=
  match block with
  | ⟨id, type, fields, children, disabled, _⟩ =>
    ⟨id, type, fields.map eraseField, erasedAll children, disabled, none⟩

def erasedAll (children : List GeneratorBlock) : List GeneratorBlock :=
  match children with
  | [] => []
  | child :: rest => child.erased :: erasedAll rest

end

theorem erasedAll_eq (children : List GeneratorBlock) :
    erasedAll children = children.map GeneratorBlock.erased := by
  induction children with
  | nil => rfl
  | cons child rest ih => rw [erasedAll, ih, List.map_cons]

section
variable (block : GeneratorBlock)

@[simp] theorem erased_id : block.erased.id = block.id := by
  obtain ⟨id, type, fields, children, disabled, comment⟩ := block
  rw [GeneratorBlock.erased]

@[simp] theorem erased_type : block.erased.type = block.type := by
  obtain ⟨id, type, fields, children, disabled, comment⟩ := block
  rw [GeneratorBlock.erased]

@[simp] theorem erased_disabled : block.erased.disabled = block.disabled := by
  obtain ⟨id, type, fields, children, disabled, comment⟩ := block
  rw [GeneratorBlock.erased]

@[simp] theorem erased_comment : block.erased.comment = none := by
  obtain ⟨id, type, fields, children, disabled, comment⟩ := block
  rw [GeneratorBlock.erased]

@[simp] theorem erased_children : block.erased.children = erasedAll block.children := by
  obtain ⟨id, type, fields, children, disabled, comment⟩ := block
  rw [GeneratorBlock.erased]

theorem erased_fields : block.erased.fields = block.fields.map eraseField := by
  obtain ⟨id, type, fields, children, disabled, comment⟩ := block
  rw [GeneratorBlock.erased]

theorem lookup_eraseField (fields : List (String × JsonValue)) (name : String) :
    (fields.map eraseField).lookup name =
      if name ∈ textFields then (fields.lookup name).map fun _ => .str ""
      else fields.lookup name := by
  induction fields with
  | nil => simp
  | cons entry fields ih =>
    have hname : (eraseField entry).1 = entry.1 := by
      unfold eraseField
      split <;> rfl
    obtain ⟨other, value⟩ := entry
    by_cases hother : name = other
    · subst hother
      rw [List.map_cons]
      unfold eraseField
      by_cases hmem : name ∈ textFields <;> simp [hmem]
    · have hne : (name == other) = false := beq_eq_false_iff_ne.mpr hother
      rw [List.map_cons, ← Prod.mk.eta (p := eraseField (other, value)), hname, List.lookup_cons,
        List.lookup_cons]
      dsimp only
      rw [hne]
      exact ih

theorem erased_field {name : String} (h : name ∉ textFields) :
    block.erased.field name = block.field name := by
  unfold GeneratorBlock.field
  rw [erased_fields, lookup_eraseField, if_neg h]

theorem erased_text {name : String} (h : name ∈ textFields) :
    block.erased.field name = (block.field name).map fun _ => .str "" := by
  unfold GeneratorBlock.field
  rw [erased_fields, lookup_eraseField, if_pos h]

theorem erased_quotable {name : String} (h : name ∈ textFields) {fallback : String}
    (hfallback : isQuotable fallback = true) :
    isQuotable (textOf (block.erased.field name)) = true ∧
      isQuotable (textOf (orText (block.erased.field name) fallback)) = true := by
  rw [erased_text block h]
  cases block.field name with
  | none => exact ⟨rfl, hfallback⟩
  | some value => exact ⟨rfl, rfl⟩

theorem warn_erased (emitter : Emitter) (message recovery : String) :
    emitter.warn block.erased message recovery = emitter.warn block message recovery := by
  unfold Emitter.warn
  rw [erased_id, erased_type]

theorem resolveAlias_erased (bindings : List GeneratorBinding) :
    resolveAlias bindings block.erased = resolveAlias bindings block := by
  have hdevice := @erased_field block "device" (by decide)
  funext emitter
  unfold resolveAlias
  simp only [hdevice, warn_erased]

theorem emitExpression_erased (bindings : List GeneratorBinding) :
    emitExpression bindings block.erased = emitExpression bindings block := by
  funext emitter
  unfold emitExpression
  simp only [resolveAlias_erased, erased_type, warn_erased]

end

theorem callText_first (target method name : String) (arguments : List (String × String))
    (harguments : ∀ argument ∈ arguments, IsPlainText argument.1 ∧ IsPlainText argument.2) :
    ∃ after, IsPlainText after ∧ ∀ value, callText target method ((name, value) :: arguments) =
      (target ++ "." ++ method ++ "(" ++ name ++ "=") ++ value ++ after := by
  have hrest : IsPlainText (String.intercalate ", "
      (arguments.map fun argument => argument.1 ++ "=" ++ argument.2)) := by
    apply intercalate_plain
    intro text htext
    obtain ⟨argument, hargument, rfl⟩ := List.mem_map.mp htext
    obtain ⟨hname, hvalue⟩ := harguments argument hargument
    simp only [isPlainText_append]
    exact ⟨⟨hname, by decide⟩, hvalue⟩
  cases arguments with
  | nil =>
    refine ⟨")", by decide, fun value => ?_⟩
    unfold callText
    simp only [List.map_cons, List.map_nil, String.intercalate_singleton, String.append_assoc]
  | cons second others =>
    refine ⟨", " ++ String.intercalate ", " ((second :: others).map fun argument =>
      argument.1 ++ "=" ++ argument.2) ++ ")", ?_, fun value => ?_⟩
    · simp only [isPlainText_append]
      exact ⟨⟨by decide, hrest⟩, by decide⟩
    · unfold callText
      simp only [List.map_cons, String.intercalate_cons_cons, String.append_assoc]

theorem callText_plain {target method : String} {arguments : List (String × String)}
    (htarget : IsPlainText target) (hmethod : IsPlainText method)
    (h : ∀ argument ∈ arguments, IsPlainText argument.1 ∧ IsPlainText argument.2) :
    IsPlainText (callText target method arguments) := by
  unfold callText
  simp only [isPlainText_append]
  refine ⟨⟨⟨⟨⟨htarget, by decide⟩, hmethod⟩, by decide⟩, intercalate_plain ?_⟩, by decide⟩
  intro text htext
  obtain ⟨argument, hargument, rfl⟩ := List.mem_map.mp htext
  obtain ⟨hname, hvalue⟩ := h argument hargument
  simp only [isPlainText_append]
  exact ⟨⟨hname, by decide⟩, hvalue⟩

theorem callText_filled (target method : String) (arguments : List (String × String)) :
    PythonSource.isBlankLine (callText target method arguments) = false := by
  have hbracket : PythonSource.isBlankLine ")" = false := by rfl
  unfold callText
  rw [isBlankLine_append, hbracket, Bool.and_false]

theorem beside_call {target method name : String} {arguments : List (String × String)}
    (htarget : IsPlainText target) (hmethod : IsPlainText method) (hname : IsPlainText name)
    (h : ∀ argument ∈ arguments, IsPlainText argument.1 ∧ IsPlainText argument.2)
    (value bare : Option JsonValue) (hbare : isQuotable (textOf bare) = true) :
    Beside (isQuotable (textOf value)) (callText target method ((name, pythonString value) ::
      arguments)) (callText target method ((name, pythonString bare) :: arguments)) := by
  obtain ⟨after, hafter, hcall⟩ := callText_first target method name arguments h
  rw [hcall, hcall]
  refine .quoted value bare ?_ ?_ hafter hbare
  · simp only [isPlainText_append]
    exact ⟨⟨⟨⟨⟨htarget, by decide⟩, hmethod⟩, by decide⟩, hname⟩, by decide⟩
  · have hlast : ("=" : String).toList.getLast? = some '=' := by rfl
    rw [String.toList_append, List.getLast?_append, hlast]
    rfl

theorem deviceCall_beside {block : GeneratorBlock} {spec : BlockSpec}
    (hspec : blockSpec block.type = some spec) (alias_ : Option String)
    (emitter : Emitter) :
    (deviceCall block.erased (alias_.map aliasIdentifier) spec emitter).2 =
        (deviceCall block (alias_.map aliasIdentifier) spec emitter).2 ∧
    ((deviceCall block (alias_.map aliasIdentifier) spec emitter).1 = none ∧
        (deviceCall block.erased (alias_.map aliasIdentifier) spec emitter).1 = none ∨
      ∃ call bare, (deviceCall block (alias_.map aliasIdentifier) spec emitter).1 = some call ∧
        (deviceCall block.erased (alias_.map aliasIdentifier) spec emitter).1 = some bare ∧
        Beside (isQuotable (quotedText block spec.type)) call bare) := by
  have hnumber (name : String) :
      IsPlainText (pythonNumber (block.field name) (spec.defaultOf name)) :=
    pythonNumber_plain _ (defaultOf_isFinite hspec name)
  have hsame {name : String} (h : name ∉ textFields) := erased_field block h
  cases alias_ with
  | none => exact ⟨rfl, .inl ⟨rfl, rfl⟩⟩
  | some alias_ =>
    have htarget := aliasIdentifier_plain alias_
    have hplain {method : String} {arguments : List (String × String)}
        (hmethod : IsPlainText method) (h : ∀ argument ∈ arguments, IsPlainText argument.1 ∧ IsPlainText argument.2) :
        Beside (isQuotable "") (callText (aliasIdentifier alias_) method arguments)
          (callText (aliasIdentifier alias_) method arguments) :=
      .same (callText_plain htarget hmethod h) (callText_filled _ _ _)
    have hnumbers (names : List String) (hnames : ∀ name ∈ names, IsPlainText name) :
        ∀ argument ∈ names.map fun name =>
            (name, pythonNumber (block.field name) (spec.defaultOf name)),
          IsPlainText argument.1 ∧ IsPlainText argument.2 := by
      intro argument hargument
      obtain ⟨name, hname, rfl⟩ := List.mem_map.mp hargument
      exact ⟨hnames name hname, hnumber name⟩
    unfold deviceCall
    simp only [Option.map_some, warn_erased, erased_type, @hsame "speed" (by decide),
      @hsame "durationSeconds" (by decide), @hsame "angle" (by decide),
      @hsame "distanceMillimetres" (by decide), @hsame "pitch" (by decide),
      @hsame "yaw" (by decide)]
    cases htype : spec.type
    case driveVelocity =>
      exact ⟨rfl, .inr ⟨_, _, rfl, rfl,
        hplain (by decide) (hnumbers ["speed", "durationSeconds"] (by decide))⟩⟩
    case stop => exact ⟨rfl, .inr ⟨_, _, rfl, rfl, hplain (by decide) (by simp)⟩⟩
    case driveStraight =>
      exact ⟨rfl, .inr ⟨_, _, rfl, rfl,
        hplain (by decide) (hnumbers ["distanceMillimetres", "speed"] (by decide))⟩⟩
    case driveTurn =>
      exact ⟨rfl, .inr ⟨_, _, rfl, rfl,
        hplain (by decide) (hnumbers ["angle", "speed"] (by decide))⟩⟩
    case gimbal =>
      exact ⟨rfl, .inr ⟨_, _, rfl, rfl,
        hplain (by decide) (hnumbers ["pitch", "yaw"] (by decide))⟩⟩
    case motorRun =>
      exact ⟨rfl, .inr ⟨_, _, rfl, rfl, beside_call htarget (by decide) (by decide)
        (hnumbers ["speed", "durationSeconds"] (by decide)) _ _
        (erased_quotable block (by decide) (by decide)).2⟩⟩
    case motorAngle =>
      exact ⟨rfl, .inr ⟨_, _, rfl, rfl, beside_call htarget (by decide) (by decide)
        (hnumbers ["angle", "speed"] (by decide)) _ _
        (erased_quotable block (by decide) (by decide)).2⟩⟩
    case hubDisplay | hudShow =>
      exact ⟨rfl, .inr ⟨_, _, rfl, rfl, beside_call htarget (by decide) (by decide) (by simp) _ _
        (@erased_quotable block "text" (by decide) "" (by decide)).1⟩⟩
    all_goals exact ⟨rfl, .inl ⟨rfl, rfl⟩⟩

end CitPhysicalXR.Blocks
