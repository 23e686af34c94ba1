import CitPhysicalXR.Blocks.GeneratedLines

/-! What an emitter adds to its lines, as the logical lines that Python reads: comments, single
lines and the lines of a call of `parallel`. -/
namespace CitPhysicalXR.Blocks
open Foundation PythonText Scan Reading

def readLines (layout : Layout) (lines : List String) : Option Layout :=
  lines.foldlM (fun layout line => Layout.readLine takesAwaitables layout line.toList) layout

theorem readLines_cons (layout : Layout) (line : String) (lines : List String) :
    readLines layout (line :: lines) =
      (Layout.readLine takesAwaitables layout line.toList).bind fun next =>
        readLines next lines := rfl

theorem readLines_append (layout : Layout) (first second : List String) :
    readLines layout (first ++ second) =
      (readLines layout first).bind fun next => readLines next second :=
  List.foldlM_append ..

/-- The lines are read as the logical lines. -/
def Reads (lines : List String) (entries : List Entry) : Prop :=
  ∀ layout : Layout, layout.open_ = none → readLines layout lines = layout.readAll entries

theorem reads_nil : Reads [] [] := fun _ _ => rfl

theorem Reads.append {first second : List String} {before after : List Entry}
    (hfirst : Reads first before) (hsecond : Reads second after) :
    Reads (first ++ second) (before ++ after) := by
  intro layout hopen
  rw [readLines_append, Layout.readAll_append, hfirst layout hopen]
  cases hread : layout.readAll before with
  | none => rfl
  | some next => exact hsecond next (Layout.readAll_open hopen hread)

structure Writes (before after : Emitter) (silent : Bool) (entries : List Entry) : Prop where
  adds : ∃ added, after.lines = before.lines ++ added ∧ Reads added entries ∧
    (added = [] ↔ silent = true)

theorem Writes.same {before after : Emitter} (h : after.lines = before.lines) :
    Writes before after true [] := by
  refine ⟨[], ?_, reads_nil, by simp⟩
  rw [h, List.append_nil]

theorem Writes.trans {first second third : Emitter} {firstSilent secondSilent : Bool}
    {before after : List Entry} (hfirst : Writes first second firstSilent before)
    (hsecond : Writes second third secondSilent after) :
    Writes first third (firstSilent && secondSilent) (before ++ after) := by
  obtain ⟨added, hadded, hreads, hsilent⟩ := hfirst.adds
  obtain ⟨more, hmore, hreadsMore, hsilentMore⟩ := hsecond.adds
  refine ⟨added ++ more, ?_, hreads.append hreadsMore, ?_⟩
  · rw [hmore, hadded, List.append_assoc]
  · rw [List.append_eq_nil_iff, hsilent, hsilentMore, Bool.and_eq_true]

theorem Writes.silent_iff {before after : Emitter} {silent : Bool} {entries : List Entry}
    (h : Writes before after silent entries) :
    after.lines.length = before.lines.length ↔ silent = true := by
  obtain ⟨added, hadded, _, hsilent⟩ := h.adds
  rw [← hsilent, hadded, List.length_append]
  constructor
  · intro hlength
    exact List.eq_nil_of_length_eq_zero (by omega)
  · rintro rfl
    simp

theorem emit_lines (emitter : Emitter) {text : String} (h : text ≠ "") (depth : ℕ)
    (origin : Option SourceOrigin) :
    (emitter.emit text depth origin).lines = emitter.lines ++ [Emitter.indent depth ++ text] := by
  unfold Emitter.emit
  rw [if_neg h]
  cases origin <;> rfl

theorem indent_toList (depth : ℕ) (text : String) :
    (Emitter.indent depth ++ text).toList = List.replicate (4 * depth) ' ' ++ text.toList := by
  rw [String.toList_append, Emitter.indent, String.toList_ofList]

theorem ne_empty_of_content {text : String} {c : Char} {rest : List Char}
    (h : text.toList = c :: rest) : text ≠ "" := by
  rintro rfl
  cases h

theorem writes_emit (emitter : Emitter) {text : String} (hfilled : text ≠ "") (depth : ℕ)
    (origin : Option SourceOrigin) {kind : Bool → Option LineKind}
    (h : ReadsLine text.toList kind) :
    Writes emitter (emitter.emit text depth origin) false [⟨4 * depth, kind⟩] := by
  refine ⟨[Emitter.indent depth ++ text], emit_lines emitter hfilled depth origin, ?_, by simp⟩
  intro layout hopen
  rw [readLines_cons, indent_toList, h (4 * depth) layout hopen]
  rfl

theorem writes_blank (emitter : Emitter) :
    Writes emitter (emitter.emit "" 0 none) false [] := ⟨[""], rfl, fun _ _ => rfl, by simp⟩

/-- What follows a carriage return in a line of a comment is blank or a comment again. -/
def commentStays (line : List Char) : Bool :=
  (physicalLines line).tail.all fun rest => Layout.isSkipped (rest.dropWhile (· == ' '))

/-- A comment has no code after a carriage return in it. -/
def isInert (comment : Option String) : Bool :=
  match comment with
  | none => true
  | some comment => (comment.toList.splitOn '\n').all commentStays

def hasNull (comment : Option String) : Bool :=
  match comment with
  | none => false
  | some comment => (comment.toList.splitOn '\n').any fun line => line.contains '\x00'

def hasComment (comment : Option String) : Bool :=
  match comment with
  | none => false
  | some comment => comment != ""

/-- A line that Python skips, unless there is a null character in it. -/
theorem step_comment (layout : Layout) {line : List Char}
    (h : Layout.isSkipped (line.dropWhile (· == ' ')) = true) :
    layout.step takesAwaitables line = if '\x00' ∈ line then none else some layout := by
  have hmem : '\x00' ∈ line.dropWhile (· == ' ') ↔ '\x00' ∈ line := by
    constructor
    · intro hmem
      exact (List.dropWhile_sublist _).mem hmem
    · intro hmem
      rw [← List.takeWhile_append_dropWhile (p := (· == ' ')) (l := line)] at hmem
      rcases List.mem_append.mp hmem with hblank | hmem
      · have hnull := List.mem_takeWhile_imp hblank
        exact absurd hnull (by decide)
      · exact hmem
  unfold Layout.step
  dsimp only
  rw [h, if_pos rfl]
  simp only [hmem]

theorem readSkipped (layout : Layout) {lines : List (List Char)}
    (h : ∀ line ∈ lines, Layout.isSkipped (line.dropWhile (· == ' ')) = true) :
    lines.foldlM (Layout.step takesAwaitables) layout =
      if ∃ line ∈ lines, '\x00' ∈ line then none else some layout := by
  induction lines with
  | nil => simp
  | cons line lines ih =>
    have hrest := ih fun other hother => h other (.tail _ hother)
    rw [List.foldlM_cons, step_comment layout (h line (List.mem_cons_self ..))]
    by_cases hnull : '\x00' ∈ line
    · simp [hnull]
    · simp only [hnull, if_false]
      refine hrest.trans ?_
      simp [hnull]

theorem mem_physicalLines {text : List Char} {c : Char} (hnewline : c ≠ '\n') (hreturn : c ≠ '\r') :
    (∃ line ∈ physicalLines text, c ∈ line) ↔ c ∈ text := by
  induction text with
  | nil => simp [physicalLines]
  | cons d text ih =>
    by_cases hend : d = '\n' ∨ d = '\r'
    · have hd : c ≠ d := by
        rintro rfl
        exact hend.elim hnewline hreturn
      simp only [physicalLines, if_pos hend, List.mem_cons, exists_eq_or_imp, List.not_mem_nil,
        false_or, ih]
      simp [hd]
    · simp only [physicalLines, if_neg hend]
      cases hlines : physicalLines text with
      | nil => exact absurd hlines (physicalLines_ne_nil text)
      | cons line lines =>
        rw [hlines] at ih
        simp only [List.mem_cons, exists_eq_or_imp] at ih ⊢
        rw [or_assoc, ih]

theorem readLine_comment (layout : Layout) (depth : ℕ) {line : List Char}
    (h : commentStays line = true) :
    Layout.readLine takesAwaitables layout
        (List.replicate (4 * depth) ' ' ++ "# ".toList ++ line) =
      if '\x00' ∈ line then none else some layout := by
  have hplain : ∀ c ∈ List.replicate (4 * depth) ' ' ++ "# ".toList, isLineEnd c = false := by
    intro c hc
    rcases List.mem_append.mp hc with hblank | hc
    · rw [(List.mem_replicate.mp hblank).2]
      rfl
    · have hmark : ("# ".toList.all fun c => !isLineEnd c) = true := by decide
      simpa using List.all_eq_true.mp hmark c hc
  obtain ⟨first, rest, hline, hlines⟩ := physicalLines_extend hplain line
  have hfirst : Layout.isSkipped ((List.replicate (4 * depth) ' ' ++ "# ".toList ++ first).dropWhile
      (· == ' ')) = true := by
    have hhead : ("# ".toList ++ first).head? ≠ some ' ' := by
      show some '#' ≠ some ' '
      decide
    rw [List.append_assoc, (Layout.takeWhile_blanks (4 * depth) hhead).2]
    rfl
  have hskipped : ∀ other ∈ (List.replicate (4 * depth) ' ' ++ "# ".toList ++ first) :: rest,
      Layout.isSkipped (other.dropWhile (· == ' ')) = true := by
    intro other hother
    rcases List.mem_cons.mp hother with rfl | hother
    · exact hfirst
    · unfold commentStays at h
      rw [hline] at h
      exact List.all_eq_true.mp h other hother
  have hnull : (∃ other ∈ (List.replicate (4 * depth) ' ' ++ "# ".toList ++ first) :: rest,
      '\x00' ∈ other) ↔ '\x00' ∈ line := by
    rw [← hlines, mem_physicalLines (by decide) (by decide), List.mem_append]
    constructor
    · rintro (hmem | hmem)
      · exact absurd (hplain _ hmem) (by decide)
      · exact hmem
    · exact .inr
  unfold Layout.readLine
  rw [hlines, readSkipped layout hskipped]
  simp only [hnull]

theorem emit_comments (emitter : Emitter) (depth : ℕ) (lines : List (List Char)) :
    (lines.foldl (fun emitter line =>
        emitter.emit ("# " ++ String.ofList line) depth none) emitter).lines =
      emitter.lines ++ lines.map fun line => Emitter.indent depth ++ ("# " ++ String.ofList line) := by
  induction lines generalizing emitter with
  | nil => simp
  | cons line lines ih =>
    have htext : ("# " ++ String.ofList line).toList = '#' :: ' ' :: line := by
      simp only [String.toList_append, String.toList_ofList]
      rfl
    have hfilled := ne_empty_of_content htext
    rw [List.foldl_cons, ih, emit_lines emitter hfilled, List.map_cons]
    simp

theorem readLines_comments (layout : Layout) (depth : ℕ) {lines : List (List Char)}
    (h : lines.all commentStays = true) :
    readLines layout (lines.map fun line =>
        Emitter.indent depth ++ ("# " ++ String.ofList line)) =
      if lines.any fun line => line.contains '\x00' then none else some layout := by
  induction lines with
  | nil => rfl
  | cons line lines ih =>
    rw [List.all_cons, Bool.and_eq_true] at h
    have htext : (Emitter.indent depth ++ ("# " ++ String.ofList line)).toList =
        List.replicate (4 * depth) ' ' ++ "# ".toList ++ line := by
      simp only [Emitter.indent, String.toList_append, String.toList_ofList, List.append_assoc]
    rw [List.map_cons, readLines_cons, htext, readLine_comment layout depth h.1, List.any_cons]
    by_cases hnull : '\x00' ∈ line
    · simp [hnull]
    · rw [if_neg hnull, Option.bind_some, ih h.2]
      simp [hnull]

/-- The logical lines of a comment: none, or one that cannot be read. -/
def commentEntries (comment : Option String) (depth : ℕ) : List Entry :=
  if hasNull comment then [⟨4 * depth, fun _ => none⟩] else []

theorem writes_comment (emitter : Emitter) {comment : Option String} (h : isInert comment = true)
    (depth : ℕ) :
    Writes emitter (emitComment comment depth emitter) (!hasComment comment)
      (commentEntries comment depth) := by
  cases comment with
  | none => exact .same rfl
  | some comment =>
    unfold emitComment
    dsimp only
    by_cases hempty : comment = ""
    · subst hempty
      exact .same rfl
    · rw [if_neg hempty]
      refine ⟨_, emit_comments emitter depth _, ?_, ?_⟩
      · intro layout _
        rw [readLines_comments layout depth h]
        unfold commentEntries hasNull
        dsimp only
        split
        · rw [Layout.readAll_cons, Layout.enter_none]
          rfl
        · rfl
      · have hlines : comment.toList.splitOn '\n' ≠ [] := List.splitOn_ne_nil _ _
        simp [hasComment, hempty, hlines]

theorem commentEntries_fills (comment : Option String) (depth : ℕ) (canAwait : Bool) :
    Fills (4 * depth) canAwait false (!hasNull comment) (commentEntries comment depth) := by
  unfold commentEntries
  cases hasNull comment with
  | true => exact Fills.illegal rfl
  | false => exact Fills.nil

/-- The text of an argument: a call, `None`, or a call that is cut off. -/
inductive ActionText : Bool → List Char → Prop
  | call (text : List Char) (reads : CallText true text)
    (content : ∀ rest, Layout.Content (text ++ rest)) : ActionText true text
  | none : ActionText false "None".toList
  | cut (text : List Char) (breaks : Breaks text)
    (content : ∀ rest, Layout.Content (text ++ rest)) : ActionText false text

/-- The tokens before the arguments. -/
def parallelOpening : List Token := [.word "await".toList, .word "parallel".toList, .mark '(']

theorem openBrackets_parallel {done : List (Bool × List Token)} {tokens : List Token}
    (h : ∀ action ∈ done, IsAction takesAwaitables action.1 action.2) :
    Layout.openBrackets (parallelOpening ++ actionsOf done ++ tokens) =
      tokens.foldlM Layout.bracketStep 1 := by
  have hopening : Layout.openBrackets parallelOpening = some 1 := rfl
  apply Layout.openBrackets_append
  rw [Layout.openBrackets_append hopening]
  exact balanced_actions h 1

theorem actionsOf_concat (done : List (Bool × List Token)) (legal : Bool) (tokens : List Token) :
    actionsOf (done ++ [(legal, tokens)]) = actionsOf done ++ (tokens ++ [Token.mark ',']) := by
  simp [actionsOf]

theorem readLine_action (layout : Layout) (depth : ℕ) {done : List (Bool × List Token)}
    (hdone : ∀ action ∈ done, IsAction takesAwaitables action.1 action.2) {legal : Bool}
    {text : String} {tokens : List Token} (hcontent : Layout.Content (text.toList ++ [',']))
    (hspells : Spells (text.toList ++ [',']) (tokens ++ [Token.mark ',']))
    (haction : IsAction takesAwaitables legal tokens) :
    Layout.readLine takesAwaitables
        { layout with open_ := some (4 * depth, parallelOpening ++ actionsOf done) }
        (Emitter.indent (depth + 1) ++ (text ++ ",")).toList =
      some { layout with open_ := some (4 * depth,
        parallelOpening ++ actionsOf (done ++ [(legal, tokens)])) } := by
  have hcomma : Balanced [.mark ','] := fun _ => rfl
  have hdepth : Layout.openBrackets
      (parallelOpening ++ actionsOf done ++ (tokens ++ [Token.mark ','])) =
      some (0 + 1) := by
    rw [openBrackets_parallel hdone]
    exact haction.balanced.append hcomma 1
  have htext : (text ++ ",").toList = text.toList ++ [','] := by
    rw [String.toList_append]
    rfl
  rw [indent_toList, htext, Layout.readLine_single (spells_oneLine hspells _),
    Layout.step_within hcontent _ _ _ hspells.tokenize hdepth, actionsOf_concat,
    List.append_assoc]

theorem readLines_actions (layout : Layout) (hopen : layout.open_ = none) (depth : ℕ)
    {actions : List (Bool × String)} (h : ∀ action ∈ actions, ActionText action.1 action.2.toList)
    {done : List (Bool × List Token)}
    (hdone : ∀ action ∈ done, IsAction takesAwaitables action.1 action.2) :
    readLines { layout with open_ := some (4 * depth, parallelOpening ++ actionsOf done) }
        (actions.map (fun action => Emitter.indent (depth + 1) ++ (action.2 ++ ",")) ++
          [Emitter.indent depth ++ ")"]) =
      layout.enter (4 * depth)
        (ifLegal (done.all Prod.fst && actions.all Prod.fst) (awaiting .simple)) := by
  induction actions generalizing done with
  | nil =>
    have hspells : Spells ")".toList [.mark ')'] := fun _ => rfl
    have hcontent : Layout.Content ")".toList := content_cons (by decide) (by decide) _
    have hdepth : Layout.openBrackets (parallelOpening ++ actionsOf done ++ [Token.mark ')']) =
        some 0 := openBrackets_parallel hdone
    have hstatement (canAwait : Bool) : statement takesAwaitables canAwait
        (parallelOpening ++ actionsOf done ++ [Token.mark ')']) =
        ifLegal (done.all Prod.fst && true) (awaiting .simple) canAwait := by
      have hname : "parallel".toList ∉ keywords := by decide
      have htakes : takesAwaitables "parallel".toList = true := by decide
      rw [List.append_assoc, Bool.and_true]
      refine (statement_actions hname htakes hdone canAwait).trans ?_
      cases canAwait <;> cases done.all Prod.fst <;> rfl
    rw [List.map_nil, List.nil_append, readLines_cons, indent_toList,
      Layout.readLine_single (spells_oneLine hspells _),
      Layout.step_closes hcontent _ _ hopen hspells.tokenize hdepth, funext hstatement]
    exact Option.bind_fun_some _
  | cons action actions ih =>
    obtain ⟨legal, text⟩ := action
    have hrest {tokens : List Token} (hcontent : Layout.Content (text.toList ++ [',']))
        (hspells : Spells (text.toList ++ [',']) (tokens ++ [Token.mark ',']))
        (haction : IsAction takesAwaitables legal tokens) :
        readLines { layout with open_ := some (4 * depth, parallelOpening ++ actionsOf done) }
            (((legal, text) :: actions).map
              (fun action => Emitter.indent (depth + 1) ++ (action.2 ++ ",")) ++
                [Emitter.indent depth ++ ")"]) =
          layout.enter (4 * depth) (ifLegal (done.all Prod.fst &&
            ((legal, text) :: actions).all Prod.fst) (awaiting .simple)) := by
      have hall : ∀ other ∈ done ++ [(legal, tokens)],
          IsAction takesAwaitables other.1 other.2 := by
        intro other hother
        rcases List.mem_append.mp hother with hother | hother
        · exact hdone other hother
        · rw [List.mem_singleton.mp hother]
          exact haction
      have hlater := ih (fun other hother => h other (.tail _ hother)) hall
      rw [List.map_cons, List.cons_append, readLines_cons,
        readLine_action layout depth hdone hcontent hspells haction, Option.bind_some, hlater]
      simp [Bool.and_assoc]
    have haction := h (legal, text) (List.mem_cons_self ..)
    dsimp only at haction
    generalize htext : text.toList = chars at haction hrest
    cases haction with
    | call chars reads content =>
      obtain ⟨name, more, hspells, hcalls⟩ := reads.reads rfl
      have hcomma : Spells [','] [.mark ','] := fun _ => rfl
      exact hrest (content _) (hspells.append hcomma) ⟨name, more, rfl, hcalls⟩
    | none =>
      have hspells :
          Spells ("None".toList ++ [',']) ([Token.word "None".toList] ++ [Token.mark ',']) :=
        fun _ => rfl
      have hcontent : Layout.Content ("None".toList ++ [',']) :=
        content_cons (by decide) (by decide) _
      exact hrest hcontent hspells rfl
    | cut chars breaks content =>
      have hline : (text ++ ",").toList = text.toList ++ [','] := by
        rw [String.toList_append]
        rfl
      rw [List.map_cons, List.cons_append, readLines_cons, indent_toList, hline, htext,
        Layout.readLine_breaks (breaks.append _) (content _), List.all_cons, Bool.false_and,
        Bool.and_false]
      exact Layout.enter_none.symm

end CitPhysicalXR.Blocks
