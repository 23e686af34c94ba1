import Mathlib
import CitPhysicalXR.Foundation.PythonText

/-! Rules for the checker of Python texts: how the pieces of a line are scanned, how a line is
placed, and how lines are joined to a text. -/
namespace CitPhysicalXR.Foundation.PythonText

variable {c : Char}

theorem isNameChar_of_isLetter (h : isLetter c = true) : isNameChar c = true := by
  rcases Bool.or_eq_true_iff.mp h with halpha | hunderscore
  · simp [isNameChar, Char.isAlphanum, halpha]
  · simp [isNameChar, hunderscore]

theorem isNameChar_of_isDigit (h : c.isDigit = true) : isNameChar c = true := by
  simp [isNameChar, Char.isAlphanum, h]

theorem ne_of_isNameChar (other : Char) (h : isNameChar c = true)
    (hother : isNameChar other = false) : c ≠ other := by
  intro hsame
  rw [hsame, hother] at h
  cases h

theorem isLineEnd_of_isNameChar (h : isNameChar c = true) :
    Scan.isLineEnd c = false := by
  have hnewline := ne_of_isNameChar '\n' h (by decide)
  have hreturn := ne_of_isNameChar '\r' h (by decide)
  have hnull := ne_of_isNameChar '\x00' h (by decide)
  simp [Scan.isLineEnd, hnewline, hreturn, hnull]

theorem isNameChar_of_isWord {word : List Char} (h : isWord word = true) :
    ∀ c ∈ word, isNameChar c = true := by
  intro c hc
  cases word with
  | nil => cases hc
  | cons d rest =>
    rw [isWord, Bool.and_eq_true] at h
    rcases List.mem_cons.mp hc with rfl | hc
    · exact isNameChar_of_isLetter h.1
    · exact List.all_eq_true.mp h.2 c hc

theorem isLetter_of_isDigit (h : c.isDigit = true) : isLetter c = false := by
  simp only [Char.isDigit, isLetter, Char.isAlpha, Char.isUpper, Char.isLower, ge_iff_le,
    Bool.and_eq_true, decide_eq_true_eq, Bool.or_eq_false_iff, Bool.and_eq_false_iff,
    decide_eq_false_iff_not, beq_eq_false_iff_ne, UInt32.le_iff_toNat_le] at h ⊢
  have hupper : c.val.toNat ≤ 57 := h.2
  refine ⟨⟨?_, .inl ?_⟩, ?_⟩
  · intro hletter
    have hlower : 65 ≤ c.val.toNat := hletter.1
    omega
  · intro hletter
    have hlower : 97 ≤ c.val.toNat := hletter
    omega
  · rintro rfl
    exact absurd hupper (by decide)

namespace Scan
variable {tokens : List Token}

theorem run_append (scan : Scan) (first second : List Char) :
    scan.run (first ++ second) = (scan.run first).bind fun next => next.run second :=
  List.foldlM_append ..

theorem run_cons (scan : Scan) (c : Char) (line : List Char) :
    scan.run (c :: line) = (scan.step c).bind fun next => next.run line := rfl

@[simp] theorem run_nil (scan : Scan) : scan.run [] = some scan := rfl

theorem run_oneLine {scan next : Scan} {line : List Char} (h : scan.run line = some next) :
    ∀ c ∈ line, isLineEnd c = false := by
  induction line generalizing scan with
  | nil => simp
  | cons c line ih =>
    rw [run_cons] at h
    obtain ⟨middle, hstep, hrest⟩ := Option.bind_eq_some_iff.mp h
    have hc : isLineEnd c = false := by
      cases hend : isLineEnd c with
      | false => rfl
      | true => simp [step, hend] at hstep
    intro other hother
    rcases List.mem_cons.mp hother with rfl | hother
    · exact hc
    · exact ih hrest other hother

theorem run_nameChars (read : List Char) (chars : List Char)
    (h : ∀ c ∈ chars, isNameChar c = true) :
    (Scan.mk (.word read) tokens).run chars = some ⟨.word (chars.reverse ++ read), tokens⟩ := by
  induction chars generalizing read with
  | nil => rfl
  | cons c chars ih =>
    have hc := h c (List.mem_cons_self ..)
    have hstep : (Scan.mk (.word read) tokens).step c = some ⟨.word (c :: read), tokens⟩ := by
      simp [step, isLineEnd_of_isNameChar hc, hc]
    rw [run_cons, hstep, Option.bind_some, ih _ fun other hother => h other (.tail _ hother)]
    simp

theorem run_word {word : List Char} (h : isWord word = true) :
    (Scan.mk .between tokens).run word = some ⟨.word word.reverse, tokens⟩ := by
  cases word with
  | nil => cases h
  | cons c chars =>
    obtain ⟨hletter, hchars⟩ := Bool.and_eq_true_iff.mp h
    have hname := isNameChar_of_isLetter hletter
    have hblank := ne_of_isNameChar ' ' hname (by decide)
    have hstep : (Scan.mk .between tokens).step c = some ⟨.word [c], tokens⟩ := by
      simp [step, start, isLineEnd_of_isNameChar hname, hblank, hletter]
    rw [run_cons, hstep, Option.bind_some, run_nameChars _ _ (List.all_eq_true.mp hchars)]
    simp

theorem run_plainNumber (read : List Char) (chars : List Char)
    (h : ∀ c ∈ chars, isNameChar c = true ∨ c = '.') :
    (Scan.mk (.number read) tokens).run chars =
      some ⟨.number (chars.reverse ++ read), tokens⟩ := by
  induction chars generalizing read with
  | nil => rfl
  | cons c chars ih =>
    have hstep : (Scan.mk (.number read) tokens).step c = some ⟨.number (c :: read), tokens⟩ := by
      rcases h c (List.mem_cons_self ..) with hname | rfl
      · simp [step, isLineEnd_of_isNameChar hname, inNumber, hname]
      · rfl
    rw [run_cons, hstep, Option.bind_some, ih _ fun other hother => h other (.tail _ hother)]
    simp

variable {c : Char}

/-- A number without an exponent is read to its end. -/
theorem run_digits {chars : List Char} (hc : c.isDigit = true)
    (h : ∀ c ∈ chars, isNameChar c = true ∨ c = '.') :
    (Scan.mk .between tokens).run (c :: chars) =
      some ⟨.number (c :: chars).reverse, tokens⟩ := by
  have hname := isNameChar_of_isDigit hc
  have hblank := ne_of_isNameChar ' ' hname (by decide)
  have hstep : (Scan.mk .between tokens).step c = some ⟨.number [c], tokens⟩ := by
    simp [step, start, isLineEnd_of_isNameChar hname, hblank, isLetter_of_isDigit hc, hc]
  rw [run_cons, hstep, Option.bind_some, run_plainNumber _ _ h]
  simp

/-- The line is read as the tokens, and a token ends where it ends. -/
def Spells (line : List Char) (spelled : List Token) : Prop :=
  ∀ tokens, (Scan.mk .between tokens).run line = some ⟨.between, spelled.reverse ++ tokens⟩

theorem spells_nil : Spells [] [] := fun _ => rfl

theorem Spells.append {first second : List Char} {before after : List Token}
    (hfirst : Spells first before) (hsecond : Spells second after) :
    Spells (first ++ second) (before ++ after) := by
  intro tokens
  rw [run_append, hfirst, Option.bind_some, hsecond]
  simp

theorem Spells.tokenize {line : List Char} {spelled : List Token} (h : Spells line spelled) :
    tokenize line = some spelled := by
  unfold PythonText.tokenize
  rw [h, Option.bind_some]
  simp [close]

/-- What a character says that ends a word: a blank or a mark. -/
def delimiter (c : Char) : List Token := if c = ' ' then [] else [.mark c]

theorem start_delimiter (hc : c ∈ ' ' :: marks) (tokens : List Token) :
    start tokens c = some ⟨.between, delimiter c ++ tokens⟩ := by
  simp only [marks, List.mem_cons, List.not_mem_nil, or_false] at hc
  rcases hc with rfl | rfl | rfl | rfl | rfl | rfl | rfl | rfl | rfl <;> rfl

theorem delimiter_plain (hc : c ∈ ' ' :: marks) :
    isLineEnd c = false ∧ isNameChar c = false := by
  simp only [marks, List.mem_cons, List.not_mem_nil, or_false] at hc
  rcases hc with rfl | rfl | rfl | rfl | rfl | rfl | rfl | rfl | rfl <;> decide

theorem spells_delimiter (hc : c ∈ ' ' :: marks) : Spells [c] (delimiter c) := by
  intro tokens
  have hstep : (Scan.mk .between tokens).step c = start tokens c := by
    simp [step, (delimiter_plain hc).1]
  rw [run_cons, hstep, start_delimiter hc, Option.bind_some, run_nil]
  unfold delimiter
  split <;> rfl

theorem spells_word {word : List Char} (h : isWord word = true) (hc : c ∈ ' ' :: marks) :
    Spells (word ++ [c]) (.word word :: delimiter c) := by
  intro tokens
  obtain ⟨hline, hname⟩ := delimiter_plain hc
  have hstep : (Scan.mk (.word word.reverse) tokens).step c =
      start (.word word :: tokens) c := by
    simp [step, hline, hname, close]
  rw [run_append, run_word h, Option.bind_some, run_cons, hstep, start_delimiter hc,
    Option.bind_some, run_nil]
  unfold delimiter
  split <;> rfl

/-- A number ends at a blank or at a mark that is neither a point nor a sign. -/
theorem spells_number {number : List Char} (h : isNumber number = true)
    (hrun : ∀ tokens, (Scan.mk .between tokens).run number =
      some ⟨.number number.reverse, tokens⟩)
    (hc : c ∈ ' ' :: marks) (hpoint : c ≠ '.') (hsign : c ≠ '-') :
    Spells (number ++ [c]) (.number :: delimiter c) := by
  intro tokens
  obtain ⟨hline, hname⟩ := delimiter_plain hc
  have hplus : c ≠ '+' := by
    rintro rfl
    exact absurd hc (by decide)
  have hstep : (Scan.mk (.number number.reverse) tokens).step c =
      start (.number :: tokens) c := by
    simp [step, hline, inNumber, hname, hpoint, hsign, hplus, close, h]
  rw [run_append, hrun, Option.bind_some, run_cons, hstep, start_delimiter hc,
    Option.bind_some, run_nil]
  unfold delimiter
  split <;> rfl

theorem spells_text {body : List Char}
    (h : ∀ tokens, (Scan.mk .text tokens).run body = some ⟨.text, tokens⟩) :
    Spells ('"' :: body ++ ['"']) [.text] := by
  intro tokens
  have hopen : (Scan.mk .between tokens).step '"' = some ⟨.text, tokens⟩ := rfl
  have hclose : (Scan.mk .text tokens).step '"' = some ⟨.between, .text :: tokens⟩ := rfl
  rw [List.cons_append, run_cons, hopen, Option.bind_some, run_append, h, Option.bind_some,
    run_cons, hclose]
  rfl

end Scan

namespace Layout
variable {takesAwaitables : List Char → Bool} {layout : Layout} {tokens : List Token}

theorem openBrackets_append {before : List Token} {depth : ℕ}
    (h : openBrackets before = some depth) :
    openBrackets (before ++ tokens) = tokens.foldlM bracketStep depth := by
  unfold openBrackets at h ⊢
  rw [List.foldlM_append, h]
  rfl

theorem enter_open {indentation : ℕ} {kind : Bool → Option LineKind} {next : Layout}
    (h : layout.enter indentation kind = some next) : next.open_ = none := by
  obtain ⟨blocks, _, hkind⟩ := Option.bind_eq_some_iff.mp h
  obtain ⟨found, _, hnext⟩ := Option.bind_eq_some_iff.mp hkind
  cases found with
  | simple =>
    dsimp only at hnext
    split at hnext
    · cases hnext
    · exact Option.some.inj hnext ▸ rfl
  | decorator => exact Option.some.inj hnext ▸ rfl
  | head canAwait isDefinition =>
    dsimp only at hnext
    split at hnext
    · cases hnext
    · exact Option.some.inj hnext ▸ rfl

theorem enter_none {indentation : ℕ} :
    layout.enter indentation (fun _ => none) = none := by
  unfold enter
  cases layout.place indentation <;> rfl

structure Content (content : List Char) : Prop where
  noBlank : content.head? ≠ some ' '
  noComment : content.head? ≠ some '#'
  filled : content ≠ []

variable {content : List Char}

theorem takeWhile_blanks (indentation : ℕ) (h : content.head? ≠ some ' ') :
    (List.replicate indentation ' ' ++ content).takeWhile (· == ' ') =
        List.replicate indentation ' ' ∧
      (List.replicate indentation ' ' ++ content).dropWhile (· == ' ') = content := by
  induction indentation with
  | zero =>
    cases content with
    | nil => exact ⟨rfl, rfl⟩
    | cons c rest =>
      have hc : (c == ' ') = false := by
        apply beq_eq_false_iff_ne.mpr
        intro hblank
        exact h (congrArg some hblank)
      constructor
      · exact List.takeWhile_cons_of_neg (by simp [hc])
      · exact List.dropWhile_cons_of_neg (by simp [hc])
  | succ n ih =>
    rw [List.replicate_succ, List.cons_append, List.takeWhile_cons_of_pos (by rfl),
      List.dropWhile_cons_of_pos (by rfl), ih.1, ih.2]
    exact ⟨rfl, rfl⟩

theorem Content.not_skipped (h : Content content) :
    isSkipped content = false := by
  unfold isSkipped
  rw [Bool.or_eq_false_iff]
  constructor
  · simpa using h.filled
  · simpa using h.noComment

theorem step_content (h : Content content) (indentation : ℕ) :
    layout.step takesAwaitables (List.replicate indentation ' ' ++ content) =
      (tokenize content).bind fun tokens =>
        let (indentation, tokens) := match layout.open_ with
          | some (indentation, before) => (indentation, before ++ tokens)
          | none => (indentation, tokens)
        (openBrackets tokens).bind fun depth =>
          if depth = 0 then
            { layout with open_ := none }.enter indentation fun canAwait =>
              statement takesAwaitables canAwait tokens
          else some { layout with open_ := some (indentation, tokens) } := by
  obtain ⟨htake, hdrop⟩ := takeWhile_blanks indentation h.noBlank
  unfold step
  rw [hdrop, htake, List.length_replicate]
  dsimp only
  rw [h.not_skipped]
  rfl

theorem step_line (h : Content content) (indentation : ℕ)
    (hopen : layout.open_ = none) (htokens : tokenize content = some tokens)
    (hdepth : openBrackets tokens = some 0) :
    layout.step takesAwaitables (List.replicate indentation ' ' ++ content) =
      layout.enter indentation fun canAwait => statement takesAwaitables canAwait tokens := by
  obtain ⟨blocks, suite, decorated, open_⟩ := layout
  subst hopen
  rw [step_content h, htokens, Option.bind_some]
  dsimp only
  rw [hdepth, Option.bind_some, if_pos rfl]

/-- A line whose tokens cannot be read. -/
theorem step_illegal (h : Content content) (indentation : ℕ)
    (htokens : tokenize content = none) :
    layout.step takesAwaitables (List.replicate indentation ' ' ++ content) = none := by
  rw [step_content h, htokens, Option.bind_none]

theorem step_opens (h : Content content) (indentation depth : ℕ)
    (hopen : layout.open_ = none) (htokens : tokenize content = some tokens)
    (hdepth : openBrackets tokens = some (depth + 1)) :
    layout.step takesAwaitables (List.replicate indentation ' ' ++ content) =
      some { layout with open_ := some (indentation, tokens) } := by
  rw [step_content h, htokens, Option.bind_some, hopen]
  dsimp only
  rw [hdepth, Option.bind_some, if_neg (Nat.succ_ne_zero depth)]

theorem step_within (h : Content content) (indentation depth first : ℕ)
    {before : List Token} (htokens : tokenize content = some tokens)
    (hdepth : openBrackets (before ++ tokens) = some (depth + 1)) :
    ({ layout with open_ := some (first, before) } : Layout).step takesAwaitables
        (List.replicate indentation ' ' ++ content) =
      some { layout with open_ := some (first, before ++ tokens) } := by
  rw [step_content h, htokens, Option.bind_some]
  dsimp only
  rw [hdepth, Option.bind_some, if_neg (Nat.succ_ne_zero depth)]

theorem step_closes (h : Content content) (indentation first : ℕ)
    {before : List Token} (hopen : layout.open_ = none) (htokens : tokenize content = some tokens)
    (hdepth : openBrackets (before ++ tokens) = some 0) :
    ({ layout with open_ := some (first, before) } : Layout).step takesAwaitables
        (List.replicate indentation ' ' ++ content) =
      layout.enter first fun canAwait =>
        statement takesAwaitables canAwait (before ++ tokens) := by
  obtain ⟨blocks, suite, decorated, open_⟩ := layout
  subst hopen
  rw [step_content h, htokens, Option.bind_some]
  dsimp only
  rw [hdepth, Option.bind_some, if_pos rfl]

end Layout

theorem physicalLines_ne_nil (text : List Char) : physicalLines text ≠ [] := by
  cases text with
  | nil => exact List.cons_ne_nil _ _
  | cons c rest =>
    unfold physicalLines
    split
    · exact List.cons_ne_nil _ _
    · split <;> exact List.cons_ne_nil _ _

theorem physicalLines_append (first rest : List Char) :
    physicalLines (first ++ '\n' :: rest) = physicalLines first ++ physicalLines rest := by
  induction first with
  | nil => rfl
  | cons c first ih =>
    rw [List.cons_append]
    by_cases hend : c = '\n' ∨ c = '\r'
    · simp only [physicalLines, if_pos hend, ih, List.cons_append]
    · simp only [physicalLines, if_neg hend, ih]
      cases hlines : physicalLines first with
      | nil => exact absurd hlines (physicalLines_ne_nil first)
      | cons line lines => rfl

theorem physicalLines_extend {first : List Char} (h : ∀ c ∈ first, Scan.isLineEnd c = false)
    (rest : List Char) :
    ∃ line lines, physicalLines rest = line :: lines ∧
      physicalLines (first ++ rest) = (first ++ line) :: lines := by
  induction first with
  | nil =>
    cases hrest : physicalLines rest with
    | nil => exact absurd hrest (physicalLines_ne_nil rest)
    | cons line lines => exact ⟨line, lines, rfl, hrest⟩
  | cons c first ih =>
    obtain ⟨line, lines, hrest, hfirst⟩ := ih fun other hother => h other (.tail _ hother)
    refine ⟨line, lines, hrest, ?_⟩
    have hc : ¬(c = '\n' ∨ c = '\r') := by
      have hend := h c (List.mem_cons_self ..)
      simp only [Scan.isLineEnd, Bool.or_eq_false_iff, beq_eq_false_iff_ne] at hend
      rintro (hnewline | hreturn)
      · exact hend.1.1 hnewline
      · exact hend.1.2 hreturn
    rw [List.cons_append]
    simp only [physicalLines, if_neg hc, hfirst, List.cons_append]

theorem physicalLines_single {line : List Char} (h : ∀ c ∈ line, Scan.isLineEnd c = false) :
    physicalLines line = [line] := by
  obtain ⟨last, lines, hnil, hline⟩ := physicalLines_extend h []
  rw [List.append_nil] at hline
  obtain ⟨rfl, rfl⟩ := List.cons.inj hnil
  rw [hline, List.append_nil]

namespace Scan

/-- The line has a string that a carriage return or a null character cuts off. -/
def Breaks (line : List Char) : Prop :=
  ∃ before c after, line = before ++ c :: after ∧ (c = '\r' ∨ c = '\x00') ∧
    ∀ tokens, ∃ later, (Scan.mk .between tokens).run before = some ⟨.text, later⟩

theorem Spells.breaks {first rest : List Char} {spelled : List Token} (h : Spells first spelled)
    (hrest : Breaks rest) : Breaks (first ++ rest) := by
  obtain ⟨before, c, after, rfl, hc, hrun⟩ := hrest
  refine ⟨first ++ before, c, after, (List.append_assoc ..).symm, hc, ?_⟩
  intro tokens
  rw [run_append, h, Option.bind_some]
  exact hrun _

theorem Breaks.append {line : List Char} (h : Breaks line) (rest : List Char) :
    Breaks (line ++ rest) := by
  obtain ⟨before, c, after, rfl, hc, hrun⟩ := h
  exact ⟨before, c, after ++ rest, by simp, hc, hrun⟩

end Scan

namespace Layout
variable {takesAwaitables : List Char → Bool}

/-- The layout after a text, which is one physical line or several. -/
def readLine (takesAwaitables : List Char → Bool) (layout : Layout) (line : List Char) :
    Option Layout :=
  (physicalLines line).foldlM (step takesAwaitables) layout

theorem readLine_single {line : List Char} (h : ∀ c ∈ line, Scan.isLineEnd c = false)
    (layout : Layout) : readLine takesAwaitables layout line = step takesAwaitables layout line := by
  unfold readLine
  rw [physicalLines_single h, List.foldlM_cons]
  exact bind_pure _

theorem physicalLines_null (after : List Char) : physicalLines ('\x00' :: after) =
    match physicalLines after with
    | line :: lines => ('\x00' :: line) :: lines
    | [] => [['\x00']] := rfl

theorem readLine_breaks {line : List Char} (h : Scan.Breaks line) (hcontent : Content line)
    (indentation : ℕ) (layout : Layout) :
    readLine takesAwaitables layout (List.replicate indentation ' ' ++ line) = none := by
  obtain ⟨before, c, after, rfl, hc, hrun⟩ := h
  obtain ⟨later, hbefore⟩ := hrun []
  have hplain : ∀ d ∈ List.replicate indentation ' ' ++ before, Scan.isLineEnd d = false := by
    intro d hd
    rcases List.mem_append.mp hd with hblank | hd
    · rw [(List.mem_replicate.mp hblank).2]
      rfl
    · exact Scan.run_oneLine hbefore d hd
  obtain ⟨line, lines, hrest, hlines⟩ := physicalLines_extend hplain (c :: after)
  have hfilled : Content (before ++ line) := by
    cases before with
    | nil => exact nomatch hbefore
    | cons d before => exact ⟨hcontent.noBlank, hcontent.noComment, List.cons_ne_nil _ _⟩
  have hillegal : tokenize (before ++ line) = none := by
    unfold tokenize
    rw [Scan.run_append, hbefore, Option.bind_some]
    rcases hc with rfl | rfl
    · -- the line ends before the string does
      obtain ⟨rfl, _⟩ := List.cons.inj hrest
      rfl
    · -- the null character is on the line
      rw [physicalLines_null] at hrest
      split at hrest
      · obtain ⟨rfl, _⟩ := List.cons.inj hrest
        rfl
      · obtain ⟨rfl, _⟩ := List.cons.inj hrest
        rfl
  unfold readLine
  rw [← List.append_assoc, hlines, List.foldlM_cons, List.append_assoc,
    step_illegal hfilled indentation hillegal]
  rfl

end Layout
end CitPhysicalXR.Foundation.PythonText
