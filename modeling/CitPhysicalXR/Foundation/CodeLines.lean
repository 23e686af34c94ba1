import CitPhysicalXR.Foundation.Lines
import CitPhysicalXR.Foundation.PythonStrings

/-! The lines of code of a Python source: what a text says beside its comments and the values of
its literals. Texts are read line by line. -/
namespace CitPhysicalXR.Foundation
namespace PythonSource

def isBlank (c : Char) : Bool := c == ' ' || c == '\t' || c == '\x0c'

def isBlankLine (line : String) : Bool := line.toList.all isBlank

/-- The lines of code that are not blank. -/
def Source.filled (source : Source) : List String :=
  source.lines.filter fun line => !isBlankLine line

end PythonSource

def Dialect.codeLines? (dialect : Dialect) (text : String) : Option (List String) :=
  (dialect.source? text).map PythonSource.Source.filled

namespace PythonSource

example : Dialect.cpython.codeLines? "f(\"a\")  # it\n\n" = some ["f(\"\")  "] ∧
    Dialect.cpython.codeLines? "# a\rf()\n" = some ["f()"] := by decide

variable {dialect : Dialect}

/-- What a line says from a mode on, whatever follows it: nothing that can be read, or some code
and some literals. -/
inductive Tells (dialect : Dialect) (mode : Mode) (line : List Char) : Prop
  | breaks (h : ∀ rest, read dialect mode (line ++ '\n' :: rest) = none)
  | reads (code : List Char) (literals : List String)
    (h : ∀ rest, read dialect mode (line ++ '\n' :: rest) =
      (read dialect (.code '\n') rest).map (.after (code ++ ['\n']) literals))

theorem Tells.step {mode next : Mode} {line more : List Char} (h : Tells dialect next more)
    (code : List Char) (literals : List String)
    (hstep : ∀ rest, read dialect mode (line ++ '\n' :: rest) =
      (read dialect next (more ++ '\n' :: rest)).map (.after code literals)) :
    Tells dialect mode line := by
  cases h with
  | breaks hbreaks =>
    refine .breaks fun rest => ?_
    rw [hstep, hbreaks]
    rfl
  | reads other others hreads =>
    refine .reads (code ++ other) (literals ++ others) fun rest => ?_
    rw [hstep, hreads, Option.map_map]
    congr 1
    funext source
    simp

theorem Tells.skip {mode next : Mode} {line more : List Char} (h : Tells dialect next more)
    (hstep : ∀ rest, read dialect mode (line ++ '\n' :: rest) =
      read dialect next (more ++ '\n' :: rest)) : Tells dialect mode line := by
  refine h.step [] [] fun rest => ?_
  rw [hstep]
  cases read dialect next (more ++ '\n' :: rest) <;> rfl

theorem tells_end (mode : Mode) : Tells dialect mode [] := by
  have hnewline := @refuses_newline dialect
  cases mode with
  | code last => exact .reads [] [] fun rest => read_newline
  | comment =>
    refine .reads [] [] fun rest => ?_
    simp [read, hnewline, isLineEnd]
  | literal quote value => exact .breaks fun rest => read_literal_none (.inl rfl)
  | escape quote value =>
    refine .breaks fun rest => ?_
    have hcoded : isCoded '\n' = true := by rfl
    simp [read, hcoded]

/-- Every line says something or breaks the text. -/
theorem tells_line (mode : Mode) (line : List Char) : Tells dialect mode line := by
  induction line generalizing mode with
  | nil => exact tells_end mode
  | cons c line ih =>
    cases hrefused : dialect.refuses c with
    | true =>
      refine .breaks fun rest => ?_
      cases mode <;> simp [read, hrefused]
    | false =>
      cases mode with
      | code last =>
        by_cases hend : isLineEnd c = true
        · exact (ih (.code '\n')).step ['\n'] [] fun rest => by simp [read, hrefused, hend]
        · by_cases hmark : c = '#'
          · exact (ih .comment).skip fun rest => by
              simp [read, hmark ▸ hrefused, hmark ▸ hend, hmark]
          · by_cases hquote : isQuote c = true
            · by_cases hopens : opens last = true
              · exact (ih (.literal c [])).step [c] [] fun rest => by
                  simp [read, hrefused, hend, hmark, hquote, hopens]
              · exact .breaks fun rest => by simp [read, hend, hmark, hquote, hopens]
            · exact (ih (.code c)).step [c] [] fun rest => by
                simp [read, hrefused, hend, hmark, hquote]
      | comment =>
        by_cases hend : isLineEnd c = true
        · exact (ih (.code '\n')).step ['\n'] [] fun rest => by simp [read, hrefused, hend]
        · exact (ih .comment).skip fun rest => by simp [read, hrefused, hend]
      | literal quote value =>
        by_cases hend : isLineEnd c = true
        · exact .breaks fun rest => by simp [read, hend]
        · by_cases hquote : c = quote
          · exact (ih (.code quote)).step [quote] [String.ofList value.reverse] fun rest => by
              simp [read, hquote ▸ hrefused, hquote ▸ hend, hquote]
          · by_cases hslash : c = '\\'
            · exact (ih (.escape quote value)).skip fun rest => by
                simp [read, hslash ▸ hrefused, hslash ▸ hend, hslash ▸ hquote, hslash]
            · exact (ih (.literal quote (c :: value))).skip fun rest => by
                simp [read, hrefused, hend, hquote, hslash]
      | escape quote value =>
        by_cases hcoded : isCoded c = true
        · exact .breaks fun rest => by simp [read, hcoded]
        · exact (ih (.literal quote (escapeValue c ++ value))).skip fun rest => by
            simp [read, hrefused, hcoded]

/-- The filled lines of lines of a text. -/
def codeOf (dialect : Dialect) (lines : List String) : Option (List String) :=
  (read dialect (.code '\n') (unlines lines)).map Source.filled

theorem codeLines?_eq {text : String} {lines : List String} (h : text.toList = unlines lines) :
    dialect.codeLines? text = codeOf dialect lines := by
  unfold Dialect.codeLines? Dialect.source? codeOf
  rw [h]

theorem codeOf_nil : codeOf dialect [] = some [] := rfl

theorem filled_after (code : List Char) (literals : List String) (source : Source) :
    (source.after (code ++ ['\n']) literals).filled =
      (Source.mk (code ++ ['\n']) literals).filled ++ source.filled := by
  have hblank : isBlankLine (String.ofList []) = true := rfl
  unfold Source.filled Source.lines PyString.split Source.after
  simp only [String.toList_ofList, List.append_assoc, List.cons_append, List.nil_append,
    List.splitOn_append_cons_self, List.splitOn_nil, List.map_append, List.filter_append,
    List.map_cons, List.map_nil]
  rw [List.filter_cons_of_neg (by simp [hblank]), List.filter_nil, List.nil_append]

theorem codeOf_cons (line : String) (lines : List String) :
    codeOf dialect (line :: lines) =
      (codeOf dialect [line]).bind fun first => (codeOf dialect lines).map (first ++ ·) := by
  have hone : unlines [line] = line.toList ++ ['\n'] := by simp [unlines]
  unfold codeOf
  rw [unlines_cons, hone]
  cases @tells_line dialect (.code '\n') line.toList with
  | breaks h =>
    rw [h, h]
    rfl
  | reads code literals h =>
    rw [h, h]
    simp only [read, Option.map_some, Option.bind_some, Option.map_map]
    congr 1
    funext source
    rw [Function.comp_apply, filled_after, Function.comp_apply]
    congr 1
    simp [Source.after]

theorem codeOf_append (first second : List String) :
    codeOf dialect (first ++ second) =
      (codeOf dialect first).bind fun before => (codeOf dialect second).map (before ++ ·) := by
  induction first with
  | nil => simp [codeOf_nil]
  | cons line first ih =>
    rw [List.cons_append, codeOf_cons, ih, codeOf_cons line first]
    cases codeOf dialect [line] with
    | none => rfl
    | some before =>
      cases codeOf dialect first with
      | none => rfl
      | some more =>
        simp only [Option.bind_some, Option.map_some, Option.map_map]
        congr 1
        funext after
        simp

/-- Blank lines at the end say nothing. -/
theorem codeOf_rdropWhile (lines : List String) :
    codeOf dialect (lines.rdropWhile (· == "")) = codeOf dialect lines := by
  have hblank : codeOf dialect [""] = some [] := by
    have hread : read dialect (.code '\n') ['\n'] = some ⟨['\n'], []⟩ := read_newline
    show (read dialect (.code '\n') ['\n']).map Source.filled = some []
    rw [hread]
    decide
  induction lines using List.reverseRecOn with
  | nil => rfl
  | append_singleton lines line ih =>
    by_cases hline : line = ""
    · rw [hline, List.rdropWhile_concat_pos _ _ _ (by rfl), ih, codeOf_append, hblank]
      cases codeOf dialect lines <;> simp
    · rw [List.rdropWhile_concat_neg _ _ _ (by simpa using hline)]

theorem codeOf_readsLine {line code : String} {literals : List String}
    (h : ReadsLine dialect line.toList code.toList literals) (hcode : '\n' ∉ code.toList)
    (hfilled : isBlankLine code = false) : codeOf dialect [line] = some [code] := by
  have hone : unlines [line] = line.toList ++ ['\n'] := by simp [unlines]
  have hlines := @lines_unlines [code] (by simpa using hcode) literals
  have hcodeLine : unlines [code] = code.toList ++ ['\n'] := by simp [unlines]
  rw [hcodeLine] at hlines
  have hread := h []
  rw [read, Option.map_some] at hread
  unfold codeOf
  rw [hone, hread, Option.map_some, Source.after]
  simp only [List.append_nil]
  unfold Source.filled
  rw [hlines]
  have hblank : isBlankLine "" = true := rfl
  simp [hfilled, hblank]

theorem codeOf_breaksLine {line : String} (h : BreaksLine dialect line.toList) :
    codeOf dialect [line] = none := by
  have hone : unlines [line] = line.toList ++ ['\n'] := by simp [unlines]
  unfold codeOf
  rw [hone, h]
  rfl

/-- What follows a line end in a comment says nothing: it is blank, or a comment again. The reading
is in a comment, or in the blanks in front of a line. -/
def isSilent (dialect : Dialect) (inComment : Bool) : List Char → Bool
  | [] => true
  | c :: rest =>
    !dialect.refuses c &&
      if isLineEnd c then isSilent dialect false rest
      else if inComment || c == '#' then isSilent dialect true rest
      else isBlank c && isSilent dialect false rest

theorem filled_eq_nil (source : Source) :
    source.filled = [] ↔ ∀ c ∈ source.code, c = '\n' ∨ isBlank c = true := by
  unfold Source.filled Source.lines PyString.split isBlankLine
  rw [List.filter_eq_nil_iff, String.toList_ofList]
  simp only [List.mem_map, forall_exists_index, and_imp, forall_apply_eq_imp_iff₂,
    String.toList_ofList, Bool.not_eq_true', Bool.not_eq_false, List.all_eq_true]
  constructor
  · intro h c hc
    by_cases hend : c = '\n'
    · exact .inl hend
    · obtain ⟨line, hline, hmem⟩ := (Lines.mem_splitOn hend).mpr hc
      exact .inr (h line hline c hmem)
  · intro h line hline c hmem
    have hend : c ≠ '\n' := by
      rintro rfl
      exact Lines.notMem_of_mem_splitOn hline hmem
    exact (h c ((Lines.mem_splitOn hend).mp ⟨line, hline, hmem⟩)).resolve_left hend

theorem filled_step (code : List Char) (source : Source) :
    (source.after code []).filled.isEmpty =
      ((code.all fun c => c == '\n' || isBlank c) && source.filled.isEmpty) := by
  rw [Bool.eq_iff_iff, Bool.and_eq_true, List.isEmpty_iff, List.isEmpty_iff, filled_eq_nil,
    filled_eq_nil, List.all_eq_true]
  simp only [Bool.or_eq_true, beq_iff_eq, Source.after]
  exact List.forall_mem_append

/-- The rest of a comment and the lines in it. -/
theorem read_isSilent (text : List Char) (inComment : Bool) (last : Char) :
    ((read dialect (if inComment then .comment else .code last) (text ++ ['\n'])).any
      fun source => source.filled.isEmpty) = isSilent dialect inComment text := by
  have hstep {given : Option Source} (c : Char) (hc : (c == '\n' || isBlank c) = true) :
      ((given.map (Source.after [c] [])).any fun source => source.filled.isEmpty) =
        given.any fun source => source.filled.isEmpty := by
    cases given with
    | none => rfl
    | some source => simp [filled_step, hc]
  induction text generalizing inComment last with
  | nil =>
    have hnewline := @refuses_newline dialect
    cases inComment with
    | true =>
      simp only [if_true, List.nil_append, read, hnewline, isLineEnd, Bool.false_eq_true, if_false,
        beq_self_eq_true, Bool.true_or]
      rw [hstep '\n' rfl]
      rfl
    | false =>
      simp only [List.nil_append, read, hnewline, isLineEnd, Bool.false_eq_true, if_false,
        beq_self_eq_true, Bool.true_or, if_true]
      rw [hstep '\n' rfl]
      rfl
  | cons c text ih =>
    have hcode := ih false '\n'
    have hcomment := ih true last
    simp only [Bool.false_eq_true, if_false, if_true] at hcode hcomment
    rw [List.cons_append]
    unfold isSilent
    cases hrefused : dialect.refuses c with
    | true => cases inComment <;> simp [read, hrefused]
    | false =>
      simp only [Bool.not_false, Bool.true_and]
      by_cases hend : isLineEnd c = true
      · rw [if_pos hend, ← hcode]
        cases inComment <;> simp only [read, hrefused, hend, Bool.false_eq_true, if_false, if_true]
        · exact hstep '\n' rfl
        · exact hstep '\n' rfl
      · rw [if_neg hend]
        cases inComment with
        | true =>
          simp only [read, hrefused, hend, Bool.true_or, Bool.false_eq_true, if_false, if_true]
          exact hcomment
        | false =>
          simp only [Bool.false_or, beq_iff_eq]
          by_cases hmark : c = '#'
          · rw [if_pos hmark, ← hcomment]
            simp [read, hmark ▸ hrefused, hmark ▸ hend, hmark]
          · rw [if_neg hmark]
            simp only [read, hrefused, hend, hmark, Bool.false_eq_true, if_false]
            cases hblank : isBlank c with
            | true =>
              have hquote : isQuote c = false := by
                simp only [isBlank, Bool.or_eq_true, beq_iff_eq] at hblank
                rcases hblank with (rfl | rfl) | rfl <;> rfl
              have hrest := ih false c
              simp only [Bool.false_eq_true, if_false] at hrest
              rw [hquote, if_neg (by decide), hstep c (by simp [hblank]), hrest, Bool.true_and]
            | false =>
              have hline : (c == '\n') = false := by
                rw [beq_eq_false_iff_ne]
                rintro rfl
                exact hend rfl
              have hnone (given : Option Source) :
                  ((given.map (Source.after [c] [])).any fun source => source.filled.isEmpty) =
                    false := by
                cases given with
                | none => rfl
                | some source => simp [filled_step, hline, hblank]
              rw [Bool.false_and]
              split
              · split
                · exact hnone _
                · rfl
              · exact hnone _

theorem codeOf_comment {before : List Char} (hbefore : ∀ c ∈ before, c = ' ')
    (text : List Char) :
    ((codeOf dialect [String.ofList (before ++ '#' :: text)]).any List.isEmpty) =
      isSilent dialect true text := by
  have hplain : ∀ c ∈ before, isPlain c = true := by
    intro c hc
    rw [hbefore c hc]
    rfl
  have hmark : dialect.refuses '#' = false := refuses_graphic (by decide)
  have hend : isLineEnd '#' = false := by decide
  have hblank : (before.all fun c => c == '\n' || isBlank c) = true := by
    rw [List.all_eq_true]
    intro c hc
    rw [hbefore c hc]
    rfl
  have hread : read dialect (.code (before.getLast?.getD '\n')) ('#' :: (text ++ ['\n'])) =
      read dialect .comment (text ++ ['\n']) := by
    simp [read, hmark, hend]
  have hrest := @read_isSilent dialect text true '\n'
  rw [if_pos rfl] at hrest
  rw [← hrest]
  unfold codeOf unlines
  rw [List.flatMap_singleton, String.toList_ofList, List.append_assoc, List.cons_append,
    read_plain hplain, hread]
  cases read dialect .comment (text ++ ['\n']) with
  | none => rfl
  | some source =>
    show (source.after before []).filled.isEmpty = source.filled.isEmpty
    rw [filled_step, hblank, Bool.true_and]

end PythonSource
end CitPhysicalXR.Foundation
