import CitPhysicalXR.Blocks.IdentifierHygiene
import CitPhysicalXR.Blocks.TextForms

/-! The pieces that are written for a block, beside those for the same block without its texts: what
they are read as differs only where a text is read as code, or where a comment takes the place of a
statement. -/
namespace CitPhysicalXR.Blocks
open Foundation

/-- The filled lines of code in lines, as CPython reads them. -/
def codeOf (lines : List String) : Option (List String) := PythonSource.codeOf .cpython lines

theorem codeOf_append (first second : List String) :
    codeOf (first ++ second) =
      (codeOf first).bind fun before => (codeOf second).map (before ++ ·) :=
  PythonSource.codeOf_append first second

def Piece.name? : Piece → Option SdkName
  | .name used => some used
  | _ => none

/-- Pieces beside those without texts: whether there are lines, and lines of code; whether what is
quoted can be quoted, the comments are harmless, and no suite lacks its statement. -/
structure Compared (pieces bare : List Piece) (emits code quotes harmless fills : Bool) : Prop where
  names : pieces.filterMap Piece.name? = bare.filterMap Piece.name?
  lines : pieces.any Piece.isLine = emits
  bareLines : bare.any Piece.isLine = code
  covers : code = true → emits = true
  reference : ∃ others, codeOf (linesOf bare) = some others
  broken : quotes = false → codeOf (linesOf pieces) = none
  kept : quotes = true → harmless = true → fills = true →
    codeOf (linesOf pieces) = codeOf (linesOf bare)
  count : ∀ lines others, codeOf (linesOf pieces) = some lines →
    codeOf (linesOf bare) = some others → ∃ smuggled lost : ℕ,
      lines.length + lost = others.length + smuggled ∧ (smuggled = 0 ↔ harmless = true) ∧
        (lost = 0 ↔ fills = true)

namespace Compared
variable {emits code quotes harmless fills : Bool} {pieces bare : List Piece}

theorem cast {emits' code' quotes' harmless' fills' : Bool}
    (h : Compared pieces bare emits code quotes harmless fills) (hemits : emits = emits')
    (hcode : code = code') (hquotes : quotes = quotes') (hharmless : harmless = harmless')
    (hfills : fills = fills') : Compared pieces bare emits' code' quotes' harmless' fills' := by
  subst hemits hcode hquotes hharmless hfills
  exact h

theorem quiet (hnames : pieces.filterMap Piece.name? = bare.filterMap Piece.name?)
    (hpieces : pieces.any Piece.isLine = false) (hbare : bare.any Piece.isLine = false) :
    Compared pieces bare false false true true true := by
  have hnone {pieces : List Piece} (h : pieces.any Piece.isLine = false) :
      codeOf (linesOf pieces) = some [] := by
    rw [(linesOf_eq_nil pieces).mpr h]
    rfl
  refine ⟨hnames, hpieces, hbare, (by rintro ⟨⟩), ⟨[], hnone hbare⟩, (by rintro ⟨⟩), fun _ _ _ =>
    ?_, ?_⟩
  · rw [hnone hpieces, hnone hbare]
  · intro lines others hlines hothers
    rw [hnone hpieces, Option.some.injEq] at hlines
    rw [hnone hbare, Option.some.injEq] at hothers
    subst hlines hothers
    exact ⟨0, 0, rfl, by simp, by simp⟩

theorem quietPieces {first second : Emitter} (h : first.used = second.used) :
    Compared first.quietPieces second.quietPieces false false true true true := by
  have hnames (emitter : Emitter) :
      emitter.quietPieces.filterMap Piece.name? = emitter.used := by
    unfold Emitter.quietPieces
    rw [List.filterMap_append, List.filterMap_map, List.filterMap_map]
    have hwarnings : emitter.warnings.filterMap (Piece.name? ∘ Piece.warning) = [] := by
      simp [Function.comp_def, Piece.name?]
    have hused : emitter.used.filterMap (Piece.name? ∘ Piece.name) = emitter.used := by
      simp [Function.comp_def, Piece.name?]
    rw [hwarnings, hused, List.nil_append]
  have hlines (emitter : Emitter) : emitter.quietPieces.any Piece.isLine = false := by
    rw [List.any_eq_false]
    intro piece hpiece
    rcases List.mem_append.mp hpiece with hpiece | hpiece
    · obtain ⟨warning, _, rfl⟩ := List.mem_map.mp hpiece
      exact Bool.false_ne_true
    · obtain ⟨name, _, rfl⟩ := List.mem_map.mp hpiece
      exact Bool.false_ne_true
  refine quiet ?_ (hlines first) (hlines second)
  rw [hnames, hnames, h]

theorem name (name : SdkName) : Compared [Piece.name name] [Piece.name name] false false true true
    true := quiet rfl rfl rfl

theorem nil : Compared [] [] false false true true true := quiet rfl rfl rfl

theorem append {emits' code' quotes' harmless' fills' : Bool} {pieces' bare' : List Piece}
    (h : Compared pieces bare emits code quotes harmless fills)
    (h' : Compared pieces' bare' emits' code' quotes' harmless' fills') :
    Compared (pieces ++ pieces') (bare ++ bare') (emits || emits') (code || code')
      (quotes && quotes') (harmless && harmless') (fills && fills') := by
  constructor
  · rw [List.filterMap_append, List.filterMap_append, h.names, h'.names]
  · rw [List.any_append, h.lines, h'.lines]
  · rw [List.any_append, h.bareLines, h'.bareLines]
  · intro hcode
    rw [Bool.or_eq_true] at hcode ⊢
    exact hcode.imp h.covers h'.covers
  · obtain ⟨others, hothers⟩ := h.reference
    obtain ⟨more, hmore⟩ := h'.reference
    exact ⟨others ++ more, by rw [linesOf_append, codeOf_append, hothers, hmore]; rfl⟩
  · intro hquotes
    rw [linesOf_append, codeOf_append]
    rcases Bool.and_eq_false_iff.mp hquotes with hquotes | hquotes
    · rw [h.broken hquotes]
      rfl
    · rw [h'.broken hquotes]
      cases codeOf (linesOf pieces) <;> rfl
  · intro hquotes hharmless hfills
    rw [Bool.and_eq_true] at hquotes hharmless hfills
    rw [linesOf_append, linesOf_append, codeOf_append, codeOf_append,
      h.kept hquotes.1 hharmless.1 hfills.1, h'.kept hquotes.2 hharmless.2 hfills.2]
  · intro lines others hlines hothers
    rw [linesOf_append, codeOf_append] at hlines hothers
    obtain ⟨first, hfirst, hrest⟩ := Option.bind_eq_some_iff.mp hlines
    obtain ⟨second, hsecond, rfl⟩ := Option.map_eq_some_iff.mp hrest
    obtain ⟨third, hthird, hrest⟩ := Option.bind_eq_some_iff.mp hothers
    obtain ⟨fourth, hfourth, rfl⟩ := Option.map_eq_some_iff.mp hrest
    obtain ⟨smuggled, lost, hcount, hsmuggled, hlost⟩ := h.count first third hfirst hthird
    obtain ⟨smuggled', lost', hcount', hsmuggled', hlost'⟩ :=
      h'.count second fourth hsecond hfourth
    refine ⟨smuggled + smuggled', lost + lost', ?_, ?_, ?_⟩
    · rw [List.length_append, List.length_append]
      omega
    · rw [Nat.add_eq_zero_iff, hsmuggled, hsmuggled', Bool.and_eq_true]
    · rw [Nat.add_eq_zero_iff, hlost, hlost', Bool.and_eq_true]

theorem indent_plain (depth : ℕ) : IsPlainText (Emitter.indent depth) := by
  intro c hc
  rw [Emitter.indent, String.toList_ofList] at hc
  rw [(List.mem_replicate.mp hc).2]
  rfl

theorem line {text text' : String} (h : Beside quotes text text') (role role' : LineRole)
    (owner owner' : SourceOrigin) (depth : ℕ) :
    Compared [Piece.line role owner text depth] [Piece.line role' owner' text' depth] true true
      quotes true true := by
  have hindented := (h.before (indent_plain depth)).codeOf
  have hfilled : text ≠ "" ∧ text' ≠ "" := by
    cases h with
    | same hplain hblank =>
      refine ⟨?_, ?_⟩ <;> (rintro rfl; cases hblank)
    | quoted value bare hbefore hopens hafter hbare =>
      refine ⟨?_, ?_⟩ <;> simp [pythonString]
  have hlines : linesOf [Piece.line role owner text depth] = [Emitter.indent depth ++ text] := by
    simp [linesOf, hfilled.1]
  have hbare : linesOf [Piece.line role' owner' text' depth] =
      [Emitter.indent depth ++ text'] := by
    simp [linesOf, hfilled.2]
  obtain ⟨code, hreference, hread⟩ := hindented
  refine ⟨rfl, rfl, rfl, fun _ => rfl, ⟨[code], ?_⟩, fun hquotes => ?_, fun hquotes _ _ => ?_, ?_⟩
  · rw [hbare]
    exact hreference
  · rw [hlines]
    exact hread.trans (by rw [hquotes]; rfl)
  · rw [hlines, hbare]
    exact hread.trans (by rw [hquotes]; exact hreference.symm)
  · intro lines others hsome hothers
    rw [hlines] at hsome
    rw [hbare] at hothers
    have hone := hothers.symm.trans hreference
    have hother := hsome.symm.trans hread
    refine ⟨0, 0, ?_, by simp, by simp⟩
    cases quotes with
    | true =>
      rw [Option.some.inj hone, Option.some.inj hother]
    | false => cases hother

theorem plain {text : String} (h : IsPlainText text)
    (hfilled : PythonSource.isBlankLine text = false)
    (role : LineRole) (owner owner' : SourceOrigin) (depth : ℕ) :
    Compared [Piece.line role owner text depth] [Piece.line role owner' text depth] true true true
      true true := line (.same h hfilled) role role owner owner' depth

theorem blank : Compared [Piece.blank] [Piece.blank] true true true true true := by
  have hcode : codeOf (linesOf [Piece.blank]) = some [] := by decide +kernel
  refine ⟨rfl, rfl, rfl, fun _ => rfl, ⟨[], hcode⟩, (by rintro ⟨⟩), fun _ _ _ => rfl, ?_⟩
  intro lines others hlines hothers
  rw [hcode, Option.some.injEq] at hlines hothers
  subst hlines hothers
  exact ⟨0, 0, rfl, by simp, by simp⟩

/-- A suite gets a statement only where it has no line, be it a comment. -/
theorem suite (h : Compared pieces bare emits code quotes harmless fills)
    (owner owner' : SourceOrigin) (depth : ℕ) :
    Compared (suitePieces owner depth pieces) (suitePieces owner' depth bare) true true quotes
      harmless ((code || !emits) && fills) := by
  have hpass := @plain "pass" (by decide) rfl .filler owner owner' depth
  unfold suitePieces
  rw [h.lines, h.bareLines]
  cases hemits : emits with
  | false =>
    cases hcode : code with
    | true =>
      rw [hemits, hcode] at h
      cases h.covers rfl
    | false =>
      rw [hemits, hcode] at h
      simp only [Bool.false_eq_true, if_false]
      exact (h.append hpass).cast rfl rfl (by simp) (by simp) (by simp)
  | true =>
    cases hcode : code with
    | true =>
      rw [hemits, hcode] at h
      simp only [if_true]
      exact h.cast rfl rfl rfl rfl (by simp)
    | false =>
      rw [hemits, hcode] at h
      simp only [Bool.false_eq_true, if_false, if_true]
      have hnone : linesOf bare = [] := (linesOf_eq_nil bare).mpr h.bareLines
      have hbare : codeOf (linesOf (bare ++ [Piece.line .filler owner' "pass" depth])) =
          codeOf (linesOf [Piece.line .filler owner' "pass" depth]) := by
        rw [linesOf_append, hnone, List.nil_append]
      obtain ⟨others, hothers⟩ := hpass.reference
      refine ⟨?_, h.lines, ?_, fun _ => rfl, ⟨others, hbare.trans hothers⟩, h.broken, (by simp), ?_⟩
      · have hnames : [Piece.line .filler owner' "pass" depth].filterMap Piece.name? = [] := rfl
        rw [List.filterMap_append, h.names, hnames, List.append_nil]
      · rw [List.any_append, h.bareLines]
        rfl
      · intro lines more hlines hmore
        rw [hbare] at hmore
        have hone : more.length = 1 := by
          obtain ⟨text, htext, -⟩ := ((@Beside.same "pass" (by decide) rfl).before
            (indent_plain depth)).codeOf
          have hline : linesOf [Piece.line .filler owner' "pass" depth] =
              [Emitter.indent depth ++ "pass"] := by simp [linesOf]
          rw [hline] at hmore
          rw [Option.some.inj (hmore.symm.trans htext)]
          rfl
        obtain ⟨smuggled, lost, hcount, hsmuggled, hlost⟩ := h.count lines [] hlines (by
          rw [hnone]
          rfl)
        refine ⟨smuggled, lost + 1, ?_, hsmuggled, by simp⟩
        rw [hone]
        simp only [List.length_nil] at hcount
        omega

end Compared

/-- What a comment holds stays in comments: after a carriage return it is blank or a comment again,
and it has no character that no source may have. -/
def isHarmless (comment : Option String) : Bool :=
  match comment with
  | none => true
  | some comment => (comment.toList.splitOn '\n').all (PythonSource.isSilent .cpython true)

theorem Compared.comment (owner : SourceOrigin) (comment : Option String) (depth : ℕ) :
    Compared (commentPieces owner comment depth) [] (hasComment comment) false true
      (isHarmless comment) true := by
  have hline (line : List Char) : Compared
      [Piece.line .comment owner ("# " ++ String.ofList line) depth] [] true false true
      (PythonSource.isSilent .cpython true line) true := by
    have hlines : linesOf [Piece.line .comment owner ("# " ++ String.ofList line) depth] =
        [String.ofList (List.replicate (4 * depth) ' ' ++ '#' :: ' ' :: line)] := by
      have htext : Emitter.indent depth ++ ("# " ++ String.ofList line) =
          String.ofList (List.replicate (4 * depth) ' ' ++ '#' :: ' ' :: line) := by
        rw [← String.toList_inj, indent_toList]
        simp
      simp [linesOf, htext]
    have hsilent : PythonSource.isSilent .cpython true (' ' :: line) =
        PythonSource.isSilent .cpython true line := by
      rw [PythonSource.isSilent.eq_2]
      rfl
    have hread := @PythonSource.codeOf_comment .cpython (List.replicate (4 * depth) ' ')
      (fun c hc => (List.mem_replicate.mp hc).2) (' ' :: line)
    rw [hsilent, ← hlines] at hread
    refine ⟨rfl, rfl, rfl, (by rintro ⟨⟩), ⟨[], rfl⟩, (by rintro ⟨⟩), fun _ hharmless _ => ?_, ?_⟩
    · rw [hharmless, Option.any_eq_true] at hread
      obtain ⟨code, hcode, hempty⟩ := hread
      rw [List.isEmpty_iff.mp hempty] at hcode
      exact hcode
    · intro lines others hsome hothers
      obtain rfl : [] = others := Option.some.inj hothers
      have hcode : PythonSource.codeOf .cpython
          (linesOf [Piece.line .comment owner ("# " ++ String.ofList line) depth]) =
            some lines := hsome
      rw [hcode, Option.any_some] at hread
      refine ⟨lines.length, 0, by simp, ?_, by simp⟩
      rw [← hread, List.isEmpty_iff, List.length_eq_zero_iff]
  unfold commentPieces hasComment isHarmless
  cases comment with
  | none => exact .nil
  | some comment =>
    dsimp only
    by_cases hempty : comment = ""
    · subst hempty
      exact Compared.nil
    · rw [if_neg hempty]
      have hall (lines : List (List Char)) : Compared (lines.map fun line =>
          Piece.line .comment owner ("# " ++ String.ofList line) depth) [] (!lines.isEmpty) false
          true (lines.all (PythonSource.isSilent .cpython true)) true := by
        induction lines with
        | nil => exact .nil
        | cons line lines ih => exact ((hline line).append ih).cast rfl rfl rfl rfl rfl
      refine (hall _).cast ?_ rfl rfl rfl rfl
      rw [bne_iff_ne.mpr hempty]
      cases hparts : comment.toList.splitOn '\n' with
      | nil => exact absurd hparts (List.splitOn_ne_nil _ _)
      | cons line lines => rfl

section
variable (bindings : List GeneratorBinding)

mutual

/-- The blocks that are written as statements for a block: itself, and those of its suite. -/
def stepsIn (block : GeneratorBlock) : List GeneratorBlock :=
  match block with
  | block@⟨_, type, _, children, _, _⟩ =>
    match blockType type with
    | none => []
    | some .onStart | some .every | some .onGesture | some .repeat_ => block :: stepsInAll children
    | some .if_ =>
      match children with
      | [] => [block]
      | _ :: rest => block :: stepsInAll rest
    | some _ => [block]

def stepsInAll (children : List GeneratorBlock) : List GeneratorBlock :=
  match children with
  | [] => []
  | child :: rest => (if child.disabled then [] else stepsIn child) ++ stepsInAll rest

end

def suiteOf (block : GeneratorBlock) : List GeneratorBlock :=
  match blockType block.type with
  | some .onStart | some .every | some .onGesture | some .repeat_ => block.children
  | some .if_ => block.children.drop 1
  | _ => []

/-- What the lines of a block quote can be quoted; the arguments of a call of `parallel` are lines
of its own. -/
def quotesStep (block : GeneratorBlock) : Bool :=
  match blockType block.type with
  | some .parallel => (enabledBlocks block.children).all fun action =>
      !isAwaitable bindings action || quotesWell action
  | _ => !emitsCode bindings block || quotesWell block

/-- The steps quote what can be quoted, their comments are harmless, and their suites are filled. -/
def stepsQuote (steps : List GeneratorBlock) : Bool := steps.all (quotesStep bindings)

def stepsHarmless (steps : List GeneratorBlock) : Bool :=
  steps.all fun step => isHarmless step.comment

def stepsFill (steps : List GeneratorBlock) : Bool :=
  steps.all fun step => fillsSuite bindings (suiteOf step)

/-- The argument of a call of `parallel`, beside the same without its texts. -/
theorem parallelCall_beside (action : GeneratorBlock) :
    (parallelCall bindings action.erased Emitter.empty).2.used =
        (parallelCall bindings action Emitter.empty).2.used ∧
      Beside (!isAwaitable bindings action || quotesWell action)
        (parallelCall bindings action Emitter.empty).1
        (parallelCall bindings action.erased Emitter.empty).1 := by
  have hnone : Beside true "None" "None" := .same (by decide) rfl
  have hresolved : resolvedAlias bindings action =
      (resolveAlias bindings action Emitter.empty).1 := rfl
  unfold parallelCall isAwaitable quotesWell isCall
  rw [resolveAlias_erased, erased_type, hresolved]
  generalize resolveAlias bindings action Emitter.empty = resolved
  obtain ⟨alias_, emitter⟩ := resolved
  cases hspec : blockSpec action.type with
  | none =>
    unfold blockType
    rw [hspec]
    exact ⟨rfl, hnone⟩
  | some spec =>
    have hnumber (name : String) :
        IsPlainText (pythonNumber (action.field name) (spec.defaultOf name)) :=
      pythonNumber_plain _ (defaultOf_isFinite hspec name)
    have hdevice : (deviceCall action.erased (alias_.map aliasIdentifier) spec emitter).2.used =
          (deviceCall action (alias_.map aliasIdentifier) spec emitter).2.used ∧
        Beside (!(hasPythonForm spec.type && alias_.isSome) ||
            isQuotable (quotedText action spec.type))
          ((deviceCall action (alias_.map aliasIdentifier) spec emitter).1.getD "None")
          ((deviceCall action.erased (alias_.map aliasIdentifier) spec emitter).1.getD "None") := by
      obtain ⟨hsame, hcall⟩ := deviceCall_beside hspec alias_ emitter
      have htarget := @deviceCall_target action spec emitter (alias_.map aliasIdentifier)
      rw [Option.isSome_map, Bool.and_comm] at htarget
      refine ⟨congrArg Emitter.used hsame, ?_⟩
      rw [← htarget]
      rcases hcall with ⟨hcall, hbare⟩ | ⟨call, bare, hcall, hbare, hbeside⟩
      · rw [hcall, hbare]
        exact hnone
      · rw [hcall, hbare]
        exact hbeside
    rw [blockType_eq hspec]
    dsimp only
    cases htype : spec.type <;> rw [htype] at hdevice
    case wait =>
      rw [@erased_field action "seconds" (by decide)]
      refine ⟨rfl, .same ?_ ?_⟩
      · simp only [isPlainText_append]
        exact ⟨⟨by decide, hnumber _⟩, by decide⟩
      · have hbracket : PythonSource.isBlankLine ")" = false := by rfl
        rw [isBlankLine_append, hbracket, Bool.and_false]
    case log =>
      exact ⟨rfl, .quoted _ _ (by decide) (by decide) (by decide)
        (@erased_quotable action "message" (by decide) "" (by decide)).1⟩
    all_goals exact hdevice

theorem actionPieces_compared (actions : List GeneratorBlock) (depth : ℕ) :
    ∃ emits, Compared (actions.flatMap (actionPieces bindings depth))
      ((actions.map GeneratorBlock.erased).flatMap (actionPieces bindings depth)) emits emits
      (actions.all fun action => !isAwaitable bindings action || quotesWell action) true true := by
  induction actions with
  | nil => exact ⟨false, .nil⟩
  | cons action actions ih =>
    obtain ⟨emits, hrest⟩ := ih
    obtain ⟨hused, hbeside⟩ := parallelCall_beside bindings action
    have hline := Compared.line (hbeside.wrap (show IsPlainText "" by decide)
      (show IsPlainText "," by decide)) .head .head ⟨action.id, action.type, none⟩
        ⟨action.erased.id, action.erased.type, none⟩ depth
    simp only [String.empty_append] at hline
    have hone := (Compared.quietPieces hused.symm).append hline
    rw [List.map_cons, List.flatMap_cons, List.flatMap_cons]
    exact ⟨true, (hone.append hrest).cast rfl rfl (by simp) rfl rfl⟩

theorem quotesStep_of_empty {block : GeneratorBlock} {type : BlockType}
    (htype : blockType block.type = some type) (hparallel : type ≠ .parallel)
    (h : quotedText block type = "") : quotesStep bindings block = true := by
  have hwell : quotesWell block = true := by
    unfold quotesWell
    rw [htype]
    dsimp only
    rw [h]
    rfl
  unfold quotesStep
  rw [htype]
  cases type
  case parallel => exact absurd rfl hparallel
  all_goals
    dsimp only
    rw [hwell, Bool.or_true]

theorem quotesStep_of_code {block : GeneratorBlock} {type : BlockType}
    (htype : blockType block.type = some type) (hparallel : type ≠ .parallel)
    (h : emitsCode bindings block = true) :
    quotesStep bindings block = isQuotable (quotedText block type) := by
  have hstep : quotesStep bindings block = (!emitsCode bindings block || quotesWell block) := by
    unfold quotesStep
    rw [htype]
    cases type
    case parallel => exact absurd rfl hparallel
    all_goals rfl
  rw [hstep, h, Bool.not_true, Bool.false_or]
  unfold quotesWell
  rw [htype]

/-- A value in a condition; the sensors that it names are no texts of the program. -/
theorem emitExpression_beside (condition : GeneratorBlock) (emitter : Emitter) :
    Beside true (emitExpression bindings condition emitter).1
      (emitExpression bindings condition emitter).1 := by
  have hnone : Beside true "None" "None" := .same (by decide) rfl
  have hsensor (alias_ : Option String) (sensor : String) (h : isQuotable sensor = true) :
      Beside true ("(await " ++ (alias_.map aliasIdentifier).getD "device" ++ ".sensor(" ++
        pythonString (some (.str sensor)) ++ ")).value") ("(await " ++
          (alias_.map aliasIdentifier).getD "device" ++ ".sensor(" ++
            pythonString (some (.str sensor)) ++ ")).value") := by
    have hbefore : IsPlainText ("(await " ++ (alias_.map aliasIdentifier).getD "device" ++
        ".sensor(") := by
      simp only [isPlainText_append]
      exact ⟨⟨by decide, @target_plain alias_ "device" (by decide)⟩, by decide⟩
    have hopens : ("(await " ++ (alias_.map aliasIdentifier).getD "device" ++
        ".sensor(").toList.getLast?.any PythonSource.opens = true := by
      have hlast : ".sensor(".toList.getLast? = some '(' := by rfl
      rw [String.toList_append, List.getLast?_append, hlast]
      rfl
    have hbeside := Beside.quoted (some (.str sensor)) (some (.str sensor)) hbefore hopens
      (show IsPlainText ")).value" by decide) h
    have hquotes : isQuotable (textOf (some (.str sensor))) = true := h
    rwa [hquotes] at hbeside
  have hcall (target sensor : String) (h : ".sensor(" ++ pythonString (some (.str sensor)) ++
      ")).value" = ".sensor(\"" ++ sensor ++ "\")).value") : "(await " ++ target ++ ".sensor(" ++
        pythonString (some (.str sensor)) ++ ")).value" =
          "(await " ++ target ++ (".sensor(\"" ++ sensor ++ "\")).value") := by
    rw [← h]
    simp only [String.append_assoc]
  unfold emitExpression
  dsimp only
  split
  · have hline := hsensor (resolveAlias bindings condition emitter).1 "sensor.distance" (by decide)
    rwa [hcall _ "sensor.distance" (by decide)] at hline
  · have hline := hsensor (resolveAlias bindings condition emitter).1 "sensor.color" (by decide)
    rwa [hcall _ "sensor.color" (by decide)] at hline
  · have hline := hsensor (resolveAlias bindings condition emitter).1 "sensor.force" (by decide)
    rwa [hcall _ "sensor.force" (by decide)] at hline
  · exact hnone

theorem deviceCall_compared {block : GeneratorBlock} {spec : BlockSpec}
    (hspec : blockSpec block.type = some spec)
    (hcode : emitsCode bindings block = isCall bindings block spec.type)
    (owner owner' : SourceOrigin) (depth : ℕ) :
    Compared
      ((deviceCall block ((resolvedAlias bindings block).map aliasIdentifier) spec
        Emitter.empty).2.quietPieces ++
          ((deviceCall block ((resolvedAlias bindings block).map aliasIdentifier) spec
            Emitter.empty).1.map fun call =>
              Piece.line .head owner ("await " ++ call) depth).toList)
      ((deviceCall block.erased ((resolvedAlias bindings block).map aliasIdentifier) spec
        Emitter.empty).2.quietPieces ++
          ((deviceCall block.erased ((resolvedAlias bindings block).map aliasIdentifier) spec
            Emitter.empty).1.map fun call =>
              Piece.line .head owner' ("await " ++ call) depth).toList)
      (emitsCode bindings block) (emitsCode bindings block)
      (!emitsCode bindings block || quotesWell block) true true := by
  obtain ⟨hsame, hcall⟩ := deviceCall_beside hspec (resolvedAlias bindings block) Emitter.empty
  have hcount := @deviceCall_target block spec Emitter.empty
    ((resolvedAlias bindings block).map aliasIdentifier)
  rw [Option.isSome_map, Bool.and_comm] at hcount
  have hcode' : emitsCode bindings block = (deviceCall block
      ((resolvedAlias bindings block).map aliasIdentifier) spec Emitter.empty).1.isSome :=
    hcode.trans hcount.symm
  have hwell : quotesWell block = isQuotable (quotedText block spec.type) := by
    unfold quotesWell
    rw [blockType_eq hspec]
  rw [hwell, hcode', hsame]
  rcases hcall with ⟨hcall, hbare⟩ | ⟨call, bare, hcall, hbare, hbeside⟩
  · rw [hcall, hbare]
    exact ((Compared.quietPieces rfl).append .nil).cast rfl rfl rfl rfl rfl
  · rw [hcall, hbare]
    have hline := Compared.line (hbeside.before (show IsPlainText "await " by decide)) .head .head
      owner owner' depth
    exact ((Compared.quietPieces rfl).append hline).cast rfl rfl rfl rfl rfl

mutual

theorem statementPieces_compared (block : GeneratorBlock) (depth : ℕ) :
    Compared (statementPieces bindings block depth) (statementPieces bindings block.erased depth)
      (emits bindings block) (emitsCode bindings block) (stepsQuote bindings (stepsIn block))
      (stepsHarmless (stepsIn block)) (stepsFill bindings (stepsIn block)) := by
  match block with
  | ⟨id, type, fields, children, disabled, comment⟩ =>
    have hfield {name : String} (h : name ∉ textFields) :=
      erased_field ⟨id, type, fields, children, disabled, comment⟩ h
    have hquoted {name : String} (h : name ∈ textFields) {fallback : String}
        (hfallback : isQuotable fallback = true) :=
      erased_quotable ⟨id, type, fields, children, disabled, comment⟩ h hfallback
    have hresolve := resolveAlias_erased ⟨id, type, fields, children, disabled, comment⟩ bindings
    have hresolved : resolvedAlias bindings
        (GeneratorBlock.erased ⟨id, type, fields, children, disabled, comment⟩) =
          resolvedAlias bindings ⟨id, type, fields, children, disabled, comment⟩ := by
      unfold resolvedAlias
      rw [hresolve]
    have haliasPieces : aliasPieces bindings
        (GeneratorBlock.erased ⟨id, type, fields, children, disabled, comment⟩) =
          aliasPieces bindings ⟨id, type, fields, children, disabled, comment⟩ := by
      unfold aliasPieces
      rw [hresolve]
    have hcalls (spec : BlockSpec) (h : blockSpec type = some spec) :=
      @deviceCall_compared bindings ⟨id, type, fields, children, disabled, comment⟩ spec h
    have herased : GeneratorBlock.erased ⟨id, type, fields, children, disabled, comment⟩ =
        ⟨id, type, fields.map eraseField, erasedAll children, disabled, none⟩ := by
      rw [GeneratorBlock.erased]
    rw [herased] at hfield hquoted hresolved haliasPieces hcalls ⊢
    rw [statementPieces.eq_def, statementPieces.eq_def, stepsIn.eq_def]
    cases hspec : blockSpec type with
    | none =>
      have htype : blockType type = none := by
        unfold blockType
        rw [hspec]
        rfl
      simp only [hspec, htype]
      refine (Compared.quiet rfl rfl rfl).cast ?_ ?_ rfl rfl rfl
      · unfold emits
        rw [htype]
        rfl
      · unfold emitsCode
        rw [htype]
    | some spec =>
      have htype := blockType_eq hspec
      have hnumber (name : String) (value : Option JsonValue) :
          IsPlainText (pythonNumber value (spec.defaultOf name)) :=
        pythonNumber_plain _ (defaultOf_isFinite hspec name)
      have hcall := hcalls spec hspec
      have hemits : emits bindings ⟨id, type, fields, children, disabled, comment⟩ =
          (emitsCode bindings ⟨id, type, fields, children, disabled, comment⟩ ||
            hasComment comment) := by
        unfold emits
        rw [htype]
        exact Bool.true_and _
      have hchildren := statementsPieces_compared children (depth + 1)
      simp only [hspec, htype, hresolved, haliasPieces, @hfield "seconds" (by decide),
        @hfield "times" (by decide)]
      have hquiet : Compared (if spec.hasDevice = true then aliasPieces bindings
          ⟨id, type, fields, children, disabled, comment⟩ else [])
          (if spec.hasDevice = true then aliasPieces bindings
            ⟨id, type, fields, children, disabled, comment⟩ else [])
          false false true true true := by
        split
        · exact .quietPieces rfl
        · exact .nil
      rw [hemits]
      generalize (if spec.hasDevice = true then aliasPieces bindings
        ⟨id, type, fields, children, disabled, comment⟩ else []) = quiet at hquiet ⊢
      have hdevice := hasDevice_eq hspec
      generalize halias : (if spec.hasDevice = true then
        resolvedAlias bindings ⟨id, type, fields, children, disabled, comment⟩ else none) = alias_
      have hassemble {body body' : List Piece} {code quotes harmless fills : Bool}
          (hbody : Compared body body' code code quotes harmless fills)
          (hcode : emitsCode bindings ⟨id, type, fields, children, disabled, comment⟩ = code) :
          Compared (commentPieces ⟨id, type, alias_⟩ comment depth ++ quiet ++ body)
            (commentPieces ⟨id, type, alias_⟩ none depth ++ quiet ++ body')
            (emitsCode bindings ⟨id, type, fields, children, disabled, comment⟩ ||
              hasComment comment)
            (emitsCode bindings ⟨id, type, fields, children, disabled, comment⟩) quotes
            (isHarmless comment && harmless) fills := by
        subst hcode
        refine (((Compared.comment _ comment depth).append hquiet).append hbody).cast ?_ ?_ ?_ ?_ ?_
        · rw [Bool.or_false, Bool.or_comm]
        · rfl
        · rfl
        · rw [Bool.and_true]
        · rfl
      have hhead {text : String} (h : IsPlainText text)
          (hfilled : PythonSource.isBlankLine text = false) :=
        Compared.plain h hfilled .head ⟨id, type, alias_⟩ ⟨id, type, alias_⟩ depth
      have hlater {text : String} (h : IsPlainText text)
          (hfilled : PythonSource.isBlankLine text = false) :=
        Compared.plain h hfilled .later ⟨id, type, alias_⟩ ⟨id, type, alias_⟩ depth
      have hsuite := hchildren.suite ⟨id, type, alias_⟩ ⟨id, type, alias_⟩ (depth + 1)
      have hends {text : String} : PythonSource.isBlankLine (text ++ ")") = false ∧
          PythonSource.isBlankLine (text ++ "):") = false := by
        have hbracket : PythonSource.isBlankLine ")" = false := by rfl
        have hcolon : PythonSource.isBlankLine "):" = false := by rfl
        rw [isBlankLine_append, isBlankLine_append, hbracket, hcolon, Bool.and_false]
        exact ⟨rfl, rfl⟩
      have hcode {known : BlockType} (h : spec.type = known) (hmem : known ∈ [BlockType.onStart,
          .every, .onGesture, .repeat_, .if_, .parallel, .wait, .log]) :
          emitsCode bindings ⟨id, type, fields, children, disabled, comment⟩ = true := by
        unfold emitsCode
        rw [htype, h]
        simp only [List.mem_cons, List.not_mem_nil, or_false] at hmem
        rcases hmem with rfl | rfl | rfl | rfl | rfl | rfl | rfl | rfl <;> rfl
      have hone (suite : List GeneratorBlock) :
          stepsQuote bindings (⟨id, type, fields, children, disabled, comment⟩ :: suite) =
            (quotesStep bindings ⟨id, type, fields, children, disabled, comment⟩ &&
              stepsQuote bindings suite) := List.all_cons
      have hempty {known : BlockType} (h : spec.type = known) (hparallel : known ≠ .parallel)
          (hquoted : quotedText ⟨id, type, fields, children, disabled, comment⟩ known = "") :
          quotesStep bindings ⟨id, type, fields, children, disabled, comment⟩ = true :=
        quotesStep_of_empty bindings (htype.trans (congrArg some h)) hparallel hquoted
      have hfills (suite : List GeneratorBlock) :
          stepsFill bindings (⟨id, type, fields, children, disabled, comment⟩ :: suite) =
            (fillsSuite bindings (suiteOf ⟨id, type, fields, children, disabled, comment⟩) &&
              stepsFill bindings suite) := List.all_cons
      have hsuiteOf {known : BlockType} (h : spec.type = known) :
          suiteOf ⟨id, type, fields, children, disabled, comment⟩ = match some known with
            | some .onStart | some .every | some .onGesture | some .repeat_ => children
            | some .if_ => children.drop 1
            | _ => [] := by
        unfold suiteOf
        rw [htype, h]
      cases hknown : spec.type
      case onStart =>
        rw [hone, hfills, hempty hknown (by decide) rfl, hsuiteOf hknown]
        exact hassemble ((@hhead "async def main():" (by decide) rfl).append hsuite)
          (hcode hknown (by decide))
      case repeat_ =>
        rw [hone, hfills, hempty hknown (by decide) rfl, hsuiteOf hknown]
        refine hassemble ((hhead ?_ hends.2).append hsuite) (hcode hknown (by decide))
        simp only [isPlainText_append]
        exact ⟨⟨by decide, hnumber _ _⟩, by decide⟩
      case every =>
        rw [hone, hfills, hempty hknown (by decide) rfl, hsuiteOf hknown]
        refine hassemble ((Compared.name .every).append ((hhead ?_ hends.1).append
          ((hlater ?_ ?_).append hsuite))) (hcode hknown (by decide))
        · simp only [isPlainText_append]
          exact ⟨⟨by decide, hnumber _ _⟩, by decide⟩
        · simp only [isPlainText_append]
          refine ⟨⟨by decide, ⟨by decide, ?_⟩, by decide⟩, by decide⟩
          exact timer_plain _ (defaultOf_isFinite hspec _)
        · have hcolon : PythonSource.isBlankLine "():" = false := by rfl
          rw [isBlankLine_append, hcolon, Bool.and_false]
      case onGesture =>
        rw [hone, hfills, hsuiteOf hknown, quotesStep_of_code bindings
          (htype.trans (congrArg some hknown)) (by decide) (hcode hknown (by decide))]
        have htarget := @target_plain alias_ "leap" (by decide)
        have hbefore : IsPlainText ("@when(" ++ (alias_.map aliasIdentifier).getD "leap" ++
            ".gesture(") := by
          simp only [isPlainText_append]
          exact ⟨⟨by decide, htarget⟩, by decide⟩
        have hopens : ("@when(" ++ (alias_.map aliasIdentifier).getD "leap" ++
            ".gesture(").toList.getLast?.any PythonSource.opens = true := by
          have hlast : ".gesture(".toList.getLast? = some '(' := by rfl
          rw [String.toList_append, List.getLast?_append, hlast]
          rfl
        have hgesture := Beside.quoted (orText (GeneratorBlock.field
          ⟨id, type, fields, children, disabled, comment⟩ "gesture") "open_palm") _ hbefore hopens
            (show IsPlainText "))" by decide)
            (@hquoted "gesture" (by decide) "open_palm" (by decide)).2
        exact hassemble ((Compared.name .when).append ((Compared.line hgesture .head .head _ _
          depth).append ((@hlater "async def on_gesture():" (by decide) rfl).append hsuite)))
            (hcode hknown (by decide))
      case wait =>
        rw [hone, hfills, hempty hknown (by decide) rfl, hsuiteOf hknown]
        refine hassemble ((Compared.name .sleep).append (hhead ?_ hends.1))
          (hcode hknown (by decide))
        simp only [isPlainText_append]
        exact ⟨⟨by decide, hnumber _ _⟩, by decide⟩
      case log =>
        rw [hone, hfills, hsuiteOf hknown, quotesStep_of_code bindings
          (htype.trans (congrArg some hknown)) (by decide) (hcode hknown (by decide))]
        have hmessage := Beside.quoted (GeneratorBlock.field
          ⟨id, type, fields, children, disabled, comment⟩ "message") _
            (show IsPlainText "await log(" by decide) (by decide) (show IsPlainText ")" by decide)
            (@hquoted "message" (by decide) "" (by decide)).1
        refine (hassemble ((Compared.name .log).append (Compared.line hmessage .head .head _ _
          depth)) (hcode hknown (by decide))).cast rfl rfl ?_ rfl rfl
        exact (Bool.and_true _).symm
      case if_ =>
        cases children with
        | nil =>
          have hpass := Compared.nil.suite ⟨id, type, alias_⟩ ⟨id, type, alias_⟩ (depth + 1)
          rw [hone, hfills, hempty hknown (by decide) rfl, hsuiteOf hknown]
          exact hassemble ((@hhead "if True:" (by decide) rfl).append hpass)
            (hcode hknown (by decide))
        | cons condition rest =>
          have hrest := (statementsPieces_compared rest (depth + 1)).suite ⟨id, type, alias_⟩
            ⟨id, type, alias_⟩ (depth + 1)
          rw [hone, hfills, hempty hknown (by decide) rfl, hsuiteOf hknown, erasedAll]
          dsimp only
          rw [emitExpression_erased]
          have hline := Compared.line ((emitExpression_beside bindings condition
            Emitter.empty).wrap (show IsPlainText "if " by decide)
              (show IsPlainText ":" by decide)) .head .head ⟨id, type, alias_⟩ ⟨id, type, alias_⟩
                depth
          exact hassemble ((Compared.quietPieces rfl).append (hline.append hrest))
            (hcode hknown (by decide))
      case parallel =>
        have hactions : (erasedAll children).filter (fun child => !child.disabled) =
            (children.filter fun child => !child.disabled).map GeneratorBlock.erased := by
          rw [erasedAll_eq, List.filter_map]
          congr 1
          refine List.filter_congr fun child _ => ?_
          rw [Function.comp_apply, erased_disabled]
        have hstep : quotesStep bindings ⟨id, type, fields, children, disabled, comment⟩ =
            (children.filter fun child => !child.disabled).all fun action =>
              !isAwaitable bindings action || quotesWell action := by
          unfold quotesStep
          rw [htype, hknown]
          rfl
        rw [hone, hfills, hstep, hsuiteOf hknown, hactions]
        cases hfilter : children.filter fun child => !child.disabled with
        | nil =>
          exact hassemble ((Compared.name .parallel).append (@hhead "pass" (by decide) rfl))
            (hcode hknown (by decide))
        | cons action actions =>
          obtain ⟨emitsActions, hall⟩ := actionPieces_compared bindings (action :: actions)
            (depth + 1)
          have hclosing := @Compared.plain ")" (by decide) rfl .closing ⟨id, type, alias_⟩
            ⟨id, type, alias_⟩ depth
          have hopening := @hhead "await parallel(" (by decide) rfl
          refine (hassemble ((Compared.name .parallel).append (hopening.append
            (hall.append hclosing))) (hcode hknown (by decide))).cast rfl rfl ?_ rfl rfl
          rfl
      all_goals
        rw [hknown] at hdevice
        rw [hdevice, if_pos rfl] at halias
        subst halias
        rw [hone, hfills, hsuiteOf hknown]
        have hsteps : quotesStep bindings ⟨id, type, fields, children, disabled, comment⟩ =
            (!emitsCode bindings ⟨id, type, fields, children, disabled, comment⟩ ||
              quotesWell ⟨id, type, fields, children, disabled, comment⟩) := by
          unfold quotesStep
          rw [htype, hknown]
        have hform : emitsCode bindings ⟨id, type, fields, children, disabled, comment⟩ =
            isCall bindings ⟨id, type, fields, children, disabled, comment⟩ spec.type := by
          unfold emitsCode
          rw [htype, hknown]
        rw [hsteps]
        exact (hassemble (hcall hform _ _ depth) rfl).cast rfl rfl (Bool.and_true _).symm rfl rfl

theorem statementsPieces_compared (children : List GeneratorBlock) (depth : ℕ) :
    Compared (statementsPieces bindings children depth)
      (statementsPieces bindings (erasedAll children) depth)
      ((enabledBlocks children).any (emits bindings))
      ((enabledBlocks children).any (emitsCode bindings))
      (stepsQuote bindings (stepsInAll children)) (stepsHarmless (stepsInAll children))
      (stepsFill bindings (stepsInAll children)) := by
  match children with
  | [] =>
    rw [erasedAll, statementsPieces, stepsInAll]
    exact .nil
  | child :: rest =>
    have hrest := statementsPieces_compared rest depth
    rw [erasedAll, statementsPieces, statementsPieces, stepsInAll, erased_disabled]
    unfold enabledBlocks at hrest ⊢
    cases hdisabled : child.disabled with
    | true =>
      rw [List.filter_cons_of_neg (by simp [hdisabled])]
      exact hrest
    | false =>
      have hchild := statementPieces_compared child depth
      rw [List.filter_cons_of_pos (by simp [hdisabled]), List.any_cons, List.any_cons]
      refine (hchild.append hrest).cast rfl rfl ?_ ?_ ?_
      · exact List.all_append.symm
      · exact List.all_append.symm
      · exact List.all_append.symm

end

end

end CitPhysicalXR.Blocks
