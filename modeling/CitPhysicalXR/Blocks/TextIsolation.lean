import CitPhysicalXR.Blocks.TextComparison

/-! The programs of which the code does not depend on the texts in them: on what is quoted, and on
the comments. -/
namespace CitPhysicalXR.Blocks
open Foundation

section
variable (bindings : List GeneratorBinding)

/-- The blocks that a program writes as statements. -/
def programSteps (blocks : List GeneratorBlock) : List GeneratorBlock :=
  (eventBlocks blocks).flatMap stepsIn ++ stepsInAll (mainSteps blocks)

/-- Every text that the program quotes can be quoted: it has no carriage return and no null
character. -/
def quotesTexts (blocks : List GeneratorBlock) : Bool :=
  (bindings.all fun binding => isQuotable binding.deviceId) &&
    stepsQuote bindings (programSteps blocks)

def harmlessComments (blocks : List GeneratorBlock) : Bool :=
  ((startBlocks blocks).all fun start => isHarmless start.comment) &&
    stepsHarmless (programSteps blocks)

/-- Every suite has a line of code, or no line, so that it gets a statement. -/
def fillsSuites (blocks : List GeneratorBlock) : Bool :=
  fillsSuite bindings (mainSteps blocks) && stepsFill bindings (programSteps blocks)

section
variable (blocks : List GeneratorBlock)

theorem filter_erasedAll {p : GeneratorBlock → Bool}
    (hp : ∀ block, p block.erased = p block) :
    (erasedAll blocks).filter p = (blocks.filter p).map GeneratorBlock.erased := by
  rw [erasedAll_eq, List.filter_map]
  congr 1
  exact List.filter_congr fun block _ => hp block

theorem eventBlocks_erased :
    eventBlocks (erasedAll blocks) = erasedAll (eventBlocks blocks) := by
  unfold eventBlocks enabledBlocks
  rw [filter_erasedAll blocks fun block => by rw [erased_disabled], ← erasedAll_eq,
    filter_erasedAll _ fun block => by
      unfold isTopLevel isStart
      rw [erased_type], ← erasedAll_eq]

theorem startBlocks_erased :
    startBlocks (erasedAll blocks) = erasedAll (startBlocks blocks) := by
  unfold startBlocks enabledBlocks
  rw [filter_erasedAll blocks fun block => by rw [erased_disabled], ← erasedAll_eq,
    filter_erasedAll _ fun block => by
      unfold isStart
      rw [erased_type], ← erasedAll_eq]

theorem looseBlocks_erased :
    looseBlocks (erasedAll blocks) = erasedAll (looseBlocks blocks) := by
  unfold looseBlocks enabledBlocks
  rw [filter_erasedAll blocks fun block => by rw [erased_disabled], ← erasedAll_eq,
    filter_erasedAll _ fun block => by
      unfold isTopLevel
      rw [erased_type], ← erasedAll_eq]

theorem erasedAll_append (first second : List GeneratorBlock) :
    erasedAll (first ++ second) = erasedAll first ++ erasedAll second := by
  rw [erasedAll_eq, List.map_append, ← erasedAll_eq, ← erasedAll_eq]

theorem mainSteps_erased : mainSteps (erasedAll blocks) = erasedAll (mainSteps blocks) := by
  have hchildren (starts : List GeneratorBlock) :
      (erasedAll starts).flatMap GeneratorBlock.children =
        erasedAll (starts.flatMap GeneratorBlock.children) := by
    induction starts with
    | nil => rfl
    | cons start starts ih =>
      rw [erasedAll, List.flatMap_cons, List.flatMap_cons, erasedAll_append, ih, erased_children]
  unfold mainSteps
  rw [startBlocks_erased, looseBlocks_erased, hchildren, erasedAll_append]

end

/-- A block with its own declaration. -/
theorem event_compared {block : GeneratorBlock} (htop : isTopLevel block = true)
    (henabled : block.disabled = false) (owner owner' : SourceOrigin) :
    Compared (suitePieces owner 0 (statementsPieces bindings [block] 0) ++ [Piece.blank])
      (suitePieces owner' 0 (statementsPieces bindings [block.erased] 0) ++ [Piece.blank])
      true true (stepsQuote bindings (stepsIn block)) (stepsHarmless (stepsIn block))
      (stepsFill bindings (stepsIn block)) := by
  obtain ⟨spec, hspec, htype⟩ := eventType htop
  have hcode : emitsCode bindings block = true := by
    unfold emitsCode
    rw [blockType_eq hspec]
    rcases htype with htype | htype | htype <;> rw [htype]
  have hone := statementsPieces_compared bindings [block] 0
  have hsteps : stepsInAll [block] = stepsIn block := by
    rw [stepsInAll, stepsInAll, henabled, List.append_nil]
    rfl
  have herased : erasedAll [block] = [block.erased] := by rw [erasedAll, erasedAll]
  have hany : (enabledBlocks [block]).any (emitsCode bindings) = true := by
    unfold enabledBlocks
    rw [List.filter_cons_of_pos (by simp [henabled]), List.any_cons, hcode]
    rfl
  rw [hsteps, herased, hany] at hone
  refine ((hone.suite owner owner' 0).append .blank).cast rfl rfl ?_ ?_ ?_
  · rw [Bool.and_true]
  · rw [Bool.and_true]
  · rw [Bool.and_true, Bool.true_or, Bool.true_and]

theorem events_compared {events : List GeneratorBlock} (h : ∀ event ∈ events,
    isTopLevel event = true ∧ event.disabled = false) :
    ∃ emits, Compared
      (events.flatMap fun block => suitePieces ⟨block.id, block.type, none⟩ 0
        (statementsPieces bindings [block] 0) ++ [Piece.blank])
      ((erasedAll events).flatMap fun block => suitePieces ⟨block.id, block.type, none⟩ 0
        (statementsPieces bindings [block] 0) ++ [Piece.blank])
      emits emits (stepsQuote bindings (events.flatMap stepsIn))
      (stepsHarmless (events.flatMap stepsIn)) (stepsFill bindings (events.flatMap stepsIn)) := by
  induction events with
  | nil => exact ⟨false, .nil⟩
  | cons event events ih =>
    obtain ⟨emits, hrest⟩ := ih fun other hother => h other (.tail _ hother)
    obtain ⟨htop, henabled⟩ := h event (List.mem_cons_self ..)
    have hfirst := event_compared bindings htop henabled ⟨event.id, event.type, none⟩
      ⟨event.erased.id, event.erased.type, none⟩
    rw [erasedAll, List.flatMap_cons, List.flatMap_cons, List.flatMap_cons]
    refine ⟨true, (hfirst.append hrest).cast rfl rfl ?_ ?_ ?_⟩
    · exact List.all_append.symm
    · exact List.all_append.symm
    · exact List.all_append.symm

theorem starts_compared (starts : List GeneratorBlock) :
    ∃ emits, Compared (starts.flatMap fun start =>
        commentPieces ⟨start.id, start.type, none⟩ start.comment 0)
      ((erasedAll starts).flatMap fun start =>
        commentPieces ⟨start.id, start.type, none⟩ start.comment 0)
      emits false true (starts.all fun start => isHarmless start.comment) true := by
  induction starts with
  | nil => exact ⟨false, .nil⟩
  | cons start starts ih =>
    obtain ⟨emits, hrest⟩ := ih
    rw [erasedAll, List.flatMap_cons, List.flatMap_cons, erased_comment]
    exact ⟨_, (Compared.comment _ start.comment 0).append hrest⟩

/-- The declarations of a program beside those of the same program without texts. -/
theorem declarationPieces_eq (blocks : List GeneratorBlock) :
    declarationPieces bindings blocks =
      ((eventBlocks blocks).flatMap fun block =>
        suitePieces ⟨block.id, block.type, none⟩ 0 (statementsPieces bindings [block] 0) ++
          [Piece.blank]) ++
        match startBlocks blocks ++ looseBlocks blocks with
        | [] => []
        | anchor :: _ => mainPieces bindings (startBlocks blocks) (looseBlocks blocks) anchor := rfl

theorem declarationPieces_compared (blocks : List GeneratorBlock) :
    ∃ emits code, Compared (declarationPieces bindings blocks)
      (declarationPieces bindings (erasedAll blocks)) emits code
      (stepsQuote bindings (programSteps blocks)) (harmlessComments blocks)
      (fillsSuites bindings blocks) := by
  have hevents : ∀ event ∈ eventBlocks blocks,
      isTopLevel event = true ∧ event.disabled = false := by
    intro event hevent
    obtain ⟨hmem, htop⟩ := List.mem_filter.mp hevent
    have henabled := (List.mem_filter.mp hmem).2
    rw [Bool.and_eq_true] at htop
    exact ⟨htop.1, by simpa using henabled⟩
  obtain ⟨emits, hdeclared⟩ := events_compared bindings hevents
  have hquote : stepsQuote bindings (programSteps blocks) =
      (stepsQuote bindings ((eventBlocks blocks).flatMap stepsIn) &&
        stepsQuote bindings (stepsInAll (mainSteps blocks))) := List.all_append
  have hharmless : stepsHarmless (programSteps blocks) =
      (stepsHarmless ((eventBlocks blocks).flatMap stepsIn) &&
        stepsHarmless (stepsInAll (mainSteps blocks))) := List.all_append
  have hfill : stepsFill bindings (programSteps blocks) =
      (stepsFill bindings ((eventBlocks blocks).flatMap stepsIn) &&
        stepsFill bindings (stepsInAll (mainSteps blocks))) := List.all_append
  rw [declarationPieces_eq, declarationPieces_eq, eventBlocks_erased, startBlocks_erased, looseBlocks_erased,
    ← erasedAll_append]
  unfold harmlessComments fillsSuites
  rw [hquote, hharmless, hfill]
  cases hanchor : startBlocks blocks ++ looseBlocks blocks with
  | nil =>
    obtain ⟨hstarts, hloose⟩ := List.append_eq_nil_iff.mp hanchor
    have hmain : mainSteps blocks = [] := by
      unfold mainSteps
      rw [hstarts, hloose]
      rfl
    rw [hmain, hstarts, erasedAll, stepsInAll]
    exact ⟨_, _, (hdeclared.append .nil).cast rfl rfl rfl (by simp [stepsHarmless])
      (by simp [stepsFill, fillsSuite])⟩
  | cons anchor others =>
    rw [erasedAll]
    obtain ⟨more, hcomments⟩ := starts_compared (startBlocks blocks)
    have hsteps := (statementsPieces_compared bindings (mainSteps blocks) 1).suite
      ⟨anchor.id, anchor.type, none⟩ ⟨anchor.erased.id, anchor.erased.type, none⟩ 1
    have hhead := @Compared.plain "async def main():" (by decide) rfl .head
      ⟨anchor.id, anchor.type, none⟩ ⟨anchor.erased.id, anchor.erased.type, none⟩ 0
    have hmain := hcomments.append (hhead.append (hsteps.append .blank))
    rw [← mainSteps_erased] at hmain
    unfold mainSteps at hmain
    rw [startBlocks_erased, looseBlocks_erased] at hmain
    refine ⟨_, _, (hdeclared.append hmain).cast rfl rfl ?_ ?_ ?_⟩
    · simp [mainSteps]
    · simp only [Bool.true_and, Bool.and_true, mainSteps]
      ac_rfl
    · simp only [Bool.true_and, Bool.and_true, mainSteps, fillsSuite, enabledBlocks]
      ac_rfl

def GeneratorBinding.erased (binding : GeneratorBinding) : GeneratorBinding :=
  { binding with deviceId := "" }

/-- The lines in front of the declarations, as pieces that no block owns. -/
def preamblePieces (localeCompare : String → String → Ordering)
    (bindings : List GeneratorBinding) (imports : List SdkName) : List Piece :=
  let line (text : String) : Piece := .line .later ⟨"", "", none⟩ text 0
  line (importLine imports) :: Piece.blank :: Piece.blank ::
    ((sortedBindings localeCompare bindings).map (fun binding => line (deviceLine binding)) ++
      if (sortedBindings localeCompare bindings).isEmpty then [] else [Piece.blank, Piece.blank])

theorem preamblePieces_lines (localeCompare : String → String → Ordering)
    (bindings : List GeneratorBinding) (imports : List SdkName) :
    linesOf (preamblePieces localeCompare bindings imports) =
      (emitPreamble bindings localeCompare imports).lines := by
  have hline {text : String} (h : text ≠ "") (rest : List Piece) :
      linesOf (Piece.line .later ⟨"", "", none⟩ text 0 :: rest) = text :: linesOf rest := by
    have hindent : Emitter.indent 0 ++ text = text := String.empty_append
    have hone : linesOf [Piece.line .later ⟨"", "", none⟩ text 0] = [text] := by
      show [if text = "" then "" else Emitter.indent 0 ++ text] = [text]
      rw [if_neg h, hindent]
    have happend := linesOf_append [Piece.line .later ⟨"", "", none⟩ text 0] rest
    rw [hone] at happend
    exact happend
  have hblank (rest : List Piece) : linesOf (Piece.blank :: rest) = "" :: linesOf rest := rfl
  have hdevices (devices : List GeneratorBinding) (rest : List Piece) :
      linesOf (devices.map (fun binding =>
        Piece.line .later ⟨"", "", none⟩ (deviceLine binding) 0) ++ rest) =
        devices.map deviceLine ++ linesOf rest := by
    induction devices with
    | nil => rfl
    | cons device devices ih =>
      rw [List.map_cons, List.cons_append, hline (deviceLine_ne_empty device), ih]
      rfl
  rw [emitPreamble_lines]
  unfold preamblePieces
  dsimp only
  rw [hline (importLine_isTidy imports).1, hblank, hblank, hdevices]
  split <;> rfl

theorem importLine_plain (imports : List SdkName) : IsPlainText (importLine imports) := by
  unfold importLine
  rw [isPlainText_append]
  refine ⟨by decide, intercalate_plain ?_⟩
  intro text htext
  obtain ⟨name, _, rfl⟩ := List.mem_map.mp htext
  cases name <;> decide

theorem sortedBindings_erased (localeCompare : String → String → Ordering) :
    sortedBindings localeCompare (bindings.map GeneratorBinding.erased) =
      (sortedBindings localeCompare bindings).map GeneratorBinding.erased := by
  unfold sortedBindings
  refine (List.map_insertionSort _ _ _ _ ?_).symm
  intro a _ b _
  rfl

theorem preamble_compared (localeCompare : String → String → Ordering) (imports : List SdkName) :
    ∃ emits, Compared (preamblePieces localeCompare bindings imports)
      (preamblePieces localeCompare (bindings.map GeneratorBinding.erased) imports) emits emits
      (bindings.all fun binding => isQuotable binding.deviceId) true true := by
  have hdevices (devices : List GeneratorBinding) : ∃ emits, Compared
      (devices.map fun binding => Piece.line .later ⟨"", "", none⟩ (deviceLine binding) 0)
      ((devices.map GeneratorBinding.erased).map fun binding =>
        Piece.line .later ⟨"", "", none⟩ (deviceLine binding) 0) emits emits
      (devices.all fun binding => isQuotable binding.deviceId) true true := by
    induction devices with
    | nil => exact ⟨false, .nil⟩
    | cons device devices ih =>
      obtain ⟨emits, hrest⟩ := ih
      have hbefore : IsPlainText (aliasIdentifier device.alias_ ++ " = device(") := by
        rw [isPlainText_append]
        exact ⟨aliasIdentifier_plain _, by decide⟩
      have hopens : (aliasIdentifier device.alias_ ++ " = device(").toList.getLast?.any
          PythonSource.opens = true := by
        have hlast : " = device(".toList.getLast? = some '(' := by rfl
        rw [String.toList_append, List.getLast?_append, hlast]
        rfl
      have hline := Beside.quoted (some (.str device.deviceId)) (some (.str "")) hbefore hopens
        (show IsPlainText ")" by decide) (by decide)
      exact ⟨true, (Compared.line hline .later .later ⟨"", "", none⟩ ⟨"", "", none⟩ 0).append hrest⟩
  have hall : ((sortedBindings localeCompare bindings).all fun binding =>
      isQuotable binding.deviceId) = bindings.all fun binding => isQuotable binding.deviceId := by
    unfold sortedBindings
    exact (List.perm_insertionSort _ bindings).all_eq
  have hempty : (sortedBindings localeCompare (bindings.map GeneratorBinding.erased)).isEmpty =
      (sortedBindings localeCompare bindings).isEmpty := by
    rw [sortedBindings_erased, List.isEmpty_map]
  obtain ⟨emits, hlines⟩ := hdevices (sortedBindings localeCompare bindings)
  rw [hall, ← sortedBindings_erased] at hlines
  have himport := Compared.plain (importLine_plain imports) (by
    have hfrom : PythonSource.isBlankLine "from citxr import " = false := by rfl
    unfold importLine
    rw [isBlankLine_append, hfrom, Bool.false_and]) .later ⟨"", "", none⟩ ⟨"", "", none⟩ 0
  have hends : ∃ emits, Compared
      (if (sortedBindings localeCompare bindings).isEmpty then [] else [Piece.blank, Piece.blank])
      (if (sortedBindings localeCompare bindings).isEmpty then [] else [Piece.blank, Piece.blank])
      emits emits true true true := by
    split
    · exact ⟨false, .nil⟩
    · exact ⟨true, Compared.blank.append .blank⟩
  obtain ⟨more, hends⟩ := hends
  unfold preamblePieces
  dsimp only
  rw [hempty]
  exact ⟨_, (himport.append (Compared.blank.append (Compared.blank.append
    (hlines.append hends)))).cast rfl rfl (by simp) rfl rfl⟩

section
variable (localeCompare : String → String → Ordering) (blocks : List GeneratorBlock)

/-- The program without the texts of its blocks and bindings, and without comments. The device that
a block stands for is told from the bindings as they are. -/
def bareProgram : String :=
  programText ((emitPreamble (bindings.map GeneratorBinding.erased) localeCompare
    (importedNames bindings (erasedAll blocks))).lines ++
      (emitDeclarations bindings (erasedAll blocks)).lines)

/-- No text of the program is read as code: its code is that of the program without texts. -/
def KeepsCode : Prop :=
  Dialect.cpython.codeLines? (generatePython bindings localeCompare blocks).python =
    Dialect.cpython.codeLines? (bareProgram bindings localeCompare blocks)

/-- The texts and comments of the program are such that none of them is read as code. -/
def keepsTexts : Bool :=
  quotesTexts bindings blocks && harmlessComments blocks && fillsSuites bindings blocks

theorem codeLines_programText {lines : List String} {imports : List SdkName}
    (h : importLine imports ∈ lines) :
    Dialect.cpython.codeLines? (programText lines) = codeOf lines := by
  rw [PythonSource.codeLines?_eq (programText_toList h (importLine_isTidy imports).1)]
  exact PythonSource.codeOf_rdropWhile lines

theorem importedNames_erased :
    importedNames bindings (erasedAll blocks) = importedNames bindings blocks := by
  obtain ⟨emits, code, h⟩ := declarationPieces_compared bindings blocks
  have hused (blocks : List GeneratorBlock) (name : SdkName) :
      name ∈ (emitDeclarations bindings blocks).used ↔
        name ∈ (declarationPieces bindings blocks).filterMap Piece.name? := by
    rw [emitDeclarations_write, used_writeAll, List.mem_filterMap]
    constructor
    · rintro (hnone | hmem)
      · cases hnone
      · exact ⟨_, hmem, rfl⟩
    · rintro ⟨piece, hpiece, hname⟩
      cases piece with
      | name used =>
        obtain rfl := Option.some.inj hname
        exact .inr hpiece
      | line role owner text depth => cases hname
      | blank => cases hname
      | warning given => cases hname
  unfold importedNames
  refine List.filter_congr fun name _ => ?_
  rw [decide_eq_decide, hused, hused, h.names]

theorem program_compared : ∃ pieces bare emits code,
    Compared pieces bare emits code (quotesTexts bindings blocks) (harmlessComments blocks)
      (fillsSuites bindings blocks) ∧
    Dialect.cpython.codeLines? (generatePython bindings localeCompare blocks).python =
      codeOf (linesOf pieces) ∧
    Dialect.cpython.codeLines? (bareProgram bindings localeCompare blocks) =
      codeOf (linesOf bare) := by
  obtain ⟨emits, hpreamble⟩ := preamble_compared bindings localeCompare
    (importedNames bindings blocks)
  obtain ⟨more, code, hdeclared⟩ := declarationPieces_compared bindings blocks
  have hlines (blocks : List GeneratorBlock) : (emitDeclarations bindings blocks).lines =
      linesOf (declarationPieces bindings blocks) := by
    rw [emitDeclarations_write, lines_writeAll]
    rfl
  have himport (bindings : List GeneratorBinding) (imports : List SdkName) (rest : List String) :
      importLine imports ∈ (emitPreamble bindings localeCompare imports).lines ++ rest := by
    rw [emitPreamble_lines]
    exact List.mem_append_left _ (List.mem_append_left _ (List.mem_append_left _
      (List.mem_cons_self ..)))
  refine ⟨_, _, _, _, (hpreamble.append hdeclared).cast rfl rfl rfl rfl rfl, ?_, ?_⟩
  · rw [generatePython_python, programLines, codeLines_programText (himport bindings _ _),
      linesOf_append, preamblePieces_lines]
  · unfold bareProgram
    rw [importedNames_erased, hlines, codeLines_programText (himport _ _ _), linesOf_append,
      preamblePieces_lines]

/-- The code of a program depends on its texts exactly where it has to be seen to: what is quoted
can be quoted, comments are harmless, and no suite lacks its statement for a comment. Only code in a
comment and the lack of a statement could make up for each other. -/
theorem texts_isolated :
    (Dialect.cpython.codeLines? (bareProgram bindings localeCompare blocks)).isSome = true ∧
    (keepsTexts bindings blocks = true → KeepsCode bindings localeCompare blocks) ∧
    (KeepsCode bindings localeCompare blocks → quotesTexts bindings blocks = true ∧
      harmlessComments blocks = fillsSuites bindings blocks) ∧
    ∀ others, erasedAll others = erasedAll blocks → keepsTexts bindings blocks = true →
      keepsTexts bindings others = true →
        Dialect.cpython.codeLines? (generatePython bindings localeCompare blocks).python =
          Dialect.cpython.codeLines? (generatePython bindings localeCompare others).python := by
  have hkeeps (blocks : List GeneratorBlock) (h : keepsTexts bindings blocks = true) :
      KeepsCode bindings localeCompare blocks := by
    obtain ⟨pieces, bare, emits, code, hcompared, hpython, hbare⟩ :=
      program_compared bindings localeCompare blocks
    unfold keepsTexts at h
    rw [Bool.and_eq_true, Bool.and_eq_true] at h
    obtain ⟨⟨hquotes, hharmless⟩, hfills⟩ := h
    unfold KeepsCode
    rw [hpython, hbare]
    exact hcompared.kept hquotes hharmless hfills
  obtain ⟨pieces, bare, emits, code, hcompared, hpython, hbare⟩ :=
    program_compared bindings localeCompare blocks
  obtain ⟨reference, hreference⟩ := hcompared.reference
  refine ⟨by rw [hbare, hreference]; rfl, hkeeps blocks, fun hsame => ?_, ?_⟩
  · unfold KeepsCode at hsame
    rw [hpython, hbare, hreference] at hsame
    have hquotes : quotesTexts bindings blocks = true := by
      cases hquotes : quotesTexts bindings blocks with
      | true => rfl
      | false =>
        rw [hcompared.broken hquotes] at hsame
        cases hsame
    obtain ⟨smuggled, lost, hcount, hsmuggled, hlost⟩ :=
      hcompared.count reference reference hsame hreference
    have hboth : smuggled = lost := by omega
    rw [hboth] at hsmuggled
    exact ⟨hquotes, Bool.eq_iff_iff.mpr (hsmuggled.symm.trans hlost)⟩
  · intro others herased hfirst hsecond
    have hone := hkeeps blocks hfirst
    have hother := hkeeps others hsecond
    unfold KeepsCode bareProgram at hone hother
    rw [herased] at hother
    exact hone.trans hother.symm

end

/-- A message with quotes, line ends and a comment mark, below a comment that goes on after a
carriage return. -/
theorem texts_isolated_message :
    let blocks : List GeneratorBlock := [⟨"step", "cit_log", [("message", .str "say \"#1\"\n")],
      [], false, some "first\r# second"⟩]
    let others : List GeneratorBlock := [⟨"step", "cit_log", [("message", .str "")], [], false,
      none⟩]
    KeepsCode [] (fun _ _ => .eq) blocks ∧ harmlessComments blocks = fillsSuites [] blocks ∧
      Dialect.cpython.codeLines? (generatePython [] (fun _ _ => .eq) blocks).python =
        Dialect.cpython.codeLines? (generatePython [] (fun _ _ => .eq) others).python := by
  intro blocks others
  obtain ⟨_, hkeeps, hneeded, hothers⟩ := texts_isolated [] (fun _ _ => .eq) blocks
  have hcode := hkeeps (by decide)
  exact ⟨hcode, (hneeded hcode).2, hothers others rfl (by decide) (by decide)⟩

/-- A carriage return ends a literal, and a comment. -/
theorem text_becomes_code :
    ¬ KeepsCode [] (fun _ _ => .eq)
      [⟨"step", "cit_log", [("message", .str "one\rtwo")], [], false, none⟩] ∧
    Dialect.cpython.codeLines? (generatePython [] (fun _ _ => .eq)
      [⟨"step", "cit_log", [], [], false, some "note\r    launch()"⟩]).python =
      some ["from citxr import device, log", "async def main():", "    launch()",
        "    await log(\"\")"] := by
  constructor
  · unfold KeepsCode
    decide +kernel
  · decide +kernel

end

end CitPhysicalXR.Blocks
