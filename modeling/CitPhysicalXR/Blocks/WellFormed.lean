import CitPhysicalXR.Blocks.Preamble

/-! The programs that the generator gives a text that Python can read. -/
namespace CitPhysicalXR.Blocks
open Foundation PythonText Scan Reading

def enabledBlocks (blocks : List GeneratorBlock) : List GeneratorBlock :=
  blocks.filter fun block => !block.disabled

def eventBlocks (blocks : List GeneratorBlock) : List GeneratorBlock :=
  (enabledBlocks blocks).filter fun block => isTopLevel block && !isStart block

def startBlocks (blocks : List GeneratorBlock) : List GeneratorBlock :=
  (enabledBlocks blocks).filter isStart

def looseBlocks (blocks : List GeneratorBlock) : List GeneratorBlock :=
  (enabledBlocks blocks).filter fun block => !isTopLevel block

def mainSteps (blocks : List GeneratorBlock) : List GeneratorBlock :=
  (startBlocks blocks).flatMap GeneratorBlock.children ++ looseBlocks blocks

/-- Every line that the program emits is legal, and every suite in it gets a line of code. -/
def isSoundProgram (bindings : List GeneratorBinding) (blocks : List GeneratorBlock) : Bool :=
  bindings.all isDeclarable && ((eventBlocks blocks).all (isSound bindings) &&
    ((startBlocks blocks ++ looseBlocks blocks).isEmpty ||
      ((startBlocks blocks).all (fun start => !hasNull start.comment) &&
        (fillsSuite bindings (mainSteps blocks) && areSound bindings (mainSteps blocks)))))

/-- No comment that the program emits has code after a carriage return. -/
def commentsStay (blocks : List GeneratorBlock) : Bool :=
  (eventBlocks blocks).all staysInert && ((startBlocks blocks).all (fun start =>
    isInert start.comment) && stayInert (mainSteps blocks))

section
variable {bindings : List GeneratorBinding}

theorem eventType {block : GeneratorBlock} (htop : isTopLevel block = true) :
    ∃ spec, blockSpec block.type = some spec ∧
      (spec.type = .onStart ∨ spec.type = .every ∨ spec.type = .onGesture) := by
  unfold isTopLevel blockType at htop
  cases hspec : blockSpec block.type with
  | none =>
    rw [hspec] at htop
    cases htop
  | some spec =>
    refine ⟨spec, rfl, ?_⟩
    rw [hspec, Option.map_some] at htop
    cases htype : spec.type
    all_goals first
      | exact .inl rfl
      | exact .inr (.inl rfl)
      | exact .inr (.inr rfl)
      | (rw [htype] at htop; cases htop)

variable (hbindable : ∀ binding ∈ bindings, isBindable (aliasIdentifier binding.alias_).toList = true)

include hbindable in
theorem emits_declaration {block : GeneratorBlock} (henabled : block.disabled = false)
    (htop : isTopLevel block = true) (hstart : isStart block = false)
    (hinert : staysInert block = true) (emitter : Emitter) :
    Emits emitter ((emitBody bindings [block] 0 emitter).emit "" 0 none) 0 false false true
      (isSound bindings block) := by
  obtain ⟨spec, hspec, htype⟩ := eventType htop
  obtain ⟨id, type, fields, children, disabled, comment⟩ := block
  rw [staysInert.eq_def] at hinert
  simp only [blockType_eq hspec, Bool.and_eq_true] at hinert
  obtain ⟨hcomment, hinner⟩ := hinert
  have hchildren : stayInert children = true := by
    rcases htype with htype | htype | htype <;> simpa only [htype] using hinner
  have hevent : Emits emitter (emitStatement bindings
      ⟨id, type, fields, children, disabled, comment⟩ 0 emitter) 0 false false true
      (isSound bindings ⟨id, type, fields, children, disabled, comment⟩) :=
    emits_event hbindable hspec htype hcomment 0 false emitter fun emitter =>
      emitStatements_emits hbindable children 1 emitter hchildren
  have hone : emitStatements bindings [⟨id, type, fields, children, disabled, comment⟩] 0 emitter =
      emitStatement bindings ⟨id, type, fields, children, disabled, comment⟩ 0 emitter := by
    rw [emitStatements, emitStatements, henabled]
    rfl
  have hclosed : Emits emitter (emitBody bindings
      [⟨id, type, fields, children, disabled, comment⟩] 0 emitter) 0 false false true
      (isSound bindings ⟨id, type, fields, children, disabled, comment⟩) := by
    unfold emitBody
    rw [hone]
    have hsome : Emits emitter (emitStatement bindings
        ⟨id, type, fields, children, disabled, comment⟩ 0 emitter) (0 + 0) false (!true) true
        (isSound bindings ⟨id, type, fields, children, disabled, comment⟩) := hevent
    exact hsome.close
  have hall := hclosed.trans (emits_blank _ false)
  rwa [Bool.and_true] at hall

include hbindable in
theorem emits_events {events : List GeneratorBlock}
    (hevents : ∀ block ∈ events, block.disabled = false ∧ isTopLevel block = true ∧
      isStart block = false) (hinert : events.all staysInert = true) (emitter : Emitter) :
    ∃ silent code, Emits emitter (events.foldl (fun body block =>
      (emitBody bindings [block] 0 body).emit "" 0 none) emitter) 0 false silent code
      (events.all (isSound bindings)) := by
  induction events generalizing emitter with
  | nil => exact ⟨true, false, .same rfl⟩
  | cons block events ih =>
    rw [List.all_cons, Bool.and_eq_true] at hinert
    obtain ⟨henabled, htop, hstart⟩ := hevents block (List.mem_cons_self ..)
    have hfirst := emits_declaration hbindable henabled htop hstart hinert.1 emitter
    obtain ⟨silent, code, hrest⟩ := ih (fun other hother => hevents other (.tail _ hother))
      hinert.2 ((emitBody bindings [block] 0 emitter).emit "" 0 none)
    exact ⟨_, _, hfirst.trans hrest⟩

theorem emits_startComments {starts : List GeneratorBlock}
    (hinert : starts.all (fun start => isInert start.comment) = true) (emitter : Emitter) :
    ∃ silent, Emits emitter (starts.foldl (fun body start => emitComment start.comment 0 body)
      emitter) 0 false silent false (starts.all fun start => !hasNull start.comment) := by
  induction starts generalizing emitter with
  | nil => exact ⟨true, .same rfl⟩
  | cons start starts ih =>
    rw [List.all_cons, Bool.and_eq_true] at hinert
    have hfirst : Emits emitter (emitComment start.comment 0 emitter) 0 false _ _ _ :=
      .comment hinert.1
    obtain ⟨silent, hrest⟩ := ih hinert.2 (emitComment start.comment 0 emitter)
    exact ⟨_, hfirst.trans hrest⟩

include hbindable in
theorem emits_mainFunction {steps : List GeneratorBlock} (hinert : stayInert steps = true)
    (emitter : Emitter) (origin : Option SourceOrigin) :
    Emits emitter (emitBody bindings steps 1 (emitter.emit "async def main():" 0 origin)) 0 false
      false true (fillsSuite bindings steps && areSound bindings steps) :=
  emits_main (emitStatements_emits hbindable steps 1 _ hinert).body

theorem emitDeclarations_eq (blocks : List GeneratorBlock) : emitDeclarations bindings blocks =
    let body := (eventBlocks blocks).foldl (fun body block =>
      (emitBody bindings [block] 0 body).emit "" 0 none) Emitter.empty
    match startBlocks blocks ++ looseBlocks blocks with
    | [] => body
    | anchor :: _ =>
      let body := (startBlocks blocks).foldl (fun body start =>
        emitComment start.comment 0 body) body
      (emitBody bindings (mainSteps blocks) 1 (body.emit "async def main():" 0
        (some ⟨anchor.id, anchor.type, none⟩))).emit "" 0 none := rfl

include hbindable in
theorem emits_declarations {blocks : List GeneratorBlock} (hinert : commentsStay blocks = true) :
    ∃ silent code, Emits Emitter.empty (emitDeclarations bindings blocks) 0 false silent code
      ((eventBlocks blocks).all (isSound bindings) &&
        ((startBlocks blocks ++ looseBlocks blocks).isEmpty ||
          ((startBlocks blocks).all (fun start => !hasNull start.comment) &&
            (fillsSuite bindings (mainSteps blocks) &&
              areSound bindings (mainSteps blocks))))) := by
  unfold commentsStay at hinert
  rw [Bool.and_eq_true, Bool.and_eq_true] at hinert
  obtain ⟨heventsInert, hstartsInert, hstepsInert⟩ := hinert
  have hmembers : ∀ block ∈ eventBlocks blocks, block.disabled = false ∧
      isTopLevel block = true ∧ isStart block = false := by
    intro block hblock
    obtain ⟨hmem, hkind⟩ := List.mem_filter.mp hblock
    obtain ⟨_, henabled⟩ := List.mem_filter.mp hmem
    simp only [Bool.and_eq_true, Bool.not_eq_true'] at henabled hkind
    exact ⟨henabled, hkind⟩
  obtain ⟨silent, code, hevents⟩ := emits_events hbindable hmembers heventsInert Emitter.empty
  rw [emitDeclarations_eq]
  dsimp only
  cases hmain : startBlocks blocks ++ looseBlocks blocks with
  | nil =>
    rw [List.isEmpty_nil, Bool.true_or, Bool.and_true]
    exact ⟨silent, code, hevents⟩
  | cons anchor rest =>
    obtain ⟨quiet, hcomments⟩ := emits_startComments hstartsInert
      ((eventBlocks blocks).foldl (fun body block =>
        (emitBody bindings [block] 0 body).emit "" 0 none) Emitter.empty)
    have hsteps := emits_mainFunction hbindable hstepsInert
      ((startBlocks blocks).foldl (fun body start => emitComment start.comment 0 body)
        ((eventBlocks blocks).foldl (fun body block =>
          (emitBody bindings [block] 0 body).emit "" 0 none) Emitter.empty))
      (some ⟨anchor.id, anchor.type, none⟩)
    have hall := hevents.trans (hcomments.trans (hsteps.trans (emits_blank _ false)))
    rw [Bool.and_true] at hall
    rw [List.isEmpty_cons, Bool.false_or]
    exact ⟨_, _, hall⟩

end

theorem usedImports_sublist (used : List SdkName) :
    (importOrder.filter fun name => name ∈ used ∨ name = .device).Sublist importOrder ∧
      (importOrder.filter fun name => name ∈ used ∨ name = .device) ≠ [] := by
  constructor
  · exact List.filter_sublist
  · apply List.ne_nil_of_mem (a := SdkName.device)
    exact List.mem_filter.mpr ⟨by decide, by simp⟩

/-- The text of a program can be read if and only if its lines are legal and its suites are filled,
given that no comment smuggles code in after a carriage return. -/
theorem generatePython_wellFormed (localeCompare : String → String → Ordering)
    (bindings : List GeneratorBinding) (blocks : List GeneratorBlock)
    (hcomments : commentsStay blocks = true) :
    isModule takesAwaitables (generatePython bindings localeCompare blocks).python.toList = true ↔
      isSoundProgram bindings blocks = true := by
  obtain ⟨hsublist, hfilled⟩ := usedImports_sublist (emitDeclarations bindings blocks).used
  have htext : isModule takesAwaitables
      (generatePython bindings localeCompare blocks).python.toList =
      (readLines Layout.start ((emitPreamble bindings localeCompare (importOrder.filter fun name =>
        name ∈ (emitDeclarations bindings blocks).used ∨ name = .device)).lines ++
          (emitDeclarations bindings blocks).lines)).any Layout.isComplete :=
    isModule_programText _
  rw [htext]
  apply Bool.eq_iff_iff.mp
  unfold isSoundProgram
  cases hdevices : bindings.all isDeclarable with
  | false =>
    rw [readLines_preamble hdevices localeCompare hsublist hfilled, Bool.false_and]
    rfl
  | true =>
    have hbindable : ∀ binding ∈ bindings,
        isBindable (aliasIdentifier binding.alias_).toList = true := by
      intro binding hbinding
      have hdeclarable := List.all_eq_true.mp hdevices binding hbinding
      exact (Bool.and_eq_true_iff.mp hdeclarable).2
    obtain ⟨_, _, hpreamble⟩ := emits_preamble bindings localeCompare hsublist hfilled
    obtain ⟨_, _, hdeclarations⟩ := emits_declarations hbindable hcomments
    obtain ⟨before, hbefore, hfills⟩ := hpreamble
    obtain ⟨after, hafter, hfills'⟩ := hdeclarations
    obtain ⟨added, hadded, hreads, _⟩ := hbefore.adds
    obtain ⟨more, hmore, hreads', _⟩ := hafter.adds
    have hboth := hreads.append hreads' Layout.start rfl
    rw [hadded, hmore]
    show (readLines Layout.start (added ++ more)).any Layout.isComplete = _
    rw [hboth, (hfills.append hfills').complete, hdevices]

/-- A timer that moves a robot, and a greeting. -/
theorem generatePython_wellFormed_timer :
    isModule takesAwaitables (generatePython [⟨"rover", "rover-1"⟩] (fun _ _ => .eq)
      [⟨"a", "cit_every", [("seconds", .float (.finite (1 / 2)))],
        [⟨"b", "cit_stop", [], [], false, some "stop it"⟩], false, none⟩,
        ⟨"c", "cit_log", [("message", .str "hello")], [], false, none⟩]).python.toList = true :=
  (generatePython_wellFormed (fun _ _ => .eq) _ _ (by decide +kernel)).mpr (by decide +kernel)

/-- A suite with a comment only, a timer with a name that is none, and an argument that is none. -/
theorem generatePython_illFormed :
    (∃ bindings localeCompare blocks, isModule takesAwaitables
      (generatePython bindings localeCompare blocks).python.toList = false) ∧
    isModule takesAwaitables (generatePython [] (fun _ _ => .eq)
      [⟨"a", "cit_on_start", [], [⟨"b", "cit_stop", [], [], false, some "stop it"⟩], false,
        none⟩]).python.toList = false ∧
    isModule takesAwaitables (generatePython [] (fun _ _ => .eq)
      [⟨"a", "cit_every", [("seconds", .int (-1))], [], false, none⟩]).python.toList =
        false ∧
    isModule takesAwaitables (generatePython [] (fun _ _ => .eq)
      [⟨"a", "cit_parallel", [], [⟨"b", "cit_stop", [], [], false, none⟩], false,
        none⟩]).python.toList = false ∧
    isModule takesAwaitables (generatePython [⟨"class", "rover-1"⟩] (fun _ _ => .eq) []).python.toList
      = false := by
  have hempty : isModule takesAwaitables (generatePython [] (fun _ _ => .eq)
      [⟨"a", "cit_on_start", [], [⟨"b", "cit_stop", [], [], false, some "stop it"⟩], false,
        none⟩]).python.toList = false := by
    decide
  refine ⟨⟨_, _, _, hempty⟩, hempty, ?_, ?_, ?_⟩
  · decide +kernel
  · decide
  · decide

end CitPhysicalXR.Blocks
