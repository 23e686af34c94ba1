import CitPhysicalXR.Blocks.BlockTrees
import Mathlib.Data.List.Sublists

/-! The text of generated lines, and the preamble of a program: its imports and its devices. -/
namespace CitPhysicalXR.Blocks
open Foundation PythonText Scan Reading

theorem readLine_blank (layout : Layout) : Layout.readLine takesAwaitables layout "".toList =
    some layout := rfl

theorem readLines_blank (layout : Layout) {lines : List String} (h : ∀ line ∈ lines, line = "") :
    readLines layout lines = some layout := by
  induction lines with
  | nil => rfl
  | cons line lines ih =>
    rw [readLines_cons, h line (List.mem_cons_self ..), readLine_blank, Option.bind_some]
    exact ih fun other hother => h other (.tail _ hother)

theorem readLine_append (layout : Layout) (first rest : List Char) :
    Layout.readLine takesAwaitables layout (first ++ '\n' :: rest) =
      (Layout.readLine takesAwaitables layout first).bind fun next =>
        Layout.readLine takesAwaitables next rest := by
  unfold Layout.readLine
  rw [physicalLines_append, List.foldlM_append]
  rfl

theorem readLine_join (layout : Layout) (lines : List String) :
    Layout.readLine takesAwaitables layout (String.intercalate "\n" lines ++ "\n").toList =
      readLines layout lines := by
  have hlast (layout : Layout) (line : String) :
      Layout.readLine takesAwaitables layout (line ++ "\n").toList =
        Layout.readLine takesAwaitables layout line.toList := by
    have htext : (line ++ "\n").toList = line.toList ++ '\n' :: [] := by
      rw [String.toList_append]
      rfl
    rw [htext, readLine_append]
    exact Option.bind_fun_some _
  induction lines generalizing layout with
  | nil => rfl
  | cons line lines ih =>
    cases lines with
    | nil =>
      rw [String.intercalate_singleton, hlast, readLines_cons]
      exact (Option.bind_fun_some _).symm
    | cons next lines =>
      have htext : (String.intercalate "\n" (line :: next :: lines) ++ "\n").toList =
          line.toList ++ '\n' :: (String.intercalate "\n" (next :: lines) ++ "\n").toList := by
        rw [String.intercalate_cons_cons]
        simp only [String.toList_append, List.append_assoc]
        rfl
      rw [htext, readLine_append, readLines_cons]
      congr 1
      funext layout
      exact ih layout

theorem isModule_programText (lines : List String) :
    isModule takesAwaitables (programText lines).toList =
      (readLines Layout.start lines).any Layout.isComplete := by
  have hsplit : lines = (lines.reverse.dropWhile (· == "")).reverse ++
      (lines.reverse.takeWhile (· == "")).reverse := by
    rw [← List.reverse_append, List.takeWhile_append_dropWhile, List.reverse_reverse]
  have hblank : ∀ line ∈ (lines.reverse.takeWhile (· == "")).reverse, line = "" := by
    intro line hline
    have hmem := List.mem_reverse.mp hline
    have hempty := List.mem_takeWhile_imp hmem
    simpa using hempty
  have hread : readLines Layout.start lines =
      readLines Layout.start (lines.reverse.dropWhile (· == "")).reverse := by
    conv_lhs => rw [hsplit]
    rw [readLines_append]
    simp only [readLines_blank _ hblank]
    exact Option.bind_fun_some _
  unfold isModule programText
  rw [hread, ← readLine_join]
  rfl

/-- A line of imports that Python reads. -/
def importsRead (imports : List SdkName) : Bool :=
  let text := ("from citxr import " ++ String.intercalate ", " (imports.map SdkName.text)).toList
  text.all (fun c => !isLineEnd c) && match tokenize text with
    | none => false
    | some tokens => Layout.openBrackets tokens == some 0 &&
        [true, false].all fun canAwait =>
          statement takesAwaitables canAwait tokens == some .simple

theorem readsLine_imports {imports : List SdkName} (h : imports.Sublist importOrder)
    (hfilled : imports ≠ []) :
    ReadsLine ("from citxr import " ++ String.intercalate ", " (imports.map SdkName.text)).toList
      fun _ => some .simple := by
  have hall : ∀ imports ∈ importOrder.sublists, imports ≠ [] → importsRead imports = true := by
    decide +kernel
  have hread := hall imports (List.mem_sublists.mpr h) hfilled
  unfold importsRead at hread
  generalize htext : ("from citxr import " ++
    String.intercalate ", " (imports.map SdkName.text)).toList = text at hread ⊢
  have hcontent : Layout.Content text := by
    rw [← htext, String.toList_append]
    exact content_cons (by decide) (by decide) _
  dsimp only at hread
  rw [Bool.and_eq_true] at hread
  obtain ⟨hline, hread⟩ := hread
  cases htokens : tokenize text with
  | none =>
    rw [htokens] at hread
    cases hread
  | some tokens =>
    rw [htokens] at hread
    simp only [List.all_cons, List.all_nil, Bool.and_true, Bool.and_eq_true, beq_iff_eq] at hread
    obtain ⟨hdepth, htrue, hfalse⟩ := hread
    have hkind : (fun canAwait => statement takesAwaitables canAwait tokens) =
        fun _ => some .simple := by
      funext canAwait
      cases canAwait
      · exact hfalse
      · exact htrue
    intro indentation layout hopen
    have hplain : ∀ c ∈ List.replicate indentation ' ' ++ text, isLineEnd c = false := by
      intro c hc
      rcases List.mem_append.mp hc with hblank | hc
      · rw [(List.mem_replicate.mp hblank).2]
        rfl
      · simpa using List.all_eq_true.mp hline c hc
    rw [Layout.readLine_single hplain, Layout.step_line hcontent indentation hopen htokens hdepth,
      hkind]

/-- The line of a binding can be read. -/
def isDeclarable (binding : GeneratorBinding) : Bool :=
  isQuotable binding.deviceId && isBindable (aliasIdentifier binding.alias_).toList

def deviceLine (binding : GeneratorBinding) : String :=
  aliasIdentifier binding.alias_ ++ " = device(" ++ pythonString (some (.str binding.deviceId)) ++ ")"

theorem readsLine_device (binding : GeneratorBinding) :
    ReadsLine (deviceLine binding).toList
      (ifLegal (isDeclarable binding) fun _ => some .simple) := by
  have hopening : Spells "device(".toList [.word "device".toList, .mark '('] := fun _ => rfl
  have hcall := callText_function hopening (by decide) (by decide)
    (valueText_string (some (.str binding.deviceId)))
  have hline := readsLine_assign (aliasIdentifier_word binding.alias_) hcall
  have htext : (deviceLine binding).toList = (aliasIdentifier binding.alias_).toList ++
      " = ".toList ++ ("device(".toList ++
        (pythonString (some (.str binding.deviceId))).toList ++ [')']) := by
    unfold deviceLine
    simp only [String.toList_append, List.append_assoc]
    rfl
  rw [htext]
  exact hline

theorem deviceLine_ne_empty (binding : GeneratorBinding) : deviceLine binding ≠ "" := by
  intro hempty
  have hlength := congrArg (fun text => text.toList.length) hempty
  unfold deviceLine at hlength
  simp at hlength

theorem emits_blank (emitter : Emitter) (canAwait : Bool) :
    Emits emitter (emitter.emit "" 0 none) 0 canAwait false false true :=
  ⟨[], writes_blank emitter, .nil⟩

theorem emits_devices (bindings : List GeneratorBinding) (emitter : Emitter) :
    ∃ silent code, Emits emitter
      (bindings.foldl (fun emitter binding => emitter.emit (deviceLine binding) 0 none) emitter) 0
      false silent code (bindings.all isDeclarable) := by
  induction bindings generalizing emitter with
  | nil => exact ⟨true, false, .same rfl⟩
  | cons binding bindings ih =>
    obtain ⟨silent, code, hrest⟩ := ih (emitter.emit (deviceLine binding) 0 none)
    have hline : Emits emitter (emitter.emit (deviceLine binding) 0 none) 0 false false true
        (isDeclarable binding) := by
      apply Emits.line (deviceLine_ne_empty binding) none (readsLine_device binding)
      cases isDeclarable binding <;> rfl
    exact ⟨_, _, hline.trans hrest⟩

theorem readLines_devices {bindings : List GeneratorBinding}
    (h : bindings.all isDeclarable = false) {base : List (ℕ × Bool)} {layout : Layout}
    (hready : Layout.Ready 0 false base layout) :
    readLines layout (bindings.map deviceLine) = none := by
  induction bindings generalizing layout with
  | nil => cases h
  | cons binding bindings ih =>
    have hread := readsLine_device binding 0 layout hready.closed
    rw [List.map_cons, readLines_cons]
    refine (congrArg (fun result => Option.bind result _) hread).trans ?_
    cases hlegal : isDeclarable binding with
    | false =>
      rw [hready.enter_none rfl, Option.bind_none]
    | true =>
      have hkind : ifLegal true (fun _ => some LineKind.simple) false = some .simple := rfl
      obtain ⟨next, hnext, hplaced⟩ := hready.enter_simple hkind
      rw [hnext, Option.bind_some]
      rw [List.all_cons, hlegal, Bool.true_and] at h
      exact ih h hplaced.ready

def sortedBindings (localeCompare : String → String → Ordering) (bindings : List GeneratorBinding) :
    List GeneratorBinding :=
  bindings.insertionSort fun a b => localeCompare a.alias_ b.alias_ ≠ .gt

theorem all_sortedBindings (localeCompare : String → String → Ordering)
    (bindings : List GeneratorBinding) :
    (sortedBindings localeCompare bindings).all isDeclarable = bindings.all isDeclarable :=
  (List.perm_insertionSort _ bindings).all_eq

/-- The imports and two blank lines. -/
def importsEmitter (imports : List SdkName) : Emitter :=
  ((Emitter.empty.emit ("from citxr import " ++ String.intercalate ", " (imports.map SdkName.text))
    0 none).emit "" 0 none).emit "" 0 none

theorem emitPreamble_eq (bindings : List GeneratorBinding)
    (localeCompare : String → String → Ordering) (imports : List SdkName) :
    emitPreamble bindings localeCompare imports =
      let devices := (sortedBindings localeCompare bindings).foldl
        (fun emitter binding => emitter.emit (deviceLine binding) 0 none) (importsEmitter imports)
      if (sortedBindings localeCompare bindings).isEmpty then devices
      else (devices.emit "" 0 none).emit "" 0 none := rfl

theorem emits_imports {imports : List SdkName} (h : imports.Sublist importOrder)
    (hfilled : imports ≠ []) :
    Emits Emitter.empty (importsEmitter imports) 0 false false true true := by
  have hne : "from citxr import " ++ String.intercalate ", " (imports.map SdkName.text) ≠ "" := by
    intro hempty
    have hlength := congrArg (fun text => text.toList.length) hempty
    simp at hlength
  have hline : Emits Emitter.empty (Emitter.empty.emit
      ("from citxr import " ++ String.intercalate ", " (imports.map SdkName.text)) 0 none) 0 false
      false true true := .line hne none (readsLine_imports h hfilled) rfl
  exact (hline.trans (emits_blank _ false)).trans (emits_blank _ false)

theorem emits_preamble (bindings : List GeneratorBinding)
    (localeCompare : String → String → Ordering) {imports : List SdkName}
    (h : imports.Sublist importOrder) (hfilled : imports ≠ []) :
    ∃ silent code, Emits Emitter.empty (emitPreamble bindings localeCompare imports) 0 false silent
      code (bindings.all isDeclarable) := by
  obtain ⟨silent, code, hdevices⟩ := emits_devices (sortedBindings localeCompare bindings)
    (importsEmitter imports)
  have hall := (emits_imports h hfilled).trans hdevices
  rw [all_sortedBindings, Bool.true_and] at hall
  rw [emitPreamble_eq]
  dsimp only
  split
  · exact ⟨_, _, hall⟩
  · have hblank := (hall.trans (emits_blank _ false)).trans (emits_blank _ false)
    rw [Bool.and_true, Bool.and_true] at hblank
    exact ⟨_, _, hblank⟩

theorem devices_lines (bindings : List GeneratorBinding) (emitter : Emitter) :
    (bindings.foldl (fun emitter binding => emitter.emit (deviceLine binding) 0 none) emitter).lines =
      emitter.lines ++ bindings.map deviceLine := by
  induction bindings generalizing emitter with
  | nil => simp
  | cons binding bindings ih =>
    rw [List.foldl_cons, ih, emit_lines emitter (deviceLine_ne_empty binding), List.map_cons,
      List.append_assoc]
    have hindent : Emitter.indent 0 ++ deviceLine binding = deviceLine binding := String.empty_append
    rw [hindent]
    rfl

/-- A module with a binding that cannot be declared is refused. -/
theorem readLines_preamble {bindings : List GeneratorBinding}
    (h : bindings.all isDeclarable = false) (localeCompare : String → String → Ordering)
    {imports : List SdkName} (himports : imports.Sublist importOrder) (hfilled : imports ≠ [])
    (lines : List String) :
    readLines Layout.start ((emitPreamble bindings localeCompare imports).lines ++ lines) = none := by
  have hstart : Layout.Placed 0 false [] Layout.start := ⟨⟨[], rfl, by simp⟩, rfl, rfl, rfl⟩
  obtain ⟨entries, hwrites, hfills⟩ := emits_imports himports hfilled
  obtain ⟨added, hadded, hreads, _⟩ := hwrites.adds
  obtain ⟨next, hnext, hplaced⟩ := hfills.added [] Layout.start hstart.ready rfl rfl
  have himportsRead : readLines Layout.start (importsEmitter imports).lines = some next := by
    have hlines : (importsEmitter imports).lines = added := hadded
    rw [hlines, hreads Layout.start rfl, hnext]
  have hdevices : readLines Layout.start ((importsEmitter imports).lines ++
      (sortedBindings localeCompare bindings).map deviceLine) = none := by
    rw [readLines_append, himportsRead, Option.bind_some]
    exact readLines_devices ((all_sortedBindings localeCompare bindings).trans h) hplaced.ready
  have hlines : ∃ more, (emitPreamble bindings localeCompare imports).lines =
      (importsEmitter imports).lines ++ (sortedBindings localeCompare bindings).map deviceLine ++
        more := by
    rw [emitPreamble_eq]
    dsimp only
    split
    · exact ⟨[], by rw [devices_lines, List.append_nil]⟩
    · refine ⟨["", ""], ?_⟩
      show _ ++ [""] ++ [""] = _
      rw [devices_lines, List.append_assoc]
      rfl
  obtain ⟨more, hmore⟩ := hlines
  rw [hmore, List.append_assoc, readLines_append, hdevices, Option.bind_none]

end CitPhysicalXR.Blocks
