import CitPhysicalXR.Blocks.EmittedBlocks

/-! What a block tree emits is read as lines of a block, by induction on the tree. -/
namespace CitPhysicalXR.Blocks
open Foundation PythonText Scan Reading

section
variable {bindings : List GeneratorBinding}

variable (bindings) in
theorem resolveAlias_spec (block : GeneratorBlock) (emitter : Emitter) :
    (resolveAlias bindings block emitter).1 = resolvedAlias bindings block ∧
      (resolveAlias bindings block emitter).2.lines = emitter.lines := by
  unfold resolvedAlias resolveAlias
  dsimp only
  have hunnamed : (unnamedAlias bindings block emitter).1 =
        (unnamedAlias bindings block Emitter.empty).1 ∧
      (unnamedAlias bindings block emitter).2.lines = emitter.lines := by
    unfold unnamedAlias
    split <;> exact ⟨rfl, rfl⟩
  split
  · split
    · exact hunnamed
    · split
      · split <;> exact ⟨rfl, rfl⟩
      · exact ⟨rfl, rfl⟩
  · exact hunnamed

variable {block : GeneratorBlock} {fallback : PyFloat} {emitter : Emitter} {depth : ℕ}
  {canAwait code sound : Bool}

theorem resolvedAlias_mem {alias_ : String}
    (h : resolvedAlias bindings block = some alias_) :
    ∃ binding ∈ bindings, binding.alias_ = alias_ := by
  unfold resolvedAlias resolveAlias at h
  dsimp only at h
  have hunnamed (h : (unnamedAlias bindings block Emitter.empty).1 = some alias_) :
      ∃ binding ∈ bindings, binding.alias_ = alias_ := by
    unfold unnamedAlias at h
    split at h
    · rename_i binding _
      exact ⟨binding, List.mem_cons_self .., Option.some.inj h⟩
    · cases h
  split at h
  · rename_i requested _
    split at h
    · exact hunnamed h
    · split at h
      · rename_i hknown
        split at h
        · rename_i binding hfound
          exact ⟨binding, List.mem_of_find?_eq_some hfound, Option.some.inj h⟩
        · rename_i hnone
          obtain rfl := Option.some.inj h
          obtain ⟨binding, hmem, hsame⟩ := List.any_eq_true.mp hknown
          rcases Bool.or_eq_true_iff.mp hsame with halias | hdevice
          · exact ⟨binding, hmem, by simpa using halias⟩
          · exact absurd hdevice (List.find?_eq_none.mp hnone binding hmem)
      · cases h
  · exact hunnamed h

variable (hbindable : ∀ binding ∈ bindings, isBindable (aliasIdentifier binding.alias_).toList = true)

include hbindable in
theorem resolvedAlias_bindable {alias_ : String}
    (h : resolvedAlias bindings block = some alias_) :
    isBindable (aliasIdentifier alias_).toList = true := by
  obtain ⟨binding, hmem, rfl⟩ := resolvedAlias_mem h
  exact hbindable binding hmem

theorem deviceCall_lines (block : GeneratorBlock) (target : Option String) (spec : BlockSpec)
    (emitter : Emitter) : (deviceCall block target spec emitter).2.lines = emitter.lines := by
  unfold deviceCall
  cases target with
  | none => rfl
  | some target =>
    dsimp only
    cases spec.type <;> rfl

theorem hasDevice_of_hasPythonForm {type : String} {spec : BlockSpec}
    (h : blockSpec type = some spec) (hform : hasPythonForm spec.type = true) :
    spec.hasDevice = true := by
  have hcatalog : ∀ spec ∈ blockCatalog, hasPythonForm spec.type = true → spec.hasDevice = true := by
    decide
  exact hcatalog spec (List.mem_of_find?_eq_some h) hform

theorem blockType_eq {type : String} {spec : BlockSpec} (h : blockSpec type = some spec) :
    blockType type = some spec.type := by
  unfold blockType
  rw [h]
  rfl

theorem callText_sleep (value : Option JsonValue)
    (h : fallback.isFinite = true) :
    CallText true ("sleep(" ++ pythonNumber value fallback ++ ")").toList := by
  have hopening : Spells "sleep(".toList [.word "sleep".toList, .mark '('] := fun _ => rfl
  have hcall := callText_function hopening (by decide) (by decide) (valueText_number value h)
  simp only [String.toList_append]
  exact hcall

theorem callText_log (value : Option JsonValue) :
    CallText (isQuotable (textOf value)) ("log(" ++ pythonString value ++ ")").toList := by
  have hopening : Spells "log(".toList [.word "log".toList, .mark '('] := fun _ => rfl
  have hcall := callText_function hopening (by decide) (by decide) (valueText_string value)
  simp only [String.toList_append]
  exact hcall

/-- The lines of a call may start with it. -/
theorem content_target {target : String} (h : isBindable target.toList = true) (rest : List Char) :
    Layout.Content (target.toList ++ rest) := by
  have hword := isWord_of_isBindable h
  cases hchars : target.toList with
  | nil =>
    rw [hchars] at hword
    cases hword
  | cons c chars =>
    rw [hchars] at hword
    have hname := isNameChar_of_isLetter (Bool.and_eq_true_iff.mp hword).1
    exact content_cons (ne_of_isNameChar ' ' hname (by decide))
      (ne_of_isNameChar '#' hname (by decide)) _

theorem actionText_of_call {legal : Bool} {text : List Char} (h : CallText legal text)
    (hcontent : ∀ rest, Layout.Content (text ++ rest)) : ActionText legal text := by
  cases legal with
  | true => exact .call text h hcontent
  | false => exact .cut text (h.breaks rfl) hcontent

include hbindable in
theorem deviceCall_spec {spec : BlockSpec}
    (hspec : blockSpec block.type = some spec) {call : String}
    (h : (deviceCall block ((resolvedAlias bindings block).map aliasIdentifier) spec emitter).1 =
      some call) :
    CallText (isQuotable (quotedText block spec.type)) call.toList ∧
      ∀ rest, Layout.Content (call.toList ++ rest) := by
  cases halias : resolvedAlias bindings block with
  | none =>
    rw [halias] at h
    cases h
  | some alias_ =>
    rw [halias] at h
    have htarget := resolvedAlias_bindable hbindable halias
    have htext := deviceCall_text hspec htarget h
    refine ⟨htext, ?_⟩
    have hform : ∃ method arguments, call = callText (aliasIdentifier alias_) method arguments := by
      unfold deviceCall at h
      dsimp only [Option.map_some] at h
      cases htype : spec.type <;> rw [htype] at h
      case driveVelocity | stop | motorRun | motorAngle | driveStraight | driveTurn | hubDisplay |
          gimbal | hudShow =>
        exact ⟨_, _, (Option.some.inj h).symm⟩
      all_goals exact nomatch h
    obtain ⟨method, arguments, rfl⟩ := hform
    intro rest
    rw [callText_toList]
    simp only [List.append_assoc]
    exact content_target htarget _

theorem deviceCall_isSome (block : GeneratorBlock) (spec : BlockSpec) (emitter : Emitter) :
    (deviceCall block ((resolvedAlias bindings block).map aliasIdentifier) spec emitter).1.isSome =
      isCall bindings block spec.type := by
  rw [deviceCall_target, Option.isSome_map, Bool.and_comm]
  rfl

include hbindable in
theorem deviceAction_spec {spec : BlockSpec}
    (hspec : blockSpec block.type = some spec) (emitter : Emitter) :
    ActionText (isCall bindings block spec.type && isQuotable (quotedText block spec.type))
      ((deviceCall block ((resolvedAlias bindings block).map aliasIdentifier) spec
        emitter).1.getD "None").toList := by
  rw [← deviceCall_isSome block spec emitter]
  cases hcall : (deviceCall block ((resolvedAlias bindings block).map aliasIdentifier) spec
      emitter).1 with
  | none => exact .none
  | some call =>
    obtain ⟨htext, hcontent⟩ := deviceCall_spec hbindable hspec hcall
    exact actionText_of_call htext hcontent

include hbindable in
theorem parallelCall_spec (block : GeneratorBlock) (emitter : Emitter) :
    (parallelCall bindings block emitter).2.lines = emitter.lines ∧
      ActionText (isAwaitable bindings block && quotesWell block)
        (parallelCall bindings block emitter).1.toList := by
  obtain ⟨halias, hlines⟩ := resolveAlias_spec bindings block emitter
  unfold parallelCall isAwaitable quotesWell
  dsimp only
  cases hspec : blockSpec block.type with
  | none =>
    unfold blockType
    rw [hspec]
    exact ⟨hlines, .none⟩
  | some spec =>
    have hdevice := deviceAction_spec hbindable hspec (resolveAlias bindings block emitter).2
    rw [blockType_eq hspec, halias]
    dsimp only
    cases htype : spec.type
    case wait =>
      refine ⟨hlines, actionText_of_call ?_ ?_⟩
      · exact callText_sleep _ (defaultOf_isFinite hspec "seconds")
      · intro rest
        simp only [String.toList_append, List.append_assoc]
        exact content_cons (by decide) (by decide) _
    case log =>
      refine ⟨hlines, actionText_of_call (callText_log _) ?_⟩
      intro rest
      simp only [String.toList_append, List.append_assoc]
      exact content_cons (by decide) (by decide) _
    all_goals
      rw [htype] at hdevice
      exact ⟨(deviceCall_lines ..).trans hlines, hdevice⟩

include hbindable in
theorem emit_actions (depth : ℕ) (actions : List GeneratorBlock) (emitter : Emitter) :
    ∃ texts : List (Bool × String),
      (actions.foldl (fun emitter action =>
          let (call, emitter) := parallelCall bindings action emitter
          emitter.emit (call ++ ",") (depth + 1) (some ⟨action.id, action.type, none⟩)) emitter).lines =
        emitter.lines ++ texts.map (fun text => Emitter.indent (depth + 1) ++ (text.2 ++ ",")) ∧
      texts.map Prod.fst = actions.map (fun action =>
        isAwaitable bindings action && quotesWell action) ∧
      ∀ text ∈ texts, ActionText text.1 text.2.toList := by
  induction actions generalizing emitter with
  | nil => exact ⟨[], by simp, rfl, by simp⟩
  | cons action actions ih =>
    obtain ⟨hlines, haction⟩ := parallelCall_spec hbindable action emitter
    have hfilled : (parallelCall bindings action emitter).1 ++ "," ≠ "" := by
      intro hempty
      have hlength := congrArg (fun text => text.toList.length) hempty
      simp at hlength
    obtain ⟨texts, htexts, hlegal, hall⟩ := ih ((parallelCall bindings action emitter).2.emit
      ((parallelCall bindings action emitter).1 ++ ",") (depth + 1)
      (some ⟨action.id, action.type, none⟩))
    refine ⟨(isAwaitable bindings action && quotesWell action,
      (parallelCall bindings action emitter).1) :: texts, ?_, ?_, ?_⟩
    · rw [List.foldl_cons]
      refine htexts.trans ?_
      rw [emit_lines _ hfilled, hlines, List.map_cons, List.append_assoc]
      rfl
    · rw [List.map_cons, List.map_cons, hlegal]
    · intro text htext
      rcases List.mem_cons.mp htext with rfl | htext
      · exact haction
      · exact hall text htext

include hbindable in
/-- A call of `parallel` is legal if all its arguments are. -/
theorem emits_parallel (depth : ℕ) (actions : List GeneratorBlock) (emitter : Emitter)
    (origin : Option SourceOrigin) :
    Emits emitter
      ((actions.foldl (fun emitter action =>
          let (call, emitter) := parallelCall bindings action emitter
          emitter.emit (call ++ ",") (depth + 1) (some ⟨action.id, action.type, none⟩))
        (emitter.emit "await parallel(" depth origin)).emit ")" depth none)
      depth true false true (actions.all fun action =>
        isAwaitable bindings action && quotesWell action) := by
  obtain ⟨texts, htexts, hlegal, hall⟩ := emit_actions hbindable depth actions
    (emitter.emit "await parallel(" depth origin)
  have hallLegal : (actions.all fun action => isAwaitable bindings action && quotesWell action) =
      texts.all Prod.fst := by
    have hmap := congrArg (fun legals : List Bool => legals.all id) hlegal
    simp only [List.all_map] at hmap
    exact hmap.symm
  refine ⟨[⟨4 * depth, ifLegal (texts.all Prod.fst) (awaiting .simple)⟩], ?_, ?_⟩
  · refine ⟨(Emitter.indent depth ++ "await parallel(") ::
      (texts.map (fun text => Emitter.indent (depth + 1) ++ (text.2 ++ ",")) ++
        [Emitter.indent depth ++ ")"]), ?_, ?_, by simp⟩
    · rw [emit_lines _ (by decide), htexts, emit_lines _ (by decide)]
      simp
    · intro layout hopen
      have hspells : Spells "await parallel(".toList parallelOpening := fun _ => rfl
      have hcontent : Layout.Content "await parallel(".toList :=
        content_cons (by decide) (by decide) _
      have hdepth : Layout.openBrackets parallelOpening = some (0 + 1) := rfl
      have hfirst : Layout.readLine takesAwaitables layout
          (Emitter.indent depth ++ "await parallel(").toList =
          some { layout with open_ := some (4 * depth, parallelOpening ++ actionsOf []) } := by
        rw [indent_toList, Layout.readLine_single (spells_oneLine hspells _),
          Layout.step_opens hcontent _ _ hopen hspells.tokenize hdepth]
        rfl
      rw [readLines_cons, hfirst, Option.bind_some,
        readLines_actions layout hopen depth hall (by simp), Layout.readAll_cons]
      exact (Option.bind_fun_some _).symm
  · rw [hallLegal]
    apply Fills.line
    cases texts.all Prod.fst <;> rfl

include hbindable in
theorem emitExpression_spec (block : GeneratorBlock) (emitter : Emitter) :
    (emitExpression bindings block emitter).2.lines = emitter.lines ∧
      ∃ kind, ReadsLine ("if " ++ (emitExpression bindings block emitter).1 ++ ":").toList kind ∧
        kind true = some (.head true false) := by
  obtain ⟨halias, hlines⟩ := resolveAlias_spec bindings block emitter
  unfold emitExpression
  generalize resolveAlias bindings block emitter = resolved at halias hlines ⊢
  obtain ⟨alias_, later⟩ := resolved
  dsimp only at halias hlines ⊢
  subst halias
  generalize htarget : ((resolvedAlias bindings block).map aliasIdentifier).getD "device" = target
  have hbound : isBindable target.toList = true := by
    rw [← htarget]
    cases hresolved : resolvedAlias bindings block with
    | none => decide
    | some alias_ => exact resolvedAlias_bindable hbindable hresolved
  have hsensor (sensor rest : String) (hquotable : isQuotable sensor = true)
      (hrest : rest.toList = '.' :: ("sensor".toList ++ ['(']) ++
        ((pythonString (some (.str sensor))).toList ++ [')']) ++ ").value".toList) :
      ReadsLine ("if " ++ ("(await " ++ target ++ rest) ++ ":").toList
        (awaiting (.head true false)) := by
    have hvalue := valueText_string (some (.str sensor))
    have hmethod :
        Spells ("sensor".toList ++ ['(']) ([Token.word "sensor".toList] ++ [Token.mark '(']) :=
      fun _ => rfl
    have hcall := callText_positional hbound hmethod ⟨fun _ _ _ => rfl, fun _ => rfl⟩ hvalue
    have hlegal : isQuotable (textOf (some (.str sensor))) = true := hquotable
    rw [hlegal] at hcall
    have hline := readsLine_if_await hcall
    have htext : ("if " ++ ("(await " ++ target ++ rest) ++ ":").toList =
        "if (await ".toList ++ (target.toList ++ ['.'] ++ ("sensor".toList ++ ['(']) ++
          ((pythonString (some (.str sensor))).toList ++ [')'])) ++ ").value:".toList := by
      simp only [String.toList_append, hrest, List.append_assoc]
      rfl
    rw [htext]
    exact hline
  have hnone : ReadsLine "if None:".toList fun canAwait => some (.head canAwait false) := by
    have hspells : Spells "if None:".toList
        (Token.word "if".toList :: ([Token.word "None".toList] ++ [Token.mark ':'])) := fun _ => rfl
    exact readsLine_if hspells (content_cons (by decide) (by decide) _) (fun _ => rfl)
      fun canAwait => rfl
  cases htype : blockType block.type with
  | none => exact ⟨hlines, _, hnone, rfl⟩
  | some type =>
    cases type
    case readDistance =>
      exact ⟨hlines, _, hsensor "sensor.distance" ".sensor(\"sensor.distance\")).value" (by decide)
        (by decide), rfl⟩
    case readColor =>
      exact ⟨hlines, _, hsensor "sensor.color" ".sensor(\"sensor.color\")).value" (by decide)
        (by decide), rfl⟩
    case readForce =>
      exact ⟨hlines, _, hsensor "sensor.force" ".sensor(\"sensor.force\")).value" (by decide)
        (by decide), rfl⟩
    all_goals exact ⟨hlines, _, hnone, rfl⟩

variable (bindings) in
theorem resolved_spec (block : GeneratorBlock) (spec : BlockSpec) (emitter : Emitter) :
    (if spec.hasDevice = true then resolveAlias bindings block emitter else (none, emitter)).1 =
        (if spec.hasDevice = true then resolvedAlias bindings block else none) ∧
      (if spec.hasDevice = true then resolveAlias bindings block emitter
        else (none, emitter)).2.lines = emitter.lines := by
  split
  · exact resolveAlias_spec bindings block emitter
  · exact ⟨rfl, rfl⟩

theorem Emits.body {before after : Emitter}
    {children : List GeneratorBlock}
    (h : Emits before after (depth + 1) canAwait
      (!(children.filter fun child => !child.disabled).any (emits bindings))
      ((children.filter fun child => !child.disabled).any (emitsCode bindings))
      (areSound bindings children)) :
    Emits before (closeBody before.lines.length (depth + 1) after) (depth + 1) canAwait false
      (fillsSuite bindings children) (areSound bindings children) := Emits.close h

theorem emits_main {after : Emitter} {silent : Bool}
    {origin : Option SourceOrigin}
    (h : Emits (emitter.emit "async def main():" depth origin) after (depth + 1) true silent code
      sound) : Emits emitter after depth canAwait false true (code && sound) := by
  have hname : isBindable "main".toList = true := by decide
  have hreads : ReadsLine "async def main():".toList fun _ => some (.head true true) :=
    readsLine_definition hname
  exact Emits.suite (by decide) origin hreads rfl h

theorem emits_repeat {after : Emitter} {silent : Bool}
    {origin : Option SourceOrigin} {value : Option JsonValue}
    (hfallback : fallback.isFinite = true)
    (h : Emits (emitter.emit ("for _ in range(" ++ pythonNumber value fallback ++ "):") depth origin)
      after (depth + 1) true silent code sound) :
    Emits emitter after depth true false true (code && sound) := by
  have hopening : Spells "range(".toList [.word "range".toList, .mark '('] := fun _ => rfl
  have hcall := callText_function hopening (by decide) (by decide) (valueText_number value hfallback)
  have hreads := readsLine_for hcall
  have htext : ("for _ in range(" ++ pythonNumber value fallback ++ "):").toList =
      "for _ in ".toList ++ ("range(".toList ++ (pythonNumber value fallback).toList ++ [')']) ++
        [':'] := by
    simp only [String.toList_append, List.append_assoc]
    rfl
  rw [← htext] at hreads
  exact Emits.suite (ne_empty_of_content htext) origin hreads rfl h

theorem emits_every {after : Emitter} {silent : Bool}
    {origin : Option SourceOrigin} {value : Option JsonValue}
    (hfallback : fallback.isFinite = true)
    (h : Emits ((emitter.emit ("@every(" ++ pythonNumber value fallback ++ ")") depth origin).emit
      ("async def " ++ ("every_" ++ String.ofList (replacePoint (pythonNumber value
        fallback).toList) ++ "s") ++ "():") depth none) after (depth + 1) true silent code sound) :
    Emits emitter after depth canAwait false true
      (!isSigned (pythonNumber value fallback) && (code && sound)) := by
  have hopening : Spells "every(".toList [.word "every".toList, .mark '('] := fun _ => rfl
  have hcall := callText_function hopening (by decide) (by decide) (valueText_number value hfallback)
  have hdecorator := readsLine_decorator hcall
  have hdefinition := readsLine_every value hfallback
  have htext : ("@every(" ++ pythonNumber value fallback ++ ")").toList =
      '@' :: ("every(".toList ++ (pythonNumber value fallback).toList ++ [')']) := by
    simp only [String.toList_append, List.append_assoc]
    rfl
  have hname : ("async def " ++ ("every_" ++ String.ofList (replacePoint (pythonNumber value
      fallback).toList) ++ "s") ++ "():").toList = "async def every_".toList ++
        replacePoint (pythonNumber value fallback).toList ++ "s():".toList := by
    simp only [String.toList_append, String.toList_ofList, List.append_assoc]
    rfl
  rw [← htext] at hdecorator
  rw [← hname] at hdefinition
  have hall : Emits emitter after depth canAwait false true _ :=
    Emits.decorated (ne_empty_of_content htext) (ne_empty_of_content hname) origin true
      (!isSigned (pythonNumber value fallback)) hdecorator hdefinition rfl
      (by cases isSigned (pythonNumber value fallback) <;> rfl) h
  rwa [Bool.true_and] at hall

theorem emits_gesture {after : Emitter} {silent : Bool}
    {origin : Option SourceOrigin} {source : String} (hsource : isBindable source.toList = true)
    {gesture : Option JsonValue}
    (h : Emits ((emitter.emit ("@when(" ++ source ++ ".gesture(" ++ pythonString gesture ++ "))")
      depth origin).emit "async def on_gesture():" depth none) after (depth + 1) true silent code
      sound) :
    Emits emitter after depth canAwait false true
      (isQuotable (textOf gesture) && (code && sound)) := by
  have hmethod :
      Spells ("gesture".toList ++ ['(']) ([Token.word "gesture".toList] ++ [Token.mark '(']) :=
    fun _ => rfl
  have hinner := callText_positional hsource hmethod ⟨fun _ _ _ => rfl, fun _ => rfl⟩
    (valueText_string gesture)
  have hopening : Spells "when(".toList [.word "when".toList, .mark '('] := fun _ => rfl
  have hcall := callText_nested hopening (by decide) (by decide) hinner
  have hdecorator := readsLine_decorator hcall
  have hname : isBindable "on_gesture".toList = true := by decide
  have hdefinition : ReadsLine "async def on_gesture():".toList fun _ => some (.head true true) :=
    readsLine_definition hname
  have htext : ("@when(" ++ source ++ ".gesture(" ++ pythonString gesture ++ "))").toList =
      '@' :: ("when(".toList ++ (source.toList ++ ['.'] ++ ("gesture".toList ++ ['(']) ++
        ((pythonString gesture).toList ++ [')'])) ++ [')']) := by
    simp only [String.toList_append, List.append_assoc]
    rfl
  rw [← htext] at hdecorator
  have hall : Emits emitter after depth canAwait false true _ :=
    Emits.decorated (ne_empty_of_content htext) (by decide) origin (isQuotable (textOf gesture))
      true hdecorator hdefinition (by cases isQuotable (textOf gesture) <;> rfl) rfl h
  rwa [Bool.true_and] at hall

theorem emits_await {origin : Option SourceOrigin} {legal : Bool}
    {call : String} (h : CallText legal call.toList) :
    Emits emitter (emitter.emit ("await " ++ call) depth origin) depth true false true legal := by
  have hreads := readsLine_await h
  have htext : ("await " ++ call).toList = "await ".toList ++ call.toList := String.toList_append ..
  rw [← htext] at hreads
  apply Emits.line (ne_empty_of_content htext) origin hreads
  cases legal <;> rfl

theorem Emits.known {before middle after : Emitter} {silent : Bool}
    {comment : Option String} (hinert : isInert comment = true)
    (hlines : middle.lines = (emitComment comment depth before).lines)
    (h : Emits middle after depth canAwait silent code sound) (hsilent : silent = !code) :
    Emits before after depth canAwait (!(code || hasComment comment)) code
      (!hasNull comment && sound) := by
  subst hsilent
  have hall := (Emits.comment hinert).trans (h.of_lines hlines)
  rwa [Bool.false_or, Bool.and_comm (!hasComment comment), ← Bool.not_or] at hall

/-- The declaration of an event, whatever stands in its suite. -/
theorem emits_event {id type : String} {fields : List (String × JsonValue)}
    {children : List GeneratorBlock} {disabled : Bool} {comment : Option String} {spec : BlockSpec}
    (hbindable : ∀ binding ∈ bindings, isBindable (aliasIdentifier binding.alias_).toList = true)
    (hspec : blockSpec type = some spec)
    (htype : spec.type = .onStart ∨ spec.type = .every ∨ spec.type = .onGesture)
    (hinert : isInert comment = true) (depth : ℕ) (canAwait : Bool) (emitter : Emitter)
    (hbody : ∀ emitter, Emits emitter (emitStatements bindings children (depth + 1) emitter)
      (depth + 1) true
      (!(children.filter fun child => !child.disabled).any (emits bindings))
      ((children.filter fun child => !child.disabled).any (emitsCode bindings))
      (areSound bindings children)) :
    Emits emitter
      (emitStatement bindings ⟨id, type, fields, children, disabled, comment⟩ depth emitter) depth
      canAwait false true (isSound bindings ⟨id, type, fields, children, disabled, comment⟩) := by
  rw [emitStatement, isSound.eq_def]
  simp only [hspec, blockType_eq hspec]
  obtain ⟨halias, hlines⟩ := resolved_spec bindings
    ⟨id, type, fields, children, disabled, comment⟩ spec (emitComment comment depth emitter)
  generalize (if spec.hasDevice = true then resolveAlias bindings
    ⟨id, type, fields, children, disabled, comment⟩ (emitComment comment depth emitter)
    else (none, emitComment comment depth emitter)) = resolved at halias hlines ⊢
  obtain ⟨alias_, later⟩ := resolved
  dsimp only at halias hlines
  have hsource : isBindable ((alias_.map aliasIdentifier).getD "leap").toList = true := by
    rw [halias]
    split
    · cases hresolved : resolvedAlias bindings
        ⟨id, type, fields, children, disabled, comment⟩ with
      | none => decide
      | some alias_ => exact resolvedAlias_bindable hbindable hresolved
    · decide
  rcases htype with htype | htype | htype
  · simp only [htype]
    exact Emits.known hinert hlines (emits_main (hbody _).body) rfl
  · simp only [htype]
    have htimely : isTimely ⟨id, type, fields, children, disabled, comment⟩ =
        !isSigned (pythonNumber (GeneratorBlock.field
          ⟨id, type, fields, children, disabled, comment⟩ "seconds")
          (spec.defaultOf "seconds")) := by
      unfold isTimely
      simp only [hspec]
    have hused : (later.use .every).lines = (emitComment comment depth emitter).lines := hlines
    rw [htimely]
    exact Emits.known hinert hused (emits_every (defaultOf_isFinite hspec "seconds") (hbody _).body)
      rfl
  · simp only [htype]
    have hquotes : quotesWell ⟨id, type, fields, children, disabled, comment⟩ =
        isQuotable (textOf (orText (GeneratorBlock.field
          ⟨id, type, fields, children, disabled, comment⟩ "gesture") "open_palm")) := by
      unfold quotesWell
      simp only [blockType_eq hspec, htype]
      rfl
    have hused : (later.use .when).lines = (emitComment comment depth emitter).lines := hlines
    rw [hquotes]
    exact Emits.known hinert hused (emits_gesture hsource (hbody _).body) rfl

include hbindable in
theorem emits_deviceCall {spec : BlockSpec}
    (hspec : blockSpec block.type = some spec) {alias_ : Option String}
    (halias : alias_ = if spec.hasDevice = true then resolvedAlias bindings block else none)
    (emitter : Emitter) (depth : ℕ) (origin : Option SourceOrigin) :
    Emits emitter
      (match (deviceCall block (alias_.map aliasIdentifier) spec emitter).1 with
        | some call => (deviceCall block (alias_.map aliasIdentifier) spec emitter).2.emit
            ("await " ++ call) depth origin
        | none => (deviceCall block (alias_.map aliasIdentifier) spec emitter).2)
      depth true (!isCall bindings block spec.type) (isCall bindings block spec.type)
      (!isCall bindings block spec.type || quotesWell block) := by
  have hquotes : quotesWell block = isQuotable (quotedText block spec.type) := by
    unfold quotesWell
    rw [blockType_eq hspec]
  have hlines := deviceCall_lines block (alias_.map aliasIdentifier) spec emitter
  rw [hquotes]
  cases hform : hasPythonForm spec.type with
  | false =>
    have hnone : (deviceCall block (alias_.map aliasIdentifier) spec emitter).1 = none := by
      apply Option.isNone_iff_eq_none.mp
      apply Option.isSome_eq_false_iff.mp
      rw [deviceCall_target, hform, Bool.and_false]
    have hcall : isCall bindings block spec.type = false := by
      unfold isCall
      rw [hform, Bool.false_and]
    rw [hnone, hcall]
    exact .same hlines
  | true =>
    rw [if_pos (hasDevice_of_hasPythonForm hspec hform)] at halias
    subst halias
    rw [← deviceCall_isSome block spec emitter]
    cases hcall : (deviceCall block ((resolvedAlias bindings block).map aliasIdentifier) spec
        emitter).1 with
    | none => exact .same hlines
    | some call =>
      obtain ⟨htext, _⟩ := deviceCall_spec hbindable hspec hcall
      exact Emits.of_lines (emits_await htext) hlines

theorem emits_sleep {origin : Option SourceOrigin}
    (value : Option JsonValue) (h : fallback.isFinite = true) :
    Emits emitter (emitter.emit ("await sleep(" ++ pythonNumber value fallback ++ ")") depth origin)
      depth true false true true := by
  have hline : Emits emitter (emitter.emit ("await " ++ ("sleep(" ++
      pythonNumber value fallback ++ ")")) depth origin) depth true false true true :=
    emits_await (callText_sleep value h)
  have htext : "await " ++ ("sleep(" ++ pythonNumber value fallback ++ ")") =
      "await sleep(" ++ pythonNumber value fallback ++ ")" := by
    rw [← String.append_assoc, ← String.append_assoc]
    rfl
  rwa [htext] at hline

theorem emits_log {origin : Option SourceOrigin}
    (value : Option JsonValue) :
    Emits emitter (emitter.emit ("await log(" ++ pythonString value ++ ")") depth origin)
      depth true false true (isQuotable (textOf value)) := by
  have hline : Emits emitter (emitter.emit ("await " ++ ("log(" ++ pythonString value ++ ")"))
      depth origin) depth true false true (isQuotable (textOf value)) :=
    emits_await (callText_log value)
  have htext : "await " ++ ("log(" ++ pythonString value ++ ")") =
      "await log(" ++ pythonString value ++ ")" := by
    rw [← String.append_assoc, ← String.append_assoc]
    rfl
  rwa [htext] at hline

include hbindable in
theorem emits_if {after : Emitter} {silent : Bool}
    {origin : Option SourceOrigin} {condition : GeneratorBlock}
    (h : Emits ((emitExpression bindings condition emitter).2.emit
      ("if " ++ (emitExpression bindings condition emitter).1 ++ ":") depth origin) after (depth + 1)
      true silent code sound) :
    Emits emitter after depth true false true (code && sound) := by
  obtain ⟨hlines, kind, hreads, hkind⟩ := emitExpression_spec hbindable condition emitter
  have hfilled : "if " ++ (emitExpression bindings condition emitter).1 ++ ":" ≠ "" := by
    intro hempty
    have hlength := congrArg (fun text => text.toList.length) hempty
    simp at hlength
  exact Emits.of_lines (Emits.suite hfilled origin hreads hkind h) hlines

theorem emits_if_true {origin : Option SourceOrigin} :
    Emits emitter (closeBody (emitter.emit "if True:" depth origin).lines.length (depth + 1)
      (emitter.emit "if True:" depth origin)) depth true false true true := by
  have hspells : Spells "if True:".toList
      (Token.word "if".toList :: ([Token.word "True".toList] ++ [Token.mark ':'])) := fun _ => rfl
  have hcontent : Layout.Content "if True:".toList := content_cons (by decide) (by decide) _
  have hreads : ReadsLine "if True:".toList fun canAwait => some (.head canAwait false) :=
    readsLine_if hspells hcontent (fun _ => rfl) fun canAwait => rfl
  have hbody : Emits (emitter.emit "if True:" depth origin) (emitter.emit "if True:" depth origin)
      (depth + 1) true (!false) false true := .same rfl
  exact Emits.suite (by decide) origin hreads rfl (Emits.close hbody)

end

mutual

theorem emitStatement_emits {bindings : List GeneratorBinding}
    (hbindable : ∀ binding ∈ bindings, isBindable (aliasIdentifier binding.alias_).toList = true)
    (block : GeneratorBlock) (depth : ℕ) (emitter : Emitter) (hinert : staysInert block = true) :
    Emits emitter (emitStatement bindings block depth emitter) depth true
      (!emits bindings block) (emitsCode bindings block) (isSound bindings block) := by
  match block with
  | ⟨id, type, fields, children, disabled, comment⟩ =>
    cases hspec : blockSpec type with
    | none =>
      have htype : blockType type = none := by
        unfold blockType
        rw [hspec]
        rfl
      rw [emitStatement, isSound.eq_def]
      unfold emits emitsCode
      simp only [hspec, htype]
      exact .same rfl
    | some spec =>
      rw [staysInert.eq_def] at hinert
      simp only [blockType_eq hspec, Bool.and_eq_true] at hinert
      obtain ⟨hinert, hchildren⟩ := hinert
      have hcode : emits bindings ⟨id, type, fields, children, disabled, comment⟩ =
          (emitsCode bindings ⟨id, type, fields, children, disabled, comment⟩ ||
            hasComment comment) := by
        unfold emits
        simp only [blockType_eq hspec]
        rfl
      rw [hcode]
      have hevent (htype : spec.type = .onStart ∨ spec.type = .every ∨ spec.type = .onGesture)
          (hchildren : stayInert children = true) :
          Emits emitter (emitStatement bindings ⟨id, type, fields, children, disabled, comment⟩
            depth emitter) depth true
            (!(emitsCode bindings ⟨id, type, fields, children, disabled, comment⟩ ||
              hasComment comment))
            (emitsCode bindings ⟨id, type, fields, children, disabled, comment⟩)
            (isSound bindings ⟨id, type, fields, children, disabled, comment⟩) := by
        have htrue : emitsCode bindings ⟨id, type, fields, children, disabled, comment⟩ = true := by
          unfold emitsCode
          rcases htype with htype | htype | htype <;> simp only [blockType_eq hspec, htype]
        rw [htrue]
        exact emits_event hbindable hspec htype hinert depth true emitter fun emitter =>
          emitStatements_emits hbindable children (depth + 1) emitter hchildren
      cases htype : spec.type
      case onStart => exact hevent (.inl htype) (by simpa only [htype] using hchildren)
      case every => exact hevent (.inr (.inl htype)) (by simpa only [htype] using hchildren)
      case onGesture => exact hevent (.inr (.inr htype)) (by simpa only [htype] using hchildren)
      all_goals
        obtain ⟨halias, hlines⟩ := resolved_spec bindings
          ⟨id, type, fields, children, disabled, comment⟩ spec (emitComment comment depth emitter)
        rw [emitStatement, isSound.eq_def]
        unfold emitsCode
        simp only [hspec, blockType_eq hspec, htype] at hchildren ⊢
        generalize (if spec.hasDevice = true then resolveAlias bindings
          ⟨id, type, fields, children, disabled, comment⟩ (emitComment comment depth emitter)
          else (none, emitComment comment depth emitter)) = resolved at halias hlines ⊢
        obtain ⟨alias_, later⟩ := resolved
        dsimp only at halias hlines ⊢
      case repeat_ =>
        have hbody := emitStatements_emits hbindable children (depth + 1)
          (later.emit ("for _ in range(" ++ pythonNumber (GeneratorBlock.field
            ⟨id, type, fields, children, disabled, comment⟩ "times") (spec.defaultOf "times") ++
            "):") depth (some ⟨id, type, alias_⟩)) hchildren
        exact Emits.known hinert hlines (emits_repeat (defaultOf_isFinite hspec "times") hbody.body)
          rfl
      case if_ =>
        cases children with
        | nil => exact Emits.known hinert hlines emits_if_true rfl
        | cons condition rest =>
          have hbody (before : Emitter) :=
            emitStatements_emits hbindable rest (depth + 1) before hchildren
          exact Emits.known hinert hlines (emits_if hbindable (hbody _).body) rfl
      case parallel =>
        have hused : (later.use .parallel).lines = (emitComment comment depth emitter).lines :=
          hlines
        cases hactions : children.filter fun child => !child.disabled with
        | nil => exact Emits.known hinert hused (Emits.line (by decide) _ readsLine_pass rfl) rfl
        | cons action actions =>
          exact Emits.known hinert hused (emits_parallel hbindable depth (action :: actions) _ _) rfl
      case wait =>
        have hused : (later.use .sleep).lines = (emitComment comment depth emitter).lines := hlines
        have hquotes : quotesWell ⟨id, type, fields, children, disabled, comment⟩ = true := by
          unfold quotesWell
          simp only [blockType_eq hspec, htype]
          rfl
        rw [hquotes]
        exact Emits.known hinert hused (emits_sleep _ (defaultOf_isFinite hspec "seconds")) rfl
      case log =>
        have hused : (later.use .log).lines = (emitComment comment depth emitter).lines := hlines
        have hquotes : quotesWell ⟨id, type, fields, children, disabled, comment⟩ =
            isQuotable (textOf (GeneratorBlock.field
              ⟨id, type, fields, children, disabled, comment⟩ "message")) := by
          unfold quotesWell
          simp only [blockType_eq hspec, htype]
          rfl
        rw [hquotes]
        exact Emits.known hinert hused (emits_log _) rfl
      all_goals
        have hcall := emits_deviceCall hbindable hspec halias later depth
          (some ⟨id, type, alias_⟩)
        rw [htype] at hcall
        exact Emits.known hinert hlines hcall rfl

theorem emitStatements_emits {bindings : List GeneratorBinding}
    (hbindable : ∀ binding ∈ bindings, isBindable (aliasIdentifier binding.alias_).toList = true)
    (children : List GeneratorBlock) (depth : ℕ) (emitter : Emitter)
    (hinert : stayInert children = true) :
    Emits emitter (emitStatements bindings children depth emitter) depth true
      (!(children.filter fun child => !child.disabled).any (emits bindings))
      ((children.filter fun child => !child.disabled).any (emitsCode bindings))
      (areSound bindings children) := by
  match children with
  | [] =>
    rw [emitStatements, areSound]
    exact .same rfl
  | child :: rest =>
    rw [stayInert, Bool.and_eq_true] at hinert
    have hrest (emitter : Emitter) := emitStatements_emits hbindable rest depth emitter hinert.2
    rw [emitStatements, areSound]
    cases hdisabled : child.disabled with
    | true =>
      rw [List.filter_cons_of_neg (by simp [hdisabled])]
      exact hrest emitter
    | false =>
      rw [List.filter_cons_of_pos (by simp [hdisabled]), List.any_cons, List.any_cons, Bool.not_or]
      rw [hdisabled, Bool.false_or] at hinert
      exact (emitStatement_emits hbindable child depth emitter hinert.1).trans (hrest _)

end

end CitPhysicalXR.Blocks
