import CitPhysicalXR.Blocks.GeneratedText

/-! Every call that the generator emits is one that Python reads, unless it is cut off where it
quotes a text. -/
namespace CitPhysicalXR.Blocks
open Foundation PythonText Scan Reading

structure CallText (legal : Bool) (text : List Char) : Prop where
  reads : legal = true → ∃ name more, Spells text (.word name :: more) ∧
    Calls takesAwaitables name more
  breaks : legal = false → Breaks text

structure ValueText (legal : Bool) (text : List Char) : Prop where
  reads : legal = true → SpellsValue text
  breaks : legal = false → Breaks text

theorem valueText_number (value : Option JsonValue) {fallback : PyFloat}
    (h : fallback.isFinite = true) : ValueText true (pythonNumber value fallback).toList :=
  ⟨fun _ => pythonNumber_value value h, fun hfalse => nomatch hfalse⟩

theorem valueText_string (value : Option JsonValue) :
    ValueText (isQuotable (textOf value)) (pythonString value).toList :=
  ⟨pythonString_value, pythonString_breaks⟩

theorem callText_function {opening : List Char} {name : List Char}
    (hopening : Spells opening [.word name, .mark '(']) (hfree : name ∉ keywords)
    (htakes : takesAwaitables name = false) {legal : Bool} {value : List Char}
    (h : ValueText legal value) : CallText legal (opening ++ value ++ [')']) := by
  constructor
  · intro hlegal
    obtain ⟨tokens, hvalue, hspells⟩ := h.reads hlegal
    refine ⟨name, .mark '(' :: tokens ++ [Token.mark ')'], ?_, calls_value hfree htakes hvalue⟩
    rw [List.append_assoc]
    exact hopening.append (hspells ')' (by decide))
  · intro hlegal
    rw [List.append_assoc]
    exact hopening.breaks ((h.breaks hlegal).append _)

theorem callText_nested {opening : List Char} {name : List Char}
    (hopening : Spells opening [.word name, .mark '(']) (hfree : name ∉ keywords)
    (htakes : takesAwaitables name = false) {legal : Bool} {call : List Char}
    (h : CallText legal call) : CallText legal (opening ++ call ++ [')']) := by
  have hclosing : Spells [')'] [.mark ')'] := fun _ => rfl
  constructor
  · intro hlegal
    obtain ⟨inner, more, hspells, hcalls⟩ := h.reads hlegal
    refine ⟨name, .mark '(' :: .word inner :: more ++ [Token.mark ')'], ?_,
      calls_nested hfree htakes hcalls⟩
    rw [List.append_assoc]
    exact hopening.append (hspells.append hclosing)
  · intro hlegal
    rw [List.append_assoc]
    exact hopening.breaks ((h.breaks hlegal).append _)

theorem callText_positional {target : List Char} (htarget : isBindable target = true)
    {method : List Char} {path : List Token}
    (hmethod : Spells (method ++ ['(']) (path ++ [Token.mark '('])) (hpath : Path path)
    {legal : Bool} {value : List Char} (h : ValueText legal value) :
    CallText legal (target ++ ['.'] ++ (method ++ ['(']) ++ (value ++ [')'])) := by
  have htargetSpells : Spells (target ++ ['.']) [Token.word target, .mark '.'] :=
    spells_word (isWord_of_isBindable htarget) (by decide)
  have hopening := htargetSpells.append hmethod
  constructor
  · intro hlegal
    obtain ⟨tokens, hvalue, hspells⟩ := h.reads hlegal
    refine ⟨target, .mark '.' :: path ++ .mark '(' :: (tokens ++ [Token.mark ')']), ?_,
      calls_method (notMem_keywords htarget) hpath (arguments_value hvalue)⟩
    have hall := hopening.append (hspells ')' (by decide))
    simpa [List.append_assoc] using hall
  · intro hlegal
    exact hopening.breaks ((h.breaks hlegal).append _)

/-- The keyword arguments of a call. -/
def argumentsText (arguments : List (String × String)) : List Char :=
  (String.intercalate ", " (arguments.map fun argument =>
    argument.1 ++ "=" ++ argument.2)).toList

theorem argumentsText_single (name value : String) :
    argumentsText [(name, value)] = name.toList ++ ['='] ++ value.toList := by
  unfold argumentsText
  rw [List.map_cons, List.map_nil, String.intercalate_singleton]
  simp only [String.toList_append]
  rfl

theorem argumentsText_cons (name value : String) (argument : String × String)
    (arguments : List (String × String)) :
    argumentsText ((name, value) :: argument :: arguments) =
      name.toList ++ ['='] ++ (value.toList ++ [',']) ++
        ([' '] ++ argumentsText (argument :: arguments)) := by
  unfold argumentsText
  rw [List.map_cons, List.map_cons, String.intercalate_cons_cons]
  simp only [String.toList_append, List.append_assoc]
  rfl

/-- Names of keyword arguments: no keywords of the language, and none twice. -/
def AreKeywords (before : List (List Char)) (names : List String) : Prop :=
  (∀ name ∈ names, isBindable name.toList = true ∧ name.toList ∉ before) ∧
    (names.map String.toList).Nodup

instance (before : List (List Char)) (names : List String) : Decidable (AreKeywords before names) :=
  inferInstanceAs (Decidable (_ ∧ _))

theorem AreKeywords.tail {before : List (List Char)} {name : String} {names : List String}
    (h : AreKeywords before (name :: names)) : AreKeywords (name.toList :: before) names := by
  obtain ⟨hnames, hnodup⟩ := h
  rw [List.map_cons, List.nodup_cons] at hnodup
  refine ⟨?_, hnodup.2⟩
  intro other hother
  obtain ⟨hbindable, hfresh⟩ := hnames other (.tail _ hother)
  refine ⟨hbindable, ?_⟩
  intro hmem
  rcases List.mem_cons.mp hmem with hsame | hmem
  · exact hnodup.1 (hsame ▸ List.mem_map_of_mem hother)
  · exact hfresh hmem

theorem spells_keyword {name : String} (h : isBindable name.toList = true) :
    Spells (name.toList ++ ['=']) [Token.word name.toList, .mark '='] :=
  spells_word (isWord_of_isBindable h) (by decide)

theorem spells_arguments {before : List (List Char)} {arguments : List (String × String)}
    (hnames : AreKeywords before (arguments.map Prod.fst))
    (hvalues : ∀ argument ∈ arguments, SpellsValue argument.2.toList) :
    ∃ tokens, Spells (argumentsText arguments ++ [')']) tokens ∧ Arguments before tokens := by
  induction arguments generalizing before with
  | nil => exact ⟨[.mark ')'], fun _ => rfl, arguments_nil before⟩
  | cons argument arguments ih =>
    obtain ⟨name, value⟩ := argument
    obtain ⟨hbindable, hfresh⟩ := hnames.1 name (List.mem_cons_self ..)
    obtain ⟨tokens, hvalue, hspells⟩ := hvalues (name, value) (List.mem_cons_self ..)
    have hkeyword := spells_keyword hbindable
    cases arguments with
    | nil =>
      refine ⟨.word name.toList :: .mark '=' :: tokens ++ [Token.mark ')'], ?_,
        arguments_last hbindable hfresh hvalue⟩
      rw [argumentsText_single, List.append_assoc]
      exact hkeyword.append (hspells ')' (by decide))
    | cons next arguments =>
      obtain ⟨more, hmore, harguments⟩ := ih hnames.tail fun other hother =>
        hvalues other (.tail _ hother)
      refine ⟨.word name.toList :: .mark '=' :: tokens ++ .mark ',' :: more, ?_,
        arguments_cons hbindable hfresh hvalue harguments⟩
      have hblank : Spells [' '] [] := fun _ => rfl
      have hall := (hkeyword.append (hspells ',' (by decide))).append (hblank.append hmore)
      rw [argumentsText_cons]
      simpa [List.append_assoc] using hall

theorem breaks_arguments {arguments : List (String × String)}
    (hnames : ∀ argument ∈ arguments, isBindable argument.1.toList = true)
    (hvalues : ∀ argument ∈ arguments, SpellsValue argument.2.toList ∨ Breaks argument.2.toList)
    (hbreaks : ∃ argument ∈ arguments, Breaks argument.2.toList) :
    Breaks (argumentsText arguments) := by
  induction arguments with
  | nil => simp at hbreaks
  | cons argument arguments ih =>
    obtain ⟨name, value⟩ := argument
    have hkeyword := spells_keyword (hnames (name, value) (List.mem_cons_self ..))
    have hfirst (hvalue : Breaks value.toList) : Breaks (argumentsText ((name, value) :: arguments)) := by
      cases arguments with
      | nil =>
        rw [argumentsText_single]
        exact hkeyword.breaks hvalue
      | cons next arguments =>
        rw [argumentsText_cons]
        exact (hkeyword.breaks (hvalue.append _)).append _
    rcases hvalues (name, value) (List.mem_cons_self ..) with hvalue | hvalue
    · obtain ⟨other, hother, hbroken⟩ := hbreaks
      rcases List.mem_cons.mp hother with rfl | hother
      · exact hfirst hbroken
      · have hrest := ih (fun other hother => hnames other (.tail _ hother))
          (fun other hother => hvalues other (.tail _ hother)) ⟨other, hother, hbroken⟩
        cases arguments with
        | nil => cases hother
        | cons next arguments =>
          obtain ⟨tokens, _, hspells⟩ := hvalue
          have hblank : Spells [' '] [] := fun _ => rfl
          rw [argumentsText_cons]
          exact (hkeyword.append (hspells ',' (by decide))).breaks (hblank.breaks hrest)
    · exact hfirst hvalue

def IsMethod (method : String) : Prop :=
  ∃ path, Spells (method.toList ++ ['(']) (path ++ [Token.mark '(']) ∧ Path path

theorem callText_toList (target method : String) (arguments : List (String × String)) :
    (callText target method arguments).toList =
      target.toList ++ ['.'] ++ (method.toList ++ ['(']) ++ (argumentsText arguments ++ [')']) := by
  unfold callText argumentsText
  simp only [String.toList_append, List.append_assoc]
  rfl

theorem callText_method {target method : String} (htarget : isBindable target.toList = true)
    (hmethod : IsMethod method) {arguments : List (String × String)}
    (hnames : AreKeywords [] (arguments.map Prod.fst)) {legal : Bool}
    (hvalues : ∀ argument ∈ arguments, ValueText true argument.2.toList ∨
      ValueText legal argument.2.toList)
    (hbreaks : legal = false → ∃ argument ∈ arguments, Breaks argument.2.toList) :
    CallText legal (callText target method arguments).toList := by
  obtain ⟨path, hspells, hpath⟩ := hmethod
  have htargetSpells : Spells (target.toList ++ ['.']) [Token.word target.toList, .mark '.'] :=
    spells_word (isWord_of_isBindable htarget) (by decide)
  have hopening := htargetSpells.append hspells
  constructor
  · rintro rfl
    obtain ⟨tokens, htokens, harguments⟩ := spells_arguments hnames fun argument hargument =>
      ((hvalues argument hargument).elim ValueText.reads ValueText.reads) rfl
    refine ⟨target.toList, .mark '.' :: path ++ .mark '(' :: tokens, ?_,
      calls_method (notMem_keywords htarget) hpath harguments⟩
    rw [callText_toList]
    have hall := hopening.append htokens
    simpa [List.append_assoc] using hall
  · rintro rfl
    have hall := breaks_arguments
      (fun argument hargument => (hnames.1 _ (List.mem_map_of_mem hargument)).1)
      (fun argument hargument => (hvalues argument hargument).imp
        (fun hvalue => hvalue.reads rfl) fun hvalue => hvalue.breaks rfl) (hbreaks rfl)
    rw [callText_toList]
    exact hopening.breaks (hall.append _)

theorem callText_numbers {target method : String} (htarget : isBindable target.toList = true)
    (hmethod : IsMethod method) {arguments : List (String × String)} (names : List String)
    (hnames : arguments.map Prod.fst = names) (hkeywords : AreKeywords [] names)
    (hvalues : ∀ argument ∈ arguments, ValueText true argument.2.toList) :
    CallText true (callText target method arguments).toList :=
  callText_method htarget hmethod (hnames ▸ hkeywords) (fun argument hargument => .inl (hvalues argument hargument))
    fun hfalse => nomatch hfalse

theorem callText_quoted {target method : String} (htarget : isBindable target.toList = true)
    (hmethod : IsMethod method) {name : String} {value : Option JsonValue}
    {arguments : List (String × String)} (names : List String)
    (hnames : arguments.map Prod.fst = names) (hkeywords : AreKeywords [] (name :: names))
    (hvalues : ∀ argument ∈ arguments, ValueText true argument.2.toList) :
    CallText (isQuotable (textOf value))
      (callText target method ((name, pythonString value) :: arguments)).toList := by
  subst hnames
  have hall : AreKeywords [] (((name, pythonString value) :: arguments).map Prod.fst) := hkeywords
  apply callText_method htarget hmethod hall
  · intro argument hargument
    rcases List.mem_cons.mp hargument with rfl | hargument
    · exact .inr (valueText_string value)
    · exact .inl (hvalues argument hargument)
  · intro hlegal
    exact ⟨_, List.mem_cons_self .., (valueText_string value).breaks hlegal⟩

def quotedText (block : GeneratorBlock) : BlockType → String
  | .log => textOf (block.field "message")
  | .motorRun | .motorAngle => textOf (orText (block.field "port") "A")
  | .hubDisplay | .hudShow => textOf (block.field "text")
  | .onGesture => textOf (orText (block.field "gesture") "open_palm")
  | _ => ""

/-- The types of the blocks that are calls of a device. -/
def hasPythonForm : BlockType → Bool
  | .driveVelocity | .stop | .motorRun | .motorAngle | .driveStraight | .driveTurn | .hubDisplay
  | .gimbal | .hudShow => true
  | _ => false

theorem deviceCall_target {block : GeneratorBlock} {spec : BlockSpec} {emitter : Emitter}
    (target : Option String) :
    (deviceCall block target spec emitter).1.isSome = (target.isSome && hasPythonForm spec.type) := by
  unfold deviceCall
  cases target with
  | none => rfl
  | some target =>
    dsimp only
    cases spec.type <;> rfl

theorem deviceCall_text {block : GeneratorBlock} {spec : BlockSpec} {type : String}
    (hspec : blockSpec type = some spec) {target : String}
    (htarget : isBindable target.toList = true) {emitter : Emitter} {call : String}
    (h : (deviceCall block (some target) spec emitter).1 = some call) :
    CallText (isQuotable (quotedText block spec.type)) call.toList := by
  have hnumber (name : String) :
      ValueText true (pythonNumber (block.field name) (spec.defaultOf name)).toList :=
    valueText_number _ (defaultOf_isFinite hspec name)
  have hnone : ∀ argument ∈ ([] : List (String × String)), ValueText true argument.2.toList := by
    simp
  have hone (name : String) : ∀ argument ∈ [(name, pythonNumber (block.field name)
      (spec.defaultOf name))], ValueText true argument.2.toList := by
    intro argument hargument
    rw [List.mem_singleton.mp hargument]
    exact hnumber name
  have htwo (first second : String) : ∀ argument ∈
      [(first, pythonNumber (block.field first) (spec.defaultOf first)),
        (second, pythonNumber (block.field second) (spec.defaultOf second))],
      ValueText true argument.2.toList := by
    intro argument hargument
    rcases List.mem_cons.mp hargument with rfl | hargument
    · exact hnumber first
    · exact hone second argument hargument
  unfold deviceCall at h
  dsimp only at h
  cases htype : spec.type <;> rw [htype] at h
  case driveVelocity =>
    obtain rfl := Option.some.inj h
    exact callText_numbers htarget ⟨[.word "drive".toList, .mark '.', .word "velocity".toList],
      fun _ => rfl, fun _ _ _ => rfl, fun _ => rfl⟩ ["speed", "durationSeconds"] rfl (by decide) (htwo _ _)
  case stop =>
    obtain rfl := Option.some.inj h
    exact callText_numbers htarget ⟨[.word "stop".toList],
      fun _ => rfl, fun _ _ _ => rfl, fun _ => rfl⟩ [] rfl (by decide) hnone
  case motorRun =>
    obtain rfl := Option.some.inj h
    exact callText_quoted htarget ⟨[.word "motor".toList, .mark '.', .word "run".toList],
      fun _ => rfl, fun _ _ _ => rfl, fun _ => rfl⟩ ["speed", "durationSeconds"] rfl (by decide) (htwo _ _)
  case motorAngle =>
    obtain rfl := Option.some.inj h
    exact callText_quoted htarget ⟨[.word "motor".toList, .mark '.', .word "run_angle".toList],
      fun _ => rfl, fun _ _ _ => rfl, fun _ => rfl⟩ ["angle", "speed"] rfl (by decide) (htwo _ _)
  case driveStraight =>
    obtain rfl := Option.some.inj h
    exact callText_numbers htarget ⟨[.word "drive".toList, .mark '.', .word "straight".toList],
      fun _ => rfl, fun _ _ _ => rfl, fun _ => rfl⟩ ["distanceMillimetres", "speed"] rfl (by decide) (htwo _ _)
  case driveTurn =>
    obtain rfl := Option.some.inj h
    exact callText_numbers htarget ⟨[.word "drive".toList, .mark '.', .word "turn".toList],
      fun _ => rfl, fun _ _ _ => rfl, fun _ => rfl⟩ ["angle", "speed"] rfl (by decide) (htwo _ _)
  case hubDisplay =>
    obtain rfl := Option.some.inj h
    exact callText_quoted htarget ⟨[.word "hub".toList, .mark '.', .word "display".toList],
      fun _ => rfl, fun _ _ _ => rfl, fun _ => rfl⟩ [] rfl (by decide) hnone
  case gimbal =>
    obtain rfl := Option.some.inj h
    exact callText_numbers htarget ⟨[.word "gimbal".toList, .mark '.', .word "pitch_yaw".toList],
      fun _ => rfl, fun _ _ _ => rfl, fun _ => rfl⟩ ["pitch", "yaw"] rfl (by decide) (htwo _ _)
  case hudShow =>
    obtain rfl := Option.some.inj h
    exact callText_quoted htarget ⟨[.word "xr".toList, .mark '.', .word "hud".toList],
      fun _ => rfl, fun _ _ _ => rfl, fun _ => rfl⟩ [] rfl (by decide) hnone
  all_goals exact nomatch h

end CitPhysicalXR.Blocks
