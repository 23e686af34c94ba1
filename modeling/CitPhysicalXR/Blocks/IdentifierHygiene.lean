import CitPhysicalXR.Blocks.PieceLines
import CitPhysicalXR.Blocks.WellFormed

/-! The names of a generated program: those that it derives from the aliases of the bindings, the
keywords, the names that it imports and the ones that it defines. -/
namespace CitPhysicalXR.Blocks
open Foundation PythonText

def definedName? (line : String) : Option String :=
  let content := line.toList.dropWhile (· == ' ')
  if "async def ".toList.isPrefixOf content then
    some (String.ofList ((content.drop 10).takeWhile (· != '(')))
  else none

def definedNames (python : String) : List String :=
  (PyString.split python '\n').filterMap definedName?

/-- The identifiers of the bound aliases are distinct, and they are neither keywords nor names that
the program imports or defines. -/
structure Hygienic (bindings : List GeneratorBinding) (result : GenerateResult) : Prop where
  distinct : ∀ first ∈ bindings, ∀ second ∈ bindings, first.alias_ ≠ second.alias_ →
    aliasIdentifier first.alias_ ≠ aliasIdentifier second.alias_
  free : ∀ binding ∈ bindings,
    (aliasIdentifier binding.alias_).toList ∉ keywords ∧
      aliasIdentifier binding.alias_ ∉ result.usedImports.map SdkName.text ∧
      aliasIdentifier binding.alias_ ∉ definedNames result.python

def timerName (block : GeneratorBlock) (spec : BlockSpec) : String :=
  "every_" ++ String.ofList (replacePoint
    (pythonNumber (block.field "seconds") (spec.defaultOf "seconds")).toList) ++ "s"

/-- The names that an argument of a call of `parallel` uses. -/
def reservedInAction (action : GeneratorBlock) : List String :=
  match blockType action.type with
  | some .wait => ["sleep"]
  | some .log => ["log"]
  | _ => []

mutual

/-- The names that a block imports or defines, with those of the blocks in it. -/
def reservedIn (block : GeneratorBlock) : List String :=
  match block with
  | block@⟨_, type, _, children, _, _⟩ =>
    match blockSpec type with
    | none => []
    | some spec =>
      match spec.type with
      | .onStart => "main" :: reservedInAll children
      | .every => "every" :: timerName block spec :: reservedInAll children
      | .onGesture => "when" :: "on_gesture" :: reservedInAll children
      | .repeat_ => reservedInAll children
      | .if_ =>
        match children with
        | [] => []
        | _ :: rest => reservedInAll rest
      | .parallel =>
        "parallel" :: (children.filter fun child => !child.disabled).flatMap reservedInAction
      | .wait => ["sleep"]
      | .log => ["log"]
      | _ => []

def reservedInAll (children : List GeneratorBlock) : List String :=
  match children with
  | [] => []
  | child :: rest => (if child.disabled then [] else reservedIn child) ++ reservedInAll rest

end

/-- The names that no identifier of a binding may have. -/
def reservedNames (blocks : List GeneratorBlock) : List String :=
  keywords.map String.ofList ++ "device" :: ((eventBlocks blocks).flatMap reservedIn ++
    if (startBlocks blocks ++ looseBlocks blocks).isEmpty then []
    else "main" :: reservedInAll (mainSteps blocks))

/-- The ASCII letters and digits of a text at their places among its UTF-16 units. -/
def places (text : String) : List (Option Char) :=
  text.toList.flatMap fun c =>
    if c.isAlphanum then [some c]
    else List.replicate (if c.toNat < 0x10000 then 1 else 2) none

/-- The places of a text; something stands before a digit, and no text is `device_1`. -/
def ledPlaces (text : String) : List (Option Char) :=
  match places text with
  | [] => places "device_1"
  | some c :: rest => if c.isDigit then none :: some c :: rest else some c :: rest
  | none :: rest => none :: rest

/-- The texts have the same letters and digits at the same places, whatever else they have. -/
def Alike (first second : String) : Prop := ledPlaces first = ledPlaces second

instance (first second : String) : Decidable (Alike first second) :=
  inferInstanceAs (Decidable (ledPlaces first = ledPlaces second))

/-- No two aliases are alike, and none is like a name that the program needs. -/
def KeptApart (bindings : List GeneratorBinding) (blocks : List GeneratorBlock) : Prop :=
  (∀ first ∈ bindings, ∀ second ∈ bindings, first.alias_ ≠ second.alias_ →
    ¬Alike first.alias_ second.alias_) ∧
  ∀ binding ∈ bindings, ∀ name ∈ reservedNames blocks, isWord name.toList = true →
    ¬Alike binding.alias_ name

/-- What stands at a place of an identifier. -/
def placed (place : Option Char) : Char := place.getD '_'

theorem identifierChars_eq (alias_ : String) :
    identifierChars alias_ = (places alias_).map placed := by
  unfold identifierChars places
  rw [List.map_flatMap]
  congr 1
  funext c
  by_cases hplain : c.isAlphanum = true
  · rw [if_pos (.inl hplain), if_pos hplain]
    rfl
  · rw [if_neg hplain, List.map_replicate]
    by_cases hmark : c = '_'
    · subst hmark
      rfl
    · rw [if_neg (by simp [hplain, hmark])]
      rfl

theorem mem_places {text : String} {c : Char} (h : some c ∈ places text) : c.isAlphanum = true := by
  obtain ⟨d, _, hd⟩ := List.mem_flatMap.mp h
  split at hd
  · rename_i hplain
    obtain rfl := Option.some.inj (List.mem_singleton.mp hd)
    exact hplain
  · cases (List.mem_replicate.mp hd).2

theorem mem_ledPlaces {text : String} {c : Char} (h : some c ∈ ledPlaces text) :
    c.isAlphanum = true := by
  unfold ledPlaces at h
  split at h
  · exact mem_places h
  · rename_i d rest hplaces
    split at h
    · rcases List.mem_cons.mp h with h | h
      · cases h
      · exact mem_places (hplaces ▸ h)
    · exact mem_places (hplaces ▸ h)
  · rename_i rest hplaces
    exact mem_places (hplaces ▸ h)

theorem aliasIdentifier_eq (alias_ : String) :
    (aliasIdentifier alias_).toList = (ledPlaces alias_).map placed := by
  have hchars := identifierChars_eq alias_
  have hmark : Char.isDigit '_' = false := by decide
  unfold aliasIdentifier ledPlaces
  rw [hchars]
  cases hplaces : places alias_ with
  | nil =>
    have hdevice := identifierChars_eq "device_1"
    simp only [List.map_nil]
    rw [← hdevice]
    decide
  | cons place rest =>
    simp only [List.map_cons]
    rw [String.toList_ofList]
    cases place with
    | none =>
      have hnone : placed none = '_' := rfl
      rw [hnone, hmark, List.map_cons, hnone]
      rfl
    | some c =>
      have hsome : placed (some c) = c := rfl
      dsimp only
      rw [hsome]
      split <;> rfl

theorem aliasIdentifier_eq_iff (first second : String) :
    aliasIdentifier first = aliasIdentifier second ↔ Alike first second := by
  rw [← String.toList_inj, aliasIdentifier_eq, aliasIdentifier_eq]
  constructor
  · intro h
    have hplace {text : String} {place : Option Char} (hmem : place ∈ ledPlaces text) :
        place = if placed place = '_' then none else some (placed place) := by
      cases place with
      | none => rfl
      | some c =>
        have hplain := mem_ledPlaces hmem
        have hne : c ≠ '_' := by
          rintro rfl
          cases hplain
        exact (if_neg hne).symm
    have hback (text : String) : ((ledPlaces text).map placed).map
        (fun c => if c = '_' then none else some c) = ledPlaces text := by
      rw [List.map_map]
      conv_rhs => rw [← List.map_id (ledPlaces text)]
      apply List.map_congr_left
      intro place hmem
      exact (hplace hmem).symm
    unfold Alike
    rw [← hback first, ← hback second, h]
  · intro h
    rw [h]

theorem aliasIdentifier_word_self {name : String} (h : isWord name.toList = true) :
    aliasIdentifier name = name := by
  have hchars : identifierChars name = name.toList := by
    unfold identifierChars
    have hmap : ∀ c ∈ name.toList, (if c.isAlphanum = true ∨ c = '_' then [c]
        else List.replicate (if c.toNat < 0x10000 then 1 else 2) '_') = [c] := by
      intro c hc
      have hname := isNameChar_of_isWord h c hc
      simp only [isNameChar, Bool.or_eq_true, beq_iff_eq] at hname
      exact if_pos hname
    rw [List.flatMap_congr hmap, List.flatMap_singleton']
  unfold aliasIdentifier
  rw [hchars]
  cases htext : name.toList with
  | nil =>
    rw [htext] at h
    cases h
  | cons c rest =>
    rw [htext, isWord, Bool.and_eq_true] at h
    have hdigit : c.isDigit = false := by
      cases hdigit : c.isDigit with
      | false => rfl
      | true =>
        have hletter := isLetter_of_isDigit hdigit
        rw [h.1] at hletter
        cases hletter
    simp only [hdigit, Bool.false_eq_true, if_false]
    rw [← htext, String.ofList_toList]

theorem aliasIdentifier_eq_name {alias_ name : String} :
    aliasIdentifier alias_ = name ↔ isWord name.toList = true ∧ Alike alias_ name := by
  constructor
  · rintro rfl
    have hword := aliasIdentifier_word alias_
    refine ⟨hword, ?_⟩
    rw [← aliasIdentifier_eq_iff, aliasIdentifier_word_self hword]
  · rintro ⟨hword, halike⟩
    rw [(aliasIdentifier_eq_iff ..).mpr halike, aliasIdentifier_word_self hword]

theorem definedName?_indent (depth : ℕ) (text : String) :
    definedName? (Emitter.indent depth ++ text) = definedName? text := by
  have hblanks : (List.replicate (4 * depth) ' ' ++ text.toList).dropWhile (· == ' ') =
      text.toList.dropWhile (· == ' ') :=
    List.dropWhile_append_of_pos fun c hc => by simp [(List.mem_replicate.mp hc).2]
  unfold definedName?
  rw [indent_toList, hblanks]

theorem definedName?_definition {name : String} (h : '(' ∉ name.toList) :
    definedName? ("async def " ++ name ++ "():") = some name := by
  have htext : ("async def " ++ name ++ "():").toList =
      "async def ".toList ++ (name.toList ++ ['(', ')', ':']) := by
    simp only [String.toList_append, List.append_assoc]
    rfl
  have hname : (name.toList ++ ['(', ')', ':']).takeWhile (· != '(') = name.toList := by
    rw [List.takeWhile_append_of_pos]
    · simp
    · intro c hc
      have hne : c ≠ '(' := fun heq => h (heq ▸ hc)
      simpa using hne
  unfold definedName?
  rw [htext]
  show some (String.ofList ((name.toList ++ ['(', ')', ':']).takeWhile (· != '('))) = _
  rw [hname, String.ofList_toList]

theorem definedName?_cons {text : String} {c : Char} {rest : List Char}
    (h : text.toList = c :: rest) (hblank : c ≠ ' ') (hne : c ≠ 'a') :
    definedName? text = none := by
  have hfront : "async def ".toList.isPrefixOf (c :: rest) = false := by
    have hfirst : ('a' == c) = false := by simpa using hne.symm
    have hopening : "async def ".toList = 'a' :: "sync def ".toList := rfl
    rw [hopening, List.isPrefixOf_cons_cons, hfirst, Bool.false_and]
  unfold definedName?
  rw [h, List.dropWhile_cons_of_neg (by simpa using hblank)]
  dsimp only
  rw [hfront]
  rfl

/-- Whether a text begins with a letter of its own. -/
def opensAside (opening : String) : Bool :=
  opening.toList.head?.any fun c => c != ' ' && c != 'a'

theorem definedName?_opening {opening : String} (h : opensAside opening = true) (rest : String) :
    definedName? (opening ++ rest) = none := by
  unfold opensAside at h
  obtain ⟨c, hhead, hc⟩ := (Option.any_eq_true ..).mp h
  obtain ⟨more, htext⟩ : ∃ more, opening.toList = c :: more := by
    cases htext : opening.toList with
    | nil =>
      rw [htext] at hhead
      cases hhead
    | cons d more =>
      rw [htext] at hhead
      exact ⟨more, by rw [Option.some.inj hhead]⟩
  simp only [Bool.and_eq_true, bne_iff_ne] at hc
  refine @definedName?_cons _ _ (more ++ rest.toList) ?_ hc.1 hc.2
  rw [String.toList_append, htext]
  rfl

theorem definedName?_await (rest : String) : definedName? ("await " ++ rest) = none := by
  unfold definedName?
  rw [String.toList_append]
  rfl

/-- A word and what is not a blank before `def` define nothing. -/
theorem definedName?_word {word : String} (hword : isWord word.toList = true) {rest : String}
    (hrest : ∀ c ∈ rest.toList.head?, isNameChar c = false)
    (hdef : " def ".toList.isPrefixOf rest.toList = false) :
    definedName? (word ++ rest) = none := by
  obtain ⟨c, more, hchars⟩ : ∃ c more, word.toList = c :: more := by
    apply List.exists_cons_of_ne_nil
    intro hnil
    rw [hnil] at hword
    cases hword
  have hnames := isNameChar_of_isWord hword
  have hblank : c ≠ ' ' := by
    rintro rfl
    have hname := hnames ' ' (by rw [hchars]; exact List.mem_cons_self ..)
    cases hname
  have hdrop : (word ++ rest).toList.dropWhile (· == ' ') = word.toList ++ rest.toList := by
    rw [String.toList_append, hchars, List.cons_append,
      List.dropWhile_cons_of_neg (by simpa using hblank)]
  unfold definedName?
  rw [hdrop]
  apply if_neg
  intro hfront
  obtain ⟨after, hafter⟩ := List.isPrefixOf_iff_prefix.mp hfront
  have hcut (text : List Char) (hhead : ∀ c ∈ text.head?, isNameChar c = false) :
      text.dropWhile isNameChar = text := by
    cases text with
    | nil => rfl
    | cons d text => exact List.dropWhile_cons_of_neg (by simp [hhead d rfl])
  have hleft : (word.toList ++ rest.toList).dropWhile isNameChar = rest.toList := by
    rw [List.dropWhile_append_of_pos hnames, hcut _ hrest]
  have hright : ("async def ".toList ++ after).dropWhile isNameChar = " def ".toList ++ after := rfl
  rw [← hafter, hright] at hleft
  rw [← hleft] at hdef
  have hmust : " def ".toList.isPrefixOf (" def ".toList ++ after) = true :=
    List.isPrefixOf_iff_prefix.mpr ⟨after, rfl⟩
  rw [hmust] at hdef
  cases hdef

theorem definedName?_deviceLine (binding : GeneratorBinding) :
    definedName? (deviceLine binding) = none := by
  have htext : deviceLine binding = aliasIdentifier binding.alias_ ++
      (" = device(" ++ (pythonString (some (.str binding.deviceId)) ++ ")")) := by
    unfold deviceLine
    simp only [String.append_assoc]
  rw [htext]
  apply definedName?_word (aliasIdentifier_word binding.alias_)
  · rw [String.toList_append]
    intro c hc
    obtain rfl := Option.some.inj hc
    rfl
  · rw [String.toList_append]
    rfl

theorem definedName?_call {block : GeneratorBlock} {spec : BlockSpec}
    (hspec : blockSpec block.type = some spec) {alias_ : Option String} {emitter : Emitter}
    {call : String}
    (h : (deviceCall block (alias_.map aliasIdentifier) spec emitter).1 = some call)
    (rest : String) : definedName? (call ++ rest) = none := by
  obtain ⟨name, method, arguments, hname, rfl, -, -⟩ := deviceCall_form hspec h
  obtain ⟨alias_, _, rfl⟩ := Option.map_eq_some_iff.mp hname
  unfold callText
  simp only [String.append_assoc]
  apply definedName?_word (aliasIdentifier_word alias_)
  · rw [String.toList_append]
    intro c hc
    obtain rfl := Option.some.inj hc
    rfl
  · rw [String.toList_append]
    rfl

def Piece.reserved? : Piece → Option String
  | .line _ _ text _ => definedName? text
  | .name imported => some imported.text
  | .blank | .warning _ => none

theorem reserved_plain {role : LineRole} {owner : SourceOrigin} {text : String} {depth : ℕ}
    (h : definedName? text = none) (pieces : List Piece) :
    (Piece.line role owner text depth :: pieces).filterMap Piece.reserved? =
      pieces.filterMap Piece.reserved? :=
  List.filterMap_cons_none h

theorem reserved_definition {role : LineRole} {owner : SourceOrigin} {text name : String}
    {depth : ℕ} (h : definedName? text = some name) (pieces : List Piece) :
    (Piece.line role owner text depth :: pieces).filterMap Piece.reserved? =
      name :: pieces.filterMap Piece.reserved? :=
  List.filterMap_cons_some h

theorem reserved_name (name : SdkName) (pieces : List Piece) :
    (Piece.name name :: pieces).filterMap Piece.reserved? =
      name.text :: pieces.filterMap Piece.reserved? := rfl

theorem reserved_quietPieces (emitter : Emitter) :
    emitter.quietPieces.filterMap Piece.reserved? = emitter.used.map SdkName.text := by
  unfold Emitter.quietPieces
  rw [List.filterMap_append, List.filterMap_map, List.filterMap_map]
  have hwarnings : emitter.warnings.filterMap (Piece.reserved? ∘ Piece.warning) = [] := by
    simp [Function.comp_def, Piece.reserved?]
  have hnames : emitter.used.filterMap (Piece.reserved? ∘ Piece.name) =
      emitter.used.map SdkName.text := by
    simp [Function.comp_def, Piece.reserved?]
  rw [hwarnings, hnames, List.nil_append]

theorem reserved_commentPieces (owner : SourceOrigin) (comment : Option String) (depth : ℕ) :
    (commentPieces owner comment depth).filterMap Piece.reserved? = [] := by
  unfold commentPieces
  cases comment with
  | none => rfl
  | some comment =>
    dsimp only
    split
    · rfl
    · rw [List.filterMap_map, List.filterMap_eq_nil_iff]
      intro line _
      exact definedName?_opening (by decide) (String.ofList line)

theorem reserved_suitePieces (owner : SourceOrigin) (depth : ℕ) (pieces : List Piece) :
    (suitePieces owner depth pieces).filterMap Piece.reserved? =
      pieces.filterMap Piece.reserved? := by
  unfold suitePieces
  split
  · rfl
  · have hpass : definedName? "pass" = none := by decide
    rw [List.filterMap_append, reserved_plain hpass]
    exact List.append_nil _

section
variable (bindings : List GeneratorBinding)

theorem resolveAlias_used (block : GeneratorBlock) (emitter : Emitter) :
    (resolveAlias bindings block emitter).2.used = emitter.used := by
  have hunnamed : (unnamedAlias bindings block emitter).2.used = emitter.used := by
    unfold unnamedAlias
    split <;> rfl
  unfold resolveAlias
  dsimp only
  split
  · split
    · exact hunnamed
    · split
      · split <;> rfl
      · rfl
  · exact hunnamed

theorem emitExpression_used (block : GeneratorBlock) (emitter : Emitter) :
    (emitExpression bindings block emitter).2.used = emitter.used := by
  have halias := resolveAlias_used bindings block emitter
  unfold emitExpression
  dsimp only
  split <;> exact halias

theorem deviceCall_used (block : GeneratorBlock) (target : Option String) (spec : BlockSpec)
    (emitter : Emitter) : (deviceCall block target spec emitter).2.used = emitter.used := by
  unfold deviceCall
  cases target with
  | none => rfl
  | some target =>
    dsimp only
    cases spec.type <;> rfl

theorem reserved_actionPieces (depth : ℕ) (action : GeneratorBlock) :
    (actionPieces bindings depth action).filterMap Piece.reserved? = reservedInAction action := by
  have halias := resolveAlias_used bindings action Emitter.empty
  have hcall : definedName? ((parallelCall bindings action Emitter.empty).1 ++ ",") = none ∧
      (parallelCall bindings action Emitter.empty).2.used.map SdkName.text =
        reservedInAction action := by
    have hnone : definedName? ("None" ++ ",") = none := by decide
    unfold parallelCall reservedInAction
    generalize resolveAlias bindings action Emitter.empty = resolved at halias ⊢
    obtain ⟨alias_, emitter⟩ := resolved
    dsimp only at halias ⊢
    cases hspec : blockSpec action.type with
    | none =>
      unfold blockType
      rw [hspec]
      exact ⟨hnone, congrArg _ halias⟩
    | some spec =>
      rw [blockType_eq hspec]
      have hdevice : definedName? ((deviceCall action (alias_.map aliasIdentifier) spec
          emitter).1.getD "None" ++ ",") = none := by
        cases hcall : (deviceCall action (alias_.map aliasIdentifier) spec emitter).1 with
        | none => exact hnone
        | some call => exact definedName?_call hspec hcall ","
      have hused := (deviceCall_used action (alias_.map aliasIdentifier) spec emitter).trans halias
      dsimp only
      cases htype : spec.type
      case wait =>
        simp only [String.append_assoc, Emitter.use, halias]
        exact ⟨definedName?_opening (by decide) _, rfl⟩
      case log =>
        simp only [String.append_assoc, Emitter.use, halias]
        exact ⟨definedName?_opening (by decide) _, rfl⟩
      all_goals exact ⟨hdevice, congrArg _ hused⟩
  unfold actionPieces
  dsimp only
  rw [List.filterMap_append, reserved_quietPieces, hcall.2]
  rw [reserved_plain hcall.1]
  exact List.append_nil _

section
variable (owner : SourceOrigin) (depth : ℕ) (rest : List Piece)

theorem reserved_timer {name : String} (hname : '(' ∉ name.toList) (seconds : String) :
    ([Piece.name .every, Piece.line .head owner ("@every(" ++ seconds ++ ")") depth,
      Piece.line .later owner ("async def " ++ name ++ "():") depth] ++ rest).filterMap
        Piece.reserved? = "every" :: name :: rest.filterMap Piece.reserved? := by
  have hhead : definedName? ("@every(" ++ seconds ++ ")") = none := by
    rw [String.append_assoc]
    exact definedName?_opening (by decide) _
  rw [List.cons_append, List.cons_append, List.cons_append, List.nil_append, reserved_name,
    reserved_plain hhead, reserved_definition (definedName?_definition hname)]
  rfl

theorem reserved_gesture (source gesture : String) :
    ([Piece.name .when,
      Piece.line .head owner ("@when(" ++ source ++ ".gesture(" ++ gesture ++ "))") depth,
      Piece.line .later owner "async def on_gesture():" depth] ++ rest).filterMap
        Piece.reserved? = "when" :: "on_gesture" :: rest.filterMap Piece.reserved? := by
  have hhead : definedName? ("@when(" ++ source ++ ".gesture(" ++ gesture ++ "))") = none := by
    rw [String.append_assoc, String.append_assoc, String.append_assoc]
    exact definedName?_opening (by decide) _
  have hgesture : definedName? "async def on_gesture():" = some "on_gesture" := by decide
  rw [List.cons_append, List.cons_append, List.cons_append, List.nil_append, reserved_name,
    reserved_plain hhead, reserved_definition hgesture]
  rfl

theorem reserved_repeat (times : String) :
    (Piece.line .head owner ("for _ in range(" ++ times ++ "):") depth :: rest).filterMap
      Piece.reserved? = rest.filterMap Piece.reserved? := by
  apply reserved_plain
  rw [String.append_assoc]
  exact definedName?_opening (by decide) _

theorem reserved_if (condition : String) :
    (Piece.line .head owner ("if " ++ condition ++ ":") depth :: rest).filterMap
      Piece.reserved? = rest.filterMap Piece.reserved? := by
  apply reserved_plain
  rw [String.append_assoc]
  exact definedName?_opening (by decide) _

theorem reserved_await (call : String) :
    (Piece.line .head owner ("await " ++ call) depth :: rest).filterMap Piece.reserved? =
      rest.filterMap Piece.reserved? :=
  reserved_plain (definedName?_await call) rest

theorem reserved_sleep (seconds : String) :
    [Piece.name .sleep, Piece.line .head owner ("await sleep(" ++ seconds ++ ")") depth].filterMap
      Piece.reserved? = ["sleep"] := by
  have hopening : "await sleep(" ++ seconds ++ ")" = "await " ++ ("sleep(" ++ seconds ++ ")") := by
    rw [← String.append_assoc, ← String.append_assoc]
    rfl
  rw [reserved_name, hopening, reserved_await]
  rfl

theorem reserved_log (message : String) :
    [Piece.name .log, Piece.line .head owner ("await log(" ++ message ++ ")") depth].filterMap
      Piece.reserved? = ["log"] := by
  have hopening : "await log(" ++ message ++ ")" = "await " ++ ("log(" ++ message ++ ")") := by
    rw [← String.append_assoc, ← String.append_assoc]
    rfl
  rw [reserved_name, hopening, reserved_await]
  rfl

theorem reserved_parallel (actions : List GeneratorBlock) :
    (Piece.line .head owner "await parallel(" depth ::
      (actions.flatMap (actionPieces bindings (depth + 1)) ++
        [Piece.line .closing owner ")" depth])).filterMap Piece.reserved? =
      actions.flatMap reservedInAction := by
  have hopening : definedName? "await parallel(" = none := by decide
  have hclosing : definedName? ")" = none := by decide
  have hactions : (actions.flatMap (actionPieces bindings (depth + 1))).filterMap
      Piece.reserved? = actions.flatMap reservedInAction := by
    rw [List.filterMap_flatMap]
    congr 1
    funext action
    exact reserved_actionPieces bindings (depth + 1) action
  rw [reserved_plain hopening, List.filterMap_append, hactions, reserved_plain hclosing]
  exact List.append_nil _

end

mutual

theorem reserved_statementPieces (block : GeneratorBlock) (depth : ℕ) :
    (statementPieces bindings block depth).filterMap Piece.reserved? = reservedIn block := by
  match block with
  | ⟨id, type, fields, children, disabled, comment⟩ =>
    rw [statementPieces.eq_def, reservedIn.eq_def]
    cases hspec : blockSpec type with
    | none => simp only [hspec]; rfl
    | some spec =>
      have halias : (if spec.hasDevice = true then
          aliasPieces bindings ⟨id, type, fields, children, disabled, comment⟩ else
          []).filterMap Piece.reserved? = [] := by
        split
        · unfold aliasPieces
          rw [reserved_quietPieces, resolveAlias_used]
          rfl
        · rfl
      simp only [hspec]
      rw [List.filterMap_append, List.filterMap_append, reserved_commentPieces, halias,
        List.nil_append, List.nil_append]
      generalize (if spec.hasDevice = true then
        resolvedAlias bindings ⟨id, type, fields, children, disabled, comment⟩ else none) = alias_
      have hsuite : (suitePieces ⟨id, type, alias_⟩ (depth + 1)
          (statementsPieces bindings children (depth + 1))).filterMap Piece.reserved? =
            reservedInAll children := by
        rw [reserved_suitePieces, reserved_statementsPieces children (depth + 1)]
      cases htype : spec.type
      case onStart =>
        have hmain : definedName? "async def main():" = some "main" := by decide
        exact (reserved_definition hmain _).trans (congrArg _ hsuite)
      case repeat_ => exact (reserved_repeat _ depth _ _).trans hsuite
      case every =>
        have hname : '(' ∉ (timerName ⟨id, type, fields, children, disabled, comment⟩
            spec).toList := by
          unfold timerName
          rw [String.toList_append, String.toList_append, List.mem_append, List.mem_append,
            not_or, not_or]
          exact ⟨⟨by decide, notMem_timer (by decide) (by decide) _
            (defaultOf_isFinite hspec "seconds")⟩, by decide⟩
        exact (reserved_timer _ depth _ hname _).trans (congrArg (fun names => _ :: _ :: names)
          hsuite)
      case onGesture =>
        exact (reserved_gesture _ depth _ _ _).trans (congrArg (fun names => _ :: _ :: names)
          hsuite)
      case wait => exact reserved_sleep _ depth _
      case log => exact reserved_log _ depth _
      case if_ =>
        cases children with
        | nil => rfl
        | cons condition rest =>
          dsimp only
          rw [List.filterMap_append, reserved_quietPieces, emitExpression_used, reserved_if,
            reserved_suitePieces, reserved_statementsPieces rest (depth + 1)]
          rfl
      case parallel =>
        dsimp only
        rw [reserved_name]
        cases children.filter fun child => !child.disabled with
        | nil => rfl
        | cons action actions =>
          exact congrArg (_ :: ·) (reserved_parallel bindings _ depth (action :: actions))
      all_goals
        dsimp only
        rw [List.filterMap_append, reserved_quietPieces, deviceCall_used]
        cases hcall : (deviceCall ⟨id, type, fields, children, disabled, comment⟩
          (alias_.map aliasIdentifier) spec Emitter.empty).1 with
        | none => rfl
        | some call => exact reserved_await _ depth [] call

theorem reserved_statementsPieces (children : List GeneratorBlock) (depth : ℕ) :
    (statementsPieces bindings children depth).filterMap Piece.reserved? =
      reservedInAll children := by
  match children with
  | [] => rw [statementsPieces, reservedInAll]; rfl
  | child :: rest =>
    rw [statementsPieces, reservedInAll, List.filterMap_append,
      reserved_statementsPieces rest depth]
    cases child.disabled with
    | true => rfl
    | false => exact congrArg (· ++ _) (reserved_statementPieces child depth)

end

theorem reserved_declarationPieces (blocks : List GeneratorBlock) :
    (declarationPieces bindings blocks).filterMap Piece.reserved? =
      (eventBlocks blocks).flatMap reservedIn ++
        if (startBlocks blocks ++ looseBlocks blocks).isEmpty then []
        else "main" :: reservedInAll (mainSteps blocks) := by
  have hevents : ((eventBlocks blocks).flatMap fun block =>
      suitePieces ⟨block.id, block.type, none⟩ 0 (statementsPieces bindings [block] 0) ++
        [Piece.blank]).filterMap Piece.reserved? = (eventBlocks blocks).flatMap reservedIn := by
    rw [List.filterMap_flatMap]
    apply List.flatMap_congr
    intro block hblock
    have henabled : block.disabled = false := by
      have hmem := List.mem_of_mem_filter hblock
      simpa using List.of_mem_filter hmem
    have hone : statementsPieces bindings [block] 0 = statementPieces bindings block 0 := by
      rw [statementsPieces, statementsPieces, henabled]
      exact List.append_nil _
    rw [List.filterMap_append, reserved_suitePieces, hone, reserved_statementPieces]
    exact List.append_nil _
  have hmain (starts loose : List GeneratorBlock) (anchor : GeneratorBlock) :
      (mainPieces bindings starts loose anchor).filterMap Piece.reserved? =
        "main" :: reservedInAll (starts.flatMap GeneratorBlock.children ++ loose) := by
    have hcomments : (starts.flatMap fun start =>
        commentPieces ⟨start.id, start.type, none⟩ start.comment 0).filterMap Piece.reserved? =
          [] := by
      rw [List.filterMap_flatMap]
      simp [reserved_commentPieces]
    have hdefinition : definedName? "async def main():" = some "main" := by decide
    unfold mainPieces
    rw [List.filterMap_append, hcomments, List.nil_append, reserved_definition hdefinition,
      List.filterMap_append, reserved_suitePieces, reserved_statementsPieces]
    exact congrArg _ (List.append_nil _)
  have heq : declarationPieces bindings blocks =
      ((eventBlocks blocks).flatMap fun block =>
        suitePieces ⟨block.id, block.type, none⟩ 0 (statementsPieces bindings [block] 0) ++
          [Piece.blank]) ++
        match startBlocks blocks ++ looseBlocks blocks with
        | [] => []
        | anchor :: _ => mainPieces bindings (startBlocks blocks) (looseBlocks blocks) anchor := rfl
  rw [heq, List.filterMap_append, hevents]
  congr 1
  cases startBlocks blocks ++ looseBlocks blocks with
  | nil => rfl
  | cons anchor rest => exact hmain _ _ anchor

theorem used_writeAll (emitter : Emitter) (pieces : List Piece) (name : SdkName) :
    name ∈ (emitter.writeAll pieces).used ↔ name ∈ emitter.used ∨ Piece.name name ∈ pieces := by
  induction pieces generalizing emitter with
  | nil => simp
  | cons piece pieces ih =>
    rw [Emitter.writeAll_cons, ih, List.mem_cons]
    cases piece with
    | line role owner text depth =>
      have hused : (emitter.write (.line role owner text depth)).used = emitter.used := by
        show (emitter.emit text depth (Piece.line role owner text depth).origin?).used = _
        unfold Emitter.emit
        cases (Piece.line role owner text depth).origin? <;> rfl
      simp [hused]
    | blank =>
      have hused : (emitter.write .blank).used = emitter.used := rfl
      simp [hused]
    | warning warning =>
      have hused : (emitter.write (.warning warning)).used = emitter.used := rfl
      simp [hused]
    | name other =>
      have hused : (emitter.write (.name other)).used = emitter.used ++ [other] := rfl
      simp [hused, or_assoc]

/-- The names that a program imports: `device`, and those of its pieces. -/
theorem mem_usedImports (localeCompare : String → String → Ordering)
    (blocks : List GeneratorBlock) (name : String) :
    name ∈ (generatePython bindings localeCompare blocks).usedImports.map SdkName.text ↔
      name = "device" ∨
        ∃ imported, Piece.name imported ∈ declarationPieces bindings blocks ∧
          imported.text = name := by
  have himports : (generatePython bindings localeCompare blocks).usedImports =
      importedNames bindings blocks := rfl
  have horder (imported : SdkName) : imported ∈ importOrder := by cases imported <;> decide
  rw [himports, List.mem_map]
  unfold importedNames
  simp only [List.mem_filter, horder, true_and, decide_eq_true_eq, emitDeclarations_write,
    used_writeAll, Emitter.empty, List.not_mem_nil, false_or]
  constructor
  · rintro ⟨imported, hpiece | rfl, rfl⟩
    · exact .inr ⟨imported, hpiece, rfl⟩
    · exact .inl rfl
  · rintro (rfl | ⟨imported, hpiece, rfl⟩)
    · exact ⟨.device, .inr rfl, rfl⟩
    · exact ⟨imported, .inl hpiece, rfl⟩

theorem definedName?_preamble (localeCompare : String → String → Ordering)
    (imports : List SdkName) :
    ∀ line ∈ (emitPreamble bindings localeCompare imports).lines, definedName? line = none := by
  have hblank : definedName? "" = none := by decide
  rw [emitPreamble_lines]
  refine List.forall_mem_append.mpr ⟨List.forall_mem_append.mpr ⟨?_, ?_⟩, ?_⟩
  · simp only [List.forall_mem_cons, List.not_mem_nil, false_imp_iff, implies_true, and_true,
      hblank]
    exact definedName?_opening (by decide) _
  · intro line hline
    obtain ⟨binding, _, rfl⟩ := List.mem_map.mp hline
    exact definedName?_deviceLine binding
  · split
    · simp
    · intro line hline
      simp only [List.mem_cons, List.not_mem_nil, or_false, or_self] at hline
      rw [hline]
      exact hblank

theorem mem_definedNames (localeCompare : String → String → Ordering)
    (blocks : List GeneratorBlock) (name : String) :
    name ∈ definedNames (generatePython bindings localeCompare blocks).python ↔
      ∃ role owner text depth,
        Piece.line role owner text depth ∈ declarationPieces bindings blocks ∧
          definedName? text = some name := by
  have hblank : definedName? "" = none := by decide
  have hkept : name ∈ definedNames (generatePython bindings localeCompare blocks).python ↔
      name ∈ (programLines bindings localeCompare blocks).filterMap definedName? := by
    have hdropped : ((programLines bindings localeCompare blocks).rtakeWhile
        (· == "")).filterMap definedName? = [] := by
      rw [List.filterMap_eq_nil_iff]
      intro line hline
      have hempty : line = "" := by simpa using List.mem_rtakeWhile_imp hline
      rw [hempty]
      exact hblank
    have hlines : (programLines bindings localeCompare blocks).filterMap definedName? =
        ((programLines bindings localeCompare blocks).rdropWhile
          (· == "")).filterMap definedName? := by
      have hsplit := congrArg (List.filterMap definedName?) (List.rdropWhile_append_rtakeWhile
        (p := (· == "")) (l := programLines bindings localeCompare blocks))
      rw [List.filterMap_append, hdropped, List.append_nil] at hsplit
      exact hsplit.symm
    unfold definedNames
    rw [split_python, List.filterMap_append, ← hlines, List.filterMap_cons_none hblank]
    simp
  have hpreamble : (emitPreamble bindings localeCompare
      (importedNames bindings blocks)).lines.filterMap definedName? = [] :=
    List.filterMap_eq_nil_iff.mpr (definedName?_preamble bindings localeCompare _)
  rw [hkept]
  unfold programLines
  rw [List.filterMap_append, hpreamble, List.nil_append, List.mem_filterMap]
  constructor
  · rintro ⟨line, hline, hname⟩
    obtain ⟨piece, hpiece, hline⟩ := List.mem_filterMap.mp hline
    cases piece with
    | line role owner text depth =>
      refine ⟨role, owner, text, depth, hpiece, ?_⟩
      dsimp only at hline
      split at hline
      · rw [← Option.some.inj hline, hblank] at hname
        cases hname
      · rwa [← Option.some.inj hline, definedName?_indent] at hname
    | blank =>
      rw [← Option.some.inj hline, hblank] at hname
      cases hname
    | warning warning => cases hline
    | name imported => cases hline
  · rintro ⟨role, owner, text, depth, hpiece, hname⟩
    refine ⟨Emitter.indent depth ++ text, List.mem_filterMap.mpr ⟨_, hpiece, ?_⟩, ?_⟩
    · dsimp only
      rw [if_neg]
      rintro rfl
      rw [hblank] at hname
      cases hname
    · rwa [definedName?_indent]

theorem mem_reserved (pieces : List Piece) (name : String) :
    name ∈ pieces.filterMap Piece.reserved? ↔
      (∃ imported, Piece.name imported ∈ pieces ∧ imported.text = name) ∨
        ∃ role owner text depth, Piece.line role owner text depth ∈ pieces ∧
          definedName? text = some name := by
  rw [List.mem_filterMap]
  constructor
  · rintro ⟨piece, hpiece, hname⟩
    cases piece with
    | line role owner text depth => exact .inr ⟨role, owner, text, depth, hpiece, hname⟩
    | name imported => exact .inl ⟨imported, hpiece, Option.some.inj hname⟩
    | blank => cases hname
    | warning warning => cases hname
  · rintro (⟨imported, hpiece, rfl⟩ | ⟨role, owner, text, depth, hpiece, hname⟩)
    · exact ⟨_, hpiece, rfl⟩
    · exact ⟨_, hpiece, hname⟩

theorem mem_reservedNames (localeCompare : String → String → Ordering)
    (blocks : List GeneratorBlock) (name : String) :
    name ∈ reservedNames blocks ↔ name.toList ∈ keywords ∨
      name ∈ (generatePython bindings localeCompare blocks).usedImports.map SdkName.text ∨
      name ∈ definedNames (generatePython bindings localeCompare blocks).python := by
  have hpieces := mem_reserved (declarationPieces bindings blocks) name
  rw [reserved_declarationPieces] at hpieces
  have hkeyword : name ∈ keywords.map String.ofList ↔ name.toList ∈ keywords := by
    constructor
    · intro h
      obtain ⟨keyword, hkeyword, rfl⟩ := List.mem_map.mp h
      rwa [String.toList_ofList]
    · intro h
      exact List.mem_map.mpr ⟨name.toList, h, String.ofList_toList⟩
  rw [mem_usedImports, mem_definedNames, or_assoc, ← hpieces]
  unfold reservedNames
  rw [List.mem_append, List.mem_cons, hkeyword]

/-- The identifiers of a program are its own if and only if no two aliases have the same letters
and digits at the same places, and none has those of a keyword or of a name that the program
imports or defines. -/
theorem hygienic_iff (localeCompare : String → String → Ordering)
    (bindings : List GeneratorBinding) (blocks : List GeneratorBlock) :
    Hygienic bindings (generatePython bindings localeCompare blocks) ↔
      KeptApart bindings blocks := by
  constructor
  · intro h
    refine ⟨fun first hfirst second hsecond hne halike => ?_,
      fun binding hbinding name hname hword halike => ?_⟩
    · exact h.distinct first hfirst second hsecond hne ((aliasIdentifier_eq_iff ..).mpr halike)
    · have hsame := aliasIdentifier_eq_name.mpr ⟨hword, halike⟩
      obtain ⟨hkeyword, himported, hdefined⟩ := h.free binding hbinding
      rw [hsame] at hkeyword himported hdefined
      rcases (mem_reservedNames bindings localeCompare blocks name).mp hname with
        hmem | hmem | hmem
      · exact hkeyword hmem
      · exact himported hmem
      · exact hdefined hmem
  · rintro ⟨hapart, hreserved⟩
    have hfree : ∀ binding ∈ bindings, ∀ name ∈ reservedNames blocks,
        aliasIdentifier binding.alias_ ≠ name := by
      intro binding hbinding name hname hsame
      obtain ⟨hword, halike⟩ := aliasIdentifier_eq_name.mp hsame
      exact hreserved binding hbinding name hname hword halike
    refine ⟨fun first hfirst second hsecond hne hsame => ?_, fun binding hbinding => ?_⟩
    · exact hapart first hfirst second hsecond hne ((aliasIdentifier_eq_iff ..).mp hsame)
    · have hnames := hfree binding hbinding (aliasIdentifier binding.alias_)
      rw [mem_reservedNames bindings localeCompare] at hnames
      refine ⟨fun hmem => ?_, fun hmem => ?_, fun hmem => ?_⟩
      · exact hnames (.inl hmem) rfl
      · exact hnames (.inr (.inl hmem)) rfl
      · exact hnames (.inr (.inr hmem)) rfl

end

/-- A device that is called `log` in a program that logs, one that is called `main`, and two devices
whose aliases differ in a mark. -/
theorem not_hygienic :
    ¬(∀ localeCompare bindings blocks,
      Hygienic bindings (generatePython bindings localeCompare blocks)) ∧
    ¬Hygienic [⟨"log", "lamp-1"⟩] (generatePython [⟨"log", "lamp-1"⟩] (fun _ _ => .eq)
      [⟨"a", "cit_log", [("message", .str "hello")], [], false, none⟩]) ∧
    ¬Hygienic [⟨"main", "lamp-1"⟩] (generatePython [⟨"main", "lamp-1"⟩] (fun _ _ => .eq)
      [⟨"a", "cit_on_start", [], [], false, none⟩]) ∧
    ¬Hygienic [⟨"left-arm", "arm-1"⟩, ⟨"left arm", "arm-2"⟩] (generatePython
      [⟨"left-arm", "arm-1"⟩, ⟨"left arm", "arm-2"⟩] (fun _ _ => .eq) []) := by
  have hlog : ¬Hygienic [⟨"log", "lamp-1"⟩] (generatePython [⟨"log", "lamp-1"⟩] (fun _ _ => .eq)
      [⟨"a", "cit_log", [("message", .str "hello")], [], false, none⟩]) := by
    intro h
    have himported : aliasIdentifier "log" ∈ (generatePython [⟨"log", "lamp-1"⟩] (fun _ _ => .eq)
        [⟨"a", "cit_log", [("message", .str "hello")], [], false, none⟩]).usedImports.map
          SdkName.text := by
      decide
    exact (h.free ⟨"log", "lamp-1"⟩ (List.mem_singleton_self _)).2.1 himported
  refine ⟨fun h => hlog (h _ _ _), hlog, fun h => ?_, fun h => ?_⟩
  · have hdefined : aliasIdentifier "main" ∈ definedNames (generatePython [⟨"main", "lamp-1"⟩]
        (fun _ _ => .eq) [⟨"a", "cit_on_start", [], [], false, none⟩]).python := by
      decide
    exact (h.free ⟨"main", "lamp-1"⟩ (List.mem_singleton_self _)).2.2 hdefined
  · exact h.distinct ⟨"left-arm", "arm-1"⟩ (by simp) ⟨"left arm", "arm-2"⟩ (by simp) (by decide)
      (by decide)

end CitPhysicalXR.Blocks
