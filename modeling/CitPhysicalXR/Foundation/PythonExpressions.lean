import CitPhysicalXR.Foundation.PythonTextRules

/-! Rules for the expressions of Python programs: values, calls of functions and methods, and the
statements that are made of them; and strings that a line break or a null character cuts off. -/
namespace CitPhysicalXR.Foundation.PythonText

theorem isWord_of_isBindable {word : List Char} (h : isBindable word = true) :
    isWord word = true := by
  simp only [isBindable, Bool.and_eq_true] at h
  exact h.1.1

theorem notMem_keywords {word : List Char} (h : isBindable word = true) : word ∉ keywords := by
  simp only [isBindable, Bool.and_eq_true, Bool.not_eq_true', List.contains_eq_mem,
    decide_eq_false_iff_not] at h
  exact h.1.2

/-- The tokens of a number, perhaps with a sign, or of a string. -/
def IsValue (tokens : List Token) : Prop :=
  tokens = [.number] ∨ tokens = [.mark '-', .number] ∨ tokens = [.text]

/-- The marks that may follow a value. -/
def closers : List Char := [')', ',', ':']

def SpellsValue (text : List Char) : Prop :=
  ∃ value, IsValue value ∧
    ∀ c ∈ closers, Scan.Spells (text ++ [c]) (value ++ [Token.mark c])

theorem closers_plain {c : Char} (h : c ∈ closers) :
    c ∈ ' ' :: marks ∧ c ≠ '.' ∧ c ≠ '-' ∧ c ≠ ' ' := by
  simp only [closers, List.mem_cons, List.not_mem_nil, or_false] at h
  rcases h with rfl | rfl | rfl <;> decide

theorem delimiter_closer {c : Char} (h : c ∈ closers) : Scan.delimiter c = [.mark c] :=
  if_neg (closers_plain h).2.2.2

theorem spellsValue_number {number : List Char} (h : isNumber number = true)
    (hrun : ∀ tokens, (Scan.mk .between tokens).run number =
      some ⟨.number number.reverse, tokens⟩) :
    SpellsValue number ∧ SpellsValue ('-' :: number) := by
  have hplain (c : Char) (hc : c ∈ closers) :
      Scan.Spells (number ++ [c]) ([Token.number] ++ [Token.mark c]) := by
    obtain ⟨hmark, hpoint, hsign, _⟩ := closers_plain hc
    have hspells := Scan.spells_number h hrun hmark hpoint hsign
    rw [delimiter_closer hc] at hspells
    exact hspells
  have hminus : Scan.Spells ['-'] [.mark '-'] := fun _ => rfl
  constructor
  · exact ⟨[.number], .inl rfl, hplain⟩
  · exact ⟨[.mark '-', .number], .inr (.inl rfl), fun c hc => hminus.append (hplain c hc)⟩

theorem spellsValue_text {body : List Char}
    (h : ∀ tokens, (Scan.mk .text tokens).run body = some ⟨.text, tokens⟩) :
    SpellsValue ('"' :: body ++ ['"']) := by
  refine ⟨[.text], .inr (.inr rfl), ?_⟩
  intro c hc
  have hmark := Scan.spells_delimiter (closers_plain hc).1
  rw [delimiter_closer hc] at hmark
  exact (Scan.spells_text h).append hmark

/-- The tokens leave the depth of brackets as it is. -/
def Balanced (tokens : List Token) : Prop :=
  ∀ depth, tokens.foldlM Layout.bracketStep depth = some depth

theorem Balanced.append {first second : List Token} (hfirst : Balanced first)
    (hsecond : Balanced second) : Balanced (first ++ second) := by
  intro depth
  rw [List.foldlM_append, hfirst depth]
  exact hsecond depth

theorem Balanced.grouped {tokens : List Token} (h : Balanced tokens) :
    Balanced (Token.mark '(' :: tokens ++ [Token.mark ')']) := by
  intro depth
  have hopen : (Token.mark '(' :: tokens ++ [Token.mark ')']).foldlM Layout.bracketStep depth =
      (tokens ++ [Token.mark ')']).foldlM Layout.bracketStep (depth + 1) := rfl
  rw [hopen, List.foldlM_append, h (depth + 1)]
  rfl

theorem IsValue.balanced {value : List Token} (h : IsValue value) : Balanced value := by
  intro depth
  rcases h with rfl | rfl | rfl <;> rfl

theorem IsValue.balanced_keyword {value : List Token} (h : IsValue value) (name : List Char) :
    Balanced (.word name :: .mark '=' :: value) := fun depth => h.balanced depth

theorem balanced_word (word : List Char) : Balanced [.word word] := fun _ => rfl

namespace Reading
variable {takesAwaitables : List Char → Bool} {canAwait : Bool}

/-- The reading after tokens. -/
def run (takesAwaitables : List Char → Bool) (canAwait : Bool) (reading : Reading)
    (tokens : List Token) : Option Reading :=
  tokens.foldlM (step takesAwaitables canAwait) reading

theorem run_cons (reading : Reading) (token : Token) (tokens : List Token) :
    run takesAwaitables canAwait reading (token :: tokens) =
      (step takesAwaitables canAwait reading token).bind fun next =>
        run takesAwaitables canAwait next tokens := rfl

@[simp] theorem run_nil (reading : Reading) :
    run takesAwaitables canAwait reading [] = some reading := rfl

theorem run_append (reading : Reading) (first second : List Token) :
    run takesAwaitables canAwait reading (first ++ second) =
      (run takesAwaitables canAwait reading first).bind fun next =>
        run takesAwaitables canAwait next second :=
  List.foldlM_append ..

theorem operandWord_name {word : List Char} (h : word ∉ keywords) (brackets : List Bracket)
    (first : Bool) :
    operandWord canAwait brackets first word = some ⟨brackets, .operator (.name word first)⟩ := by
  have hawait : word ≠ "await".toList := by
    rintro rfl
    exact h (by decide)
  have hconstant : word ∉ ["None", "True", "False"].map String.toList := by
    intro hmem
    simp only [List.map_cons, List.map_nil, List.mem_cons, List.not_mem_nil, or_false] at hmem
    rcases hmem with rfl | rfl | rfl <;> exact h (by decide)
  unfold operandWord
  rw [if_neg hawait, if_neg hconstant, if_neg h]

theorem run_value {value : List Token} (h : IsValue value) (brackets : List Bracket)
    {expects : Expects} (hexpects : expects = .argument ∨ ∃ first, expects = .operand first) :
    run takesAwaitables canAwait ⟨brackets, expects⟩ value =
      some ⟨brackets, .operator .other⟩ := by
  rcases hexpects with rfl | ⟨first, rfl⟩
  · rcases h with rfl | rfl | rfl <;> cases brackets <;> rfl
  · rcases h with rfl | rfl | rfl <;> rfl

structure Calls (takesAwaitables : List Char → Bool) (name : List Char) (more : List Token) :
    Prop where
  free : name ∉ keywords
  reads : ∀ canAwait brackets first,
    run takesAwaitables canAwait ⟨brackets, .operator (.name name first)⟩ more =
      some ⟨brackets, .operator .called⟩
  balanced : Balanced more

theorem calls_value {name : List Char} {value : List Token} (hfree : name ∉ keywords)
    (htakes : takesAwaitables name = false) (h : IsValue value) :
    Calls takesAwaitables name (Token.mark '(' :: value ++ [Token.mark ')']) := by
  refine ⟨hfree, ?_, h.balanced.grouped⟩
  intro canAwait brackets first
  have hopen : step takesAwaitables canAwait ⟨brackets, .operator (.name name first)⟩ (.mark '(') =
      some ⟨.call (takesAwaitables name) [] false :: brackets, .argument⟩ := rfl
  rw [List.cons_append, run_cons, hopen, Option.bind_some, run_append,
    run_value h _ (.inl rfl), Option.bind_some, htakes]
  rfl

structure Arguments (keywords : List (List Char)) (tokens : List Token) : Prop where
  reads : ∀ takesAwaitables canAwait brackets named,
    run takesAwaitables canAwait ⟨.call false keywords named :: brackets, .argument⟩ tokens =
      some ⟨brackets, .operator .called⟩
  closes : ∀ depth, tokens.foldlM Layout.bracketStep (depth + 1) = some depth

theorem arguments_nil (keywords : List (List Char)) : Arguments keywords [.mark ')'] :=
  ⟨fun _ _ _ _ => rfl, fun _ => rfl⟩

theorem arguments_value {value : List Token} (h : IsValue value) :
    Arguments [] (value ++ [Token.mark ')']) := by
  constructor
  · intro takesAwaitables canAwait brackets named
    rw [run_append, run_value h _ (.inl rfl), Option.bind_some]
    cases named <;> rfl
  · intro depth
    rw [List.foldlM_append, h.balanced (depth + 1)]
    rfl

theorem run_keyword {keywords : List (List Char)} {name : List Char} {value : List Token}
    (hname : isBindable name = true) (hfresh : name ∉ keywords) (hvalue : IsValue value)
    (brackets : List Bracket) (named : Bool) :
    run takesAwaitables canAwait ⟨.call false keywords named :: brackets, .argument⟩
        (.word name :: .mark '=' :: value) =
      some ⟨.call false (name :: keywords) true :: brackets, .operator .other⟩ := by
  have hword : step takesAwaitables canAwait ⟨.call false keywords named :: brackets, .argument⟩
      (.word name) =
      some ⟨.call false keywords named :: brackets, .operator (.name name true)⟩ :=
    operandWord_name (notMem_keywords hname) _ true
  have hequals : step takesAwaitables canAwait
      ⟨.call false keywords named :: brackets, .operator (.name name true)⟩ (.mark '=') =
      some ⟨.call false (name :: keywords) true :: brackets, .operand false⟩ := by
    show (if name ∈ keywords ∨ !isBindable name then none else _) = _
    rw [if_neg (by simp [hfresh, hname])]
  rw [run_cons, hword, Option.bind_some, run_cons, hequals, Option.bind_some,
    run_value hvalue _ (.inr ⟨false, rfl⟩)]

theorem arguments_last {keywords : List (List Char)} {name : List Char} {value : List Token}
    (hname : isBindable name = true) (hfresh : name ∉ keywords) (hvalue : IsValue value) :
    Arguments keywords (Token.word name :: .mark '=' :: value ++ [Token.mark ')']) := by
  constructor
  · intro takesAwaitables canAwait brackets named
    rw [List.cons_append, List.cons_append, ← List.cons_append, ← List.cons_append, run_append,
      run_keyword hname hfresh hvalue]
    rfl
  · intro depth
    rw [List.foldlM_append, hvalue.balanced_keyword name (depth + 1)]
    rfl

variable {more : List Token}

theorem arguments_cons {keywords : List (List Char)} {name : List Char} {value : List Token}
    (hname : isBindable name = true) (hfresh : name ∉ keywords) (hvalue : IsValue value)
    (hmore : Arguments (name :: keywords) more) :
    Arguments keywords (Token.word name :: .mark '=' :: value ++ .mark ',' :: more) := by
  constructor
  · intro takesAwaitables canAwait brackets named
    have hcomma : step takesAwaitables canAwait
        ⟨.call false (name :: keywords) true :: brackets, .operator .other⟩ (.mark ',') =
        some ⟨.call false (name :: keywords) false :: brackets, .argument⟩ := rfl
    rw [List.cons_append, List.cons_append, ← List.cons_append, ← List.cons_append, run_append,
      run_keyword hname hfresh hvalue, Option.bind_some, run_cons, hcomma, Option.bind_some]
    exact hmore.reads ..
  · intro depth
    rw [List.foldlM_append, hvalue.balanced_keyword name (depth + 1)]
    exact hmore.closes depth

/-- The tokens of the names that lead from a device to one of its methods. -/
structure Path (path : List Token) : Prop where
  reads : ∀ takesAwaitables canAwait brackets,
    run takesAwaitables canAwait ⟨brackets, .attribute⟩ path = some ⟨brackets, .operator .other⟩
  balanced : Balanced path

theorem calls_method {name : List Char} {path tokens : List Token} (hfree : name ∉ keywords)
    (hpath : Path path) (htokens : Arguments [] tokens) :
    Calls takesAwaitables name (Token.mark '.' :: path ++ .mark '(' :: tokens) := by
  constructor
  · exact hfree
  · intro canAwait brackets first
    have hpoint : step takesAwaitables canAwait ⟨brackets, .operator (.name name first)⟩
        (.mark '.') = some ⟨brackets, .attribute⟩ := rfl
    have hopen : step takesAwaitables canAwait ⟨brackets, .operator .other⟩ (.mark '(') =
        some ⟨.call false [] false :: brackets, .argument⟩ := rfl
    rw [List.cons_append, run_cons, hpoint, Option.bind_some, run_append, hpath.reads,
      Option.bind_some, run_cons, hopen, Option.bind_some, htokens.reads]
  · intro depth
    have hpoint : (Token.mark '.' :: path ++ .mark '(' :: tokens).foldlM Layout.bracketStep depth =
        (path ++ .mark '(' :: tokens).foldlM Layout.bracketStep depth := rfl
    rw [hpoint, List.foldlM_append, hpath.balanced depth]
    exact htokens.closes depth

theorem calls_nested {name inner : List Char} (hfree : name ∉ keywords)
    (htakes : takesAwaitables name = false) (h : Calls takesAwaitables inner more) :
    Calls takesAwaitables name (Token.mark '(' :: .word inner :: more ++ [Token.mark ')']) := by
  constructor
  · exact hfree
  · intro canAwait brackets first
    have hopen : step takesAwaitables canAwait ⟨brackets, .operator (.name name first)⟩
        (.mark '(') = some ⟨.call (takesAwaitables name) [] false :: brackets, .argument⟩ := rfl
    have hword : step takesAwaitables canAwait ⟨.call false [] false :: brackets, .argument⟩
        (.word inner) = some ⟨.call false [] false :: brackets, .operator (.name inner true)⟩ :=
      operandWord_name h.free _ true
    rw [List.cons_append, List.cons_append, run_cons, hopen, Option.bind_some, htakes, run_cons,
      hword, Option.bind_some, run_append, h.reads, Option.bind_some]
    rfl
  · exact ((balanced_word inner).append h.balanced).grouped

theorem isExpression_call {name : List Char}
    (h : Calls takesAwaitables name more) :
    isExpression takesAwaitables canAwait (.word name :: more) = true := by
  have hword : step takesAwaitables canAwait ⟨[], .operand false⟩ (.word name) =
      some ⟨[], .operator (.name name false)⟩ := operandWord_name h.free _ false
  show ((run takesAwaitables canAwait ⟨[], .operand false⟩ (.word name :: more)).any _) = true
  rw [run_cons, hword, Option.bind_some, h.reads]
  rfl

end Reading

section Statements
open Reading
variable {takesAwaitables : List Char → Bool} {name : List Char} {more : List Token}

theorem statement_await (h : Calls takesAwaitables name more) (canAwait : Bool) :
    statement takesAwaitables canAwait (.word "await".toList :: .word name :: more) =
      if canAwait then some .simple else none := by
  show (if isExpression takesAwaitables canAwait (.word "await".toList :: .word name :: more)
    then some LineKind.simple else none) = _
  cases canAwait with
  | false => rfl
  | true =>
    have hname : name ≠ "await".toList := by
      rintro rfl
      exact h.free (by decide)
    have hword : step takesAwaitables true ⟨[], .primary⟩ (.word name) =
        some ⟨[], .operator (.name name false)⟩ := by
      show (if Token.word name = .word "await".toList then none else _) = _
      rw [if_neg (by simpa using hname)]
      exact operandWord_name h.free _ false
    have hread : isExpression takesAwaitables true (.word "await".toList :: .word name :: more) =
        true := by
      show ((run takesAwaitables true ⟨[], .primary⟩ (.word name :: more)).any _) = true
      rw [run_cons, hword, Option.bind_some, h.reads]
      rfl
    rw [hread]

theorem statement_assign (target : List Char) (h : Calls takesAwaitables name more) (canAwait : Bool) :
    statement takesAwaitables canAwait (.word target :: .mark '=' :: .word name :: more) =
      if isBindable target then some .simple else none := by
  have hvalue : isExpression takesAwaitables canAwait (.word name :: more) = true :=
    isExpression_call h
  have hequals (tokens : List Token) :
      isExpression takesAwaitables canAwait (.mark '=' :: tokens) = false := rfl
  unfold statement
  dsimp only
  split
  · rename_i hpass
    rw [hpass]
    rfl
  · split
    · rename_i hfrom
      rw [hfrom]
      rfl
    · split
      · rename_i hasync
        rw [hasync]
        rfl
      · split
        · rename_i hfor
          rw [hfor]
          rfl
        · split
          · rename_i hif
            rw [List.dropLast_cons_cons, hequals, hif]
            simp
            rfl
          · show (if isBindable target &&
              isExpression takesAwaitables canAwait (.word name :: more) then _ else none) = _
            rw [hvalue, Bool.and_true]

theorem statement_decorator (h : Calls takesAwaitables name more) (canAwait : Bool) :
    statement takesAwaitables canAwait (.mark '@' :: .word name :: more) = some .decorator := by
  show (if isExpression takesAwaitables canAwait (.word name :: more)
    then some LineKind.decorator else none) = _
  rw [isExpression_call h]
  rfl

theorem statement_definition (hname : isBindable name = true) (canAwait : Bool) :
    statement takesAwaitables canAwait [.word "async".toList, .word "def".toList, .word name,
      .mark '(', .mark ')', .mark ':'] = some (.head true true) := by
  show (if isBindable name then some (LineKind.head true true) else none) = _
  rw [hname]
  rfl

/-- The tokens that end in a colon are a head whose expression comes before it. -/
theorem headed_concat (tokens : List Token) (canAwait : Bool) :
    decide ((tokens ++ [Token.mark ':']).getLast? = some (Token.mark ':') ∧
        isExpression takesAwaitables canAwait (tokens ++ [Token.mark ':']).dropLast = true) =
      isExpression takesAwaitables canAwait tokens := by
  rw [List.dropLast_concat, List.getLast?_concat]
  simp

theorem statement_for (h : Calls takesAwaitables name more) (canAwait : Bool) :
    statement takesAwaitables canAwait (.word "for".toList :: .word "_".toList ::
        .word "in".toList :: (Token.word name :: more ++ [Token.mark ':'])) =
      some (.head canAwait false) := by
  show (if decide ((Token.word name :: more ++ [Token.mark ':']).getLast? = some (Token.mark ':') ∧
      isExpression takesAwaitables canAwait (Token.word name :: more ++ [Token.mark ':']).dropLast =
        true)
    then some (LineKind.head canAwait false) else none) = _
  rw [headed_concat, isExpression_call h]
  rfl

theorem statement_if (tokens : List Token) (canAwait : Bool) :
    statement takesAwaitables canAwait (Token.word "if".toList :: (tokens ++ [Token.mark ':'])) =
      if isExpression takesAwaitables canAwait tokens then some (.head canAwait false)
      else none := by
  show (if decide ((tokens ++ [Token.mark ':']).getLast? = some (Token.mark ':') ∧
      isExpression takesAwaitables canAwait (tokens ++ [Token.mark ':']).dropLast = true)
    then some (LineKind.head canAwait false) else none) = _
  rw [headed_concat]

/-- An attribute of what a call gives once it is awaited. -/
theorem isExpression_awaited (h : Calls takesAwaitables name more) (canAwait : Bool)
    {member : List Char} (hmember : member ∉ keywords) :
    isExpression takesAwaitables canAwait (.mark '(' :: .word "await".toList :: .word name ::
        more ++ [Token.mark ')', .mark '.', .word member]) = canAwait := by
  cases canAwait with
  | false => rfl
  | true =>
    have hname : name ≠ "await".toList := by
      rintro rfl
      exact h.free (by decide)
    have hword : step takesAwaitables true ⟨[.group], .primary⟩ (.word name) =
        some ⟨[.group], .operator (.name name false)⟩ := by
      show (if Token.word name = .word "await".toList then none else _) = _
      rw [if_neg (by simpa using hname)]
      exact operandWord_name h.free _ false
    have hlast : step takesAwaitables true ⟨[], .attribute⟩ (.word member) =
        some ⟨[], .operator .other⟩ := by
      show (if member ∈ keywords then none else _) = _
      rw [if_neg hmember]
    show ((run takesAwaitables true ⟨[.group], .primary⟩ (.word name ::
      (more ++ [Token.mark ')', .mark '.', .word member]))).any _) = true
    rw [run_cons, hword, Option.bind_some, run_append, h.reads, Option.bind_some]
    show (((step takesAwaitables true ⟨[], .attribute⟩ (.word member)).bind
      fun next => some next).any _) = true
    rw [hlast]
    rfl

/-- The tokens of an argument: a call where it is callable, and `None` where it is not. -/
def IsAction (takesAwaitables : List Char → Bool) (callable : Bool) (tokens : List Token) : Prop :=
  if callable then ∃ name more, tokens = .word name :: more ∧ Calls takesAwaitables name more
  else tokens = [.word "None".toList]

theorem IsAction.balanced {callable : Bool} {tokens : List Token}
    (h : IsAction takesAwaitables callable tokens) : Balanced tokens := by
  cases callable with
  | false => exact (h : tokens = _) ▸ balanced_word _
  | true =>
    obtain ⟨name, more, rfl, hcalls⟩ := h
    exact (balanced_word name).append hcalls.balanced

/-- The arguments, each with its comma. -/
def actionsOf (actions : List (Bool × List Token)) : List Token :=
  actions.flatMap fun action => action.2 ++ [Token.mark ',']

variable {actions : List (Bool × List Token)}

theorem run_actions (canAwait : Bool)
    (h : ∀ action ∈ actions, IsAction takesAwaitables action.1 action.2) :
    run takesAwaitables canAwait ⟨[.call true [] false], .argument⟩ (actionsOf actions) =
      if actions.all Prod.fst then some ⟨[.call true [] false], .argument⟩ else none := by
  induction actions with
  | nil => rfl
  | cons action actions ih =>
    obtain ⟨callable, tokens⟩ := action
    have hfirst : run takesAwaitables canAwait ⟨[.call true [] false], .argument⟩
        (tokens ++ [Token.mark ',']) =
        if callable then some ⟨[.call true [] false], .argument⟩ else none := by
      have haction : IsAction takesAwaitables callable tokens := h _ (List.mem_cons_self ..)
      cases callable with
      | false =>
        rw [(haction : tokens = _)]
        rfl
      | true =>
        obtain ⟨name, more, rfl, hcalls⟩ := haction
        have hword : step takesAwaitables canAwait ⟨[.call true [] false], .argument⟩
            (.word name) = some ⟨[.call true [] false], .operator (.name name true)⟩ :=
          operandWord_name hcalls.free _ true
        rw [List.cons_append, run_cons, hword, Option.bind_some, run_append, hcalls.reads]
        rfl
    have hrest := ih fun other hother => h other (.tail _ hother)
    show run takesAwaitables canAwait _ ((tokens ++ [Token.mark ',']) ++ actionsOf actions) = _
    rw [run_append, hfirst, List.all_cons]
    cases callable with
    | false => rfl
    | true => exact hrest

theorem balanced_actions
    (h : ∀ action ∈ actions, IsAction takesAwaitables action.1 action.2) :
    Balanced (actionsOf actions) := by
  induction actions with
  | nil => exact fun _ => rfl
  | cons action actions ih =>
    have hcomma : Balanced [.mark ','] := fun _ => rfl
    have hfirst := (h action (List.mem_cons_self ..)).balanced.append hcomma
    exact hfirst.append (ih fun other hother => h other (.tail _ hother))

theorem statement_actions (hname : name ∉ keywords) (htakes : takesAwaitables name = true)
    (h : ∀ action ∈ actions, IsAction takesAwaitables action.1 action.2) (canAwait : Bool) :
    statement takesAwaitables canAwait (.word "await".toList :: .word name :: .mark '(' ::
        (actionsOf actions ++ [Token.mark ')'])) =
      if canAwait && actions.all Prod.fst then some .simple else none := by
  show (if isExpression takesAwaitables canAwait (.word "await".toList :: .word name ::
    .mark '(' :: (actionsOf actions ++ [Token.mark ')'])) then some LineKind.simple else none) = _
  cases canAwait with
  | false => rfl
  | true =>
    have hawait : name ≠ "await".toList := by
      rintro rfl
      exact hname (by decide)
    have hword : step takesAwaitables true ⟨[], .primary⟩ (.word name) =
        some ⟨[], .operator (.name name false)⟩ := by
      show (if Token.word name = .word "await".toList then none else _) = _
      rw [if_neg (by simpa using hawait)]
      exact operandWord_name hname _ false
    have hopen : step takesAwaitables true ⟨[], .operator (.name name false)⟩ (.mark '(') =
        some ⟨[.call (takesAwaitables name) [] false], .argument⟩ := rfl
    have hread : isExpression takesAwaitables true (.word "await".toList :: .word name ::
        .mark '(' :: (actionsOf actions ++ [Token.mark ')'])) = actions.all Prod.fst := by
      show ((run takesAwaitables true ⟨[], .primary⟩ (.word name :: .mark '(' ::
        (actionsOf actions ++ [Token.mark ')']))).any _) = _
      rw [run_cons, hword, Option.bind_some, run_cons, hopen, Option.bind_some, htakes,
        run_append, run_actions true h]
      cases actions.all Prod.fst <;> rfl
    rw [hread]
    rfl

end Statements

end CitPhysicalXR.Foundation.PythonText
