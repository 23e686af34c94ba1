import CitPhysicalXR.Blocks.GeneratedCalls
import CitPhysicalXR.Foundation.PythonLayout

/-! Every line that the generator emits, as the logical line that Python reads: what it is, and
whether it is legal. -/
namespace CitPhysicalXR.Blocks
open Foundation PythonText Scan Reading

/-- What a line is where `await` may stand. -/
def awaiting (kind : LineKind) (canAwait : Bool) : Option LineKind :=
  if canAwait then some kind else none

/-- A line of its kind, or none that can be read. -/
def ifLegal (legal : Bool) (kind : Bool → Option LineKind) : Bool → Option LineKind :=
  if legal then kind else fun _ => none

def ReadsLine (text : List Char) (kind : Bool → Option LineKind) : Prop :=
  ∀ indentation layout, layout.open_ = none →
    Layout.readLine takesAwaitables layout (List.replicate indentation ' ' ++ text) =
      layout.enter indentation kind

theorem content_cons {c : Char} (hblank : c ≠ ' ') (hcomment : c ≠ '#') (rest : List Char) :
    Layout.Content (c :: rest) := by
  constructor
  · simpa using hblank
  · simpa using hcomment
  · simp

theorem spells_oneLine {text : List Char} {tokens : List Token} (h : Spells text tokens)
    (indentation : ℕ) :
    ∀ c ∈ List.replicate indentation ' ' ++ text, isLineEnd c = false := by
  intro c hc
  rcases List.mem_append.mp hc with hblank | hc
  · rw [(List.mem_replicate.mp hblank).2]
    rfl
  · exact run_oneLine (h []) c hc

variable {kind : Bool → Option LineKind} {legal : Bool}

theorem readsLine_spells {text : List Char} {tokens : List Token}
    (h : Spells text tokens) (hcontent : Layout.Content text)
    (hbalanced : Balanced tokens)
    (hkind : ∀ canAwait, statement takesAwaitables canAwait tokens = kind canAwait) :
    ReadsLine text kind := by
  intro indentation layout hopen
  rw [Layout.readLine_single (spells_oneLine h indentation),
    Layout.step_line hcontent indentation hopen h.tokenize (hbalanced 0), funext hkind]

theorem readsLine_pass : ReadsLine "pass".toList fun _ => some .simple := by
  intro indentation layout hopen
  have hplain : ∀ c ∈ List.replicate indentation ' ' ++ "pass".toList, isLineEnd c = false := by
    have hpass : ("pass".toList.all fun c => !isLineEnd c) = true := by decide
    intro c hc
    rcases List.mem_append.mp hc with hblank | hc
    · rw [(List.mem_replicate.mp hblank).2]
      rfl
    · simpa using List.all_eq_true.mp hpass c hc
  have htokens : tokenize "pass".toList = some [.word "pass".toList] := rfl
  have hdepth : Layout.openBrackets [.word "pass".toList] = some 0 := rfl
  have hcontent : Layout.Content "pass".toList := content_cons (by decide) (by decide) _
  rw [Layout.readLine_single hplain, Layout.step_line hcontent indentation hopen htokens hdepth]
  rfl

theorem readsLine_breaks {text : List Char} (h : Breaks text) (hcontent : Layout.Content text)
    (kind : Bool → Option LineKind) : ReadsLine text (ifLegal false kind) := by
  intro indentation layout _
  rw [Layout.readLine_breaks h hcontent]
  exact Layout.enter_none.symm

theorem readsLine_call {first last : List Char} (before after : List Token)
    (hfirst : Spells first before) (hlast : Spells last after)
    (hcontent : ∀ rest, Layout.Content (first ++ rest)) (hbefore : Balanced before)
    (hafter : Balanced after)
    (hkind : ∀ name more, Calls takesAwaitables name more → ∀ canAwait,
      statement takesAwaitables canAwait (before ++ (Token.word name :: more) ++ after) =
        kind canAwait)
    {call : List Char} (h : CallText legal call) :
    ReadsLine (first ++ call ++ last) (ifLegal legal kind) := by
  cases legal with
  | true =>
    obtain ⟨name, more, hspells, hcalls⟩ := h.reads rfl
    refine readsLine_spells ((hfirst.append hspells).append hlast) ?_ ?_ (hkind name more hcalls)
    · rw [List.append_assoc]
      exact hcontent _
    · exact (hbefore.append ((balanced_word name).append hcalls.balanced)).append hafter
  | false =>
    refine readsLine_breaks ((hfirst.breaks (h.breaks rfl)).append last) ?_ kind
    rw [List.append_assoc]
    exact hcontent _

theorem readsLine_await {call : List Char} (h : CallText legal call) :
    ReadsLine ("await ".toList ++ call) (ifLegal legal (awaiting .simple)) := by
  have hopening : Spells "await ".toList [.word "await".toList] := fun _ => rfl
  have hline := readsLine_call [.word "await".toList] [] hopening spells_nil (fun rest => content_cons (by decide) (by decide) _)
    (balanced_word _) (fun _ => rfl)
    (fun name more hcalls canAwait => by
      rw [List.append_nil]
      exact statement_await hcalls canAwait) h
  rwa [List.append_nil] at hline

theorem readsLine_decorator {call : List Char} (h : CallText legal call) :
    ReadsLine ('@' :: call) (ifLegal legal fun _ => some .decorator) := by
  have hopening : Spells ['@'] [.mark '@'] := fun _ => rfl
  have hline := readsLine_call [.mark '@'] [] hopening spells_nil (fun rest => content_cons (by decide) (by decide) _)
    (fun _ => rfl) (fun _ => rfl)
    (fun name more hcalls canAwait => by
      rw [List.append_nil]
      exact statement_decorator hcalls canAwait) h
  rwa [List.append_nil] at hline

theorem readsLine_for {call : List Char} (h : CallText legal call) :
    ReadsLine ("for _ in ".toList ++ call ++ [':'])
      (ifLegal legal fun canAwait => some (.head canAwait false)) :=
  readsLine_call [.word "for".toList, .word "_".toList, .word "in".toList] [.mark ':'] (fun _ => rfl) (fun _ => rfl)
    (fun rest => content_cons (by decide) (by decide) _) (fun _ => rfl) (fun _ => rfl)
    (fun name more hcalls canAwait => statement_for hcalls canAwait) h

theorem readsLine_definition {name : List Char} (h : isBindable name = true) :
    ReadsLine ("async def ".toList ++ name ++ "():".toList) fun _ => some (.head true true) := by
  have hopening : Spells "async def ".toList [.word "async".toList, .word "def".toList] :=
    fun _ => rfl
  have hname : Spells (name ++ ['(']) [Token.word name, .mark '('] :=
    spells_word (isWord_of_isBindable h) (by decide)
  have hclosing : Spells "):".toList [.mark ')', .mark ':'] := fun _ => rfl
  have hspells := (hopening.append hname).append hclosing
  have htext : "async def ".toList ++ name ++ "():".toList =
      "async def ".toList ++ (name ++ ['(']) ++ "):".toList := by
    simp only [List.append_assoc]
    rfl
  rw [htext]
  exact readsLine_spells hspells (content_cons (by decide) (by decide) _) (fun _ => rfl)
    (statement_definition h)

theorem readsLine_illegal {text : List Char} (hcontent : Layout.Content text)
    (hline : ∀ c ∈ text, isLineEnd c = false) (htokens : tokenize text = none)
    (kind : Bool → Option LineKind) : ReadsLine text (ifLegal false kind) := by
  intro indentation layout _
  have hplain : ∀ c ∈ List.replicate indentation ' ' ++ text, isLineEnd c = false := by
    intro c hc
    rcases List.mem_append.mp hc with hblank | hc
    · rw [(List.mem_replicate.mp hblank).2]
      rfl
    · exact hline c hc
  rw [Layout.readLine_single hplain, Layout.step_illegal hcontent indentation htokens]
  exact Layout.enter_none.symm

theorem numberShape_oneLine {text : List Char} (h : NumberShape text) :
    ∀ c ∈ text, isLineEnd c = false :=
  run_oneLine (h.run [])

theorem replacePoint_oneLine {text : List Char} (h : ∀ c ∈ text, isLineEnd c = false) :
    ∀ c ∈ replacePoint text, isLineEnd c = false := by
  induction text with
  | nil => simp [replacePoint]
  | cons d text ih =>
    have hrest := ih fun c hc => h c (.tail _ hc)
    by_cases hd : d = '.'
    · subst hd
      rw [replacePoint_point]
      intro c hc
      rcases List.mem_cons.mp hc with rfl | hc
      · rfl
      · exact h c (.tail _ hc)
    · rw [replacePoint_cons hd]
      intro c hc
      rcases List.mem_cons.mp hc with rfl | hc
      · exact h c (List.mem_cons_self ..)
      · exact hrest c hc

/-- The name of a timer can be read if its seconds have no sign. -/
theorem readsLine_every (value : Option JsonValue) {fallback : PyFloat}
    (h : fallback.isFinite = true) :
    ReadsLine ("async def every_".toList ++ replacePoint (pythonNumber value fallback).toList ++
        "s():".toList)
      (ifLegal (!isSigned (pythonNumber value fallback)) fun _ => some (.head true true)) := by
  obtain ⟨text, hshape, htext⟩ := pythonNumber_shape value h
  generalize hseconds : (pythonNumber value fallback).toList = seconds at htext
  have hsigned : isSigned (pythonNumber value fallback) =
      seconds.any fun c => c == '+' || c == '-' := by
    unfold isSigned
    rw [hseconds]
  rw [hsigned]
  have hline : ∀ c ∈ "async def every_".toList ++ replacePoint seconds ++ "s():".toList,
      isLineEnd c = false := by
    have hnumber : ∀ c ∈ seconds, isLineEnd c = false := by
      rcases htext with rfl | rfl
      · exact numberShape_oneLine hshape
      · intro c hc
        rcases List.mem_cons.mp hc with rfl | hc
        · rfl
        · exact numberShape_oneLine hshape c hc
    have hfirst : ("async def every_".toList.all fun c => !isLineEnd c) = true := by decide
    have hlast : ("s():".toList.all fun c => !isLineEnd c) = true := by decide
    intro c hc
    rcases List.mem_append.mp hc with hc | hc
    · rcases List.mem_append.mp hc with hc | hc
      · simpa using List.all_eq_true.mp hfirst c hc
      · exact replacePoint_oneLine hnumber c hc
    · simpa using List.all_eq_true.mp hlast c hc
  have hcontent : Layout.Content ("async def every_".toList ++ replacePoint seconds ++
      "s():".toList) := content_cons (by decide) (by decide) _
  by_cases hplain : seconds = text ∧ PlainShape text
  · obtain ⟨rfl, hplain⟩ := hplain
    rw [plainShape_unsigned hplain]
    have hname := readsLine_definition (isBindable_every (replacePoint_plain hplain))
    have hsame : "async def every_".toList ++ replacePoint seconds ++ "s():".toList =
        "async def ".toList ++ ("every_".toList ++ replacePoint seconds ++ "s".toList) ++
          "():".toList := by
      simp only [List.append_assoc]
      rfl
    rw [hsame]
    exact hname
  · have hbad : seconds = '-' :: text ∨ seconds = text ∧ ¬PlainShape text := by
      rcases htext with hsame | hminus
      · exact .inr ⟨hsame, fun hshape => hplain ⟨hsame, hshape⟩⟩
      · exact .inl hminus
    have hany : (seconds.any fun c => c == '+' || c == '-') = true := by
      rcases hbad with rfl | ⟨rfl, hnot⟩
      · rfl
      · obtain ⟨c, name, _, _, ⟨_, hplain⟩ | ⟨_, _, _, _, _, _, hany⟩⟩ := replacePoint_shape hshape
        · exact absurd hplain hnot
        · exact hany
    rw [hany]
    exact readsLine_illegal hcontent hline (tokenize_signed hshape hbad) _

theorem readsLine_if {text : List Char} {condition : List Token}
    (h : Spells text (Token.word "if".toList :: (condition ++ [Token.mark ':'])))
    (hcontent : Layout.Content text) (hbalanced : Balanced condition)
    (hkind : ∀ canAwait, (if isExpression takesAwaitables canAwait condition
      then some (.head canAwait false) else none) = kind canAwait) : ReadsLine text kind := by
  have hcolon : Balanced [.mark ':'] := fun _ => rfl
  have hall := (balanced_word "if".toList).append (hbalanced.append hcolon)
  exact readsLine_spells h hcontent hall fun canAwait =>
    (statement_if condition canAwait).trans (hkind canAwait)

/-- A head whose condition is what a call gives. -/
theorem readsLine_if_await {call : List Char} (h : CallText true call) :
    ReadsLine ("if (await ".toList ++ call ++ ").value:".toList)
      (awaiting (.head true false)) := by
  obtain ⟨name, more, hspells, hcalls⟩ := h.reads rfl
  have hopening : Spells "if (await ".toList
      [.word "if".toList, .mark '(', .word "await".toList] := fun _ => rfl
  have hclosing : Spells ").value:".toList
      ([Token.mark ')', .mark '.', .word "value".toList] ++ [Token.mark ':']) := fun _ => rfl
  have hall := (hopening.append hspells).append hclosing
  have hbalanced : Balanced (Token.mark '(' :: .word "await".toList :: .word name :: more ++
      [Token.mark ')', .mark '.', .word "value".toList]) := by
    have hinner := ((balanced_word "await".toList).append
      ((balanced_word name).append hcalls.balanced)).grouped
    have hmember : Balanced [.mark '.', .word "value".toList] := fun _ => rfl
    have hboth := hinner.append hmember
    simpa [List.append_assoc] using hboth
  have hcontent : Layout.Content ("if (await ".toList ++ call ++ ").value:".toList) :=
    content_cons (by decide) (by decide) _
  have hcondition : Spells ("if (await ".toList ++ call ++ ").value:".toList)
      (Token.word "if".toList :: (Token.mark '(' :: .word "await".toList :: .word name :: more ++
        [Token.mark ')', .mark '.', .word "value".toList] ++ [Token.mark ':'])) := by
    simpa [List.append_assoc] using hall
  apply readsLine_if hcondition hcontent hbalanced
  intro canAwait
  rw [isExpression_awaited hcalls canAwait (by decide)]
  cases canAwait <;> rfl

theorem readsLine_assign {target : List Char} (htarget : isWord target = true)
    {call : List Char} (h : CallText legal call) :
    ReadsLine (target ++ " = ".toList ++ call)
      (ifLegal (legal && isBindable target) fun _ => some .simple) := by
  have hword : Spells (target ++ [' ']) [Token.word target] := spells_word htarget (by decide)
  have hequals : Spells "= ".toList [.mark '='] := fun _ => rfl
  have hopening := hword.append hequals
  have hcontent : ∀ rest, Layout.Content (target ++ rest) := by
    intro rest
    cases target with
    | nil => cases htarget
    | cons c target =>
      have hname := isNameChar_of_isLetter (Bool.and_eq_true_iff.mp htarget).1
      exact content_cons (ne_of_isNameChar ' ' hname (by decide))
        (ne_of_isNameChar '#' hname (by decide)) _
  have htext : target ++ " = ".toList ++ call = target ++ [' '] ++ "= ".toList ++ call := by
    simp only [List.append_assoc]
    rfl
  rw [htext]
  cases legal with
  | false =>
    apply readsLine_breaks (hopening.breaks (h.breaks rfl))
    rw [List.append_assoc, List.append_assoc]
    exact hcontent _
  | true =>
    obtain ⟨name, more, hspells, hcalls⟩ := h.reads rfl
    apply readsLine_spells (hopening.append hspells)
    · rw [List.append_assoc, List.append_assoc]
      exact hcontent _
    · have hmark : Balanced [.mark '='] := fun _ => rfl
      exact ((balanced_word target).append hmark).append
        ((balanced_word name).append hcalls.balanced)
    · intro canAwait
      refine (statement_assign target hcalls canAwait).trans ?_
      rw [Bool.true_and]
      cases isBindable target <;> rfl

end CitPhysicalXR.Blocks
