import CitPhysicalXR.Foundation.PythonTextRules

/-! Rules for the layout of Python programs: logical lines in a block, suites that get a line, and
suites that stay empty, which no later line of the blocks around them can mend. -/
namespace CitPhysicalXR.Foundation.PythonText

/-- A logical line: its indentation, and what it is where `await` may stand or not. -/
structure Entry where
  indentation : ℕ
  kind : Bool → Option LineKind

namespace Layout

/-- The layout after logical lines. -/
def readAll (layout : Layout) (entries : List Entry) : Option Layout :=
  entries.foldlM (fun layout entry => layout.enter entry.indentation entry.kind) layout

@[simp] theorem readAll_nil (layout : Layout) : layout.readAll [] = some layout := rfl

theorem readAll_cons (layout : Layout) (entry : Entry) (entries : List Entry) :
    layout.readAll (entry :: entries) =
      (layout.enter entry.indentation entry.kind).bind fun next => next.readAll entries := rfl

theorem readAll_append (layout : Layout) (first second : List Entry) :
    layout.readAll (first ++ second) =
      (layout.readAll first).bind fun next => next.readAll second :=
  List.foldlM_append ..

theorem readAll_open {layout next : Layout} {entries : List Entry} (hopen : layout.open_ = none)
    (h : layout.readAll entries = some next) : next.open_ = none := by
  induction entries generalizing layout with
  | nil => exact Option.some.inj h ▸ hopen
  | cons entry entries ih =>
    rw [readAll_cons] at h
    obtain ⟨middle, henter, hrest⟩ := Option.bind_eq_some_iff.mp h
    exact ih (enter_open henter) hrest

structure Placed (indentation : ℕ) (canAwait : Bool) (base : List (ℕ × Bool)) (layout : Layout) :
    Prop where
  blocks : ∃ deeper, layout.blocks = deeper ++ (indentation, canAwait) :: base ∧
    ∀ block ∈ deeper, indentation < block.1
  suite : layout.suite = none
  decorated : layout.decorated = false
  closed : layout.open_ = none

/-- The layout after the head of a suite. -/
def headed (base : List (ℕ × Bool)) (canAwait : Bool) : Layout := ⟨base, some canAwait, false, none⟩

/-- A line of the block may follow, its first one or a further one. -/
def Ready (indentation : ℕ) (canAwait : Bool) (base : List (ℕ × Bool)) (layout : Layout) : Prop :=
  Placed indentation canAwait base layout ∨
    layout = headed base canAwait ∧ (base.head?.map Prod.fst).getD 0 < indentation

variable {indentation : ℕ} {canAwait : Bool} {base : List (ℕ × Bool)} {layout : Layout}

theorem Placed.ready (h : Placed indentation canAwait base layout) :
    Ready indentation canAwait base layout := .inl h

theorem ready_headed {outer : ℕ} (h : outer < indentation) (outerAwaits canAwait : Bool)
    (base : List (ℕ × Bool)) :
    Ready indentation canAwait ((outer, outerAwaits) :: base)
      (headed ((outer, outerAwaits) :: base) canAwait) := .inr ⟨rfl, h⟩

/-- The blocks inside a block belong to it. -/
theorem Placed.outer {outer : ℕ} {outerAwaits : Bool} (hdeeper : outer < indentation)
    (h : Placed indentation canAwait ((outer, outerAwaits) :: base) layout) :
    Placed outer outerAwaits base layout := by
  obtain ⟨deeper, hblocks, hall⟩ := h.blocks
  refine ⟨⟨deeper ++ [(indentation, canAwait)], ?_, ?_⟩, h.suite, h.decorated, h.closed⟩
  · rw [hblocks, List.append_assoc]
    rfl
  · intro block hblock
    rcases List.mem_append.mp hblock with hinner | hlast
    · exact hdeeper.trans (hall block hinner)
    · rw [List.mem_singleton.mp hlast]
      exact hdeeper

theorem Ready.place (h : Ready indentation canAwait base layout) :
    layout.place indentation = some ((indentation, canAwait) :: base) := by
  rcases h with h | ⟨rfl, hdeeper⟩
  · obtain ⟨deeper, hblocks, hall⟩ := h.blocks
    have hdrop : layout.blocks.dropWhile (fun block => decide (indentation < block.1)) =
        (indentation, canAwait) :: base := by
      rw [hblocks, List.dropWhile_append_of_pos fun block hblock => by simpa using hall block hblock]
      exact List.dropWhile_cons_of_neg (by simp)
    unfold Layout.place
    rw [h.suite]
    dsimp only
    rw [hdrop, h.decorated]
    simp
  · unfold Layout.place headed
    dsimp only
    rw [if_pos hdeeper]

theorem Ready.decorated (h : Ready indentation canAwait base layout) : layout.decorated = false := by
  rcases h with h | ⟨rfl, _⟩
  · exact h.decorated
  · rfl

theorem Ready.closed (h : Ready indentation canAwait base layout) : layout.open_ = none := by
  rcases h with h | ⟨rfl, _⟩
  · exact h.closed
  · rfl

variable {kind : Bool → Option LineKind}

theorem Ready.enter_simple (h : Ready indentation canAwait base layout)
    (hkind : kind canAwait = some .simple) :
    ∃ next, layout.enter indentation kind = some next ∧
      Placed indentation canAwait base next := by
  refine ⟨⟨(indentation, canAwait) :: base, none, false, none⟩, ?_, ⟨[], rfl, by simp⟩, rfl, rfl, rfl⟩
  unfold enter
  rw [h.place, Option.bind_some]
  dsimp only [List.head?_cons, Option.map_some, Option.getD_some]
  rw [hkind, Option.bind_some, h.decorated]
  rfl

theorem Ready.enter_head (h : Ready indentation canAwait base layout) {inner isDefinition : Bool}
    (hkind : kind canAwait = some (.head inner isDefinition)) :
    layout.enter indentation kind = some (headed ((indentation, canAwait) :: base) inner) := by
  unfold enter
  rw [h.place, Option.bind_some]
  dsimp only [List.head?_cons, Option.map_some, Option.getD_some]
  rw [hkind, Option.bind_some, h.decorated]
  rfl

theorem Ready.enter_none (h : Ready indentation canAwait base layout)
    (hkind : kind canAwait = none) : layout.enter indentation kind = none := by
  unfold enter
  rw [h.place, Option.bind_some]
  dsimp only [List.head?_cons, Option.map_some, Option.getD_some]
  rw [hkind, Option.bind_none]

theorem Ready.enter_decorated (h : Ready indentation canAwait base layout)
    {decorator : Bool → Option LineKind} (hdecorator : decorator canAwait = some .decorator) :
    (layout.enter indentation decorator).bind (fun next => next.enter indentation kind) =
      ((kind canAwait).bind fun
        | .simple => none
        | .decorator => some ⟨(indentation, canAwait) :: base, none, true, none⟩
        | .head inner isDefinition =>
          if isDefinition then some (headed ((indentation, canAwait) :: base) inner) else none) := by
  have hfirst : layout.enter indentation decorator =
      some ⟨(indentation, canAwait) :: base, none, true, none⟩ := by
    unfold enter
    rw [h.place, Option.bind_some]
    dsimp only [List.head?_cons, Option.map_some, Option.getD_some]
    rw [hdecorator, Option.bind_some]
  have hplace : (Layout.mk ((indentation, canAwait) :: base) none true none).place indentation =
      some ((indentation, canAwait) :: base) := by
    unfold Layout.place
    dsimp only
    rw [List.dropWhile_cons_of_neg (by simp)]
    simp
  rw [hfirst, Option.bind_some]
  unfold enter
  rw [hplace, Option.bind_some]
  dsimp only [List.head?_cons, Option.map_some, Option.getD_some]
  cases kind canAwait with
  | none => rfl
  | some found =>
    cases found with
    | simple => rfl
    | decorator => rfl
    | head inner isDefinition => cases isDefinition <;> rfl

structure Doomed (indentation : ℕ) (layout : Layout) : Prop where
  suite : layout.suite.isSome = true
  deep : indentation ≤ (layout.blocks.head?.map Prod.fst).getD 0

/-- The lines are refused, or they have left a suite that stays empty. -/
def Refused (indentation : ℕ) (result : Option Layout) : Prop :=
  ∀ layout, result = some layout → Doomed indentation layout

theorem refused_none : Refused indentation none := fun _ h => nomatch h

theorem doomed_headed (inner : Bool) :
    Doomed indentation (headed ((indentation, canAwait) :: base) inner) := ⟨rfl, le_refl _⟩

theorem Refused.outer {outer : ℕ} {result : Option Layout} (houter : outer ≤ indentation)
    (h : Refused indentation result) : Refused outer result := by
  intro layout hlayout
  exact ⟨(h layout hlayout).suite, houter.trans (h layout hlayout).deep⟩

theorem Doomed.enter (h : Doomed indentation layout) : layout.enter indentation kind = none := by
  have hplace : layout.place indentation = none := by
    obtain ⟨inner, hinner⟩ := Option.isSome_iff_exists.mp h.suite
    unfold place
    rw [hinner]
    dsimp only
    rw [if_neg (Nat.not_lt.mpr h.deep)]
  unfold Layout.enter
  rw [hplace, Option.bind_none]

/-- Lines that start at the indentation do not mend it. -/
theorem Refused.readAll {result : Option Layout} (h : Refused indentation result)
    {entries : List Entry}
    (hentries : ∀ entry ∈ entries.head?, entry.indentation = indentation) :
    Refused indentation (result.bind fun layout => layout.readAll entries) := by
  cases result with
  | none => exact refused_none
  | some layout =>
    rw [Option.bind_some]
    cases entries with
    | nil => exact h
    | cons entry entries =>
      have hdoomed := h layout rfl
      rw [readAll_cons, hentries entry rfl, hdoomed.enter, Option.bind_none]
      exact refused_none

theorem Refused.not_complete {result : Option Layout} (h : Refused indentation result) :
    result.any isComplete = false := by
  cases result with
  | none => rfl
  | some layout =>
    have hsuite := (h layout rfl).suite
    unfold isComplete
    simp [Option.isNone_iff_eq_none, Option.isSome_iff_ne_none.mp hsuite]

theorem Placed.isComplete (h : Placed indentation canAwait base layout) :
    layout.isComplete = true := by
  unfold Layout.isComplete
  rw [h.suite, h.decorated, h.closed]
  rfl

end Layout

open Layout

/-- What lines do where a line of a block may stand: sound ones go on with the block, or add
nothing to it where they have no code, and unsound ones are refused. -/
structure Fills (indentation : ℕ) (canAwait code sound : Bool) (entries : List Entry) : Prop where
  head : ∀ entry ∈ entries.head?, entry.indentation = indentation
  added : ∀ base layout, Ready indentation canAwait base layout → sound = true → code = true →
    ∃ next, layout.readAll entries = some next ∧ Placed indentation canAwait base next
  empty : ∀ base layout, Ready indentation canAwait base layout → sound = true → code = false →
    layout.readAll entries = some layout
  refused : ∀ base layout, Ready indentation canAwait base layout → sound = false →
    Refused indentation (layout.readAll entries)

namespace Fills
variable {indentation : ℕ} {canAwait : Bool}

theorem nil : Fills indentation canAwait false true [] := by
  constructor
  · simp
  · intro _ _ _ _ hcode
    cases hcode
  · intro _ layout _ _ _
    exact readAll_nil layout
  · intro _ _ _ hsound
    cases hsound

variable {kind : Bool → Option LineKind} {deeper : ℕ} {innerAwaits code sound : Bool}

theorem line {legal : Bool}
    (hkind : kind canAwait = if legal then some .simple else none) :
    Fills indentation canAwait true legal [⟨indentation, kind⟩] := by
  constructor
  · simp
  · intro base layout hready hlegal _
    subst hlegal
    obtain ⟨next, hnext, hplaced⟩ := hready.enter_simple hkind
    refine ⟨next, ?_, hplaced⟩
    rw [readAll_cons, hnext]
    rfl
  · intro _ _ _ _ hcode
    cases hcode
  · intro base layout hready hlegal
    subst hlegal
    rw [readAll_cons, hready.enter_none hkind]
    exact refused_none

/-- A line that cannot be read, though it is no code. -/
theorem illegal (hkind : kind canAwait = none) :
    Fills indentation canAwait false false [⟨indentation, kind⟩] := by
  constructor
  · simp
  · intro _ _ _ hsound
    cases hsound
  · intro _ _ _ hsound
    cases hsound
  · intro base layout hready _
    rw [readAll_cons, hready.enter_none hkind]
    exact refused_none

theorem append {firstCode firstSound secondCode secondSound : Bool} {first second : List Entry}
    (hfirst : Fills indentation canAwait firstCode firstSound first)
    (hsecond : Fills indentation canAwait secondCode secondSound second) :
    Fills indentation canAwait (firstCode || secondCode) (firstSound && secondSound)
      (first ++ second) := by
  -- after sound lines the block may go on
  have hgoes (base : List (ℕ × Bool)) (layout : Layout)
      (hready : Ready indentation canAwait base layout) (hsound : firstSound = true) :
      ∃ next, layout.readAll first = some next ∧ Ready indentation canAwait base next ∧
        (firstCode = true → Placed indentation canAwait base next) ∧
        (firstCode = false → next = layout) := by
    cases hcode : firstCode with
    | true =>
      obtain ⟨next, hnext, hplaced⟩ := hfirst.added base layout hready hsound hcode
      exact ⟨next, hnext, hplaced.ready, fun _ => hplaced, fun hfalse => nomatch hfalse⟩
    | false =>
      exact ⟨layout, hfirst.empty base layout hready hsound hcode, hready, by simp, fun _ => rfl⟩
  constructor
  · cases first with
    | nil => exact hsecond.head
    | cons entry first => exact hfirst.head
  · intro base layout hready hsound hcode
    rw [Bool.and_eq_true] at hsound
    obtain ⟨next, hnext, hready', hplaced, hsame⟩ := hgoes base layout hready hsound.1
    rw [readAll_append, hnext, Option.bind_some]
    cases hlast : secondCode with
    | true => exact hsecond.added base next hready' hsound.2 hlast
    | false =>
      rw [hlast, Bool.or_false] at hcode
      exact ⟨next, hsecond.empty base next hready' hsound.2 hlast, hplaced hcode⟩
  · intro base layout hready hsound hcode
    rw [Bool.and_eq_true] at hsound
    rw [Bool.or_eq_false_iff] at hcode
    rw [readAll_append, hfirst.empty base layout hready hsound.1 hcode.1, Option.bind_some]
    exact hsecond.empty base layout hready hsound.2 hcode.2
  · intro base layout hready hsound
    rw [readAll_append]
    cases hone : firstSound with
    | false => exact (hfirst.refused base layout hready hone).readAll hsecond.head
    | true =>
      rw [hone, Bool.true_and] at hsound
      obtain ⟨next, hnext, hready', _⟩ := hgoes base layout hready hone
      rw [hnext, Option.bind_some]
      exact hsecond.refused base next hready' hsound

theorem suite_spec {inner : ℕ} {body : List Entry}
    (hbody : Fills deeper innerAwaits code sound body) (hdeeper : inner < deeper) {outerAwaits : Bool}
    (base : List (ℕ × Bool)) :
    ((code && sound) = true → ∃ next,
      (headed ((inner, outerAwaits) :: base) innerAwaits).readAll body = some next ∧
        Placed inner outerAwaits base next) ∧
    ((code && sound) = false →
      Refused inner ((headed ((inner, outerAwaits) :: base) innerAwaits).readAll body)) := by
  have hready := ready_headed hdeeper outerAwaits innerAwaits base
  constructor
  · intro hboth
    rw [Bool.and_eq_true] at hboth
    obtain ⟨next, hnext, hplaced⟩ := hbody.added _ _ hready hboth.2 hboth.1
    exact ⟨next, hnext, hplaced.outer hdeeper⟩
  · intro hboth
    cases hsound : sound with
    | false => exact (hbody.refused _ _ hready hsound).outer hdeeper.le
    | true =>
      rw [hsound, Bool.and_true] at hboth
      rw [hbody.empty _ _ hready hsound hboth]
      intro layout hlayout
      rw [← Option.some.inj hlayout]
      exact doomed_headed innerAwaits

theorem suite {isDefinition : Bool} {body : List Entry}
    (hkind : kind canAwait = some (.head innerAwaits isDefinition))
    (hbody : Fills deeper innerAwaits code sound body) (hdeeper : indentation < deeper) :
    Fills indentation canAwait true (code && sound) (⟨indentation, kind⟩ :: body) := by
  have hread (base : List (ℕ × Bool)) (layout : Layout)
      (hready : Ready indentation canAwait base layout) :
      layout.readAll (⟨indentation, kind⟩ :: body) =
        (headed ((indentation, canAwait) :: base) innerAwaits).readAll body := by
    rw [readAll_cons, hready.enter_head hkind, Option.bind_some]
  constructor
  · simp
  · intro base layout hready hsound _
    rw [hread base layout hready]
    exact (hbody.suite_spec hdeeper base).1 hsound
  · intro _ _ _ _ hcode
    cases hcode
  · intro base layout hready hsound
    rw [hread base layout hready]
    exact (hbody.suite_spec hdeeper base).2 hsound

theorem decorated {decorates defines : Bool}
    {body : List Entry} {decorator : Bool → Option LineKind}
    (hdecorator : decorator canAwait = if decorates then some .decorator else none)
    (hkind : kind canAwait = if defines then some (.head innerAwaits true) else none)
    (hbody : Fills deeper innerAwaits code sound body) (hdeeper : indentation < deeper) :
    Fills indentation canAwait true (decorates && (defines && (code && sound)))
      (⟨indentation, decorator⟩ :: ⟨indentation, kind⟩ :: body) := by
  have hread (base : List (ℕ × Bool)) (layout : Layout)
      (hready : Ready indentation canAwait base layout) :
      layout.readAll (⟨indentation, decorator⟩ :: ⟨indentation, kind⟩ :: body) =
        if decorates && defines then
          (headed ((indentation, canAwait) :: base) innerAwaits).readAll body
        else none := by
    rw [readAll_cons]
    cases decorates with
    | false =>
      rw [hready.enter_none hdecorator]
      rfl
    | true =>
      have htwo : (layout.enter indentation decorator).bind
          (fun next => next.enter indentation kind) = _ := hready.enter_decorated hdecorator
      rw [hkind] at htwo
      have hrest (next : Layout) : next.readAll (⟨indentation, kind⟩ :: body) =
          (next.enter indentation kind).bind fun last => last.readAll body := rfl
      simp only [hrest]
      rw [← Option.bind_assoc, htwo]
      cases defines <;> rfl
  constructor
  · simp
  · intro base layout hready hsound _
    simp only [Bool.and_eq_true] at hsound
    rw [hread base layout hready, hsound.1, hsound.2.1]
    apply (hbody.suite_spec hdeeper base).1
    rw [hsound.2.2.1, hsound.2.2.2]
    rfl
  · intro _ _ _ _ hcode
    cases hcode
  · intro base layout hready hsound
    rw [hread base layout hready]
    cases hlegal : decorates && defines with
    | false => exact refused_none
    | true =>
      rw [← Bool.and_assoc, hlegal, Bool.true_and] at hsound
      exact (hbody.suite_spec hdeeper base).2 hsound

theorem complete {entries : List Entry}
    (h : Fills 0 false code sound entries) :
    (Layout.start.readAll entries).any Layout.isComplete = sound := by
  have hstart : Placed 0 false [] Layout.start := ⟨⟨[], rfl, by simp⟩, rfl, rfl, rfl⟩
  cases sound with
  | false => exact (h.refused [] Layout.start hstart.ready rfl).not_complete
  | true =>
    cases code with
    | true =>
      obtain ⟨next, hnext, hplaced⟩ := h.added [] Layout.start hstart.ready rfl rfl
      rw [hnext]
      exact hplaced.isComplete
    | false =>
      rw [h.empty [] Layout.start hstart.ready rfl rfl]
      exact hstart.isComplete

end Fills
end CitPhysicalXR.Foundation.PythonText
