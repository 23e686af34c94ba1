import Mathlib.Data.List.Induction
import Mathlib.Tactic.Common

/-! Labelled transition systems with outputs: their runs, the invariant rule for
reachable states and for traces, and the restriction of a system to guarded steps. -/
namespace CitPhysicalXR.Foundation

/-- A system whose steps consume an input label and emit outputs. -/
structure Machine (σ ε ω : Type*) where
  Initial : σ → Prop
  Step : σ → ε → σ → List ω → Prop

namespace Machine
variable {σ ε ω : Type*} {M : Machine σ ε ω}

/-- Finite executions from `s₀`; the latest step stands last in the trace. -/
inductive Steps (M : Machine σ ε ω) (s₀ : σ) : List (ε × List ω) → σ → Prop
  | nil : Steps M s₀ [] s₀
  | snoc {trace s e s' out} : Steps M s₀ trace s → M.Step s e s' out →
      Steps M s₀ (trace ++ [(e, out)]) s'

def Run (M : Machine σ ε ω) (trace : List (ε × List ω)) (s : σ) : Prop :=
  ∃ s₀, M.Initial s₀ ∧ M.Steps s₀ trace s

def Reachable (M : Machine σ ε ω) (s : σ) : Prop := ∃ trace, M.Run trace s

/-- The outputs of a whole trace, in order. -/
def outputs (trace : List (ε × List ω)) : List ω := trace.flatMap Prod.snd

@[simp] theorem outputs_nil : outputs ([] : List (ε × List ω)) = [] := rfl

@[simp] theorem outputs_append (pre post : List (ε × List ω)) :
    outputs (pre ++ post) = outputs pre ++ outputs post := by
  simp [outputs]

@[simp] theorem outputs_singleton (e : ε) (out : List ω) : outputs [(e, out)] = out := by
  simp [outputs]

/-- A state property kept by every step is kept by every execution. -/
theorem Steps.preserves {P : σ → Prop} (hstep : ∀ {s e s' out}, P s → M.Step s e s' out → P s')
    {s₀ trace s} (h : M.Steps s₀ trace s) (h₀ : P s₀) : P s := by
  induction h with
  | nil => exact h₀
  | snoc _ hs ih => exact hstep ih hs

theorem Steps.trans {s₀ s₁ s₂ : σ} {pre post : List (ε × List ω)} (h : M.Steps s₀ pre s₁)
    (h' : M.Steps s₁ post s₂) : M.Steps s₀ (pre ++ post) s₂ := by
  induction h' with
  | nil => simpa using h
  | snoc _ hs ih => simpa [List.append_assoc] using ih.snoc hs

/-- An execution passes through a state at every cut of its trace. -/
theorem Steps.split {s₀ s : σ} {pre post : List (ε × List ω)}
    (h : M.Steps s₀ (pre ++ post) s) : ∃ mid, M.Steps s₀ pre mid ∧ M.Steps mid post s := by
  induction post using List.reverseRecOn generalizing s with
  | nil => exact ⟨s, by simpa using h, .nil⟩
  | append_singleton post last ih =>
    rw [← List.append_assoc] at h
    generalize htr : pre ++ post ++ [last] = trace at h
    cases h with
    | nil => simp at htr
    | @snoc trace' s' e _ out hsteps hstep =>
      obtain ⟨htr', hlast⟩ := List.append_inj' htr rfl
      obtain ⟨mid, hpre, hpost⟩ := ih (htr' ▸ hsteps)
      obtain rfl : last = (e, out) := by simpa using hlast
      exact ⟨mid, hpre, hpost.snoc hstep⟩

theorem Steps.single_iff {s₀ s : σ} {e : ε} {out : List ω} :
    M.Steps s₀ [(e, out)] s ↔ M.Step s₀ e s out := by
  constructor
  · intro h
    generalize htr : [(e, out)] = trace at h
    cases h with
    | nil => simp at htr
    | @snoc trace' s' e' _ out' hsteps hstep =>
      have htr : [] ++ [(e, out)] = trace' ++ [(e', out')] := htr
      obtain ⟨htr', hlast⟩ := List.append_inj' htr rfl
      simp only [List.cons.injEq, Prod.mk.injEq, and_true] at hlast
      obtain ⟨rfl, rfl⟩ := hlast
      subst htr'
      generalize hnil : [] = trace' at hsteps
      cases hsteps with
      | nil => exact hstep
      | snoc => simp at hnil
  · intro h
    simpa using (Steps.nil (M := M)).snoc h

theorem Run.induct {P : List (ε × List ω) → σ → Prop} (hinit : ∀ s, M.Initial s → P [] s)
    (hstep : ∀ {trace s e s' out}, M.Run trace s → P trace s → M.Step s e s' out →
      P (trace ++ [(e, out)]) s') {trace s} (h : M.Run trace s) : P trace s := by
  obtain ⟨s₀, h₀, hsteps⟩ := h
  induction hsteps with
  | nil => exact hinit _ h₀
  | snoc hsteps hs ih => exact hstep ⟨s₀, h₀, hsteps⟩ ih hs

theorem Run.reachable {trace : List (ε × List ω)} {s : σ} (h : M.Run trace s) :
    M.Reachable s := ⟨trace, h⟩

theorem Reachable.steps {s s' : σ} {trace : List (ε × List ω)} (h : M.Reachable s)
    (hs : M.Steps s trace s') : M.Reachable s' := by
  obtain ⟨pre, s₀, h₀, hpre⟩ := h
  exact ⟨pre ++ trace, s₀, h₀, hpre.trans hs⟩

theorem Reachable.invariant {P : σ → Prop} (hinit : ∀ s, M.Initial s → P s)
    (hstep : ∀ {s e s' out}, P s → M.Step s e s' out → P s') {s : σ}
    (h : M.Reachable s) : P s := by
  obtain ⟨_, s₀, h₀, hsteps⟩ := h
  exact hsteps.preserves hstep (hinit s₀ h₀)

/-- A system whose steps are seen as steps of another one runs as that one does; marked steps
are seen as marked steps. -/
theorem Steps.project {τ δ π : Type*} {N : Machine τ δ π} (view : σ → τ) {p : ε → Bool}
    {q : δ → Bool}
    (hstep : ∀ {s e s' out}, M.Step s e s' out → ∃ e' out', N.Step (view s) e' (view s') out' ∧
      (p e = true → q e' = true))
    {s₀ s : σ} {trace : List (ε × List ω)} (h : M.Steps s₀ trace s) :
    ∃ trace', N.Steps (view s₀) trace' (view s) ∧
      (trace.countP fun entry => p entry.1) ≤ trace'.countP fun entry => q entry.1 := by
  induction h with
  | nil => exact ⟨[], .nil, Nat.le_refl _⟩
  | @snoc trace s e s' out _ hs ih =>
    obtain ⟨trace', hsteps, hcount⟩ := ih
    obtain ⟨e', out', hs', hmark⟩ := hstep hs
    refine ⟨trace' ++ [(e', out')], hsteps.snoc hs', ?_⟩
    rw [List.countP_append, List.countP_append]
    refine Nat.add_le_add hcount ?_
    simp only [List.countP_singleton]
    split
    · rename_i hp
      exact Nat.le_of_eq (if_pos (hmark hp)).symm
    · exact Nat.zero_le _

/-- The same system, allowed only the steps that meet a condition on the state before
the step and its input. -/
def restrict (M : Machine σ ε ω) (ok : σ → ε → Prop) : Machine σ ε ω where
  Initial := M.Initial
  Step s e s' out := ok s e ∧ M.Step s e s' out

theorem Steps.of_restrict {ok : σ → ε → Prop} {s₀ s : σ} {trace : List (ε × List ω)}
    (h : (M.restrict ok).Steps s₀ trace s) : M.Steps s₀ trace s := by
  induction h with
  | nil => exact .nil
  | snoc _ hs ih => exact ih.snoc hs.2

theorem Run.of_restrict {ok : σ → ε → Prop} {s : σ} {trace : List (ε × List ω)}
    (h : (M.restrict ok).Run trace s) : M.Run trace s := by
  obtain ⟨s₀, h₀, hsteps⟩ := h
  exact ⟨s₀, h₀, hsteps.of_restrict⟩

theorem Reachable.of_restrict {ok : σ → ε → Prop} {s : σ}
    (h : (M.restrict ok).Reachable s) : M.Reachable s := by
  obtain ⟨trace, hrun⟩ := h
  exact ⟨trace, hrun.of_restrict⟩

/-- The same system with what it has put out so far in its state, for conditions on the
history of a run. -/
def recording (M : Machine σ ε ω) : Machine (σ × List ω) ε ω where
  Initial s := M.Initial s.1 ∧ s.2 = []
  Step s e s' out := M.Step s.1 e s'.1 out ∧ s'.2 = s.2 ++ out

theorem Run.recorded {s : σ × List ω} {trace : List (ε × List ω)} (h : M.recording.Run trace s) :
    s.2 = outputs trace := by
  refine h.induct (P := fun trace s => s.2 = outputs trace) ?_ ?_
  · intro s hinit
    exact hinit.2
  · intro trace s e s' out _ ih hstep
    rw [hstep.2, ih, outputs_append, outputs_singleton]

theorem Run.of_recording {s : σ × List ω} {trace : List (ε × List ω)}
    (h : M.recording.Run trace s) : M.Run trace s.1 := by
  obtain ⟨s₀, h₀, hsteps⟩ := h
  refine ⟨s₀.1, h₀.1, ?_⟩
  induction hsteps with
  | nil => exact .nil
  | snoc _ hs ih => exact ih.snoc hs.1

end Machine
end CitPhysicalXR.Foundation
