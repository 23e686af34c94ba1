import CitPhysicalXR.Foundation.Transition

/-! Runs of a transition system that a partial step function computes. -/
namespace CitPhysicalXR.Foundation.Machine
variable {σ ε ω : Type*} {M : Machine σ ε ω}

theorem Steps.mono {ok ok' : σ → ε → Prop} (hweaker : ∀ {s e}, ok s e → ok' s e) {s₀ s : σ}
    {trace : List (ε × List ω)} (h : (M.restrict ok).Steps s₀ trace s) :
    (M.restrict ok').Steps s₀ trace s := by
  induction h with
  | nil => exact .nil
  | snoc _ hs ih => exact ih.snoc ⟨hweaker hs.1, hs.2⟩

theorem Run.mono {ok ok' : σ → ε → Prop} (hweaker : ∀ {s e}, ok s e → ok' s e) {s : σ}
    {trace : List (ε × List ω)} (h : (M.restrict ok).Run trace s) :
    (M.restrict ok').Run trace s := by
  obtain ⟨s₀, h₀, hsteps⟩ := h
  exact ⟨s₀, h₀, hsteps.mono hweaker⟩

/-- The state and the trace after inputs that each meet a condition. -/
def execute (step : σ → ε → Option (σ × List ω)) (ok : σ → ε → Prop)
    [∀ s, DecidablePred (ok s)] (s₀ : σ) (inputs : List ε) :
    Option (σ × List (ε × List ω)) :=
  inputs.foldlM (fun current e =>
    if ok current.1 e then
      (step current.1 e).map fun next => (next.1, current.2 ++ [(e, next.2)])
    else none) (s₀, [])

/-- A step function with what it has put out so far. -/
def recorded (step : σ → ε → Option (σ × List ω)) (s : σ × List ω) (e : ε) :
    Option ((σ × List ω) × List ω) :=
  (step s.1 e).map fun next => ((next.1, s.2 ++ next.2), next.2)

theorem recording_step {step : σ → ε → Option (σ × List ω)}
    (hstep : ∀ {s e next}, step s e = some next → M.Step s e next.1 next.2) {s : σ × List ω}
    {e : ε} {next : (σ × List ω) × List ω} (h : recorded step s e = some next) :
    M.recording.Step s e next.1 next.2 := by
  obtain ⟨last, hlast, rfl⟩ := Option.map_eq_some_iff.mp h
  exact ⟨hstep hlast, rfl⟩

theorem execute_concat {step : σ → ε → Option (σ × List ω)} {ok : σ → ε → Prop}
    [∀ s, DecidablePred (ok s)] {s₀ : σ} {inputs : List ε} {e : ε}
    {last : σ × List (ε × List ω)} (h : execute step ok s₀ (inputs ++ [e]) = some last) :
    ∃ current next, execute step ok s₀ inputs = some current ∧ ok current.1 e ∧
      step current.1 e = some next ∧ last = (next.1, current.2 ++ [(e, next.2)]) := by
  simp only [execute, List.foldlM_append] at h
  obtain ⟨current, hcurrent, h⟩ := Option.bind_eq_some_iff.mp h
  simp only [List.foldlM_cons, List.foldlM_nil, bind_pure] at h
  split at h
  · obtain ⟨next, hnext, rfl⟩ := Option.map_eq_some_iff.mp h
    exact ⟨current, next, hcurrent, ‹_›, hnext, rfl⟩
  · cases h

theorem steps_of_execute {step : σ → ε → Option (σ × List ω)} {ok : σ → ε → Prop}
    [∀ s, DecidablePred (ok s)] {s₀ : σ}
    (hstep : ∀ {s e next}, step s e = some next → M.Step s e next.1 next.2) {inputs : List ε}
    {last : σ × List (ε × List ω)} (h : execute step ok s₀ inputs = some last) :
    (M.restrict ok).Steps s₀ last.2 last.1 := by
  induction inputs using List.reverseRecOn generalizing last with
  | nil =>
    obtain rfl : (s₀, []) = last := by simpa [execute] using h
    exact .nil
  | append_singleton inputs e ih =>
    obtain ⟨current, next, hcurrent, hok, hnext, rfl⟩ := execute_concat h
    exact (ih hcurrent).snoc ⟨hok, hstep hnext⟩

theorem run_of_execute {step : σ → ε → Option (σ × List ω)} {ok : σ → ε → Prop}
    [∀ s, DecidablePred (ok s)] {s₀ : σ} (hinit : M.Initial s₀)
    (hstep : ∀ {s e next}, step s e = some next → M.Step s e next.1 next.2) {inputs : List ε}
    {last : σ × List (ε × List ω)} (h : execute step ok s₀ inputs = some last) :
    (M.restrict ok).Run last.2 last.1 := ⟨s₀, hinit, steps_of_execute hstep h⟩

end CitPhysicalXR.Foundation.Machine
