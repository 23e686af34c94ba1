import CitPhysicalXR.Foundation.Effect

/-! Programs over a database that a crash may cut short. The database keeps the states it
was committed in, so a crash leaves one of them behind. -/
namespace CitPhysicalXR.Foundation

structure Durable (σ : Type) where
  history : List σ
  current : σ

namespace Durable
variable {σ ε α : Type}

/-- The database as a process finds it. -/
def boot (s : σ) : Durable σ := ⟨[], s⟩

/-- What a crash can leave behind, by the number of commits before it. -/
def points (d : Durable σ) : List σ := d.history ++ [d.current]

def read (f : σ → Except ε α) : Effect (Durable σ) ε α := Effect.read fun d => f d.current

/-- One transaction: it commits as a whole, or raises and changes nothing. -/
def write (f : σ → Except ε (σ × α)) : Effect (Durable σ) ε α :=
  Effect.commit fun d => do
    let (s, a) ← f d.current
    return (⟨d.history ++ [d.current], s⟩, a)

/-- The present state has `P`, and so had every state before it. -/
def Always (P : σ → Prop) (d : Durable σ) : Prop := ∀ s ∈ d.points, P s

theorem always_boot {P : σ → Prop} {s : σ} (h : P s) : Always P (boot s) := by
  intro s' hs'
  obtain rfl : s' = s := by simpa [boot, points] using hs'
  exact h

theorem Always.current {P : σ → Prop} {d : Durable σ} (h : Always P d) : P d.current :=
  h d.current (by simp [points])

theorem Always.mono {P Q : σ → Prop} {d : Durable σ} (h : Always P d) (hPQ : ∀ s, P s → Q s) :
    Always Q d := fun s hs => hPQ s (h s hs)

theorem write_ok {f : σ → Except ε (σ × α)} {d d' : Durable σ} {a : α}
    (h : write f d = .ok a d') : ∃ s, f d.current = .ok (s, a) ∧ d' = ⟨d.points, s⟩ := by
  simp only [write, Effect.commit] at h
  cases hf : f d.current with
  | error e =>
    rw [hf] at h
    cases h
  | ok pair =>
    rw [hf] at h
    cases h
    exact ⟨pair.1, rfl, rfl⟩

theorem write_error {f : σ → Except ε (σ × α)} {d d' : Durable σ} {e : ε}
    (h : write f d = .error e d') : f d.current = .error e ∧ d' = d := by
  simp only [write, Effect.commit] at h
  cases hf : f d.current with
  | error e' =>
    rw [hf] at h
    cases h
    exact ⟨rfl, rfl⟩
  | ok pair =>
    rw [hf] at h
    cases h

/-- A transaction, in terms of the state before it and the state it commits. -/
theorem triple_write {P : Durable σ → Prop} {Q : α → Durable σ → Prop} {E : ε → Durable σ → Prop}
    {f : σ → Except ε (σ × α)}
    (hok : ∀ d s a, P d → f d.current = .ok (s, a) → Q a ⟨d.points, s⟩)
    (herror : ∀ d e, P d → f d.current = .error e → E e d) : Effect.Triple P (write f) Q E := by
  intro d hd
  cases hrun : write f d with
  | ok a d' =>
    obtain ⟨s, hf, rfl⟩ := write_ok hrun
    exact hok d s a hd hf
  | error e d' =>
    obtain ⟨hf, rfl⟩ := write_error hrun
    exact herror d' e hd hf

theorem triple_read {P : Durable σ → Prop} {Q : α → Durable σ → Prop} {E : ε → Durable σ → Prop}
    {f : σ → Except ε α} (hok : ∀ d a, P d → f d.current = .ok a → Q a d)
    (herror : ∀ d e, P d → f d.current = .error e → E e d) : Effect.Triple P (read f) Q E :=
  Effect.Triple.read hok herror

/-- Committing one more state that has `P`. -/
theorem Always.commit {P : σ → Prop} {d : Durable σ} (h : Always P d) {s : σ} (hs : P s) :
    Always P ⟨d.points, s⟩ := by
  intro s' hs'
  simp only [points, List.mem_append, List.mem_singleton] at hs'
  rcases hs' with hs' | rfl
  · exact h s' (by simpa [points] using hs')
  · exact hs

section Zoom
variable {τ : Type} {get : τ → σ} {put : τ → σ → τ} {d : Durable τ} {e : Durable σ}

/-- What a call on the part did, seen from the whole. -/
def within (put : τ → σ → τ) (d : Durable τ) (e : Durable σ) : Durable τ :=
  ⟨d.history ++ e.history.map (put d.current), put d.current e.current⟩

/-- A call on a part of the database. -/
def zoom (get : τ → σ) (put : τ → σ → τ) (m : Effect (Durable σ) ε α) :
    Effect (Durable τ) ε α := fun d =>
  match m (.boot (get d.current)) with
  | .ok a e => .ok a (within put d e)
  | .error raised e => .error raised (within put d e)

/-- The rest of the database is as before in every state that the call commits. -/
theorem Always.within {P : τ → Prop} (h : Always P d) (hput : ∀ s, P (put d.current s)) :
    Always P (within put d e) := by
  intro s hs
  simp only [points, Durable.within, List.mem_append, List.mem_map, List.mem_singleton] at hs
  rcases hs with (hs | ⟨part, _, rfl⟩) | rfl
  · exact h s (by simp [points, hs])
  · exact hput part
  · exact hput e.current

theorem triple_zoom {P : Durable τ → Prop} {Q : α → Durable τ → Prop} {E : ε → Durable τ → Prop}
    {m : Effect (Durable σ) ε α}
    (h : ∀ d, P d → Effect.Triple (· = .boot (get d.current)) m
      (fun a e => Q a (within put d e)) fun raised e => E raised (within put d e)) :
    Effect.Triple P (zoom get put m) Q E := by
  intro d hd
  have h := h d hd _ rfl
  unfold zoom
  cases hrun : m (.boot (get d.current)) with
  | ok a e =>
    rw [hrun] at h
    exact h
  | error raised e =>
    rw [hrun] at h
    exact h

end Zoom

end Durable
end CitPhysicalXR.Foundation
