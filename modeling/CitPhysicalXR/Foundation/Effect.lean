import Mathlib.Tactic.Common

/-! Calls that read and write a store and may raise. An exception keeps the writes made
before it; triples state what a call leaves behind on a return and on an exception. -/
namespace CitPhysicalXR.Foundation

def raiseIf {ε : Type*} (c : Prop) [Decidable c] (e : ε) : Except ε Unit :=
  if c then .error e else .ok ()

@[simp] theorem raiseIf_eq_ok {ε : Type*} {c : Prop} [Decidable c] {e : ε} {u : Unit} :
    raiseIf c e = .ok u ↔ ¬ c := by
  unfold raiseIf
  split <;> simp_all

/-- A computation in `Except` that returned has returned at its first step. -/
theorem bind_eq_ok {ε : Type*} {α β : Type} {x : Except ε α} {f : α → Except ε β} {b : β} :
    (x >>= f) = .ok b ↔ ∃ a, x = .ok a ∧ f a = .ok b := by
  cases x with
  | ok a => exact ⟨fun h => ⟨a, rfl, h⟩, fun ⟨_, ha, hf⟩ => by cases ha; exact hf⟩
  | error e => exact ⟨fun h => (by cases h), fun ⟨_, ha, _⟩ => by cases ha⟩

theorem seq_eq_ok {ε : Type*} {β : Type} {x : Except ε Unit} {f : Unit → Except ε β} {b : β} :
    (x >>= f) = .ok b ↔ x = .ok () ∧ f () = .ok b := by
  rw [bind_eq_ok]
  exact ⟨fun ⟨_, hx, hf⟩ => ⟨hx, hf⟩, fun ⟨hx, hf⟩ => ⟨(), hx, hf⟩⟩

theorem map_eq_ok {ε α β : Type*} {x : Except ε α} {f : α → β} {b : β} :
    x.map f = .ok b ↔ ∃ a, x = .ok a ∧ f a = b := by
  cases x with
  | ok a => simp [Except.map]
  | error e => simp [Except.map]

/-- A loop of checks passes only when every check does. -/
theorem forM_eq_ok {ε α : Type*} {f : α → Except ε Unit} {xs : List α}
    (h : xs.forM f = .ok ()) : ∀ x ∈ xs, f x = .ok () := by
  induction xs with
  | nil => simp
  | cons x xs ih =>
    obtain ⟨_, hx, hxs⟩ := bind_eq_ok.mp h
    intro y hy
    rcases List.mem_cons.mp hy with rfl | hy
    · exact hx
    · exact ih hxs y hy

theorem forM_eq_ok_iff {ε α : Type*} {f : α → Except ε Unit} {xs : List α} :
    xs.forM f = .ok () ↔ ∀ x ∈ xs, f x = .ok () := by
  refine ⟨forM_eq_ok, ?_⟩
  intro h
  induction xs with
  | nil => rfl
  | cons x xs ih =>
    have hx : f x = .ok () := h x (by simp)
    have hxs : xs.forM f = .ok () := ih fun y hy => h y (by simp [hy])
    exact bind_eq_ok.mpr ⟨(), hx, hxs⟩

theorem mapM_eq_ok {ε : Type*} {α β : Type} {f : α → Except ε β} {xs : List α} {ys : List β} :
    xs.mapM f = .ok ys ↔ List.Forall₂ (fun x y => f x = .ok y) xs ys := by
  induction xs generalizing ys with
  | nil =>
    constructor
    · intro h
      cases h
      exact .nil
    · intro h
      cases h
      rfl
  | cons x xs ih =>
    rw [List.mapM_cons, bind_eq_ok]
    constructor
    · rintro ⟨y, hy, hrest⟩
      obtain ⟨ys', hys, hcons⟩ := bind_eq_ok.mp hrest
      cases hcons
      exact .cons hy (ih.mp hys)
    · intro h
      cases h with
      | cons hy hys => exact ⟨_, hy, bind_eq_ok.mpr ⟨_, ih.mpr hys, rfl⟩⟩

abbrev Effect (σ ε α : Type) := EStateM ε σ α

namespace Effect
variable {σ ε α β : Type}

/-- A computed value, or an exception, from the store as it stands. -/
def read (f : σ → Except ε α) : Effect σ ε α := fun s =>
  match f s with
  | .ok a => .ok a s
  | .error e => .error e s

/-- A transaction: on an exception the store is as before. -/
def commit (f : σ → Except ε (σ × α)) : Effect σ ε α := fun s =>
  match f s with
  | .ok (s', a) => .ok a s'
  | .error e => .error e s

def update (f : σ → σ) : Effect σ ε Unit := fun s => .ok () (f s)

/-- `for x in xs: body(x)`. -/
def forEach (body : β → Effect σ ε Unit) : List β → Effect σ ε Unit
  | [] => pure ()
  | x :: xs => do
    body x
    forEach body xs

def discard (m : Effect σ ε α) : Effect σ ε Unit := do
  let _ ← m
  pure ()

/-- `try: m except e: handler(e)`; the writes of `m` stay. -/
def rescue (m : Effect σ ε α) (handler : ε → Effect σ ε α) : Effect σ ε α := fun s =>
  match m s with
  | .ok a s' => .ok a s'
  | .error e s' => handler e s'

/-- `try: m finally: f`; an exception of `f` takes the place of that of `m`. -/
def ensuring (m f : Effect σ ε Unit) : Effect σ ε Unit := fun s =>
  match m s with
  | .ok _ s' => f s'
  | .error e s' =>
    match f s' with
    | .ok _ s'' => .error e s''
    | .error e' s'' => .error e' s''

def final : EStateM.Result ε σ α → σ
  | .ok _ s => s
  | .error _ s => s

def returned : EStateM.Result ε σ α → Option α
  | .ok a _ => some a
  | .error _ _ => none

def raised : EStateM.Result ε σ α → Option ε
  | .ok _ _ => none
  | .error e _ => some e

/-- From a store with `P`, a return leaves the store with `Q` and an exception with `E`. -/
def Triple (P : σ → Prop) (m : Effect σ ε α) (Q : α → σ → Prop) (E : ε → σ → Prop) : Prop :=
  ∀ s, P s → match m s with
    | .ok a s' => Q a s'
    | .error e s' => E e s'

variable {P P' : σ → Prop} {Q Q' : α → σ → Prop} {E E' : ε → σ → Prop} {m : Effect σ ε α}

theorem Triple.pure {a : α} (h : ∀ s, P s → Q a s) : Triple P (Pure.pure a) Q E := h

theorem Triple.throw {e : ε} (h : ∀ s, P s → E e s) : Triple P (throw e) Q E := h

theorem Triple.read {f : σ → Except ε α} (hok : ∀ s a, P s → f s = .ok a → Q a s)
    (herr : ∀ s e, P s → f s = .error e → E e s) : Triple P (read f) Q E := by
  intro s hs
  unfold Effect.read
  cases hf : f s with
  | ok a => exact hok s a hs hf
  | error e => exact herr s e hs hf

theorem Triple.commit {f : σ → Except ε (σ × α)}
    (hok : ∀ s s' a, P s → f s = .ok (s', a) → Q a s')
    (herr : ∀ s e, P s → f s = .error e → E e s) : Triple P (commit f) Q E := by
  intro s hs
  unfold Effect.commit
  cases hf : f s with
  | ok r => exact hok s r.1 r.2 hs hf
  | error e => exact herr s e hs hf

theorem Triple.update {f : σ → σ} {Q : Unit → σ → Prop} (h : ∀ s, P s → Q () (f s)) :
    Triple P (update f) Q E := h

/-- Sequencing: the exceptions of the first call are the exceptions of the whole. -/
theorem Triple.bind {k : α → Effect σ ε β} {R : β → σ → Prop} (hm : Triple P m Q E)
    (hk : ∀ a, Triple (Q a) (k a) R E) : Triple P (m >>= k) R E := by
  intro s hs
  have h := hm s hs
  change match EStateM.bind m k s with
    | .ok b s' => R b s'
    | .error e s' => E e s'
  unfold EStateM.bind
  cases hr : m s with
  | ok a s' =>
    rw [hr] at h
    exact hk a s' h
  | error e s' =>
    rw [hr] at h
    exact h

/-- The handler takes up what an exception left behind. -/
theorem Triple.rescue {handler : ε → Effect σ ε α} (hm : Triple P m Q E)
    (hhandler : ∀ e, Triple (E e) (handler e) Q E') : Triple P (rescue m handler) Q E' := by
  intro s hs
  have h := hm s hs
  unfold Effect.rescue
  cases hr : m s with
  | ok a s' =>
    rw [hr] at h
    exact h
  | error e s' =>
    rw [hr] at h
    exact hhandler e s' h

/-- What the main part leaves on either way out holds before the final part. -/
theorem Triple.ensuring {P' Q' : σ → Prop} {E : ε → σ → Prop} {m f : Effect σ ε Unit}
    (hm : Triple P' m (fun _ => P) (fun _ => P)) (hf : Triple P f (fun _ => Q') E)
    (hQ : ∀ e s, Q' s → E e s) : Triple P' (ensuring m f) (fun _ => Q') E := by
  intro s hs
  have hmain := hm s hs
  unfold Effect.ensuring
  cases hr : m s with
  | ok a s' =>
    rw [hr] at hmain
    exact hf s' hmain
  | error e s' =>
    rw [hr] at hmain
    have hfinal := hf s' hmain
    cases hfr : f s' with
    | ok a s'' =>
      rw [hfr] at hfinal
      simp only [hfr]
      exact hQ e s'' hfinal
    | error e' s'' =>
      rw [hfr] at hfinal
      simp only [hfr]
      exact hfinal

theorem Triple.any : Triple P m (fun _ _ => True) (fun _ _ => True) := by
  intro s _
  split <;> trivial

theorem Triple.result {s₀ : σ} : Triple (· = s₀) m (fun a s => m s₀ = .ok a s)
    (fun e s => m s₀ = .error e s) := by
  intro s hs
  subst hs
  cases hr : m s with
  | ok a s' => rfl
  | error e s' => rfl

theorem Triple.and (h : Triple P m Q E) (h' : Triple P' m Q' E') :
    Triple (fun s => P s ∧ P' s) m (fun a s => Q a s ∧ Q' a s) (fun e s => E e s ∧ E' e s) := by
  rintro s ⟨hs, hs'⟩
  have h := h s hs
  have h' := h' s hs'
  cases hr : m s with
  | ok a s' =>
    rw [hr] at h h'
    exact ⟨h, h'⟩
  | error e s' =>
    rw [hr] at h h'
    exact ⟨h, h'⟩

theorem Triple.assume {φ : Prop} (h : φ → Triple P m Q E) : Triple (fun s => P s ∧ φ) m Q E :=
  fun s hs => h hs.2 s hs.1

theorem Triple.discard {Q : σ → Prop} (hm : Triple P m (fun _ => Q) E) :
    Triple P (discard m) (fun _ => Q) E :=
  Triple.bind hm fun _ => Triple.pure fun _ hs => hs

theorem Triple.conseq (hm : Triple P m Q E) (hP : ∀ s, P' s → P s)
    (hQ : ∀ a s, Q a s → Q' a s) (hE : ∀ e s, E e s → E' e s) : Triple P' m Q' E' := by
  intro s hs
  have h := hm s (hP s hs)
  cases hr : m s with
  | ok a s' =>
    rw [hr] at h
    exact hQ a s' h
  | error e s' =>
    rw [hr] at h
    exact hE e s' h

/-- A condition that does not read the store stays true. -/
theorem Triple.frame {φ : Prop} (h : Triple P m Q E) :
    Triple (fun s => P s ∧ φ) m (fun a s => Q a s ∧ φ) E :=
  Triple.assume fun hφ => h.conseq (fun _ hs => hs) (fun _ _ hq => ⟨hq, hφ⟩) fun _ _ he => he

/-- The loop rule: an assertion that one round keeps is kept by the loop. -/
theorem Triple.forEach {body : β → Effect σ ε Unit} {xs : List β}
    (h : ∀ x ∈ xs, Triple P (body x) (fun _ => P) E) :
    Triple P (forEach body xs) (fun _ => P) E := by
  induction xs with
  | nil => exact Triple.pure fun _ hs => hs
  | cons x xs ih =>
    apply Triple.bind (h x (by simp))
    intro _
    exact ih fun y hy => h y (by simp [hy])

/-- The loop rule for an assertion about the rounds that are still to come. -/
theorem Triple.forEach_rest {body : β → Effect σ ε Unit} {J : List β → σ → Prop}
    (h : ∀ x rest, Triple (J (x :: rest)) (body x) (fun _ => J rest) E) (xs : List β) :
    Triple (J xs) (Effect.forEach body xs) (fun _ => J []) E := by
  induction xs with
  | nil => exact Triple.pure fun _ hs => hs
  | cons x xs ih =>
    apply Triple.bind (h x xs)
    intro _
    exact ih

theorem Triple.final (h : Triple P m (fun _ => P') (fun _ => P')) {s : σ} (hs : P s) :
    P' (final (m s)) := by
  have h := h s hs
  cases hr : m s with
  | ok a s' =>
    rw [hr] at h
    exact h
  | error e s' =>
    rw [hr] at h
    exact h

theorem Triple.of_ok {a : α} {s s' : σ} (h : Triple P m Q E) (hs : P s)
    (hr : m s = .ok a s') : Q a s' := by
  have h := h s hs
  rw [hr] at h
  exact h

theorem Triple.of_error {e : ε} {s s' : σ} (h : Triple P m Q E) (hs : P s)
    (hr : m s = .error e s') : E e s' := by
  have h := h s hs
  rw [hr] at h
  exact h

end Effect
end CitPhysicalXR.Foundation
