import Mathlib.Data.List.Perm.Basic
import Mathlib.Data.List.Nodup
import Mathlib.Tactic.Common

/-! Lists of records with distinct numbers, of which one is updated. -/
namespace CitPhysicalXR.Foundation.KeyedList
variable {α β : Type*} {key : α → ℕ} {l : List α}

/-- The records with a number are updated. -/
def update (key : α → ℕ) (k : ℕ) (f : α → α) (l : List α) : List α :=
  l.map fun a => if key a = k then f a else a

theorem mem_update {k : ℕ} {f : α → α} {b : α} :
    b ∈ update key k f l ↔ ∃ a ∈ l, b = if key a = k then f a else a := by
  simp [update, eq_comm]

theorem map_update {k : ℕ} {f : α → α} {g : α → β} (hf : ∀ a, g (f a) = g a) :
    (update key k f l).map g = l.map g := by
  simp only [update, List.map_map]
  refine List.map_congr_left fun a _ => ?_
  simp only [Function.comp_apply]
  split
  · exact hf a
  · rfl

theorem filterMap_update {k : ℕ} {f : α → α} {g : α → Option β} (hf : ∀ a, g (f a) = g a) :
    (update key k f l).filterMap g = l.filterMap g := by
  simp only [update, List.filterMap_map]
  refine List.filterMap_congr fun a _ => ?_
  simp only [Function.comp_apply]
  split
  · exact hf a
  · rfl

/-- Records that are equal in their number are equal. -/
theorem eq_of_key (hnodup : (l.map key).Nodup) {a b : α} (ha : a ∈ l) (hb : b ∈ l)
    (h : key a = key b) : a = b :=
  List.inj_on_of_nodup_map hnodup ha hb h

private theorem update_of_notMem {k : ℕ} {f : α → α} (h : k ∉ l.map key) :
    update key k f l = l := by
  have hsame : ∀ a ∈ l, (if key a = k then f a else a) = id a := by
    intro a ha
    rw [if_neg, id_eq]
    rintro rfl
    exact h (List.mem_map_of_mem ha)
  rw [update, List.map_congr_left hsame, List.map_id]

theorem filterMap_update_perm (hnodup : (l.map key).Nodup) {a : α} (ha : a ∈ l) (f : α → α)
    (g : α → Option β) :
    ((g a).toList ++ (update key (key a) f l).filterMap g).Perm
      ((g (f a)).toList ++ l.filterMap g) := by
  induction l with
  | nil => cases ha
  | cons b l ih =>
    rw [List.map_cons, List.nodup_cons] at hnodup
    have hcons (c : α) (rest : List α) :
        (c :: rest).filterMap g = (g c).toList ++ rest.filterMap g := by
      cases hc : g c <;> simp [hc]
    rcases List.mem_cons.mp ha with rfl | ha
    · have hsame := update_of_notMem (f := f) hnodup.1
      have hrest : update key (key a) f (a :: l) = f a :: l := by
        simp only [update, List.map_cons, if_pos] at hsame ⊢
        rw [hsame]
      rw [hrest, hcons, hcons]
      exact List.perm_append_comm_assoc _ _ _
    · have hne : key b ≠ key a := by
        intro h
        exact hnodup.1 (h ▸ List.mem_map_of_mem ha)
      have hrest : update key (key a) f (b :: l) = b :: update key (key a) f l := by
        simp [update, hne]
      rw [hrest, hcons, hcons]
      have hfirst := List.perm_append_comm_assoc (g a).toList (g b).toList
        ((update key (key a) f l).filterMap g)
      have hlast := List.perm_append_comm_assoc (g b).toList (g (f a)).toList (l.filterMap g)
      exact hfirst.trans ((List.Perm.append_left _ (ih hnodup.2 ha)).trans hlast)

def updateFirst (p : α → Bool) (f : α → α) : List α → List α
  | [] => []
  | a :: l => if p a then f a :: l else a :: updateFirst p f l

theorem map_updateFirst {p : α → Bool} {f : α → α} {g : α → β} (hf : ∀ a, g (f a) = g a) :
    (updateFirst p f l).map g = l.map g := by
  induction l with
  | nil => rfl
  | cons a l ih =>
    unfold updateFirst
    split
    · simp [hf]
    · simp [ih]

theorem mem_updateFirst {p : α → Bool} {f : α → α} {b : α} (h : b ∈ updateFirst p f l) :
    b ∈ l ∨ ∃ a, l.find? p = some a ∧ b = f a := by
  induction l with
  | nil => cases h
  | cons a l ih =>
    unfold updateFirst at h
    by_cases hp : p a = true
    · rw [if_pos hp] at h
      obtain rfl | hold := List.mem_cons.mp h
      · exact .inr ⟨a, by simp [hp], rfl⟩
      · exact .inl (List.mem_cons_of_mem _ hold)
    · rw [if_neg hp] at h
      obtain rfl | hrest := List.mem_cons.mp h
      · exact .inl List.mem_cons_self
      · obtain hold | ⟨found, hfound, rfl⟩ := ih hrest
        · exact .inl (List.mem_cons_of_mem _ hold)
        · exact .inr ⟨found, by simpa [List.find?_cons, hp] using hfound, rfl⟩

theorem updated_mem {p : α → Bool} {f : α → α} {a : α} (h : l.find? p = some a) :
    f a ∈ updateFirst p f l := by
  induction l with
  | nil => cases h
  | cons b l ih =>
    unfold updateFirst
    by_cases hp : p b = true
    · obtain rfl : b = a := by simpa [List.find?_cons, hp] using h
      simp [hp]
    · have hrest := ih (by simpa [List.find?_cons, hp] using h)
      simp [hp, hrest]

theorem find?_updateFirst {p : α → Bool} {f : α → α} {a : α} (h : l.find? p = some a)
    (hp : p (f a) = true) : (updateFirst p f l).find? p = some (f a) := by
  induction l with
  | nil => cases h
  | cons b l ih =>
    unfold updateFirst
    by_cases hb : p b = true
    · obtain rfl : b = a := by simpa [List.find?_cons, hb] using h
      simp [hb, hp]
    · have hrest := ih (by simpa [List.find?_cons, hb] using h)
      simp [hb, hrest]

end CitPhysicalXR.Foundation.KeyedList
