import Mathlib.Data.List.Chain

/-! Histories of a state machine: lists that begin at its start and follow its edges. -/
namespace CitPhysicalXR.Foundation

variable {α : Type*}

/-- Empty, or from `start` along `edge` in every consecutive pair. -/
structure IsTrail (start : α) (edge : α → α → Prop) (l : List α) : Prop where
  head : ∀ a ∈ l.head?, a = start
  chain : l.IsChain edge

namespace IsTrail
variable {start : α} {edge : α → α → Prop} {l : List α}

theorem nil : IsTrail start edge [] := ⟨by simp, .nil⟩

theorem singleton : IsTrail start edge [start] := ⟨by simp, .singleton _⟩

/-- A history goes on along an edge from where it stands. -/
theorem append {a b : α} (h : IsTrail start edge l) (hlast : l.getLast? = some a)
    (hedge : edge a b) : IsTrail start edge (l ++ [b]) := by
  have hne : l ≠ [] := by
    rintro rfl
    simp at hlast
  refine ⟨?_, ?_⟩
  · rw [List.head?_append_of_ne_nil _ hne]
    exact h.head
  · refine List.isChain_append.mpr ⟨h.chain, .singleton _, ?_⟩
    intro x hx y hy
    obtain rfl : a = x := by simpa [hlast] using hx
    obtain rfl : b = y := by simpa using hy
    exact hedge

/-- A history goes on along any path from where it stands. -/
theorem extend {a : α} {front path : List α} (h : IsTrail start edge (front ++ [a]))
    (hpath : (a :: path).IsChain edge) : IsTrail start edge (front ++ [a] ++ path) := by
  refine ⟨?_, ?_⟩
  · rw [List.head?_append_of_ne_nil _ (by simp)]
    exact h.head
  · exact h.chain.append_overlap hpath (by simp)

/-- A rank that grows along edges and has a bound bounds the histories. -/
theorem length_le (rank : α → ℕ) {bound : ℕ} (hgrow : ∀ a b, edge a b → rank a < rank b)
    (hbound : ∀ a, rank a < bound) (h : IsTrail start edge l) : l.length ≤ bound := by
  have hsuffix : ∀ (l : List α) (a : α), (a :: l).IsChain edge → rank a + (a :: l).length ≤ bound := by
    intro l
    induction l with
    | nil =>
      intro a _
      have := hbound a
      simp only [List.length_singleton]
      omega
    | cons b l ih =>
      intro a hchain
      obtain ⟨hab, hrest⟩ := List.isChain_cons_cons.mp hchain
      have := hgrow a b hab
      have := ih b hrest
      simp only [List.length_cons] at this ⊢
      omega
  cases l with
  | nil => simp
  | cons a l =>
    have := hsuffix l a h.chain
    omega

end IsTrail
end CitPhysicalXR.Foundation
