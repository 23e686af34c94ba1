import Mathlib.Algebra.Order.Group.Abs
import Mathlib.Tactic.Common

/-! Triggers that are let through at most once in an interval: one instant is kept for each key,
and clocks may go backwards. -/
namespace CitPhysicalXR.Foundation

/-- A trigger, and whether it was let through. -/
structure Claim (κ τ : Type*) where
  key : κ
  at_ : τ
  interval : τ
  accepted : Bool

namespace Claim
variable {κ τ : Type*} [AddCommGroup τ] [LinearOrder τ]

/-- The answer to a trigger, from the instant of the last one that was let through. -/
def passes (last : Option τ) (at_ interval : τ) : Bool :=
  match last with
  | none => true
  | some last => !decide (at_ - last < interval)

theorem passes_some {last at_ interval : τ} :
    passes (some last) at_ interval = true ↔ interval ≤ at_ - last := by
  simp [passes]

/-- The instants that are kept are those of the triggers that were let through. -/
structure Spaced (claims : List (Claim κ τ)) (last : κ → Option τ) : Prop where
  stored : ∀ key at_, last key = some at_ →
    ∃ claim ∈ claims, claim.accepted = true ∧ claim.key = key ∧ claim.at_ = at_
  latest : ∀ claim ∈ claims, claim.accepted = true →
    ∃ at_, last claim.key = some at_ ∧ claim.at_ ≤ at_
  apart : claims.Pairwise fun first second => first.accepted = true → second.accepted = true →
    first.key = second.key → second.interval ≤ second.at_ - first.at_
  caused : ∀ before claim after, claims = before ++ claim :: after → claim.accepted = false →
    ∃ earlier ∈ before, earlier.accepted = true ∧ earlier.key = claim.key ∧
      claim.at_ - earlier.at_ < claim.interval

theorem spaced_nil : Spaced ([] : List (Claim κ τ)) fun _ => none := by
  constructor
  · simp
  · simp
  · exact List.Pairwise.nil
  · simp

/-- Where a list with a last element is cut. -/
theorem split_concat {α : Type*} {items before after : List α} {new item : α}
    (h : items ++ [new] = before ++ item :: after) :
    (items = before ∧ new = item) ∨ ∃ rest, items = before ++ item :: rest := by
  rcases List.eq_nil_or_concat after with rfl | ⟨rest, final, rfl⟩
  · obtain ⟨hitems, hnew⟩ := List.append_inj' h rfl
    exact .inl ⟨hitems, List.head_eq_of_cons_eq hnew⟩
  · have hsplit : items ++ [new] = (before ++ item :: rest) ++ [final] := by
      rw [h]
      simp
    exact .inr ⟨rest, (List.append_inj' hsplit rfl).1⟩

variable {claims : List (Claim κ τ)} {last : κ → Option τ}

/-- A trigger that is let through: its instant is kept. -/
theorem Spaced.accept [DecidableEq κ] [IsOrderedAddMonoid τ] (h : Spaced claims last) {key : κ}
    {at_ interval : τ} (hpositive : 0 ≤ interval)
    (hpasses : passes (last key) at_ interval = true) {next : κ → Option τ}
    (hkey : next key = some at_) (hother : ∀ other, other ≠ key → next other = last other) :
    Spaced (claims ++ [⟨key, at_, interval, true⟩]) next := by
  -- the instants before it lie an interval back
  have hbefore : ∀ claim ∈ claims, claim.accepted = true → claim.key = key →
      interval ≤ at_ - claim.at_ := by
    intro claim hclaim haccepted hsame
    obtain ⟨latest, hlatest, hle⟩ := h.latest claim hclaim haccepted
    rw [hsame] at hlatest
    rw [hlatest] at hpasses
    exact (passes_some.mp hpasses).trans (sub_le_sub_left hle at_)
  constructor
  · intro other instant hnext
    by_cases hsame : other = key
    · subst hsame
      rw [hkey] at hnext
      exact ⟨_, List.mem_append_right _ (List.mem_singleton_self _), rfl, rfl,
        Option.some.inj hnext⟩
    · rw [hother other hsame] at hnext
      obtain ⟨claim, hclaim, hrest⟩ := h.stored other instant hnext
      exact ⟨claim, List.mem_append_left _ hclaim, hrest⟩
  · intro claim hclaim haccepted
    rcases List.mem_append.mp hclaim with hclaim | hclaim
    · by_cases hsame : claim.key = key
      · rw [hsame]
        have hgap := hbefore claim hclaim haccepted hsame
        exact ⟨at_, hkey, sub_nonneg.mp (hpositive.trans hgap)⟩
      · rw [hother claim.key hsame]
        exact h.latest claim hclaim haccepted
    · rw [List.mem_singleton.mp hclaim]
      exact ⟨at_, hkey, le_refl _⟩
  · rw [List.pairwise_append]
    refine ⟨h.apart, List.pairwise_singleton _ _, ?_⟩
    intro first hfirst second hsecond haccepted _ hsame
    rw [List.mem_singleton.mp hsecond] at hsame ⊢
    exact hbefore first hfirst haccepted hsame
  · intro before claim after hsplit hsuppressed
    rcases split_concat hsplit with ⟨_, rfl⟩ | ⟨rest, hclaims⟩
    · cases hsuppressed
    · exact h.caused before claim rest hclaims hsuppressed

theorem Spaced.suppress (h : Spaced claims last) {key : κ} {at_ interval : τ}
    (hfails : passes (last key) at_ interval = false) :
    Spaced (claims ++ [⟨key, at_, interval, false⟩]) last := by
  constructor
  · intro other instant hlast
    obtain ⟨claim, hclaim, hrest⟩ := h.stored other instant hlast
    exact ⟨claim, List.mem_append_left _ hclaim, hrest⟩
  · intro claim hclaim haccepted
    rcases List.mem_append.mp hclaim with hclaim | hclaim
    · exact h.latest claim hclaim haccepted
    · rw [List.mem_singleton.mp hclaim] at haccepted
      cases haccepted
  · rw [List.pairwise_append]
    refine ⟨h.apart, List.pairwise_singleton _ _, ?_⟩
    intro first _ second hsecond _ haccepted
    rw [List.mem_singleton.mp hsecond] at haccepted
    cases haccepted
  · intro before claim after hsplit hsuppressed
    rcases split_concat hsplit with ⟨rfl, rfl⟩ | ⟨rest, hclaims⟩
    · cases hkept : last key with
      | none =>
        rw [hkept] at hfails
        cases hfails
      | some instant =>
        rw [hkept] at hfails
        obtain ⟨earlier, hearlier, haccepted, hsame, hinstant⟩ := h.stored key instant hkept
        refine ⟨earlier, hearlier, haccepted, hsame, ?_⟩
        rw [hinstant]
        simpa [passes] using hfails
    · exact h.caused before claim rest hclaims hsuppressed

end Claim
end CitPhysicalXR.Foundation
