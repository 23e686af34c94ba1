import Mathlib

/-! Keys that are claimed up to a time: a key is claimed again only when the time of its last
claim is over. -/
namespace CitPhysicalXR.Foundation

inductive Disposition where
  | accepted
  | duplicate
  | expired
  deriving DecidableEq

structure Claims (κ τ : Type*) where
  expiry : κ → Option τ

namespace Claims
variable {κ τ : Type*} {claims claims' : Claims κ τ}

def empty : Claims κ τ := ⟨fun _ => none⟩

section History
variable [Preorder τ]

/-- Every claim of a history is over, or it is the last one of its key. -/
def Covers (claims : Claims κ τ) (now : τ) (history : List (κ × τ)) : Prop :=
  ∀ past ∈ history, past.2 ≤ now ∨ claims.expiry past.1 = some past.2

theorem Covers.later {now now' : τ} {history : List (κ × τ)} (h : claims.Covers now history)
    (hnow : now ≤ now') : claims.Covers now' history := by
  intro past hpast
  rcases h past hpast with hover | hlast
  · exact .inl (hover.trans hnow)
  · exact .inr hlast

theorem Covers.subset {now : τ} {history history' : List (κ × τ)}
    (h : claims.Covers now history) (hsub : history' ⊆ history) : claims.Covers now history' :=
  fun past hpast => h past (hsub hpast)

end History

variable [DecidableEq κ] [LinearOrder τ]

def claim (claims : Claims κ τ) (key : κ) (expiresAt now : τ) : Disposition × Claims κ τ :=
  if expiresAt ≤ now then (.expired, claims)
  else if (claims.expiry key).any fun active => decide (now < active) then (.duplicate, claims)
  else (.accepted, ⟨Function.update claims.expiry key (some expiresAt)⟩)

theorem claim_refused {key : κ} {expiresAt now : τ} {disposition : Disposition}
    (h : claims.claim key expiresAt now = (disposition, claims'))
    (hrefused : disposition ≠ .accepted) : claims' = claims := by
  unfold claim at h
  split at h
  · cases h
    rfl
  · split at h
    · cases h
      rfl
    · cases h
      exact absurd rfl hrefused

theorem claim_accepted {key : κ} {expiresAt now : τ}
    (h : claims.claim key expiresAt now = (.accepted, claims')) :
    now < expiresAt ∧ (∀ active, claims.expiry key = some active → active ≤ now) ∧
      claims' = ⟨Function.update claims.expiry key (some expiresAt)⟩ := by
  unfold claim at h
  split at h
  · cases h
  · rename_i hfresh
    split at h
    · cases h
    · rename_i hfree
      cases h
      refine ⟨not_le.mp hfresh, ?_, rfl⟩
      intro active hactive
      rw [hactive] at hfree
      simpa using hfree

theorem Covers.over {now : τ} {history : List (κ × τ)} (h : claims.Covers now history) {key : κ}
    {expiresAt : τ} (hclaim : claims.claim key expiresAt now = (.accepted, claims')) :
    ∀ past ∈ history, past.1 = key → past.2 ≤ now := by
  obtain ⟨_, hfree, _⟩ := claim_accepted hclaim
  intro past hpast hkey
  rcases h past hpast with hover | hlast
  · exact hover
  · exact hfree past.2 (hkey ▸ hlast)

theorem Covers.claim {now : τ} {history : List (κ × τ)} (h : claims.Covers now history) {key : κ}
    {expiresAt : τ} (hclaim : claims.claim key expiresAt now = (.accepted, claims')) :
    claims'.Covers now (history ++ [(key, expiresAt)]) := by
  have hover := h.over hclaim
  obtain ⟨_, _, rfl⟩ := claim_accepted hclaim
  intro past hpast
  rcases List.mem_append.mp hpast with hpast | hpast
  · by_cases hkey : past.1 = key
    · exact .inl (hover past hpast hkey)
    · rcases h past hpast with hpast | hpast
      · exact .inl hpast
      · right
        show Function.update claims.expiry key (some expiresAt) past.1 = some past.2
        rw [Function.update_of_ne hkey, hpast]
  · obtain rfl := List.mem_singleton.mp hpast
    right
    show Function.update claims.expiry key (some expiresAt) key = some expiresAt
    rw [Function.update_self]

end Claims
end CitPhysicalXR.Foundation
