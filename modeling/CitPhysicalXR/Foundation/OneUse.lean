import Mathlib.Data.List.Induction
import Mathlib.Data.List.Nodup
import Mathlib.Tactic.Common

/-! Grants that are used up once: a history of grants and redemptions in which each redemption
takes up the latest grant under its key. -/
namespace CitPhysicalXR.Foundation

inductive GrantReport (κ γ : Type*) where
  | granted (key : κ) (grant : γ)
  | redeemed (key : κ) (grant : γ)
  deriving DecidableEq

namespace GrantReport
variable {κ γ : Type*}

def key : GrantReport κ γ → κ
  | .granted key _ => key
  | .redeemed key _ => key

def grantedKey : GrantReport κ γ → Option κ
  | .granted key _ => some key
  | .redeemed .. => none

def redeemedKey : GrantReport κ γ → Option κ
  | .granted .. => none
  | .redeemed key _ => some key

/-- The latest report under a key is this grant. -/
def Open (history : List (GrantReport κ γ)) (key : κ) (grant : γ) : Prop :=
  ∃ pre post, history = pre ++ GrantReport.granted key grant :: post ∧
    ∀ report ∈ post, report.key ≠ key

/-- Each redemption uses up an open grant. -/
def OnceEach (history : List (GrantReport κ γ)) : Prop :=
  ∀ pre post key grant, history = pre ++ GrantReport.redeemed key grant :: post →
    Open pre key grant

section Histories
variable {history more : List (GrantReport κ γ)} {report : GrantReport κ γ} {key : κ} {grant : γ}

theorem Open.append (h : Open history key grant) (hmore : ∀ report ∈ more, report.key ≠ key) :
    Open (history ++ more) key grant := by
  obtain ⟨pre, post, rfl, hpost⟩ := h
  refine ⟨pre, post ++ more, by simp, ?_⟩
  intro report hreport
  rcases List.mem_append.mp hreport with hreport | hreport
  · exact hpost report hreport
  · exact hmore report hreport

theorem open_granted (history : List (GrantReport κ γ)) (key : κ) (grant : γ) :
    Open (history ++ [GrantReport.granted key grant]) key grant :=
  ⟨history, [], rfl, fun _ h => absurd h List.not_mem_nil⟩

theorem OnceEach.nil : OnceEach ([] : List (GrantReport κ γ)) := by
  intro pre post key grant hsplit
  simp at hsplit

theorem OnceEach.front (h : OnceEach (history ++ more)) : OnceEach history := by
  intro pre post key grant hsplit
  exact h pre (post ++ more) key grant (by simp [hsplit])

theorem OnceEach.snoc (h : OnceEach history)
    (hreport : ∀ key grant, report = .redeemed key grant → Open history key grant) :
    OnceEach (history ++ [report]) := by
  intro pre post key grant hsplit
  rcases List.eq_nil_or_concat post with rfl | ⟨post, last, rfl⟩
  · obtain ⟨rfl, hlast⟩ := List.append_inj' hsplit rfl
    exact hreport key grant (by simpa using hlast)
  · have hsplit : history ++ [report] = (pre ++ GrantReport.redeemed key grant :: post) ++ [last] := by
      simpa using hsplit
    obtain ⟨hhistory, _⟩ := List.append_inj' hsplit rfl
    exact h pre post key grant hhistory

theorem OnceEach.mem_granted (h : OnceEach history)
    (hkey : key ∈ history.filterMap redeemedKey) : key ∈ history.filterMap grantedKey := by
  obtain ⟨report, hmem, hredeemed⟩ := List.mem_filterMap.mp hkey
  cases report with
  | granted => cases hredeemed
  | redeemed key' grant =>
    cases hredeemed
    obtain ⟨pre, post, rfl⟩ := List.append_of_mem hmem
    obtain ⟨pre, mid, rfl, _⟩ := h pre post key grant rfl
    simp [grantedKey]

theorem OnceEach.nodup (h : OnceEach history) (hgranted : (history.filterMap grantedKey).Nodup) :
    (history.filterMap redeemedKey).Nodup := by
  induction history using List.reverseRecOn with
  | nil => exact .nil
  | append_singleton history report ih =>
    rw [List.filterMap_append] at hgranted
    have hfront := ih h.front (List.nodup_append.mp hgranted).1
    rw [List.filterMap_append, List.nodup_append]
    refine ⟨hfront, ?_, ?_⟩
    · cases report with
      | granted => exact .nil
      | redeemed => exact List.nodup_singleton _
    · intro key hkey other hother hsame
      subst hsame
      cases report with
      | granted => simp [redeemedKey] at hother
      | redeemed key' grant =>
        obtain rfl : key = key' := by simpa [redeemedKey] using hother
        -- an earlier redemption took up an earlier grant, so the key was granted twice
        obtain ⟨pre, post, rfl, hpost⟩ := h history [] key grant rfl
        have hpre : key ∈ pre.filterMap redeemedKey := by
          rw [List.filterMap_append, List.mem_append] at hkey
          refine hkey.resolve_right ?_
          intro hlater
          obtain ⟨report, hmem, hredeemed⟩ := List.mem_filterMap.mp hlater
          rcases List.mem_cons.mp hmem with rfl | hmem
          · cases hredeemed
          · cases report with
            | granted => cases hredeemed
            | redeemed key' _ =>
              cases hredeemed
              exact hpost _ hmem rfl
        have honce : OnceEach pre := OnceEach.front h.front
        have hagain : (pre.filterMap grantedKey ++ key :: post.filterMap grantedKey).Nodup := by
          have hfront := (List.nodup_append.mp hgranted).1
          rw [List.filterMap_append] at hfront
          exact hfront
        exact (List.nodup_append.mp hagain).2.2 key (honce.mem_granted hpre) key
          List.mem_cons_self rfl

end Histories
end GrantReport
end CitPhysicalXR.Foundation
