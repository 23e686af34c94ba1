import Mathlib.Data.List.DropRight
import Mathlib.Data.List.Infix
import Mathlib.Tactic.Common

/-! A bounded window over the keys that have passed: a key passes when the window does not hold
it, and pushes the oldest one out. -/
namespace CitPhysicalXR.Foundation.DedupeWindow
variable {κ : Type*} {limit : ℕ}

/-- Whether a key passes, and the window after it. -/
def pass [DecidableEq κ] (limit : ℕ) (seen : List κ) (key : κ) : Option (List κ) :=
  if key ∈ seen then none else some ((seen ++ [key]).rtake limit)

/-- Between two passes of a key, as many other keys as the window has room for pass. -/
def Separated (limit : ℕ) (passed : List κ) : Prop :=
  ∀ before key between after, passed = before ++ key :: (between ++ key :: after) →
    ∃ others, others <:+ between ∧ others.Nodup ∧ others.length = limit ∧ key ∉ others

structure Windowed (limit : ℕ) (passed seen : List κ) : Prop where
  holds : seen = passed.rtake limit
  nodup : seen.Nodup
  separated : Separated limit passed

theorem rtake_rtake_concat (limit : ℕ) (keys : List κ) (key : κ) :
    (keys.rtake limit ++ [key]).rtake limit = (keys ++ [key]).rtake limit := by
  cases limit with
  | zero => simp
  | succ limit =>
    rw [List.rtake_concat_succ, List.rtake_concat_succ]
    congr 1
    simp only [List.rtake_eq_reverse_take_reverse, List.reverse_reverse, List.take_take]
    rw [Nat.min_eq_left (Nat.le_succ limit)]

theorem Windowed.empty (limit : ℕ) : Windowed limit ([] : List κ) [] := by
  refine ⟨by simp, List.nodup_nil, ?_⟩
  intro before key between after h
  simp at h

theorem length_rtake (limit : ℕ) (keys : List κ) :
    (keys.rtake limit).length = min limit keys.length := by
  rw [List.rtake, List.length_drop]
  omega

/-- A key that is not among the last ones has as many others behind it. -/
theorem rtake_suffix_of_notMem {before between : List κ} {key : κ}
    (h : key ∉ (before ++ key :: between).rtake limit) :
    (before ++ key :: between).rtake limit <:+ between ∧
      ((before ++ key :: between).rtake limit).length = limit := by
  have hwindow : (before ++ key :: between).rtake limit <:+ before ++ key :: between :=
    List.drop_suffix ..
  have hlength := length_rtake limit (before ++ key :: between)
  rw [List.length_append, List.length_cons] at hlength
  have hlong : limit ≤ between.length := by
    by_contra hshort
    have hfrom : key :: between <:+ (before ++ key :: between).rtake limit := by
      refine List.suffix_of_suffix_length_le (List.suffix_append ..) hwindow ?_
      rw [hlength, List.length_cons]
      omega
    exact h (hfrom.mem List.mem_cons_self)
  have hbehind : between <:+ before ++ key :: between :=
    (List.suffix_cons key between).trans (List.suffix_append ..)
  refine ⟨List.suffix_of_suffix_length_le hwindow hbehind ?_, ?_⟩
  · rw [hlength]
    omega
  · rw [hlength]
    omega

theorem Windowed.concat {passed seen : List κ} {key : κ} (h : Windowed limit passed seen)
    (hkey : key ∉ seen) : Windowed limit (passed ++ [key]) ((seen ++ [key]).rtake limit) := by
  refine ⟨?_, ?_, ?_⟩
  · rw [h.holds, rtake_rtake_concat]
  · have hall : (seen ++ [key]).Nodup := by
      rw [List.nodup_append]
      refine ⟨h.nodup, List.nodup_cons.mpr ⟨List.not_mem_nil, List.nodup_nil⟩, ?_⟩
      rintro other hother last hlast rfl
      exact hkey (List.mem_singleton.mp hlast ▸ hother)
    exact hall.sublist (List.drop_sublist ..)
  · intro before first between after hsplit
    cases after using List.reverseRecOn with
    | nil =>
      have hsplit : passed ++ [key] = (before ++ first :: between) ++ [first] := by
        rw [hsplit, List.append_assoc]
        rfl
      obtain ⟨hpassed, hlast⟩ := List.append_inj' hsplit rfl
      obtain rfl := List.singleton_inj.mp hlast
      rw [h.holds, hpassed] at hkey
      obtain ⟨hsuffix, hlength⟩ := rtake_suffix_of_notMem hkey
      refine ⟨_, hsuffix, ?_, hlength, hkey⟩
      rw [← hpassed, ← h.holds]
      exact h.nodup
    | append_singleton after last =>
      have hsplit : passed ++ [key] = (before ++ first :: (between ++ first :: after)) ++ [last] := by
        rw [hsplit]
        simp
      exact h.separated _ _ _ _ (List.append_inj' hsplit rfl).1

end CitPhysicalXR.Foundation.DedupeWindow
