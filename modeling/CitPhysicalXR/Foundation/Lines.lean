import Mathlib.Tactic.Common

/-! Lines of a stream that is read one character at a time, and a reader that drops what it
holds whenever a line outgrows its buffer. -/
namespace CitPhysicalXR.Foundation.Lines

section Kept
variable {α : Type*}

/-- What is left of a line when the buffer is emptied each time it outgrows its bound. -/
def kept (bound : ℕ) (line : List α) : List α :=
  line.drop ((bound + 1) * (line.length / (bound + 1)))

theorem length_kept (bound : ℕ) (line : List α) :
    (kept bound line).length = line.length % (bound + 1) := by
  have hdiv := Nat.div_add_mod line.length (bound + 1)
  rw [kept, List.length_drop]
  omega

theorem kept_of_le {bound : ℕ} {line : List α} (h : line.length ≤ bound) :
    kept bound line = line := by
  rw [kept, Nat.div_eq_of_lt (by omega)]
  simp

/-- One more character empties a full buffer and otherwise is added to it. -/
theorem kept_concat (bound : ℕ) (line : List α) (x : α) :
    kept bound (line ++ [x]) =
      if bound < (kept bound line ++ [x]).length then [] else kept bound line ++ [x] := by
  have hmod := Nat.mod_lt line.length (show 0 < bound + 1 by omega)
  have hdiv := Nat.div_add_mod line.length (bound + 1)
  have hlength : (line ++ [x]).length = line.length + 1 := by simp
  rw [List.length_append, length_kept, List.length_singleton]
  split
  · have hfull : line.length + 1 = (bound + 1) * (line.length / (bound + 1) + 1) := by
      rw [Nat.mul_add]
      omega
    apply List.drop_of_length_le
    apply Nat.le_of_eq
    rw [hlength, hfull, Nat.mul_div_cancel_left _ (by omega)]
  · have hdiv' : (line.length + 1) / (bound + 1) = line.length / (bound + 1) := by
      apply Nat.div_eq_of_lt_le
      · rw [Nat.mul_comm]
        omega
      · rw [Nat.mul_comm, Nat.mul_add]
        omega
    rw [kept, hlength, hdiv', kept, List.drop_append_of_le_length]
    omega

end Kept

variable {α : Type*} [DecidableEq α] {newline x : α}

/-- The lines that a newline has ended, without the newline. -/
def ended (newline : α) (stream : List α) : List (List α) :=
  (stream.splitOn newline).dropLast

/-- What has been read of the line that no newline has ended yet. -/
def pending (newline : α) (stream : List α) : List α :=
  (stream.splitOn newline).getLast (List.splitOn_ne_nil newline stream)

theorem splitOn_eq (stream : List α) :
    stream.splitOn newline = ended newline stream ++ [pending newline stream] :=
  (List.dropLast_concat_getLast _).symm

@[simp] theorem ended_nil : ended newline [] = [] := by
  simp [ended]

@[simp] theorem pending_nil : pending newline [] = [] := by
  simp [pending]

theorem notMem_of_mem_splitOn {stream line : List α} (h : line ∈ stream.splitOn newline) :
    newline ∉ line := by
  induction stream generalizing line with
  | nil =>
    rw [List.splitOn_nil] at h
    simp [List.mem_singleton.mp h]
  | cons x stream ih =>
    rw [List.splitOn_cons_eq_if_modifyHead] at h
    split at h
    · rcases List.mem_cons.mp h with rfl | h
      · simp
      · exact ih h
    · rename_i hx
      obtain ⟨first, rest, hparts⟩ := List.exists_cons_of_ne_nil
        (List.splitOn_ne_nil newline stream)
      rw [hparts, List.modifyHead_cons] at h
      rw [hparts] at ih
      rcases List.mem_cons.mp h with rfl | h
      · have hfirst := ih (List.mem_cons_self ..)
        have hne : newline ≠ x := fun heq => hx (by simp [heq])
        simp [hfirst, hne]
      · exact ih (.tail _ h)

theorem mem_splitOn {stream : List α} (hx : x ≠ newline) :
    (∃ line ∈ stream.splitOn newline, x ∈ line) ↔ x ∈ stream := by
  induction stream with
  | nil => simp [List.splitOn_nil]
  | cons y stream ih =>
    obtain ⟨first, rest, hparts⟩ := List.exists_cons_of_ne_nil
      (List.splitOn_ne_nil newline stream)
    rw [List.splitOn_cons_eq_if_modifyHead]
    split
    · rename_i hy
      have hne : x ≠ y := fun heq => hx (heq.trans (beq_iff_eq.mp hy))
      simp [ih, hne]
    · rw [hparts] at ih ⊢
      simp only [List.modifyHead_cons, List.mem_cons, exists_eq_or_imp] at ih ⊢
      rw [or_assoc, ih]

theorem of_splitOn {stream : List α} {lines : List (List α)} {line : List α}
    (h : stream.splitOn newline = lines ++ [line]) :
    ended newline stream = lines ∧ pending newline stream = line := by
  simp [ended, pending, h]

theorem concat_newline (stream : List α) :
    ended newline (stream ++ [newline]) = ended newline stream ++ [pending newline stream] ∧
      pending newline (stream ++ [newline]) = [] := by
  apply of_splitOn
  rw [List.splitOn_append_cons_self, List.splitOn_nil, splitOn_eq]

theorem splitOn_concat_of_ne (hx : x ≠ newline) {stream : List α} {lines : List (List α)}
    {line : List α} (h : stream.splitOn newline = lines ++ [line]) :
    (stream ++ [x]).splitOn newline = lines ++ [line ++ [x]] := by
  induction stream generalizing lines line with
  | nil =>
    have hx : newline ∉ [x] := by simpa using hx.symm
    have h : [] ++ [[]] = lines ++ [line] := by simpa using h
    obtain ⟨rfl, hline⟩ := List.append_inj' h rfl
    obtain rfl : [] = line := by simpa using hline
    simp [List.splitOn_eq_singleton hx]
  | cons y stream ih =>
    have hstream := ih (splitOn_eq stream)
    rw [List.splitOn_cons_eq_if_modifyHead, splitOn_eq stream] at h
    rw [List.cons_append, List.splitOn_cons_eq_if_modifyHead, hstream]
    by_cases hy : y == newline
    · rw [if_pos hy] at h ⊢
      have h : ([] :: ended newline stream) ++ [pending newline stream] = lines ++ [line] := h
      obtain ⟨rfl, hline⟩ := List.append_inj' h rfl
      obtain rfl : pending newline stream = line := by simpa using hline
      rfl
    · rw [if_neg hy] at h ⊢
      cases hended : ended newline stream with
      | nil =>
        have h : [] ++ [y :: pending newline stream] = lines ++ [line] := by
          simpa [hended] using h
        obtain ⟨rfl, hline⟩ := List.append_inj' h rfl
        obtain rfl : y :: pending newline stream = line := by simpa using hline
        rfl
      | cons first rest =>
        have h : ((y :: first) :: rest) ++ [pending newline stream] = lines ++ [line] := by
          simpa [hended] using h
        obtain ⟨rfl, hline⟩ := List.append_inj' h rfl
        obtain rfl : pending newline stream = line := by simpa using hline
        rfl

theorem concat_of_ne (hx : x ≠ newline) (stream : List α) :
    ended newline (stream ++ [x]) = ended newline stream ∧
      pending newline (stream ++ [x]) = pending newline stream ++ [x] :=
  of_splitOn (splitOn_concat_of_ne hx (splitOn_eq stream))

end CitPhysicalXR.Foundation.Lines
