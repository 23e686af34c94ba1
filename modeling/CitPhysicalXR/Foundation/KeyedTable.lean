import Mathlib.Data.List.Nodup
import Mathlib.Tactic.Common

/-! Tables of rows under a primary key. A table carries the uniqueness of its keys, so a
store with two rows of one key cannot be built. -/
namespace CitPhysicalXR.Foundation

structure Table {α κ : Type*} (key : α → κ) where
  rows : List α
  unique : (rows.map key).Nodup

namespace Table
variable {α κ : Type*} {key : α → κ}

def empty : Table key := ⟨[], List.nodup_nil⟩

instance : Membership α (Table key) := ⟨fun t r => r ∈ t.rows⟩

@[simp] theorem mem_rows {t : Table key} {r : α} : r ∈ t.rows ↔ r ∈ t := Iff.rfl

@[simp] theorem not_mem_empty (r : α) : ¬ r ∈ (empty : Table key) := List.not_mem_nil

theorem eq_of_key_eq {t : Table key} {r r' : α} (h : r ∈ t) (h' : r' ∈ t)
    (hk : key r = key r') : r = r' :=
  List.inj_on_of_nodup_map t.unique h h' hk

section Update
variable (t : Table key)

/-- Rewrite every row by a function that keeps its key. -/
def mapRows (f : α → α) (hf : ∀ r, key (f r) = key r) : Table key where
  rows := t.rows.map f
  unique := by
    have : (t.rows.map f).map key = t.rows.map key := by simp [hf]
    rw [this]
    exact t.unique

/-- The rows of a table under a narrower type that keeps the key. -/
def project {β : Type*} {key' : β → κ} (f : α → β) (hf : ∀ r, key' (f r) = key r) :
    Table key' where
  rows := t.rows.map f
  unique := by
    have hkeys : (t.rows.map f).map key' = t.rows.map key := by simp [hf]
    rw [hkeys]
    exact t.unique

/-- `DELETE`: only the rows with a property stay. -/
def filterRows (p : α → Bool) : Table key where
  rows := t.rows.filter p
  unique := (List.filter_sublist.map _).nodup t.unique

@[simp] theorem mem_filterRows {p : α → Bool} {r : α} :
    r ∈ t.filterRows p ↔ r ∈ t ∧ p r = true := List.mem_filter

theorem mem_mapRows {f : α → α} {hf : ∀ r, key (f r) = key r} {r : α} :
    r ∈ t.mapRows f hf ↔ ∃ r₀ ∈ t, f r₀ = r := List.mem_map

variable [DecidableEq κ]

/-- `SELECT … WHERE key = k`. -/
def get? (k : κ) : Option α := t.rows.find? fun r => key r = k

/-- `INSERT`: refused when the key is already present. -/
def insert? (row : α) : Option (Table key) :=
  if h : key row ∈ t.rows.map key then none
  else some ⟨t.rows ++ [row], by
    rw [List.map_append, List.map_singleton, List.nodup_append]
    refine ⟨t.unique, List.nodup_singleton _, ?_⟩
    rintro a ha b hb rfl
    obtain rfl := List.mem_singleton.mp hb
    exact h ha⟩

/-- `UPDATE … WHERE key = key row`: refused when no row has the key. -/
def update? (row : α) : Option (Table key) :=
  if key row ∈ t.rows.map key then
    some (t.mapRows (fun r => if key r = key row then row else r) (by
      intro r
      split
      · exact Eq.symm ‹_›
      · rfl))
  else none

/-- `INSERT … ON CONFLICT DO UPDATE`. -/
def upsert (row : α) : Table key :=
  match t.update? row with
  | some t' => t'
  | none => (t.insert? row).getD t

end Update

variable [DecidableEq κ] {t t' : Table key}

theorem get?_some {k : κ} {r : α} (h : t.get? k = some r) : r ∈ t ∧ key r = k := by
  have hm := List.mem_of_find?_eq_some h
  have hk := List.find?_some h
  exact ⟨hm, by simpa using hk⟩

theorem get?_eq_some {k : κ} {r : α} : t.get? k = some r ↔ r ∈ t ∧ key r = k := by
  refine ⟨get?_some, ?_⟩
  rintro ⟨hr, rfl⟩
  cases hg : t.get? (key r) with
  | none =>
    have := List.find?_eq_none.mp hg r hr
    simp at this
  | some r' =>
    obtain ⟨hr', hk⟩ := get?_some hg
    rw [eq_of_key_eq hr' hr hk]

theorem get?_eq_none {k : κ} : t.get? k = none ↔ ∀ r ∈ t, key r ≠ k := by
  simp [get?, List.find?_eq_none]

theorem mem_insert? {row : α} (h : t.insert? row = some t') {r : α} :
    r ∈ t' ↔ r ∈ t ∨ r = row := by
  unfold insert? at h
  split at h
  · cases h
  · cases h
    exact List.mem_append.trans (or_congr Iff.rfl List.mem_singleton)

theorem insert?_isSome {row : α} (h : t.get? (key row) = none) : (t.insert? row).isSome := by
  have hk : key row ∉ t.rows.map key := by
    rintro hm
    obtain ⟨r, hr, he⟩ := List.mem_map.mp hm
    exact get?_eq_none.mp h r hr he
  simp [insert?, hk]

theorem mem_update? {row : α} (h : t.update? row = some t') {r : α} :
    r ∈ t' ↔ r = row ∨ (r ∈ t ∧ key r ≠ key row) := by
  unfold update? at h
  split at h
  · rename_i hk
    cases h
    rw [mem_mapRows]
    constructor
    · rintro ⟨r₀, hr₀, rfl⟩
      split
      · exact .inl rfl
      · exact .inr ⟨hr₀, ‹_›⟩
    · rintro (rfl | ⟨hr, hne⟩)
      · obtain ⟨r₀, hr₀, he⟩ := List.mem_map.mp hk
        exact ⟨r₀, hr₀, if_pos he⟩
      · exact ⟨r, hr, if_neg hne⟩
  · cases h

theorem update?_isSome {row r : α} (hr : r ∈ t) (hk : key r = key row) :
    (t.update? row).isSome := by
  have : key row ∈ t.rows.map key := List.mem_map.mpr ⟨r, hr, hk⟩
  simp [update?, this]

theorem update?_none {row : α} (h : t.update? row = none) : t.get? (key row) = none := by
  unfold update? at h
  split at h
  · cases h
  · rename_i hk
    exact get?_eq_none.mpr fun r hr he => hk (List.mem_map.mpr ⟨r, hr, he⟩)

/-- After an upsert the table holds the new row and the rows of the other keys. -/
theorem mem_upsert {row r : α} : r ∈ t.upsert row ↔ r = row ∨ (r ∈ t ∧ key r ≠ key row) := by
  unfold upsert
  cases hu : t.update? row with
  | some t' => exact mem_update? hu
  | none =>
    have hnone := update?_none hu
    obtain ⟨t', ht'⟩ := Option.isSome_iff_exists.mp (insert?_isSome hnone)
    rw [ht', Option.getD_some, mem_insert? ht']
    constructor
    · rintro (hr | rfl)
      · exact .inr ⟨hr, get?_eq_none.mp hnone r hr⟩
      · exact .inl rfl
    · rintro (rfl | ⟨hr, _⟩)
      · exact .inr rfl
      · exact .inl hr

theorem get?_upsert_self (row : α) : (t.upsert row).get? (key row) = some row :=
  get?_eq_some.mpr ⟨mem_upsert.mpr (.inl rfl), rfl⟩

theorem get?_upsert_of_ne {row : α} {k : κ} (hk : k ≠ key row) :
    (t.upsert row).get? k = t.get? k := by
  apply Option.ext
  intro r
  rw [get?_eq_some, get?_eq_some, mem_upsert]
  constructor
  · rintro ⟨rfl | ⟨hr, _⟩, rfl⟩
    · exact absurd rfl hk
    · exact ⟨hr, rfl⟩
  · rintro ⟨hr, rfl⟩
    exact ⟨.inr ⟨hr, hk⟩, rfl⟩

theorem get?_filterRows {p : α → Bool} {k : κ} :
    (t.filterRows p).get? k = (t.get? k).filter p := by
  apply Option.ext
  intro r
  rw [get?_eq_some, mem_filterRows, Option.filter_eq_some_iff, get?_eq_some]
  exact and_right_comm

end Table
end CitPhysicalXR.Foundation
