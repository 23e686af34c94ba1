import Mathlib.Data.List.Nodup
import Mathlib.Tactic.Common

/-! Tables with several unique columns, `INSERT OR IGNORE` and upserts into them. -/
namespace CitPhysicalXR.Foundation

structure UniqueTable {α κ : Type*} (keys : List (α → κ)) where
  rows : List α
  unique : ∀ key ∈ keys, (rows.map key).Nodup

namespace UniqueTable
variable {α κ : Type*} {keys : List (α → κ)}

def empty : UniqueTable keys := ⟨[], fun _ _ => List.nodup_nil⟩

instance : Membership α (UniqueTable keys) := ⟨fun t r => r ∈ t.rows⟩

@[simp] theorem mem_rows {t : UniqueTable keys} {r : α} : r ∈ t.rows ↔ r ∈ t := Iff.rfl

@[simp] theorem not_mem_empty (r : α) : ¬ r ∈ (empty : UniqueTable keys) := List.not_mem_nil

/-- Rows that agree in one unique column are the same row. -/
theorem eq_of_key_eq {t : UniqueTable keys} {key : α → κ} (hkey : key ∈ keys) {r r' : α}
    (h : r ∈ t) (h' : r' ∈ t) (heq : key r = key r') : r = r' :=
  List.inj_on_of_nodup_map (t.unique key hkey) h h' heq

variable (t : UniqueTable keys)

def delete (p : α → Prop) [DecidablePred p] : UniqueTable keys where
  rows := t.rows.filter fun r => ¬ p r
  unique key hkey := (List.filter_sublist.map key).nodup (t.unique key hkey)

theorem mem_delete {p : α → Prop} [DecidablePred p] {r : α} : r ∈ t.delete p ↔ r ∈ t ∧ ¬ p r := by
  change r ∈ t.rows.filter _ ↔ _
  simp

/-- `UPDATE … WHERE p` of columns that are not unique. -/
def update (p : α → Prop) [DecidablePred p] (f : α → α)
    (hf : ∀ key ∈ keys, ∀ r, key (f r) = key r) : UniqueTable keys where
  rows := t.rows.map fun r => if p r then f r else r
  unique key hkey := by
    have hsame : (t.rows.map fun r => if p r then f r else r).map key = t.rows.map key := by
      rw [List.map_map]
      apply List.map_congr_left
      intro r _
      simp only [Function.comp_apply]
      split
      · exact hf key hkey r
      · rfl
    rw [hsame]
    exact t.unique key hkey

theorem mem_update {p : α → Prop} [DecidablePred p] {f : α → α}
    (hf : ∀ key ∈ keys, ∀ r, key (f r) = key r) {r : α} :
    r ∈ t.update p f hf ↔ (∃ r₀ ∈ t, p r₀ ∧ f r₀ = r) ∨ (r ∈ t ∧ ¬ p r) := by
  change r ∈ t.rows.map _ ↔ _
  rw [List.mem_map]
  constructor
  · rintro ⟨r₀, hr₀, rfl⟩
    by_cases hp : p r₀
    · left
      exact ⟨r₀, hr₀, hp, by rw [if_pos hp]⟩
    · right
      rw [if_neg hp]
      exact ⟨hr₀, hp⟩
  · intro h
    rcases h with ⟨r₀, hr₀, hp, rfl⟩ | ⟨hr, hp⟩
    · exact ⟨r₀, hr₀, if_pos hp⟩
    · exact ⟨r, hr, if_neg hp⟩

/-- `SELECT … WHERE p`, the first row. -/
def find? (p : α → Prop) [DecidablePred p] : Option α := t.rows.find? fun r => p r

theorem find?_some {p : α → Prop} [DecidablePred p] {r : α} (h : t.find? p = some r) :
    r ∈ t ∧ p r :=
  ⟨List.mem_of_find?_eq_some h, by simpa using List.find?_some h⟩

theorem find?_none {p : α → Prop} [DecidablePred p] : t.find? p = none ↔ ∀ r ∈ t, ¬ p r := by
  simp [find?, List.find?_eq_none]

section Insert
variable [DecidableEq κ]

/-- A row that agrees with the new one in a unique column. -/
def Clashes (row : α) : Prop := ∃ r ∈ t.rows, ∃ key ∈ keys, key r = key row

instance (row : α) : Decidable (t.Clashes row) := inferInstanceAs (Decidable (∃ r ∈ t.rows, _))

/-- `INSERT OR IGNORE`: nothing happens when a unique column is taken. -/
def insertOrIgnore (row : α) : UniqueTable keys :=
  if h : t.Clashes row then t
  else
    { rows := t.rows ++ [row]
      unique := by
        intro key hkey
        rw [List.map_append, List.map_singleton, List.nodup_append]
        refine ⟨t.unique key hkey, List.nodup_singleton _, ?_⟩
        intro a ha b hb hab
        obtain ⟨r, hr, rfl⟩ := List.mem_map.mp ha
        obtain rfl := List.mem_singleton.mp hb
        exact h ⟨r, hr, key, hkey, hab⟩ }

theorem mem_insertOrIgnore {row r : α} :
    r ∈ t.insertOrIgnore row ↔ r ∈ t ∨ (r = row ∧ ¬ t.Clashes row) := by
  by_cases h : t.Clashes row
  · simp [insertOrIgnore, h]
  · simp only [insertOrIgnore, dif_neg h]
    change r ∈ t.rows ++ [row] ↔ _
    simp [h]

/-- Rows that repeat nothing in a unique column. -/
def ofRows? (rows : List α) : Option (UniqueTable keys) :=
  if h : ∀ key ∈ keys, (rows.map key).Nodup then some ⟨rows, h⟩ else none

theorem ofRows?_some {rows : List α} {t : UniqueTable keys} (h : ofRows? rows = some t) :
    t.rows = rows := by
  unfold ofRows? at h
  split at h
  · cases h
    rfl
  · cases h

/-- `INSERT … ON CONFLICT(key) DO UPDATE`: the row of the key is merged with the new one, or a
row is added; refused when a unique column would repeat. -/
def upsert? (key : α → κ) (row : α) (merge : α → α) : Option (UniqueTable keys) :=
  ofRows? (if ∃ r ∈ t.rows, key r = key row then
      t.rows.map fun r => if key r = key row then merge r else r
    else t.rows ++ [row])

variable {t} {t' : UniqueTable keys} {key : α → κ} {row : α} {merge : α → α}

theorem upsert?_inserted (h : t.upsert? key row merge = some t')
    (hfree : ∀ r ∈ t, key r ≠ key row) : t'.rows = t.rows ++ [row] := by
  rw [ofRows?_some h, if_neg]
  rintro ⟨r, hr, hkey⟩
  exact hfree r hr hkey

theorem upsert?_merged (h : t.upsert? key row merge = some t')
    (htaken : ∃ r ∈ t, key r = key row) :
    t'.rows = t.rows.map fun r => if key r = key row then merge r else r := by
  rw [ofRows?_some h]
  exact if_pos htaken

theorem mem_upsert? (h : t.upsert? key row merge = some t') {r : α} (hr : r ∈ t') :
    r = row ∨ (∃ r₀ ∈ t, r = merge r₀) ∨ r ∈ t ∧ key r ≠ key row := by
  by_cases htaken : ∃ r ∈ t, key r = key row
  · rw [← mem_rows, upsert?_merged h htaken] at hr
    obtain ⟨r₀, hr₀, rfl⟩ := List.mem_map.mp hr
    split
    · exact .inr (.inl ⟨r₀, hr₀, rfl⟩)
    · rename_i hkey
      exact .inr (.inr ⟨hr₀, hkey⟩)
  · have hfree : ∀ r ∈ t, key r ≠ key row := fun r hr hkey => htaken ⟨r, hr, hkey⟩
    rw [← mem_rows, upsert?_inserted h hfree] at hr
    rcases List.mem_append.mp hr with hr | hr
    · exact .inr (.inr ⟨hr, hfree r hr⟩)
    · exact .inl (List.mem_singleton.mp hr)

end Insert
end UniqueTable
end CitPhysicalXR.Foundation
