import Mathlib.Data.List.Sort
import Mathlib.Order.Defs.LinearOrder

/-! Rows of a query in the order of a column, cut off at a limit. -/
namespace CitPhysicalXR.Foundation

variable {α κ : Type*} [LinearOrder κ] (key : α → κ)

/-- `ORDER BY key ASC`. -/
def orderedBy (rows : List α) : List α :=
  rows.insertionSort fun first second => key first ≤ key second

variable {key}

theorem orderedBy_perm (rows : List α) : (orderedBy key rows).Perm rows :=
  List.perm_insertionSort _ rows

@[simp] theorem mem_orderedBy {rows : List α} {row : α} : row ∈ orderedBy key rows ↔ row ∈ rows :=
  (orderedBy_perm rows).mem_iff

theorem orderedBy_pairwise (rows : List α) :
    (orderedBy key rows).Pairwise fun first second => key first ≤ key second := by
  have htotal : Std.Total fun first second : α => key first ≤ key second :=
    ⟨fun first second => le_total (key first) (key second)⟩
  have htrans : IsTrans α fun first second => key first ≤ key second := ⟨fun _ _ _ => le_trans⟩
  exact List.pairwise_insertionSort _ rows

theorem eq_of_perm_of_strict {rows sorted : List α} (hperm : sorted.Perm rows)
    (hrows : rows.Pairwise fun first second => key first < key second)
    (hsorted : sorted.Pairwise fun first second => key first ≤ key second) : sorted = rows := by
  have hkeys : (sorted.map key).Nodup := by
    rw [(hperm.map key).nodup_iff]
    exact (List.pairwise_map.mpr hrows).imp ne_of_lt
  have hstrict : sorted.Pairwise fun first second => key first < key second := by
    have hboth := hsorted.and (List.pairwise_map.mp hkeys)
    exact hboth.imp fun h => lt_of_le_of_ne h.1 h.2
  refine hperm.eq_of_pairwise ?_ hstrict hrows
  intro first second _ _ hlt hgt
  exact absurd hlt (lt_asymm hgt)

theorem filter_orderedBy {rows : List α} (p : α → Bool)
    (h : (rows.filter p).Pairwise fun first second => key first < key second) :
    (orderedBy key rows).filter p = rows.filter p :=
  eq_of_perm_of_strict ((orderedBy_perm rows).filter p) h
    ((orderedBy_pairwise rows).sublist List.filter_sublist)

theorem filter_take_orderedBy {rows : List α} (p : α → Bool) (limit : ℕ)
    (h : (rows.filter p).Pairwise fun first second => key first < key second) :
    ((orderedBy key rows).take limit).filter p <+: rows.filter p := by
  rw [← filter_orderedBy p h]
  exact (List.take_prefix limit _).filter p

theorem mem_before_of_lt {rows before after : List α} {first row : α}
    (hsplit : orderedBy key rows = before ++ row :: after) (hfirst : first ∈ rows)
    (hlt : key first < key row) : first ∈ before := by
  have hsorted : (before ++ row :: after).Pairwise fun first second => key first ≤ key second :=
    hsplit ▸ orderedBy_pairwise rows
  have hmem : first ∈ before ++ row :: after := hsplit ▸ mem_orderedBy.mpr hfirst
  rw [List.pairwise_append, List.pairwise_cons] at hsorted
  rcases List.mem_append.mp hmem with hbefore | hmem
  · exact hbefore
  · rcases List.mem_cons.mp hmem with rfl | hafter
    · exact absurd hlt (lt_irrefl _)
    · exact absurd (hsorted.2.1.1 first hafter) (not_le.mpr hlt)

theorem mem_before_of_lt_take {rows before after : List α} {first row : α} {limit : ℕ}
    (hsplit : (orderedBy key rows).take limit = before ++ row :: after) (hfirst : first ∈ rows)
    (hlt : key first < key row) : first ∈ before := by
  have hwhole : orderedBy key rows =
      before ++ row :: (after ++ (orderedBy key rows).drop limit) := by
    rw [← List.cons_append, ← List.append_assoc, ← hsplit, List.take_append_drop]
  exact mem_before_of_lt hwhole hfirst hlt

end CitPhysicalXR.Foundation
