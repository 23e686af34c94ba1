import Mathlib

/-! Binary heaps in an array, with the smallest key at the root: the sifts of Python's `heapq`,
under its names, where the root is above. -/
namespace CitPhysicalXR.Foundation.BinaryHeap
variable {α β : Type*} [LinearOrder β] (key : α → β)

/-- `_siftdown`: an entry moves up to where its parent is no larger, and not past `start`. -/
def siftdown (a : Array α) (start pos : ℕ) : Array α :=
  if h : start < pos ∧ pos < a.size then
    have hparent : (pos - 1) / 2 < a.size := by omega
    have hpos : pos < a.size := h.2
    if key a[pos] < key a[(pos - 1) / 2] then
      siftdown (a.swap pos ((pos - 1) / 2)) start ((pos - 1) / 2)
    else a
  else a
termination_by pos

/-- The child that an entry changes places with: the smaller one, and the right one of equals. -/
def smallerChild (a : Array α) (pos : ℕ) : Option (Fin a.size) :=
  if hleft : 2 * pos + 1 < a.size then
    if hright : 2 * pos + 2 < a.size then
      if key a[2 * pos + 1] < key a[2 * pos + 2] then some ⟨2 * pos + 1, hleft⟩
      else some ⟨2 * pos + 2, hright⟩
    else some ⟨2 * pos + 1, hleft⟩
  else none

def IsChild (p c : ℕ) : Prop := c = 2 * p + 1 ∨ c = 2 * p + 2

theorem IsChild.lt {p c : ℕ} (h : IsChild p c) : p < c := by
  unfold IsChild at h
  omega

theorem IsChild.parent {p c : ℕ} (h : IsChild p c) : (c - 1) / 2 = p := by
  unfold IsChild at h
  omega

theorem isChild_parent {c : ℕ} (h : 0 < c) : IsChild ((c - 1) / 2) c := by
  unfold IsChild
  omega

variable {key}

theorem smallerChild_isChild {a : Array α} {pos : ℕ} {c : Fin a.size}
    (h : smallerChild key a pos = some c) : IsChild pos c := by
  unfold smallerChild at h
  split at h
  · split at h
    · split at h
      · exact .inl (congrArg Fin.val (Option.some.inj h)).symm
      · exact .inr (congrArg Fin.val (Option.some.inj h)).symm
    · exact .inl (congrArg Fin.val (Option.some.inj h)).symm
  · cases h

variable (key)

/-- The first half of `_siftup`: an entry moves down to a leaf; the array and where it is. -/
def descend (a : Array α) (pos : ℕ) : Array α × ℕ :=
  match h : smallerChild key a pos with
  | none => (a, pos)
  | some c =>
    have hpos : pos < a.size := Nat.lt_trans (smallerChild_isChild h).lt c.2
    descend (a.swap pos c) c
termination_by a.size - pos
decreasing_by
  have hlt := (smallerChild_isChild h).lt
  simp only [Array.size_swap]
  omega

def siftup (a : Array α) (pos : ℕ) : Array α :=
  let bottom := descend key a pos
  siftdown key bottom.1 pos bottom.2

def heappush (a : Array α) (x : α) : Array α := siftdown key (a.push x) 0 a.size

/-- `heappop`; an empty heap has nothing to pop. -/
def heappop (a : Array α) : Option (α × Array α) :=
  match a.back? with
  | none => none
  | some last =>
    if h : 0 < a.pop.size then
      some (a.pop[0], siftup key (a.pop.set 0 last) 0)
    else some (last, a.pop)

/-- The sifts of `heapify` at the entries below an index, from the last one. -/
def heapifyBelow : ℕ → Array α → Array α
  | 0, a => a
  | i + 1, a => heapifyBelow i (siftup key a i)

def heapify (a : Array α) : Array α := heapifyBelow key (a.size / 2) a

variable {key}

theorem siftdown_perm (a : Array α) (start pos : ℕ) : (siftdown key a start pos).Perm a := by
  fun_induction siftdown key a start pos with
  | case1 a pos h hparent hpos hlt ih => exact ih.trans (Array.swap_perm hpos hparent)
  | case2 => exact .refl _
  | case3 => exact .refl _

theorem descend_perm (a : Array α) (pos : ℕ) : (descend key a pos).1.Perm a := by
  fun_induction descend key a pos with
  | case1 => exact .refl _
  | case2 a pos c h hpos ih => exact ih.trans (Array.swap_perm hpos c.2)

theorem siftup_perm (a : Array α) (pos : ℕ) : (siftup key a pos).Perm a :=
  (siftdown_perm ..).trans (descend_perm a pos)

theorem heappush_perm (a : Array α) (x : α) :
    (heappush key a x).toList.Perm (x :: a.toList) := by
  have hpush : (siftdown key (a.push x) 0 a.size).toList.Perm (a.push x).toList :=
    (siftdown_perm (a.push x) 0 a.size).toList
  rw [Array.toList_push] at hpush
  exact hpush.trans (List.perm_append_singleton x a.toList)

theorem heapifyBelow_perm (n : ℕ) (a : Array α) : (heapifyBelow key n a).Perm a := by
  induction n generalizing a with
  | zero => exact .refl _
  | succ i ih => exact (ih _).trans (siftup_perm a i)

theorem heapify_perm (a : Array α) : (heapify key a).Perm a := heapifyBelow_perm _ a

theorem heapify_toList_perm (items : List α) :
    (heapify key items.toArray).toList.Perm items := (heapify_perm items.toArray).toList

variable (key)

/-- A parent is no larger than its child, where both are there. -/
def InOrder (a : Array α) (p c : ℕ) : Prop :=
  ∀ (hp : p < a.size) (hc : c < a.size), key a[p] ≤ key a[c]

/-- The subtrees of the entries from `start` on are heaps. -/
def HeapFrom (start : ℕ) (a : Array α) : Prop :=
  ∀ p c, start ≤ p → IsChild p c → InOrder key a p c

def IsHeap (a : Array α) : Prop := HeapFrom key 0 a

variable {key}

theorem swap_lt {i j k n : ℕ} (hi : i < n) (hj : j < n) : Equiv.swap i j k < n ↔ k < n := by
  rw [Equiv.swap_apply_def]
  split
  · rename_i h
    simp only [h, hi, hj]
  · split
    · rename_i h
      simp only [h, hi, hj]
    · rfl

theorem getElem_swap {a : Array α} {i j k : ℕ} (hi : i < a.size) (hj : j < a.size)
    (hk : k < (a.swap i j).size) (hk' : Equiv.swap i j k < a.size) :
    (a.swap i j)[k] = a[Equiv.swap i j k] := by
  simp only [Array.getElem_swap, Equiv.swap_apply_def]
  split
  · rfl
  · split
    · rfl
    · rfl

/-- A change of places takes the order along. -/
theorem inOrder_swap {a : Array α} {i j p c : ℕ} (hi : i < a.size) (hj : j < a.size) :
    InOrder key (a.swap i j) p c ↔ InOrder key a (Equiv.swap i j p) (Equiv.swap i j c) := by
  constructor
  · intro h hp hc
    have hp' : p < (a.swap i j).size := by
      rw [Array.size_swap]
      exact (swap_lt hi hj).mp hp
    have hc' : c < (a.swap i j).size := by
      rw [Array.size_swap]
      exact (swap_lt hi hj).mp hc
    have hle := h hp' hc'
    rwa [getElem_swap hi hj hp' hp, getElem_swap hi hj hc' hc] at hle
  · intro h hp hc
    have hp' := (swap_lt hi hj).mpr (by simpa using hp)
    have hc' := (swap_lt hi hj).mpr (by simpa using hc)
    rw [getElem_swap hi hj hp hp', getElem_swap hi hj hc hc']
    exact h hp' hc'

theorem InOrder.trans {a : Array α} {i j k : ℕ} (hj : j < a.size) (hij : InOrder key a i j)
    (hjk : InOrder key a j k) : InOrder key a i k :=
  fun hi hk => (hij hi hj).trans (hjk hj hk)

/-- The places below an entry, itself included. -/
def Below (start : ℕ) : ℕ → Prop := Relation.ReflTransGen IsChild start

theorem Below.le {start pos : ℕ} (h : Below start pos) : start ≤ pos := by
  induction h with
  | refl => exact Nat.le_refl start
  | tail _ hchild ih => exact ih.trans hchild.lt.le

/-- The parent of an entry below `start`, other than `start`, is below it too. -/
theorem Below.parent {start pos : ℕ} (h : Below start pos) (hlt : start < pos) :
    Below start ((pos - 1) / 2) := by
  cases h with
  | refl => exact absurd hlt (Nat.lt_irrefl start)
  | tail hbelow hchild => rwa [hchild.parent]

theorem below_zero (pos : ℕ) : Below 0 pos := by
  induction pos using Nat.strong_induction_on with
  | h pos ih =>
    rcases Nat.eq_zero_or_pos pos with rfl | hpos
    · exact .refl
    · exact .tail (ih _ (isChild_parent hpos).lt) (isChild_parent hpos)

variable (key)

/-- The entry at `pos` may be too small for its parent; everything else is in order, and its
parent is for its children. -/
structure UpReady (start pos : ℕ) (a : Array α) : Prop where
  below : Below start pos
  others : ∀ p c, start ≤ p → IsChild p c → c ≠ pos → InOrder key a p c
  grand : ∀ p c, start ≤ p → IsChild p pos → IsChild pos c → InOrder key a p c

variable {key}

theorem UpReady.swap {start pos : ℕ} {a : Array α} (h : UpReady key start pos a)
    (hstart : start < pos) (hparent : (pos - 1) / 2 < a.size) (hpos : pos < a.size)
    (hlt : key a[pos] < key a[(pos - 1) / 2]) :
    UpReady key start ((pos - 1) / 2) (a.swap pos ((pos - 1) / 2)) := by
  have hchild : IsChild ((pos - 1) / 2) pos := isChild_parent (by omega)
  have hbelow := h.below.parent hstart
  generalize (pos - 1) / 2 = parent at hparent hlt hchild hbelow ⊢
  have hless : InOrder key a pos parent := fun _ _ => hlt.le
  have hne : parent ≠ pos := hchild.lt.ne
  have hedge (p c : ℕ) (hp : start ≤ p) (hpc : IsChild p c) (hc : c ≠ pos) :=
    h.others p c hp hpc hc
  refine ⟨hbelow, ?_, ?_⟩
  · intro p c hp hpc hc
    rw [inOrder_swap hpos hparent]
    by_cases hpparent : p = parent
    · rw [hpparent] at hp hpc ⊢
      rw [Equiv.swap_apply_right]
      by_cases hcpos : c = pos
      · rw [hcpos, Equiv.swap_apply_left]
        exact hless
      · rw [Equiv.swap_apply_of_ne_of_ne hcpos hc]
        exact hless.trans hparent (hedge parent c hp hpc hcpos)
    · by_cases hppos : p = pos
      · rw [hppos] at hpc ⊢
        rw [Equiv.swap_apply_left, Equiv.swap_apply_of_ne_of_ne hpc.lt.ne' hc]
        exact h.grand parent c hbelow.le hchild hpc
      · have hcpos : c ≠ pos := by
          intro hcpos
          rw [hcpos] at hpc
          exact hpparent (hpc.parent.symm.trans hchild.parent)
        rw [Equiv.swap_apply_of_ne_of_ne hppos hpparent, Equiv.swap_apply_of_ne_of_ne hcpos hc]
        exact hedge p c hp hpc hcpos
  · intro p c hp hpparent hpc
    have hup := hedge p parent hp hpparent hne
    have hppos : p ≠ pos := (hpparent.lt.trans hchild.lt).ne
    rw [inOrder_swap hpos hparent, Equiv.swap_apply_of_ne_of_ne hppos hpparent.lt.ne]
    by_cases hcpos : c = pos
    · rw [hcpos, Equiv.swap_apply_left]
      exact hup
    · rw [Equiv.swap_apply_of_ne_of_ne hcpos hpc.lt.ne']
      exact hup.trans hparent (hedge parent c hbelow.le hpc hcpos)

/-- An entry that has reached its place completes the heap. -/
theorem UpReady.finish {start pos : ℕ} {a : Array α} (h : UpReady key start pos a)
    (hstop : start < pos → InOrder key a ((pos - 1) / 2) pos) : HeapFrom key start a := by
  intro p c hp hpc
  by_cases hc : c = pos
  · have hparent : (pos - 1) / 2 = p := (hc ▸ hpc).parent
    have hlt : p < pos := hc ▸ hpc.lt
    rw [hc, ← hparent]
    exact hstop (Nat.lt_of_le_of_lt hp hlt)
  · exact h.others p c hp hpc hc

theorem siftdown_heap {start pos : ℕ} {a : Array α} (h : UpReady key start pos a) :
    HeapFrom key start (siftdown key a start pos) := by
  fun_induction siftdown key a start pos with
  | case1 a pos hlt hparent hpos hless ih => exact ih (h.swap hlt.1 hparent hpos hless)
  | case2 a pos hlt hparent hpos hless =>
    exact h.finish fun _ _ _ => not_lt.mp hless
  | case3 a pos hnot =>
    apply h.finish
    intro hlt _ hpos
    exact absurd ⟨hlt, hpos⟩ hnot

variable (key)

/-- The entry at `pos` may be too large for its children; everything else is in order, and its
parent is for its children. -/
structure DownReady (start pos : ℕ) (a : Array α) : Prop where
  below : Below start pos
  others : ∀ p c, start ≤ p → IsChild p c → c ≠ pos → p ≠ pos → InOrder key a p c
  grand : ∀ p c, start ≤ p → IsChild p pos → IsChild pos c → InOrder key a p c

variable {key}

theorem smallerChild_least {a : Array α} {pos : ℕ} {c : Fin a.size}
    (h : smallerChild key a pos = some c) {d : ℕ} (hd : IsChild pos d) : InOrder key a c d := by
  intro hc hdlt
  have hleft : 2 * pos + 1 < a.size := by
    unfold IsChild at hd
    omega
  simp only [smallerChild, dif_pos hleft] at h
  split at h
  · split at h
    · rename_i hless
      obtain rfl := Option.some.inj h
      rcases hd with rfl | rfl
      · exact le_rfl
      · exact hless.le
    · rename_i hnot
      obtain rfl := Option.some.inj h
      rcases hd with rfl | rfl
      · exact not_lt.mp hnot
      · exact le_rfl
  · rename_i hright
    obtain rfl := Option.some.inj h
    rcases hd with rfl | rfl
    · exact le_rfl
    · exact absurd hdlt hright

theorem smallerChild_none {a : Array α} {pos : ℕ} (h : smallerChild key a pos = none) {d : ℕ}
    (hd : IsChild pos d) : a.size ≤ d := by
  unfold smallerChild at h
  split at h
  · split at h
    · split at h <;> cases h
    · cases h
  · rcases hd with rfl | rfl <;> omega

theorem DownReady.swap {start pos : ℕ} {a : Array α} (h : DownReady key start pos a)
    {c : Fin a.size} (hleast : smallerChild key a pos = some c) (hpos : pos < a.size) :
    DownReady key start c (a.swap pos c) := by
  have hchild := smallerChild_isChild hleast
  have hbelow : Below start c := .tail h.below hchild
  refine ⟨hbelow, ?_, ?_⟩
  · intro p d hp hpd hdc hpc
    rw [inOrder_swap hpos c.2]
    by_cases hppos : p = pos
    · rw [hppos] at hpd ⊢
      rw [Equiv.swap_apply_left, Equiv.swap_apply_of_ne_of_ne hpd.lt.ne' hdc]
      exact smallerChild_least hleast hpd
    · rw [Equiv.swap_apply_of_ne_of_ne hppos hpc]
      by_cases hdpos : d = pos
      · rw [hdpos] at hpd ⊢
        rw [Equiv.swap_apply_left]
        exact h.grand p c hp hpd hchild
      · rw [Equiv.swap_apply_of_ne_of_ne hdpos hdc]
        exact h.others p d hp hpd hdpos hppos
  · intro p d hp hpc hcd
    have hsame : p = pos := hpc.parent.symm.trans hchild.parent
    have hdpos : d ≠ pos := (hchild.lt.trans hcd.lt).ne'
    rw [inOrder_swap hpos c.2, hsame, Equiv.swap_apply_left,
      Equiv.swap_apply_of_ne_of_ne hdpos hcd.lt.ne']
    exact h.others c d hbelow.le hcd hdpos hchild.lt.ne'

/-- At the leaf the entry may only be too small for its parent. -/
theorem descend_ready {start pos : ℕ} {a : Array α} (h : DownReady key start pos a) :
    UpReady key start (descend key a pos).2 (descend key a pos).1 := by
  fun_induction descend key a pos with
  | case1 a pos hnone =>
    refine ⟨h.below, ?_, h.grand⟩
    intro p d hp hpd hd
    by_cases hppos : p = pos
    · intro _ hdlt
      exact absurd hdlt (Nat.not_lt.mpr (smallerChild_none hnone (hppos ▸ hpd)))
    · exact h.others p d hp hpd hd hppos
  | case2 a pos c hsome hpos ih => exact ih (h.swap hsome hpos)

/-- One sift makes a heap of an entry and the heaps below it. -/
theorem siftup_heap {start : ℕ} {a : Array α} (h : HeapFrom key (start + 1) a) :
    HeapFrom key start (siftup key a start) := by
  apply siftdown_heap
  apply descend_ready
  refine ⟨.refl, ?_, ?_⟩
  · intro p c hp hpc _ hpstart
    exact h p c (Nat.lt_of_le_of_ne hp hpstart.symm) hpc
  · intro p c hp hpstart _
    exact absurd hpstart.lt (Nat.not_lt.mpr hp)

theorem heapifyBelow_heap {n : ℕ} {a : Array α} (h : HeapFrom key n a) :
    IsHeap key (heapifyBelow key n a) := by
  induction n generalizing a with
  | zero => exact h
  | succ i ih => exact ih (siftup_heap h)

theorem heapify_heap (a : Array α) : IsHeap key (heapify key a) := by
  apply heapifyBelow_heap
  intro p c hp hpc _ hc
  unfold IsChild at hpc
  omega

theorem heappush_heap {a : Array α} (h : IsHeap key a) (x : α) :
    IsHeap key (heappush key a x) := by
  apply siftdown_heap
  refine ⟨below_zero a.size, ?_, ?_⟩
  · intro p c _ hpc hne hp hc
    have hc' : c < a.size := by
      rw [Array.size_push] at hc
      omega
    have hp' : p < a.size := hpc.lt.trans hc'
    rw [Array.getElem_push_lt hp', Array.getElem_push_lt hc']
    exact h p c (Nat.zero_le p) hpc hp' hc'
  · intro p c _ _ hc _ hlt
    rw [Array.size_push] at hlt
    exact absurd hc.lt (by omega)

theorem IsHeap.root_le {a : Array α} (h : IsHeap key a) (i : ℕ) : InOrder key a 0 i := by
  have hbelow := below_zero i
  intro hroot hi
  induction hbelow with
  | refl => exact le_rfl
  | @tail p c _ hchild ih =>
    have hp : p < a.size := hchild.lt.trans hi
    exact (ih hp).trans (h p c (Nat.zero_le p) hchild hp hi)

theorem heappop_none {a : Array α} : heappop key a = none ↔ a = #[] := by
  unfold heappop
  split
  · rename_i hback
    simpa using hback
  · rename_i last hback
    obtain ⟨front, rfl⟩ := Array.back?_eq_some_iff.mp hback
    split
    · simp
    · simp

/-- What is popped is the least entry, the rest is a heap, and no entry is lost. -/
theorem heappop_spec {a rest : Array α} {x : α} (hheap : IsHeap key a)
    (h : heappop key a = some (x, rest)) :
    a.toList.Perm (x :: rest.toList) ∧ IsHeap key rest ∧ ∀ y ∈ a.toList, key x ≤ key y := by
  unfold heappop at h
  split at h
  · cases h
  · rename_i last hback
    obtain ⟨front, rfl⟩ := Array.back?_eq_some_iff.mp hback
    have hleast (hroot : 0 < (front.push last).size) :
        ∀ y ∈ (front.push last).toList, key (front.push last)[0] ≤ key y := by
      intro y hy
      obtain ⟨i, hi, rfl⟩ := Array.mem_iff_getElem.mp (Array.mem_def.mpr hy)
      exact hheap.root_le i hroot hi
    simp only [Array.pop_push] at h
    split at h
    · rename_i hsize
      obtain ⟨rfl, rfl⟩ := Prod.mk.inj (Option.some.inj h)
      have hroot : 0 < (front.push last).size := by simp
      have hget : (front.push last)[0] = front[0] := Array.getElem_push_lt hsize
      refine ⟨?_, ?_, fun y hy => hget ▸ hleast hroot y hy⟩
      · refine List.Perm.trans ?_ ((siftup_perm _ 0).toList.symm.cons front[0])
        obtain ⟨entries⟩ := front
        cases entries with
        | nil => exact absurd hsize (Nat.lt_irrefl 0)
        | cons root entries => simp [List.perm_append_singleton]
      · apply siftup_heap
        intro p c hp hpc hpsize hcsize
        have hc : c < front.size := by simpa using hcsize
        have hplt : p < front.size := hpc.lt.trans hc
        have hedge := hheap p c (Nat.zero_le p) hpc (by simp; omega) (by simp; omega)
        rw [Array.getElem_push_lt hplt, Array.getElem_push_lt hc] at hedge
        have hpne : 0 ≠ p := by omega
        have hcne : 0 ≠ c := by
          have := hpc.lt
          omega
        rwa [Array.getElem_set_ne hsize hplt hpne, Array.getElem_set_ne hsize hc hcne]
    · rename_i hsize
      obtain ⟨rfl, rfl⟩ := Prod.mk.inj (Option.some.inj h)
      have hempty : front = #[] := Array.eq_empty_of_size_eq_zero (by omega)
      subst hempty
      refine ⟨by simp, ?_, ?_⟩
      · intro p c _ _ hp
        exact absurd hp (Nat.not_lt_zero p)
      · intro y hy
        obtain rfl : y = last := by simpa using hy
        exact le_rfl

end CitPhysicalXR.Foundation.BinaryHeap
