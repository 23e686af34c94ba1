import CitPhysicalXR.Foundation.OrderedRows
import CitPhysicalXR.Foundation.Transition
import Mathlib.Data.List.DropRight

/-! Readers of a growing stream: records under ascending numbers, pages of the records behind a
cursor that match a filter, and what a reader that follows its cursor has received. -/
namespace CitPhysicalXR.Foundation

variable {β : Type*} (number : β → ℤ) (p : β → Bool)

namespace Stream

def Ascending (rows : List β) : Prop := rows.Pairwise fun first second => number first < number second

/-- The matching records behind a number. -/
def selected (start : ℤ) (rows : List β) : List β :=
  rows.filter fun row => start < number row && p row

/-- `SELECT … WHERE number > after AND p ORDER BY number ASC LIMIT limit`. -/
def page (after : ℤ) (limit : ℕ) (rows : List β) : List β :=
  (orderedBy number (selected number p after rows)).take limit

/-- The same, `ORDER BY number DESC`, and the rows reversed. -/
def latestPage (after : ℤ) (limit : ℕ) (rows : List β) : List β :=
  ((orderedBy number (selected number p after rows)).reverse.take limit).reverse

variable {number p} {rows more : List β}

theorem Ascending.selected (h : Ascending number rows) (start : ℤ) :
    Ascending number (selected number p start rows) :=
  List.Pairwise.sublist List.filter_sublist h

theorem Ascending.orderedBy_eq (h : Ascending number rows) : orderedBy number rows = rows :=
  eq_of_perm_of_strict (orderedBy_perm rows) h (orderedBy_pairwise rows)

theorem page_eq (h : Ascending number rows) (after : ℤ) (limit : ℕ) :
    page number p after limit rows = (selected number p after rows).take limit := by
  rw [page, (h.selected after).orderedBy_eq]

theorem latestPage_eq (h : Ascending number rows) (after : ℤ) (limit : ℕ) :
    latestPage number p after limit rows = (selected number p after rows).rtake limit := by
  rw [latestPage, (h.selected after).orderedBy_eq, List.rtake_eq_reverse_take_reverse]

theorem selected_append (start : ℤ) (rows more : List β) :
    selected number p start (rows ++ more) =
      selected number p start rows ++ selected number p start more :=
  List.filter_append rows more

/-- Behind a later number are the records of an earlier one that are behind it. -/
theorem selected_selected {start later : ℤ} (h : start ≤ later) (rows : List β) :
    selected number (fun _ => true) later (selected number p start rows) =
      selected number p later rows := by
  rw [selected, selected, selected, List.filter_filter]
  apply List.filter_congr
  intro row _
  by_cases hlater : later < number row
  · simp [hlater, lt_of_le_of_lt h hlater]
  · simp [hlater]

theorem selected_behind {before after : List β} {row : β}
    (h : Ascending number (before ++ row :: after)) :
    selected number (fun _ => true) (number row) (before ++ row :: after) = after := by
  have hparts := List.pairwise_append.mp h
  have hafter := List.pairwise_cons.mp hparts.2.1
  rw [selected, List.filter_append, List.filter_cons, List.filter_eq_nil_iff.mpr,
    List.filter_eq_self.mpr, List.nil_append, if_neg]
  · simp
  · intro other hother
    simpa using hafter.1 other hother
  · intro other hother
    simpa using (hparts.2.2 other hother row List.mem_cons_self).le

variable (β) in
structure Reader where
  cursor : ℤ
  received : List β

variable (number) in
def Reader.receive (reader : Reader β) (items : List β) : Reader β where
  cursor := (items.getLast?.map number).getD reader.cursor
  received := reader.received ++ items

variable (number p) in
/-- A reader asks for a page behind its cursor and receives the first records of it before its
connection ends. -/
def Reader.read (reader : Reader β) (limit seen : ℕ) (rows : List β) : Reader β :=
  reader.receive number ((page number p reader.cursor limit rows).take seen)

variable (number p) in
structure Follows (start : ℤ) (rows : List β) (reader : Reader β) : Prop where
  ascending : Ascending number rows
  split : selected number p start rows = reader.received ++ selected number p reader.cursor rows
  cursor : reader.cursor = start ∨
    start < reader.cursor ∧ ∃ row ∈ rows, number row = reader.cursor

variable {start : ℤ} {reader : Reader β} {limit seen : ℕ}

theorem follows_start (start : ℤ) : Follows number p start [] ⟨start, []⟩ :=
  ⟨.nil, rfl, .inl rfl⟩

theorem Follows.start_le (h : Follows number p start rows reader) : start ≤ reader.cursor := by
  rcases h.cursor with hstart | ⟨hlt, _⟩
  · exact hstart.ge
  · exact hlt.le

theorem Follows.append (h : Follows number p start rows reader)
    (hascending : Ascending number (rows ++ more)) :
    Follows number p start (rows ++ more) reader := by
  have hmore : selected number p start more = selected number p reader.cursor more := by
    apply List.filter_congr
    intro row hrow
    rcases h.cursor with hstart | ⟨hlt, last, hlast, hnumber⟩
    · rw [hstart]
    · have hbehind := (List.pairwise_append.mp hascending).2.2 last hlast row hrow
      have hcursor : reader.cursor < number row := hnumber ▸ hbehind
      simp [hcursor, hlt.trans hcursor]
  refine ⟨hascending, ?_, h.cursor.imp_right ?_⟩
  · rw [selected_append, selected_append, h.split, hmore, List.append_assoc]
  · intro hcursor
    obtain ⟨hlt, last, hlast, hnumber⟩ := hcursor
    exact ⟨hlt, last, List.mem_append_left more hlast, hnumber⟩

theorem Follows.items_eq (h : Follows number p start rows reader) (limit seen : ℕ) :
    (page number p reader.cursor limit rows).take seen =
      (selected number p reader.cursor rows).take (min seen limit) := by
  rw [page_eq h.ascending, List.take_take]

/-- A page continues what was received. -/
theorem Follows.read (h : Follows number p start rows reader) (limit seen : ℕ) :
    Follows number p start rows (reader.read number p limit seen rows) := by
  have hitems := h.items_eq limit seen
  generalize hcount : min seen limit = count at hitems
  rcases List.eq_nil_or_concat ((selected number p reader.cursor rows).take count) with
    hnone | ⟨before, last, hsome⟩
  · have hsame : reader.read number p limit seen rows = reader := by
      rw [Reader.read, Reader.receive]
      simp [hitems, hnone]
    rw [hsame]
    exact h
  · rw [List.concat_eq_append] at hsome
    have hread : reader.read number p limit seen rows =
        { cursor := number last, received := reader.received ++ (before ++ [last]) } := by
      rw [Reader.read, Reader.receive]
      simp [hitems, hsome]
    obtain ⟨rest, hrest⟩ : ∃ rest,
        selected number p reader.cursor rows = before ++ last :: rest := by
      refine ⟨(selected number p reader.cursor rows).drop count, ?_⟩
      rw [List.append_cons, ← hsome, List.take_append_drop]
    have hlast : last ∈ selected number p reader.cursor rows := by
      rw [hrest]
      simp
    have hbehind : reader.cursor < number last := by
      have hmatch := (List.mem_filter.mp hlast).2
      simp only [Bool.and_eq_true, decide_eq_true_eq] at hmatch
      exact hmatch.1
    have hnext : selected number p (number last) rows = rest := by
      rw [← selected_selected hbehind.le, hrest]
      exact selected_behind (hrest ▸ h.ascending.selected reader.cursor)
    rw [hread]
    refine ⟨h.ascending, ?_, .inr ⟨lt_of_le_of_lt h.start_le hbehind, last, ?_, rfl⟩⟩
    · rw [h.split, hnext, hrest]
      simp
    · exact (List.mem_filter.mp hlast).1

/-- What a reader has received is the first part of the matching records, each of them once and
in order. -/
theorem Follows.received_prefix (h : Follows number p start rows reader) :
    reader.received <+: selected number p start rows := ⟨_, h.split.symm⟩

/-- A page brings the reader on by as many records as it shows, until it has caught up. -/
theorem Follows.received_read (h : Follows number p start rows reader) (limit seen : ℕ) :
    (reader.read number p limit seen rows).received =
      (selected number p start rows).take (reader.received.length + min seen limit) := by
  rw [h.split, List.take_append, List.take_of_length_le (Nat.le_add_right _ _),
    Nat.add_sub_cancel_left]
  rw [Reader.read, Reader.receive, h.items_eq limit seen]

inductive Event (β : Type*) where
  | append (more : List β)
  | read (limit seen : ℕ)

/-- A page that shows something, if there is something. -/
def Event.shows : Event β → Bool
  | .append _ => false
  | .read limit seen => 0 < min seen limit

variable (number p) in
/-- A stream from its beginning, and a reader that begins at a number. -/
def readers (start : ℤ) : Machine (List β × Reader β) (Event β) Empty where
  Initial s := s = ([], ⟨start, []⟩)
  Step s event s' _ :=
    match event with
    | .append more => Ascending number (s.1 ++ more) ∧ s' = (s.1 ++ more, s.2)
    | .read limit seen => s' = (s.1, s.2.read number p limit seen s.1)

variable {s s' : List β × Reader β} {trace : List (Event β × List Empty)}

theorem Follows.step {event : Event β} {out : List Empty} (h : Follows number p start s.1 s.2)
    (hstep : (readers number p start).Step s event s' out) : Follows number p start s'.1 s'.2 := by
  cases event with
  | append more =>
    obtain ⟨hascending, rfl⟩ := hstep
    exact h.append hascending
  | read limit seen =>
    obtain rfl := hstep
    exact h.read limit seen

/-- The reader keeps what it has, and each page that shows something brings it on until it has
what matched in the beginning. -/
theorem Follows.steps (h : Follows number p start s.1 s.2)
    (hsteps : (readers number p start).Steps s trace s') :
    s.1 <+: s'.1 ∧ min (trace.countP fun entry => entry.1.shows)
      (selected number p start s.1).length ≤ s'.2.received.length := by
  induction hsteps with
  | nil => simp
  | @snoc trace mid event last out hsteps hstep ih =>
    obtain ⟨hgrown, hcount⟩ := ih
    have hmid := hsteps.preserves (P := fun s => Follows number p start s.1 s.2)
      (fun h hstep => h.step hstep) h
    rw [List.countP_append, List.countP_singleton]
    cases event with
    | append more =>
      obtain ⟨_, rfl⟩ := hstep
      refine ⟨hgrown.trans (List.prefix_append mid.1 more), ?_⟩
      simpa [Event.shows] using hcount
    | read limit seen =>
      obtain rfl := hstep
      have hlength : (selected number p start s.1).length ≤
          (selected number p start mid.1).length :=
        (hgrown.filter _).length_le
      refine ⟨hgrown, ?_⟩
      rw [hmid.received_read limit seen, List.length_take]
      have hreceived := hmid.received_prefix.length_le
      by_cases hshows : (Event.read limit seen : Event β).shows = true
      · have hpositive : 0 < min seen limit := of_decide_eq_true hshows
        rw [if_pos hshows]
        omega
      · rw [if_neg hshows]
        omega

/-- A reader that goes on reading receives every record that matches. -/
theorem Follows.catches_up (h : Follows number p start s.1 s.2)
    (hsteps : (readers number p start).Steps s trace s')
    (henough : (selected number p start s.1).length ≤ trace.countP fun entry => entry.1.shows) :
    selected number p start s.1 <+: s'.2.received := by
  obtain ⟨hgrown, hcount⟩ := h.steps hsteps
  have hlast := hsteps.preserves (P := fun s => Follows number p start s.1 s.2)
    (fun h hstep => h.step hstep) h
  rw [Nat.min_eq_right henough] at hcount
  exact List.prefix_of_prefix_length_le (hgrown.filter _) hlast.received_prefix hcount

end Stream
end CitPhysicalXR.Foundation
