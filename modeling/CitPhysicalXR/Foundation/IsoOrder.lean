import CitPhysicalXR.Foundation.PyIsoFormat
import Mathlib.Data.String.Basic
import Mathlib.Tactic.IntervalCases

/-! The texts of datetimes at UTC compare, character by character, as their instants do. -/
namespace CitPhysicalXR.Foundation

theorem append_lt_append {x y r s : List Char} (hlength : x.length = y.length)
    (h : x ++ r < y ++ s) : x < y ∨ x = y ∧ r < s := by
  induction x generalizing y with
  | nil =>
    have hnil : y = [] := List.length_eq_zero_iff.mp hlength.symm
    subst hnil
    exact .inr ⟨rfl, h⟩
  | cons c x ih =>
    cases y with
    | nil => cases hlength
    | cons d y =>
      rw [List.cons_append, List.cons_append, List.cons_lt_cons_iff] at h
      rw [List.cons_lt_cons_iff]
      obtain hchar | ⟨hchar, h⟩ := h
      · exact .inl (.inl hchar)
      · obtain h | ⟨h, hrest⟩ := ih (Nat.succ.inj hlength) h
        · exact .inl (.inr ⟨hchar, h⟩)
        · exact .inr ⟨by rw [hchar, h], hrest⟩

namespace Datetime
open Instant

theorem digitChar_lt : ∀ a < 10, ∀ b < 10, Nat.digitChar a < Nat.digitChar b → a < b := by
  decide

variable {width n m : ℕ} {t s : Datetime}

theorem digits_inj (hn : n < 10 ^ width) (hm : m < 10 ^ width)
    (h : digits width n = digits width m) : n = m := by
  have hvalue := foldl_digits width n
  rw [h, foldl_digits, Nat.mod_eq_of_lt hn, Nat.mod_eq_of_lt hm] at hvalue
  exact hvalue.symm

theorem lt_of_digits_lt (hn : n < 10 ^ width) (hm : m < 10 ^ width)
    (h : digits width n < digits width m) : n < m := by
  induction width generalizing n m with
  | zero => cases h
  | succ width ih =>
    rw [Nat.pow_succ] at hn hm
    have hlength : (digits width (n / 10)).length = (digits width (m / 10)).length := by
      rw [length_digits, length_digits]
    obtain h | ⟨heq, h⟩ := append_lt_append hlength h
    · have := ih (by omega) (by omega) h
      omega
    · have htens := digits_inj (by omega) (by omega) heq
      have hchar : Nat.digitChar (n % 10) < Nat.digitChar (m % 10) := by
        simpa [List.cons_lt_cons_iff] using h
      have := digitChar_lt _ (Nat.mod_lt _ (by decide)) _ (Nat.mod_lt _ (by decide)) hchar
      omega

theorem field_lt (hn : n < 10 ^ width) (hm : m < 10 ^ width) {c : Char}
    {r s : List Char} (h : digits width n ++ c :: r < digits width m ++ c :: s) :
    n < m ∨ n = m ∧ r < s := by
  obtain h | ⟨heq, h⟩ := append_lt_append (by rw [length_digits, length_digits]) h
  · exact .inl (lt_of_digits_lt hn hm h)
  · exact .inr ⟨digits_inj hn hm heq, List.cons_lt_cons_self.mp h⟩

/-- A text without a fraction goes on with `+`, which stands before the point of a fraction. -/
theorem fraction_lt (hn : n < 10 ^ 6) (hm : m < 10 ^ 6) {zone : List Char}
    (h : fractionChars n ++ '+' :: zone < fractionChars m ++ '+' :: zone) : n < m := by
  have hirrefl : ¬ '+' :: zone < '+' :: zone := lt_irrefl _
  unfold fractionChars at h
  split at h <;> split at h
  · exact absurd h hirrefl
  · omega
  · have hpoint : ¬ '.' < '+' := by decide
    simp [List.cons_lt_cons_iff, hpoint] at h
  · obtain h | ⟨_, h⟩ := append_lt_append (by rw [length_digits, length_digits])
      (List.cons_lt_cons_self.mp h)
    · exact lt_of_digits_lt hn hm h
    · exact absurd h hirrefl

/-- The microseconds since midnight. -/
def clock (t : DatetimeFields) : ℕ :=
  ((t.hour * 60 + t.minute) * 60 + t.second) * 1000000 + t.microsecond

/-- The order of the years, then of the months, of the days and of the times of day. -/
def IsBefore (s t : DatetimeFields) : Prop :=
  s.year < t.year ∨ s.year = t.year ∧ (s.month < t.month ∨ s.month = t.month ∧
    (s.day < t.day ∨ s.day = t.day ∧ clock s < clock t))

theorem isoformat_utc (h : t.1.offset = 0) :
    t.isoformat.toList = digits 4 t.1.year ++ '-' :: (digits 2 t.1.month ++ '-' ::
      (digits 2 t.1.day ++ 'T' :: (digits 2 t.1.hour ++ ':' :: (digits 2 t.1.minute ++ ':' ::
        (digits 2 t.1.second ++ (fractionChars t.1.microsecond ++ '+' :: offsetChars 0)))))) := by
  have hahead : t.1.ahead = true := t.2.2.2.2.2.2.2.2.2 h
  simp only [isoformat, String.toList_ofList, List.append_assoc, List.cons_append, hahead, h,
    if_true]

theorem daysInMonth_le (year month : ℕ) : daysInMonth year month ≤ 31 := by
  unfold daysInMonth
  split_ifs <;> omega

theorem isBefore_of_lt (hs : s.1.offset = 0) (ht : t.1.offset = 0)
    (h : s.isoformat < t.isoformat) : IsBefore s.1 t.1 := by
  obtain ⟨⟨_, hyear⟩, ⟨_, hmonth⟩, ⟨_, hday⟩, hhour, hminute, hsecond, hfraction, _⟩ := s.2
  obtain ⟨⟨_, hyear'⟩, ⟨_, hmonth'⟩, ⟨_, hday'⟩, hhour', hminute', hsecond', hfraction', _⟩ := t.2
  have hdays := daysInMonth_le s.1.year s.1.month
  have hdays' := daysInMonth_le t.1.year t.1.month
  rw [String.lt_iff_toList_lt, isoformat_utc hs, isoformat_utc ht] at h
  unfold IsBefore
  obtain h | ⟨hyears, h⟩ := field_lt (by omega) (by omega) h
  · exact .inl h
  refine .inr ⟨hyears, ?_⟩
  obtain h | ⟨hmonths, h⟩ := field_lt (by omega) (by omega) h
  · exact .inl h
  refine .inr ⟨hmonths, ?_⟩
  obtain h | ⟨hdates, h⟩ := field_lt (by omega) (by omega) h
  · exact .inl h
  refine .inr ⟨hdates, ?_⟩
  unfold clock
  obtain h | ⟨hhours, h⟩ := field_lt (by omega) (by omega) h
  · omega
  obtain h | ⟨hminutes, h⟩ := field_lt (by omega) (by omega) h
  · omega
  obtain h | ⟨heq, h⟩ := append_lt_append (by rw [length_digits, length_digits]) h
  · have hseconds := lt_of_digits_lt (by omega) (by omega) h
    omega
  · have hseconds := digits_inj (by omega) (by omega) heq
    have hfractions := fraction_lt (by omega) (by omega) h
    omega

/-- The days of the years that have passed, then those of the months since March. -/
theorem dayCount_eq (year month day : ℤ) :
    dayCount year month day =
      (if month ≤ 2 then
        365 * (year - 1) + (year - 1) / 4 - (year - 1) / 100 + (year - 1) / 400 +
          (153 * (month + 9) + 2) / 5
      else 365 * year + year / 4 - year / 100 + year / 400 + (153 * (month - 3) + 2) / 5) +
      day - 719469 := by
  simp only [dayCount]
  split_ifs <;> omega

theorem dayCount_month_lt {year month month' day day' : ℕ} (hmonth : 1 ≤ month)
    (hlt : month < month') (hle : month' ≤ 12) (hday : day ≤ daysInMonth year month)
    (hday' : 1 ≤ day') :
    dayCount year month day < dayCount year month' day' := by
  rw [dayCount_eq, dayCount_eq]
  have hmonth12 : month < 12 := by omega
  unfold daysInMonth at hday
  interval_cases month <;> simp at hday ⊢ <;> split_ifs at * <;> omega

theorem dayCount_year_lt {year year' month month' day day' : ℕ} (hlt : year < year')
    (hmonth : 1 ≤ month) (hle : month ≤ 12) (hday : day ≤ daysInMonth year month)
    (hmonth' : 1 ≤ month') (hday' : 1 ≤ day') :
    dayCount year month day < dayCount year' month' day' := by
  have hend : dayCount year month day ≤ dayCount year 12 31 := by
    obtain hearlier | rfl := Nat.lt_or_eq_of_le hle
    · have hlast : dayCount year month day < dayCount year (12 : ℕ) (31 : ℕ) :=
        dayCount_month_lt hmonth hearlier (Nat.le_refl 12) hday (by omega)
      exact Int.le_of_lt hlast
    · have hdays := daysInMonth_le year 12
      rw [dayCount_eq, dayCount_eq]
      simp only [Nat.cast_ofNat]
      omega
  have hstart : dayCount year 12 31 < dayCount year' month' day' := by
    rw [dayCount_eq, dayCount_eq]
    split_ifs <;> omega
  exact Int.lt_of_le_of_lt hend hstart

theorem instant_utc (h : t.1.offset = 0) :
    t.instant = dayCount t.1.year t.1.month t.1.day * 86400000000 + (clock t.1 : ℤ) := by
  simp [instant, clock, h]

theorem instant_lt_of_isBefore (hs : s.1.offset = 0) (ht : t.1.offset = 0)
    (h : IsBefore s.1 t.1) : s.instant < t.instant := by
  obtain ⟨_, ⟨hmonth, hmonths⟩, ⟨_, hday⟩, hhour, hminute, hsecond, hfraction, _⟩ := s.2
  obtain ⟨_, ⟨hmonth', hmonths'⟩, ⟨hday', _⟩, _⟩ := t.2
  have hclock : clock s.1 < 86400000000 := by
    unfold clock
    omega
  have hdays : dayCount s.1.year s.1.month s.1.day < dayCount t.1.year t.1.month t.1.day ∨
      dayCount s.1.year s.1.month s.1.day = dayCount t.1.year t.1.month t.1.day ∧
        clock s.1 < clock t.1 := by
    obtain hyear | ⟨hyear, hmonthly | ⟨hsame, hdaily | ⟨hdate, hclocks⟩⟩⟩ := h
    · exact .inl (dayCount_year_lt hyear hmonth hmonths hday hmonth' hday')
    · rw [← hyear]
      exact .inl (dayCount_month_lt hmonth hmonthly hmonths' hday hday')
    · rw [← hyear, ← hsame]
      refine .inl ?_
      rw [dayCount_eq, dayCount_eq]
      omega
    · exact .inr ⟨by rw [hyear, hsame, hdate], hclocks⟩
  rw [instant_utc hs, instant_utc ht]
  show (_ : ℤ) < _
  omega

/-- Instants at UTC are ordered as the texts that `isoformat` writes of them. -/
theorem isoformat_lt_iff (hs : s.1.offset = 0) (ht : t.1.offset = 0) :
    s.isoformat < t.isoformat ↔ s.instant < t.instant := by
  constructor
  · intro h
    exact instant_lt_of_isBefore hs ht (isBefore_of_lt hs ht h)
  · intro h
    obtain hlt | heq | hgt := lt_trichotomy s.isoformat t.isoformat
    · exact hlt
    · have hsame : s = t := by
        have hread := fromisoformat_isoformat s
        rw [heq, fromisoformat_isoformat] at hread
        exact (Option.some.inj hread).symm
      rw [hsame] at h
      exact absurd h (lt_irrefl _)
    · have hback := instant_lt_of_isBefore ht hs (isBefore_of_lt ht hs hgt)
      exact absurd h (lt_asymm hback)

end Datetime
end CitPhysicalXR.Foundation
