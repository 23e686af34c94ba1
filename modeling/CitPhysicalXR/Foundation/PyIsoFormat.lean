import Mathlib
import CitPhysicalXR.Foundation.PyDatetime

/-! Aware datetimes with their fields, their ISO 8601 text, and what is read back from it. -/
namespace CitPhysicalXR.Foundation

structure DatetimeFields where
  year : ℕ
  month : ℕ
  day : ℕ
  hour : ℕ
  minute : ℕ
  second : ℕ
  microsecond : ℕ
  ahead : Bool
  offset : ℕ
  deriving DecidableEq

def daysInMonth (year month : ℕ) : ℕ :=
  if month = 2 then if year % 4 = 0 ∧ (year % 100 ≠ 0 ∨ year % 400 = 0) then 29 else 28
  else if month ∈ [4, 6, 9, 11] then 30 else 31

def DatetimeFields.IsValid (t : DatetimeFields) : Prop :=
  (1 ≤ t.year ∧ t.year ≤ 9999) ∧ (1 ≤ t.month ∧ t.month ≤ 12) ∧
    (1 ≤ t.day ∧ t.day ≤ daysInMonth t.year t.month) ∧ t.hour < 24 ∧ t.minute < 60 ∧
    t.second < 60 ∧ t.microsecond < 1000000 ∧ t.offset < 86400000000 ∧
    (t.offset = 0 → t.ahead = true)

instance (t : DatetimeFields) : Decidable t.IsValid := by
  unfold DatetimeFields.IsValid
  infer_instance

/-- An aware `datetime`. -/
abbrev Datetime := { t : DatetimeFields // t.IsValid }

namespace Datetime
open Instant

/-- The day count of a date of the proleptic Gregorian calendar. -/
def dayCount (year month day : ℤ) : ℤ :=
  let y := year - (if month ≤ 2 then 1 else 0)
  let era := y / 400
  let yoe := y - era * 400
  let mp := if 2 < month then month - 3 else month + 9
  let doy := (153 * mp + 2) / 5 + day - 1
  era * 146097 + (yoe * 365 + yoe / 4 - yoe / 100 + doy) - 719468

/-- The instant; datetimes are compared, and their differences taken, by it. -/
def instant (t : Datetime) : Instant :=
  let clock :=
    ((t.1.hour * 60 + t.1.minute) * 60 + t.1.second) * 1000000 + t.1.microsecond
  dayCount t.1.year t.1.month t.1.day * 86400000000 + clock -
    (if t.1.ahead then (t.1.offset : ℤ) else -t.1.offset)

example : instant ⟨⟨2000, 2, 29, 14, 34, 56, 0, true, 7200000000⟩, by decide⟩ =
    seconds 951827696 := by decide

def fractionChars (microsecond : ℕ) : List Char :=
  if microsecond = 0 then [] else '.' :: digits 6 microsecond

/-- Seconds stand in an offset only when it has some. -/
def offsetChars (offset : ℕ) : List Char :=
  digits 2 (offset / 3600000000) ++ ':' :: digits 2 (offset / 60000000 % 60) ++
    if offset % 60000000 = 0 then []
    else ':' :: digits 2 (offset / 1000000 % 60) ++ fractionChars (offset % 1000000)

def isoformat (t : Datetime) : String :=
  String.ofList (digits 4 t.1.year ++ '-' :: digits 2 t.1.month ++ '-' :: digits 2 t.1.day ++
    'T' :: digits 2 t.1.hour ++ ':' :: digits 2 t.1.minute ++ ':' :: digits 2 t.1.second ++
    fractionChars t.1.microsecond ++ (if t.1.ahead then '+' else '-') :: offsetChars t.1.offset)

/-- A number of a fixed width, and what stands behind it. -/
def takeDigits (width : ℕ) (cs : List Char) : Option (ℕ × List Char) :=
  let front := cs.take width
  if front.length = width ∧ front.all Char.isDigit then
    some (front.foldl (fun n c => 10 * n + (c.toNat - 48)) 0, cs.drop width)
  else none

def takeChar (c : Char) : List Char → Option (List Char)
  | [] => none
  | d :: cs => if d = c then some cs else none

def takeFraction (cs : List Char) : Option (ℕ × List Char) :=
  match takeChar '.' cs with
  | none => some (0, cs)
  | some cs => takeDigits 6 cs

def takeOffset (cs : List Char) : Option ℕ := do
  let (hour, cs) ← takeDigits 2 cs
  let cs ← takeChar ':' cs
  let (minute, cs) ← takeDigits 2 cs
  match takeChar ':' cs with
  | none => if cs = [] then some ((hour * 60 + minute) * 60000000) else none
  | some cs =>
    let (second, cs) ← takeDigits 2 cs
    let (microsecond, cs) ← takeFraction cs
    if cs = [] then
      some (((hour * 60 + minute) * 60 + second) * 1000000 + microsecond)
    else none

/-- `datetime.fromisoformat`, for the texts that `isoformat` writes. -/
def fromisoformat (text : String) : Option Datetime := do
  let (year, cs) ← takeDigits 4 text.toList
  let cs ← takeChar '-' cs
  let (month, cs) ← takeDigits 2 cs
  let cs ← takeChar '-' cs
  let (day, cs) ← takeDigits 2 cs
  let cs ← takeChar 'T' cs
  let (hour, cs) ← takeDigits 2 cs
  let cs ← takeChar ':' cs
  let (minute, cs) ← takeDigits 2 cs
  let cs ← takeChar ':' cs
  let (second, cs) ← takeDigits 2 cs
  let (microsecond, cs) ← takeFraction cs
  match cs with
  | [] => none
  | sign :: cs =>
    let offset ← takeOffset cs
    let fields : DatetimeFields :=
      { year, month, day, hour, minute, second, microsecond
        ahead := sign = '+' ∨ offset = 0, offset }
    if h : fields.IsValid then if sign = '+' ∨ sign = '-' then some ⟨fields, h⟩ else none
    else none

theorem digitChar_value : ∀ digit < 10, (Nat.digitChar digit).toNat - 48 = digit := by
  decide

theorem isDigit_digitChar : ∀ digit < 10, (Nat.digitChar digit).isDigit = true := by
  decide

theorem foldl_digits (width n : ℕ) :
    (digits width n).foldl (fun n c => 10 * n + (c.toNat - 48)) 0 = n % 10 ^ width := by
  induction width generalizing n with
  | zero => simp [digits, Nat.mod_one]
  | succ width ih =>
    rw [digits, List.foldl_append, ih, List.foldl_cons, List.foldl_nil,
      digitChar_value _ (Nat.mod_lt _ (by decide))]
    have hsplit := Nat.mod_mul (x := n) (a := 10) (b := 10 ^ width)
    rw [Nat.pow_succ, Nat.mul_comm (10 ^ width) 10, hsplit]
    omega

theorem all_isDigit_digits (width n : ℕ) : (digits width n).all Char.isDigit = true := by
  induction width generalizing n with
  | zero => rfl
  | succ width ih =>
    rw [digits, List.all_append, ih, List.all_cons,
      isDigit_digitChar _ (Nat.mod_lt _ (by decide))]
    rfl

theorem length_digits (width n : ℕ) : (digits width n).length = width := by
  induction width generalizing n with
  | zero => rfl
  | succ width ih => simp [digits, ih]

theorem takeDigits_digits (width n : ℕ) (h : n < 10 ^ width) (rest : List Char) :
    takeDigits width (digits width n ++ rest) = some (n, rest) := by
  have hlength := length_digits width n
  have hfront : (digits width n ++ rest).take width = digits width n := by
    rw [List.take_append_of_le_length (Nat.le_of_eq hlength.symm), List.take_of_length_le (Nat.le_of_eq hlength)]
  have hrest : (digits width n ++ rest).drop width = rest := by
    rw [List.drop_append_of_le_length (Nat.le_of_eq hlength.symm), List.drop_of_length_le (Nat.le_of_eq hlength),
      List.nil_append]
  rw [takeDigits, hfront, hrest, if_pos ⟨hlength, all_isDigit_digits width n⟩, foldl_digits,
    Nat.mod_eq_of_lt h]

theorem takeChar_cons (c : Char) (cs : List Char) : takeChar c (c :: cs) = some cs := if_pos rfl

theorem takeFraction_chars {microsecond : ℕ} (h : microsecond < 1000000) {rest : List Char}
    (hrest : takeChar '.' rest = none) :
    takeFraction (fractionChars microsecond ++ rest) = some (microsecond, rest) := by
  unfold fractionChars
  split
  · rename_i hzero
    rw [List.nil_append, takeFraction, hrest, hzero]
  · rw [List.cons_append, takeFraction, takeChar_cons]
    exact takeDigits_digits 6 microsecond (by simpa using h) rest

theorem takeOffset_chars {offset : ℕ} (h : offset < 86400000000) :
    takeOffset (offsetChars offset) = some offset := by
  have hhour : offset / 3600000000 < 10 ^ 2 := by
    omega
  have hminute : offset / 60000000 % 60 < 10 ^ 2 := by
    omega
  have hsecond : offset / 1000000 % 60 < 10 ^ 2 := by
    omega
  unfold offsetChars
  split
  · rename_i hwhole
    simp only [takeOffset, List.append_assoc, List.cons_append, takeDigits_digits 2 _ hhour,
      takeChar_cons, takeDigits_digits 2 _ hminute, Option.bind_eq_bind, Option.bind_some]
    rw [show takeChar ':' [] = none from rfl]
    simp only [if_true, Option.some.injEq]
    omega
  · rename_i hpart
    have hfraction : takeFraction (fractionChars (offset % 1000000) ++ []) =
        some (offset % 1000000, []) := takeFraction_chars (Nat.mod_lt _ (by decide)) rfl
    rw [List.append_nil] at hfraction
    simp only [takeOffset, List.append_assoc, List.cons_append, takeDigits_digits 2 _ hhour,
      takeChar_cons, takeDigits_digits 2 _ hminute, takeDigits_digits 2 _ hsecond, hfraction,
      Option.bind_eq_bind, Option.bind_some, if_true, Option.some.injEq]
    omega

theorem bind_read {α β : Type} {read : Option α} {value : α} {rest : α → Option β}
    {result : Option β} (hread : read = some value) (hrest : rest value = result) :
    read.bind rest = result := by
  rw [hread]
  exact hrest

theorem fromisoformat_isoformat (t : Datetime) : fromisoformat t.isoformat = some t := by
  obtain ⟨⟨year, month, day, hour, minute, second, microsecond, ahead, offset⟩, hvalid⟩ := t
  have hfields := hvalid
  obtain ⟨⟨_, hyear⟩, ⟨_, hmonth⟩, ⟨_, hday⟩, hhour, hminute, hsecond, hmicrosecond, hoffset,
    hzero⟩ := hfields
  dsimp only at hyear hmonth hday hhour hminute hsecond hmicrosecond hoffset hzero
  have hmonthDays : daysInMonth year month < 100 := by
    unfold daysInMonth
    split_ifs <;> decide
  have hsign : takeChar '.' ((if ahead = true then '+' else '-') :: offsetChars offset) = none := by
    cases ahead <;> rfl
  have hahead : decide ((if ahead = true then '+' else '-') = '+' ∨ offset = 0) = ahead := by
    cases ahead with
    | true => rfl
    | false =>
      have hsome : offset ≠ 0 := by
        intro hnone
        cases hzero hnone
      simp [hsome]
  have heither : (if ahead = true then '+' else '-') = '+' ∨
      (if ahead = true then '+' else '-') = '-' := by
    cases ahead <;> simp
  unfold fromisoformat isoformat
  simp only [String.toList_ofList, List.append_assoc, List.cons_append]
  refine bind_read (takeDigits_digits 4 year (by omega) _) ?_
  refine bind_read (takeChar_cons '-' _) ?_
  refine bind_read (takeDigits_digits 2 month (by omega) _) ?_
  refine bind_read (takeChar_cons '-' _) ?_
  refine bind_read (takeDigits_digits 2 day (by omega) _) ?_
  refine bind_read (takeChar_cons 'T' _) ?_
  refine bind_read (takeDigits_digits 2 hour (by omega) _) ?_
  refine bind_read (takeChar_cons ':' _) ?_
  refine bind_read (takeDigits_digits 2 minute (by omega) _) ?_
  refine bind_read (takeChar_cons ':' _) ?_
  refine bind_read (takeDigits_digits 2 second (by omega) _) ?_
  refine bind_read (takeFraction_chars hmicrosecond hsign) ?_
  refine bind_read (takeOffset_chars hoffset) ?_
  simp only [hahead, heither, if_true]
  exact dif_pos hvalid

end Datetime

end CitPhysicalXR.Foundation
