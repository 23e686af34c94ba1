import CitPhysicalXR.Foundation.PyText
import Mathlib.Data.Nat.Digits.Defs

/-! What `int` makes of a text that `isdigit` accepts: the positional value of its digits, or
nothing when one of them is a digit without a decimal value. -/
namespace CitPhysicalXR.Foundation

namespace PyString

/-- The positional value of a row of decimals, the first one on the left. -/
def decimals? (decimal? : Char → Option ℕ) (value : ℕ) : List Char → Option ℕ
  | [] => some value
  | c :: rest => (decimal? c).bind fun d => decimals? decimal? (10 * value + d) rest

variable {decimal? : Char → Option ℕ} {value : ℕ} {text : List Char}

theorem readDigits_eq_decimals? (hscore : '_' ∉ text) (afterDigit : Bool)
    (hne : text ≠ [] ∨ afterDigit = true) :
    readDigits decimal? value afterDigit text = decimals? decimal? value text := by
  induction text generalizing value afterDigit with
  | nil => simp [readDigits, decimals?, hne.resolve_left (fun h => h rfl)]
  | cons c rest ih =>
    rw [List.mem_cons, not_or] at hscore
    obtain ⟨hc, hrest⟩ := hscore
    rw [readDigits, if_neg (Ne.symm hc), decimals?]
    cases decimal? c with
    | none => rfl
    | some d => exact ih hrest true (.inr rfl)

/-- A row has no value exactly when one of its characters has none. -/
theorem decimals?_eq_none :
    decimals? decimal? value text = none ↔ ∃ c ∈ text, decimal? c = none := by
  induction text generalizing value with
  | nil => simp [decimals?]
  | cons c rest ih =>
    cases hc : decimal? c with
    | none => simp [decimals?, hc]
    | some d => simp [decimals?, hc, ih]

theorem decimals?_lt (hdecimal : ∀ c d, decimal? c = some d → d < 10) {n bound : ℕ}
    (hvalue : value < bound) (h : decimals? decimal? value text = some n) :
    n < bound * 10 ^ text.length := by
  induction text generalizing value bound with
  | nil =>
    obtain rfl : value = n := Option.some.inj h
    simpa using hvalue
  | cons c rest ih =>
    obtain ⟨d, hd, hrest⟩ := Option.bind_eq_some_iff.mp h
    have hlt := hdecimal c d hd
    have hstep : n < bound * 10 * 10 ^ rest.length := ih (by omega) hrest
    rw [List.length_cons, pow_succ]
    calc n < bound * 10 * 10 ^ rest.length := hstep
      _ = bound * (10 ^ rest.length * 10) := by ring

end PyString

namespace TextRules

/-- What the digits of an interpreter have in common: none is white space, a sign or an
underscore, and the decimals are digits with a value below ten. -/
structure PlainDigits (rules : TextRules) : Prop where
  not_space : ∀ c, rules.isDigit c = true → rules.isSpace c = false
  not_sign : ∀ c, rules.isDigit c = true → c ≠ '-' ∧ c ≠ '+' ∧ c ≠ '_' ∧ c ≠ '|'
  decimal : ∀ c d, rules.decimal? c = some d → rules.isDigit c = true ∧ d < 10

/-- The interpreters that run the code. -/
def interpreters : List TextRules := [cpython, micropython]

theorem unicodeDecimal?_lt {c : Char} {d : ℕ} (h : unicodeDecimal? c = some d) : d < 10 := by
  obtain ⟨start, hstart, rfl⟩ := Option.map_eq_some_iff.mp h
  have hrange := List.find?_some hstart
  simp only [Bool.and_eq_true, decide_eq_true_eq] at hrange
  omega

/-- The code points of the white space of CPython. -/
def spaceCodes : List ℕ :=
  [9, 10, 11, 12, 13, 28, 29, 30, 31, 32, 0x85, 0xA0, 0x1680, 0x2000, 0x2001, 0x2002, 0x2003,
    0x2004, 0x2005, 0x2006, 0x2007, 0x2008, 0x2009, 0x200A, 0x2028, 0x2029, 0x202F, 0x205F,
    0x3000]

theorem mem_spaceCodes {c : Char} (h : PyString.isSpace c = true) : c.toNat ∈ spaceCodes := by
  simp only [PyString.isSpace, Bool.or_eq_true, Bool.and_eq_true, decide_eq_true_eq,
    beq_iff_eq] at h
  simp only [spaceCodes, List.mem_cons, List.not_mem_nil, or_false]
  omega

/-- `isdigit` of CPython, of a code point. -/
def isDigitCode (n : ℕ) : Bool :=
  (decimalZeros.any fun start => start ≤ n && n < start + 10) ||
    otherDigits.any fun range => range.1 ≤ n && n ≤ range.2

theorem cpython_isDigit (c : Char) : cpython.isDigit c = isDigitCode c.toNat := by
  have hdecimal : (unicodeDecimal? c).isSome =
      decimalZeros.any fun start => start ≤ c.toNat && c.toNat < start + 10 := by
    rw [unicodeDecimal?, Option.isSome_map, List.isSome_find?]
  simp only [cpython, isDigitCode, hdecimal]

theorem cpython_plainDigits : cpython.PlainDigits where
  not_space c hdigit := by
    have hcodes : ∀ n ∈ spaceCodes, isDigitCode n = false := by decide
    rw [cpython_isDigit] at hdigit
    rw [Bool.eq_false_iff]
    intro hspace
    rw [hcodes c.toNat (mem_spaceCodes hspace)] at hdigit
    cases hdigit
  not_sign c hdigit := by
    rw [cpython_isDigit] at hdigit
    refine ⟨?_, ?_, ?_, ?_⟩ <;>
    · rintro rfl
      exact absurd hdigit (by decide)
  decimal c d h := by
    refine ⟨?_, unicodeDecimal?_lt h⟩
    have hsome : (unicodeDecimal? c).isSome = true := by
      rw [Option.isSome_iff_exists]
      exact ⟨d, h⟩
    simp [cpython, hsome]

theorem micropython_plainDigits : micropython.PlainDigits where
  not_space c hdigit := by
    simp only [micropython, Bool.and_eq_true, decide_eq_true_eq] at hdigit
    exact micropython.not_space_graphic c (by omega) (by omega)
  not_sign c hdigit := by
    refine ⟨?_, ?_, ?_, ?_⟩ <;>
    · rintro rfl
      exact absurd hdigit (by decide)
  decimal c d h := by
    simp only [micropython, Option.ite_none_right_eq_some, Option.some.injEq] at h
    obtain ⟨hrange, rfl⟩ := h
    simp only [micropython, Bool.and_eq_true, decide_eq_true_eq]
    omega

theorem plainDigits_of_mem {rules : TextRules} (h : rules ∈ interpreters) :
    rules.PlainDigits := by
  simp only [interpreters, List.mem_cons, List.not_mem_nil, or_false] at h
  rcases h with rfl | rfl
  · exact cpython_plainDigits
  · exact micropython_plainDigits

section Numerals
variable {rules : TextRules} (hplain : rules.PlainDigits) {s : String}
include hplain

theorem strip_digits (h : rules.isDigits s = true) : rules.strip s = s := by
  have hall : ∀ c ∈ s.toList, rules.isDigit c = true := by
    simp only [isDigits, Bool.and_eq_true, List.all_eq_true] at h
    exact h.2
  apply PyString.stripAll_eq_self
  · intro c hc
    exact hplain.not_space c (hall c (List.mem_of_mem_head? hc))
  · intro c hc
    exact hplain.not_space c (hall c (List.mem_of_getLast? hc))

/-- `int(s)` of a text of digits is the positional value of these. -/
theorem toInt?_digits (h : rules.isDigits s = true) :
    rules.toInt? s = (PyString.decimals? rules.decimal? 0 s.toList).map fun n : ℕ => (n : ℤ) := by
  have hstrip := strip_digits hplain h
  simp only [isDigits, Bool.and_eq_true, decide_eq_true_eq, List.all_eq_true] at h
  obtain ⟨hne, hall⟩ := h
  have hscore : '_' ∉ s.toList := by
    intro hmem
    exact (hplain.not_sign '_' (hall '_' hmem)).2.2.1 rfl
  rw [toInt?, hstrip]
  split
  · rename_i rest heq
    have hsign := hplain.not_sign '-' (hall '-' (by simp [heq]))
    exact absurd rfl hsign.1
  · rename_i rest heq
    have hsign := hplain.not_sign '+' (hall '+' (by simp [heq]))
    exact absurd rfl hsign.2.1
  · rw [PyString.readDigits_eq_decimals? hscore false (.inl hne)]
    cases PyString.decimals? rules.decimal? 0 s.toList with
    | none => rfl
    | some n => rfl

/-- `int(s)` raises on a text of digits exactly when one of them is no decimal. -/
theorem toInt?_digits_eq_none (h : rules.isDigits s = true) :
    rules.toInt? s = none ↔ ∃ c ∈ s.toList, rules.decimal? c = none := by
  rw [toInt?_digits hplain h, Option.map_eq_none_iff, PyString.decimals?_eq_none]

/-- The number is written with at most as many characters as the text of digits has. -/
theorem length_toString_le (h : rules.isDigits s = true) {n : ℕ}
    (hread : rules.toInt? s = some (n : ℤ)) : (toString n).length ≤ s.length := by
  rw [toInt?_digits hplain h, Option.map_eq_some_iff] at hread
  obtain ⟨m, hvalue, hm⟩ := hread
  obtain rfl : m = n := Int.ofNat_inj.mp hm
  have hlt : m < 1 * 10 ^ s.toList.length :=
    PyString.decimals?_lt (fun c d hd => (hplain.decimal c d hd).2) (by decide) hvalue
  rw [one_mul] at hlt
  have hpos : 0 < s.toList.length := by
    simp only [isDigits, Bool.and_eq_true, decide_eq_true_eq] at h
    exact List.length_pos_iff.mpr h.1
  have htext : (toString m).toList = Nat.toDigits 10 m := by simp
  rw [← String.length_toList, ← String.length_toList, htext]
  exact Nat.toDigits_length 10 m _ hpos hlt

end Numerals

theorem micropython_decimal {c : Char} (h : micropython.isDigit c = true) :
    micropython.decimal? c ≠ none := by
  simp only [micropython, Bool.and_eq_true, decide_eq_true_eq] at h ⊢
  simp [h]

end TextRules
end CitPhysicalXR.Foundation
