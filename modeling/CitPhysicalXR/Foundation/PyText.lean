import CitPhysicalXR.Foundation.PyJson
import Mathlib.Data.List.DropRight

/-! Text operations of Python: `split`, `join`, `strip`, `isdigit` and `int`. CPython and
MicroPython class characters differently, so the operations take the classes as a parameter. -/
namespace CitPhysicalXR.Foundation

-- A list of characters is looked through, where the library would try every character.
instance (priority := 2000) decidableForallChar {p : Char → Prop} [DecidablePred p]
    (cs : List Char) : Decidable (∀ c ∈ cs, p c) :=
  List.decidableBAll p cs

namespace PyString

/-- `s.split(separator)`. -/
def split (s : String) (separator : Char) : List String :=
  (s.toList.splitOn separator).map String.ofList

/-- `separator.join(parts)`. -/
def join (separator : Char) (parts : List String) : String :=
  (String.singleton separator).intercalate parts

/-- `s.strip(…)` for the characters of a class. -/
def stripAll (p : Char → Bool) (s : String) : String :=
  String.ofList ((s.toList.dropWhile p).rdropWhile p)

theorem toList_join (separator : Char) (parts : List String) :
    (join separator parts).toList = [separator].intercalate (parts.map String.toList) := by
  simp [join, String.toList_intercalate]

variable {separator c : Char} {p : Char → Bool} {s : String}

theorem split_join {parts : List String} (hne : parts ≠ [])
    (hfree : ∀ part ∈ parts, separator ∉ part.toList) :
    split (join separator parts) separator = parts := by
  have hparts : ∀ part ∈ parts.map String.toList, separator ∉ part := by
    intro part hpart
    obtain ⟨text, htext, rfl⟩ := List.mem_map.mp hpart
    exact hfree text htext
  rw [split, toList_join, List.splitOn_intercalate separator hparts (by simpa using hne)]
  simp [Function.comp_def]

theorem join_split (s : String) (separator : Char) : join separator (split s separator) = s := by
  have hlist : (join separator (split s separator)).toList = s.toList := by
    rw [toList_join, split, List.map_map]
    simp [Function.comp_def, List.intercalate_splitOn]
  exact String.toList_inj.mp hlist

theorem join_cons_cons (separator : Char) (first second : String) (rest : List String) :
    (join separator (first :: second :: rest)).toList =
      first.toList ++ separator :: (join separator (second :: rest)).toList := by
  simp [join, String.toList_intercalate]

theorem length_join_cons_cons (separator : Char) (first second : String) (rest : List String) :
    (join separator (first :: second :: rest)).length =
      first.length + 1 + (join separator (second :: rest)).length := by
  rw [← String.length_toList, join_cons_cons, List.length_append, List.length_cons]
  simp only [String.length_toList]
  omega

theorem join_singleton (separator : Char) (part : String) : join separator [part] = part := by
  simp [join]

/-- The joined text ends with the last part, after a separator. -/
theorem join_concat (separator : Char) {front : List String} (hne : front ≠ []) (last : String) :
    (join separator (front ++ [last])).toList =
      (join separator front).toList ++ separator :: last.toList := by
  induction front with
  | nil => exact absurd rfl hne
  | cons first rest ih =>
    cases rest with
    | nil => simp [join]
    | cons second rest =>
      have hrest := ih (by simp)
      rw [List.cons_append, List.cons_append, join_cons_cons, join_cons_cons]
      rw [List.cons_append] at hrest
      rw [hrest]
      simp

theorem mem_join {parts : List String}
    (h : c ∈ (join separator parts).toList) : c = separator ∨ ∃ part ∈ parts, c ∈ part.toList := by
  induction parts with
  | nil => simp [join] at h
  | cons first rest ih =>
    cases rest with
    | nil => exact .inr ⟨first, by simp, by simpa [join] using h⟩
    | cons second rest =>
      rw [join_cons_cons, List.mem_append, List.mem_cons] at h
      rcases h with hfirst | rfl | hrest
      · exact .inr ⟨first, by simp, hfirst⟩
      · exact .inl rfl
      · rcases ih hrest with rfl | ⟨part, hpart, hc⟩
        · exact .inl rfl
        · exact .inr ⟨part, List.mem_cons_of_mem _ hpart, hc⟩

theorem stripAll_eq_self
    (hhead : ∀ c ∈ s.toList.head?, p c = false) (hlast : ∀ c ∈ s.toList.getLast?, p c = false) :
    stripAll p s = s := by
  have hleft : s.toList.dropWhile p = s.toList := by
    cases hs : s.toList with
    | nil => rfl
    | cons c rest =>
      have hc : p c = false := hhead c (by simp [hs])
      simp [hc]
  have hright : s.toList.rdropWhile p = s.toList := by
    rw [List.rdropWhile_eq_self_iff]
    intro hne
    have hc := hlast (s.toList.getLast hne) (by simp [List.getLast?_eq_some_getLast hne])
    simp [hc]
  rw [stripAll, hleft, hright, String.ofList_toList]

/-- A character of the class at the end of a text is stripped away. -/
theorem stripAll_push {t : String} (hc : p c = true)
    (ht : t.toList = s.toList ++ [c]) (hne : ∃ a ∈ s.toList, p a = false) :
    stripAll p t = stripAll p s := by
  have hrest : s.toList.dropWhile p ≠ [] := by
    intro hnil
    obtain ⟨a, ha, hpa⟩ := hne
    have hall := List.dropWhile_eq_nil_iff.mp hnil a ha
    rw [hpa] at hall
    cases hall
  have hdrop : (s.toList ++ [c]).dropWhile p = s.toList.dropWhile p ++ [c] := by
    rw [List.dropWhile_append, if_neg (by simpa using hrest)]
  rw [stripAll, stripAll, ht, hdrop, List.rdropWhile_concat_pos _ _ _ hc]

theorem stripAll_last
    (h : c ∈ (stripAll p s).toList.getLast?) : p c = false := by
  rw [stripAll, String.toList_ofList] at h
  have hne : (s.toList.dropWhile p).rdropWhile p ≠ [] := by
    intro hnil
    simp [hnil] at h
  have hnot := List.rdropWhile_last_not (p := p) (l := s.toList.dropWhile p) hne
  rw [List.getLast?_eq_some_getLast hne] at h
  obtain rfl : List.getLast _ hne = c := by simpa using h
  simpa using hnot

theorem rdropWhile_append_cons (hc : p c = false)
    (front last : List Char) :
    (front ++ c :: last).rdropWhile p = front ++ c :: last.rdropWhile p := by
  induction last using List.reverseRecOn with
  | nil =>
    have hkept := List.rdropWhile_concat_neg p front c (by simp [hc])
    simpa using hkept
  | append_singleton rest d ih =>
    rw [← List.cons_append, ← List.append_assoc]
    by_cases hd : p d = true
    · rw [List.rdropWhile_concat_pos _ _ _ hd, List.rdropWhile_concat_pos _ _ _ hd, ih]
    · rw [List.rdropWhile_concat_neg _ _ _ hd, List.rdropWhile_concat_neg _ _ _ hd]
      simp

/-- Only the last part of a joined text loses characters at its end. -/
theorem stripAll_join_concat (hseparator : p separator = false)
    {front : List String} (hne : front ≠ [])
    (hhead : ∃ c ∈ (join separator front).toList.head?, p c = false) (last : String) :
    stripAll p (join separator (front ++ [last])) =
      join separator (front ++ [String.ofList (last.toList.rdropWhile p)]) := by
  obtain ⟨c, hc, hpc⟩ := hhead
  obtain ⟨rest, hrest⟩ := List.head?_eq_some_iff.mp hc
  have hleft : (join separator (front ++ [last])).toList.dropWhile p =
      (join separator (front ++ [last])).toList := by
    rw [join_concat separator hne, hrest, List.cons_append, List.dropWhile_cons]
    simp [hpc]
  rw [← String.toList_inj, stripAll, hleft, String.toList_ofList, join_concat separator hne,
    join_concat separator hne, rdropWhile_append_cons hseparator, String.toList_ofList]

/-- The digits of a number, with single underscores between them. -/
def readDigits (decimal? : Char → Option ℕ) (value : ℕ) (afterDigit : Bool) :
    List Char → Option ℕ
  | [] => if afterDigit then some value else none
  | c :: rest =>
    if c = '_' then
      if afterDigit then readDigits decimal? value false rest else none
    else (decimal? c).bind fun d => readDigits decimal? (10 * value + d) true rest

/-- The text of a number reads back as the number. -/
theorem readDigits_toDigits {decimal? : Char → Option ℕ}
    (hdigit : ∀ d < 10, decimal? (Nat.digitChar d) = some d) (n : ℕ) (rest : List Char) :
    readDigits decimal? 0 false (Nat.toDigits 10 n ++ rest) = readDigits decimal? n true rest := by
  have hstep : ∀ (value d : ℕ) (afterDigit : Bool) (rest : List Char), d < 10 →
      readDigits decimal? value afterDigit (Nat.digitChar d :: rest) =
        readDigits decimal? (10 * value + d) true rest := by
    intro value d afterDigit rest hd
    have hscore : Nat.digitChar d ≠ '_' := Nat.digitChar_ne '_' (by decide)
    rw [readDigits, if_neg hscore, hdigit d hd, Option.bind_some]
  induction n using Nat.strongRecOn generalizing rest with
  | ind n ih =>
    by_cases hsmall : n < 10
    · rw [Nat.toDigits_of_lt_base hsmall, List.singleton_append, hstep 0 n false rest hsmall]
      congr 1
      omega
    · have hdigits := Nat.toDigits_of_base_le (b := 10) (by decide) (Nat.le_of_not_lt hsmall)
      have hlast : n % 10 < 10 := Nat.mod_lt n (by decide)
      rw [hdigits, List.append_assoc, ih (n / 10) (by omega), List.singleton_append,
        hstep _ _ _ _ hlast, Nat.div_add_mod]

theorem mem_toDigits {n : ℕ} (h : c ∈ Nat.toDigits 10 n) :
    ∃ d < 10, c = Nat.digitChar d := by
  induction n using Nat.strongRecOn with
  | ind n ih =>
    by_cases hsmall : n < 10
    · rw [Nat.toDigits_of_lt_base hsmall, List.mem_singleton] at h
      exact ⟨n, hsmall, h⟩
    · rw [Nat.toDigits_of_base_le (by decide) (Nat.le_of_not_lt hsmall), List.mem_append,
        List.mem_singleton] at h
      rcases h with h | rfl
      · exact ih (n / 10) (by omega) h
      · exact ⟨n % 10, Nat.mod_lt n (by decide), rfl⟩

/-- The text of a number that is not negative. -/
theorem toString_natCast_toList (n : ℕ) : (toString (n : ℤ)).toList = Nat.toDigits 10 n := by
  have hint : toString (n : ℤ) = toString n := rfl
  simp [hint]

theorem toString_negSucc_toList (n : ℕ) :
    (toString (Int.negSucc n)).toList = '-' :: Nat.toDigits 10 (n + 1) := by
  simp [toString, Int.repr, Nat.repr]

/-- The text of a number has digits and a sign. -/
theorem mem_toString_int {n : ℤ} (h : c ∈ (toString n).toList) :
    c = '-' ∨ ∃ d < 10, c = Nat.digitChar d := by
  cases n with
  | ofNat n =>
    rw [Int.ofNat_eq_natCast, toString_natCast_toList] at h
    exact .inr (mem_toDigits h)
  | negSucc n =>
    rw [toString_negSucc_toList] at h
    rcases List.mem_cons.mp h with rfl | h
    · exact .inl rfl
    · exact .inr (mem_toDigits h)

end PyString

structure TextRules where
  isSpace : Char → Bool
  isDigit : Char → Bool
  decimal? : Char → Option ℕ
  space_blank : isSpace ' ' = true
  space_newline : isSpace '\n' = true
  not_space_graphic : ∀ c : Char, 33 ≤ c.toNat → c.toNat ≤ 126 → isSpace c = false
  digit_isDigit : ∀ d < 10, isDigit (Nat.digitChar d) = true
  digit_decimal : ∀ d < 10, decimal? (Nat.digitChar d) = some d

namespace TextRules

def decimalZeros : List ℕ :=
  [0x30, 0x660, 0x6F0, 0x7C0, 0x966, 0x9E6, 0xA66, 0xAE6, 0xB66, 0xBE6, 0xC66, 0xCE6, 0xD66,
    0xDE6, 0xE50, 0xED0, 0xF20, 0x1040, 0x1090, 0x17E0, 0x1810, 0x1946, 0x19D0, 0x1A80, 0x1A90,
    0x1B50, 0x1BB0, 0x1C40, 0x1C50, 0xA620, 0xA8D0, 0xA900, 0xA9D0, 0xA9F0, 0xAA50, 0xABF0,
    0xFF10, 0x104A0, 0x10D30, 0x11066, 0x110F0, 0x11136, 0x111D0, 0x112F0, 0x11450, 0x114D0,
    0x11650, 0x116C0, 0x11730, 0x118E0, 0x11950, 0x11C50, 0x11D50, 0x11DA0, 0x16A60, 0x16AC0,
    0x16B50, 0x1D7CE, 0x1D7D8, 0x1D7E2, 0x1D7EC, 0x1D7F6, 0x1E140, 0x1E2F0, 0x1E950, 0x1FBF0]

/-- The digits of Unicode that are no decimals, such as superscripts, as ranges. -/
def otherDigits : List (ℕ × ℕ) :=
  [(0xB2, 0xB3), (0xB9, 0xB9), (0x1369, 0x1371), (0x19DA, 0x19DA), (0x2070, 0x2070),
    (0x2074, 0x2079), (0x2080, 0x2089), (0x2460, 0x2468), (0x2474, 0x247C), (0x2488, 0x2490),
    (0x24EA, 0x24EA), (0x24F5, 0x24FD), (0x24FF, 0x24FF), (0x2776, 0x277E), (0x2780, 0x2788),
    (0x278A, 0x2792), (0x10A40, 0x10A43), (0x10E60, 0x10E68), (0x11052, 0x1105A),
    (0x1F100, 0x1F10A)]

def unicodeDecimal? (c : Char) : Option ℕ :=
  (decimalZeros.find? fun start => start ≤ c.toNat && c.toNat < start + 10).map (c.toNat - ·)

def cpython : TextRules where
  isSpace := PyString.isSpace
  isDigit c := (unicodeDecimal? c).isSome ||
    otherDigits.any fun range => range.1 ≤ c.toNat && c.toNat ≤ range.2
  decimal? := unicodeDecimal?
  space_blank := by decide
  space_newline := by decide
  not_space_graphic c hlow hhigh := by
    simp only [PyString.isSpace, Bool.or_eq_false_iff, Bool.and_eq_false_iff,
      decide_eq_false_iff_not, beq_eq_false_iff_ne]
    omega
  digit_isDigit := by decide
  digit_decimal := by decide

/-- The classes of MicroPython, which go by ASCII. -/
def micropython : TextRules where
  isSpace c := c == ' ' || (9 ≤ c.toNat && c.toNat ≤ 13)
  isDigit c := 48 ≤ c.toNat && c.toNat ≤ 57
  decimal? c := if 48 ≤ c.toNat ∧ c.toNat ≤ 57 then some (c.toNat - 48) else none
  space_blank := by decide
  space_newline := by decide
  not_space_graphic c hlow hhigh := by
    have hne : c ≠ ' ' := by
      rintro rfl
      exact absurd hlow (by decide)
    simp only [Bool.or_eq_false_iff, Bool.and_eq_false_iff, decide_eq_false_iff_not,
      beq_eq_false_iff_ne]
    exact ⟨hne, by omega⟩
  digit_isDigit := by decide
  digit_decimal := by decide

variable (rules : TextRules)

def strip (s : String) : String := PyString.stripAll rules.isSpace s

/-- `s.isdigit()`. -/
def isDigits (s : String) : Bool := s.toList ≠ [] && s.toList.all rules.isDigit

/-- `int(s)`; `none` is its `ValueError`. -/
def toInt? (s : String) : Option ℤ :=
  match (rules.strip s).toList with
  | '-' :: rest => (PyString.readDigits rules.decimal? 0 false rest).map fun n => -(n : ℤ)
  | '+' :: rest => (PyString.readDigits rules.decimal? 0 false rest).map fun n => (n : ℤ)
  | text => (PyString.readDigits rules.decimal? 0 false text).map fun n => (n : ℤ)

theorem isDigits_toString (n : ℕ) : rules.isDigits (toString n) = true := by
  have hall : (Nat.toDigits 10 n).all rules.isDigit = true := by
    rw [List.all_eq_true]
    intro c hc
    obtain ⟨d, hd, rfl⟩ := PyString.mem_toDigits hc
    exact rules.digit_isDigit d hd
  simp [isDigits, hall]

theorem digit_not_space {d : ℕ} (hd : d < 10) : rules.isSpace (Nat.digitChar d) = false := by
  apply rules.not_space_graphic <;>
  · rw [Nat.toNat_digitChar_of_lt_ten hd]
    omega

theorem readDigits_toDigits (n : ℕ) :
    PyString.readDigits rules.decimal? 0 false (Nat.toDigits 10 n) = some n := by
  simpa [PyString.readDigits] using PyString.readDigits_toDigits rules.digit_decimal n []

/-- A number has no blanks around its text. -/
theorem strip_toString (n : ℤ) : rules.strip (toString n) = toString n := by
  have hspace : ∀ c ∈ (toString n).toList, rules.isSpace c = false := by
    intro c hc
    rcases PyString.mem_toString_int hc with rfl | ⟨d, hd, rfl⟩
    · exact rules.not_space_graphic '-' (by decide) (by decide)
    · exact rules.digit_not_space hd
  apply PyString.stripAll_eq_self
  · intro c hc
    exact hspace c (List.mem_of_mem_head? hc)
  · intro c hc
    exact hspace c (List.mem_of_getLast? hc)

theorem toInt?_toString_int (n : ℤ) : rules.toInt? (toString n) = some n := by
  rw [toInt?, rules.strip_toString n]
  cases n with
  | ofNat n =>
    rw [Int.ofNat_eq_natCast, PyString.toString_natCast_toList]
    have hgraphic : ∀ c ∈ Nat.toDigits 10 n, 48 ≤ c.toNat := by
      intro c hc
      obtain ⟨d, hd, rfl⟩ := PyString.mem_toDigits hc
      rw [Nat.toNat_digitChar_of_lt_ten hd]
      omega
    split
    · rename_i rest heq
      have := hgraphic '-' (by simp [heq])
      exact absurd this (by decide)
    · rename_i rest heq
      have := hgraphic '+' (by simp [heq])
      exact absurd this (by decide)
    · rw [rules.readDigits_toDigits n]
      rfl
  | negSucc n =>
    rw [PyString.toString_negSucc_toList]
    simp only [rules.readDigits_toDigits (n + 1)]
    rfl

theorem toInt?_toString (n : ℕ) : rules.toInt? (toString n) = some (n : ℤ) :=
  rules.toInt?_toString_int n

/-- Two numbers have one text only if they are the same. -/
theorem toString_injective {m n : ℕ} (h : toString m = toString n) : m = n := by
  have hread := congrArg cpython.toInt? h
  rw [cpython.toInt?_toString, cpython.toInt?_toString] at hread
  exact Int.ofNat_inj.mp (Option.some.inj hread)

end TextRules
end CitPhysicalXR.Foundation
