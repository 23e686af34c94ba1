import CitPhysicalXR.Foundation.JsNumber
import CitPhysicalXR.Foundation.PythonTextRules

/-! The text that JavaScript gives a finite number is a number of Python, after a sign where it
is negative. -/
namespace CitPhysicalXR.Foundation

theorem one_le_roundHalfEven {q : ℚ} (h : 1 ≤ q) : 1 ≤ roundHalfEven q := by
  have hfloor : (1 : ℤ) ≤ ⌊q⌋ := Int.le_floor.mpr (by exact_mod_cast h)
  unfold roundHalfEven
  dsimp only
  split
  · exact hfloor
  · split
    · omega
    · split <;> omega

theorem pow_log10Floor_le {q : ℚ} (h : 0 < q) : (10 : ℚ) ^ log10Floor q ≤ q := by
  unfold log10Floor
  split
  · rename_i hone
    have hfloor : (1 : ℤ) ≤ ⌊q⌋ := Int.le_floor.mpr (by exact_mod_cast hone)
    have hpow : 10 ^ Nat.log 10 ⌊q⌋.toNat ≤ ⌊q⌋.toNat :=
      Nat.pow_log_le_self 10 (by omega)
    have hcast : ((⌊q⌋.toNat : ℕ) : ℚ) = (⌊q⌋ : ℚ) := by
      exact_mod_cast Int.toNat_of_nonneg (by omega : 0 ≤ ⌊q⌋)
    calc (10 : ℚ) ^ ((Nat.log 10 ⌊q⌋.toNat : ℕ) : ℤ)
        = ((10 ^ Nat.log 10 ⌊q⌋.toNat : ℕ) : ℚ) := by push_cast; rw [zpow_natCast]
      _ ≤ ((⌊q⌋.toNat : ℕ) : ℚ) := by exact_mod_cast hpow
      _ = (⌊q⌋ : ℚ) := hcast
      _ ≤ q := Int.floor_le q
  · have hceil : 1 / q ≤ ((⌈1 / q⌉.toNat : ℕ) : ℚ) := by
      have hpos : 0 ≤ ⌈1 / q⌉ := Int.ceil_nonneg (by positivity)
      have hcast : ((⌈1 / q⌉.toNat : ℕ) : ℚ) = (⌈1 / q⌉ : ℚ) := by
        exact_mod_cast Int.toNat_of_nonneg hpos
      rw [hcast]
      exact Int.le_ceil _
    have hpow : ((⌈1 / q⌉.toNat : ℕ) : ℚ) ≤ (10 : ℚ) ^ Nat.clog 10 ⌈1 / q⌉.toNat := by
      exact_mod_cast Nat.le_pow_clog (by decide) _
    rw [zpow_neg, zpow_natCast]
    exact inv_le_of_inv_le₀ h (by simpa using hceil.trans hpow)

namespace PyFloat

theorem shortestDigits_pos {q : ℚ} (h : 0 < q) : 0 < (shortestDigits q).1 := by
  have hcandidate (p : ℕ) (hp : 1 ≤ p) :
      0 < (roundHalfEven (q / (10 : ℚ) ^ (log10Floor q - (p : ℤ) + 1))).toNat := by
    have hone : 1 ≤ q / (10 : ℚ) ^ (log10Floor q - (p : ℤ) + 1) := by
      rw [le_div_iff₀ (by positivity), one_mul]
      refine le_trans ?_ (pow_log10Floor_le h)
      exact zpow_le_zpow_right₀ (by norm_num) (by omega)
    have hround := one_le_roundHalfEven hone
    omega
  unfold shortestDigits
  dsimp only
  cases hfound : ((List.range 17).map fun p =>
      ((roundHalfEven (q / (10 : ℚ) ^ (log10Floor q - ((p + 1 : ℕ) : ℤ) + 1))).toNat,
        log10Floor q - ((p + 1 : ℕ) : ℤ) + 1)).find? (fun c : ℕ × ℤ =>
          decide (ofRat ((c.1 : ℚ) * (10 : ℚ) ^ c.2) = .finite q)) with
  | none => exact hcandidate 17 (by decide)
  | some c =>
    obtain ⟨p, _, rfl⟩ := List.mem_map.mp (List.mem_of_find?_eq_some hfound)
    exact hcandidate (p + 1) (by omega)

end PyFloat

theorem toDigits_head {n : ℕ} (h : 0 < n) :
    ∃ c rest, Nat.toDigits 10 n = c :: rest ∧ c ≠ '0' := by
  induction n using Nat.strongRecOn with
  | ind n ih =>
    by_cases hsmall : n < 10
    · refine ⟨Nat.digitChar n, [], Nat.toDigits_of_lt_base hsmall, ?_⟩
      interval_cases n <;> decide
    · obtain ⟨c, rest, hdigits, hc⟩ := ih (n / 10) (by omega) (by omega)
      refine ⟨c, rest ++ [Nat.digitChar (n % 10)], ?_, hc⟩
      rw [Nat.toDigits_of_base_le (by decide) (Nat.le_of_not_lt hsmall), hdigits]
      rfl

namespace PyFloat

theorem significantDigits_spec {n : ℕ} (h : 0 < n) :
    ∃ c rest, significantDigits n = c :: rest ∧ c ≠ '0' ∧
      ∀ digit ∈ c :: rest, digit.isDigit = true := by
  obtain ⟨c, rest, hdigits, hc⟩ := toDigits_head h
  have hdigit (digit : Char) (hmem : digit ∈ c :: rest) : digit.isDigit = true :=
    Nat.isDigit_of_mem_toDigits (by decide) (by decide) (hdigits ▸ hmem)
  have hkept : (rest.reverse ++ [c]).dropWhile (· == '0') =
      rest.reverse.dropWhile (· == '0') ++ [c] := by
    rw [List.dropWhile_append]
    split
    · rename_i hempty
      rw [List.isEmpty_iff.mp hempty]
      simp [hc]
    · rfl
  refine ⟨c, (rest.reverse.dropWhile (· == '0')).reverse, ?_, hc, ?_⟩
  · unfold significantDigits
    rw [hdigits, List.reverse_cons, hkept, List.reverse_append]
    rfl
  · intro digit hmem
    rcases List.mem_cons.mp hmem with rfl | hrest
    · exact hdigit digit (List.mem_cons_self ..)
    · apply hdigit digit
      apply List.mem_cons_of_mem
      exact List.mem_reverse.mp ((List.dropWhile_sublist _).mem (List.mem_reverse.mp hrest))

end PyFloat

/-- An integer without a leading zero, or digits around a point. -/
inductive PlainShape : List Char → Prop
  | integer (c : Char) (rest : List Char) (digits : ∀ d ∈ c :: rest, d.isDigit = true)
    (lead : c ≠ '0' ∨ rest = []) : PlainShape (c :: rest)
  | point (c : Char) (whole fraction : List Char) (digits : ∀ d ∈ c :: whole, d.isDigit = true)
    (decimals : ∀ d ∈ fraction, d.isDigit = true) :
    PlainShape (c :: whole ++ '.' :: fraction)

inductive NumberShape : List Char → Prop
  | plain (text : List Char) (shape : PlainShape text) : NumberShape text
  | exponent (mantissa : List Char) (sign c : Char) (digits : List Char)
    (shape : PlainShape mantissa) (signed : sign = '+' ∨ sign = '-')
    (decimals : ∀ d ∈ c :: digits, d.isDigit = true) :
    NumberShape (mantissa ++ 'e' :: sign :: c :: digits)

namespace PyFloat

theorem jsPositive_shape {q : ℚ} (h : 0 < q) : NumberShape (jsPositive q).toList := by
  obtain ⟨c, rest, hdigits, hc, hall⟩ := significantDigits_spec (shortestDigits_pos h)
  have hzeros (count : ℕ) (d : Char) (hd : d ∈ List.replicate count '0') : d.isDigit = true := by
    rw [(List.mem_replicate.mp hd).2]
    rfl
  unfold jsPositive
  dsimp only
  generalize ((Nat.toDigits 10 (shortestDigits q).1).length : ℤ) + (shortestDigits q).2 = point
  rw [hdigits]
  split
  · split
    · -- a point before the digits
      have htext : ("0." ++ String.ofList (List.replicate (-point).toNat '0' ++ c :: rest)).toList =
          '0' :: [] ++ '.' :: (List.replicate (-point).toNat '0' ++ c :: rest) := by
        simp only [String.toList_append, String.toList_ofList]
        rfl
      rw [htext]
      refine .plain _ (.point '0' [] _ (by simp) ?_)
      intro d hd
      rcases List.mem_append.mp hd with hzero | hdigit
      · exact hzeros _ d hzero
      · exact hall d hdigit
    · -- a point after the first digits, or zeros after all of them
      rename_i hpositive
      obtain ⟨m, hm⟩ : ∃ m : ℕ, point.toNat = m + 1 := ⟨point.toNat - 1, by omega⟩
      rw [hm, List.take_succ_cons, List.drop_succ_cons, String.toList_ofList, List.cons_append]
      have hwhole : ∀ d ∈ c :: (rest.take m ++
          List.replicate (m + 1 - (c :: rest).length) '0'), d.isDigit = true := by
        intro d hd
        rcases List.mem_cons.mp hd with rfl | hd
        · exact hall d (List.mem_cons_self ..)
        · rcases List.mem_append.mp hd with htaken | hzero
          · exact hall d (.tail _ (List.mem_of_mem_take htaken))
          · exact hzeros _ d hzero
      split
      · exact .plain _ (.integer c _ hwhole (.inl hc))
      · refine .plain _ (.point c _ _ hwhole ?_)
        intro d hd
        exact hall d (.tail _ (List.mem_of_mem_drop hd))
  · -- an exponent
    have hexponent (n : ℕ) : ∃ e digits, (toString n).toList = e :: digits ∧
        ∀ d ∈ e :: digits, d.isDigit = true := by
      have htext : (toString n).toList = Nat.toDigits 10 n := by
        rw [Nat.toString_eq_ofList_toDigits, String.toList_ofList]
      cases hn : Nat.toDigits 10 n with
      | nil => exact absurd hn Nat.toDigits_ne_nil
      | cons e digits =>
        refine ⟨e, digits, htext.trans hn, ?_⟩
        intro d hd
        exact Nat.isDigit_of_mem_toDigits (by decide) (by decide) (hn ▸ hd)
    obtain ⟨e, digits, htext, hdecimals⟩ := hexponent (point - 1).natAbs
    have hsign : ∃ sign, (if point - 1 < 0 then "-" else "+").toList = [sign] ∧
        (sign = '+' ∨ sign = '-') := by
      split
      · exact ⟨'-', rfl, .inr rfl⟩
      · exact ⟨'+', rfl, .inl rfl⟩
    obtain ⟨sign, hsignText, hsigned⟩ := hsign
    simp only [String.toList_append, htext, hsignText, List.append_assoc]
    cases rest with
    | nil =>
      rw [String.toList_ofList]
      exact .exponent [c] sign e digits (.integer c [] (by simpa using hall) (.inr rfl)) hsigned
        hdecimals
    | cons d rest =>
      rw [String.toList_ofList]
      refine .exponent (c :: '.' :: d :: rest) sign e digits
        (.point c [] (d :: rest) ?_ fun digit hdigit => hall digit (.tail _ hdigit)) hsigned
        hdecimals
      intro digit hdigit
      rw [List.mem_singleton.mp hdigit]
      exact hall c (List.mem_cons_self ..)

theorem toJsString_shape (q : ℚ) : ∃ text, NumberShape text ∧
    ((finite q).toJsString.toList = text ∨ (finite q).toJsString.toList = '-' :: text) := by
  show ∃ text, NumberShape text ∧
    ((if q = 0 then "0" else if q < 0 then "-" ++ jsPositive (-q) else jsPositive q).toList = text ∨
      (if q = 0 then "0" else if q < 0 then "-" ++ jsPositive (-q) else jsPositive q).toList =
        '-' :: text)
  by_cases hzero : q = 0
  · rw [if_pos hzero]
    exact ⟨['0'], .plain _ (.integer '0' [] (by simp) (.inr rfl)), .inl rfl⟩
  · rw [if_neg hzero]
    by_cases hneg : q < 0
    · rw [if_pos hneg]
      refine ⟨_, jsPositive_shape (q := -q) (by linarith), .inr ?_⟩
      rw [String.toList_append]
      rfl
    · rw [if_neg hneg]
      have hpos : 0 < q := lt_of_le_of_ne (not_lt.mp hneg) (Ne.symm hzero)
      exact ⟨_, jsPositive_shape hpos, .inl rfl⟩

end PyFloat

open PythonText

theorem ne_of_isDigit {c : Char} (other : Char) (h : c.isDigit = true)
    (hother : other.isDigit = false) : c ≠ other := by
  intro hsame
  rw [hsame, hother] at h
  cases h

theorem takeWhile_split {p : Char → Bool} {first : List Char} (hfirst : ∀ c ∈ first, p c = true)
    {rest : List Char} (hrest : ∀ c ∈ rest.head?, p c = false) :
    (first ++ rest).takeWhile p = first ∧ (first ++ rest).dropWhile p = rest := by
  rw [List.takeWhile_append_of_pos hfirst, List.dropWhile_append_of_pos hfirst]
  cases rest with
  | nil => simp
  | cons c rest =>
    have hc : ¬p c = true := by simp [hrest c rfl]
    rw [List.takeWhile_cons_of_neg hc, List.dropWhile_cons_of_neg hc, List.append_nil]
    exact ⟨rfl, rfl⟩

theorem PlainShape.spec {text : List Char} (h : PlainShape text) :
    ∃ c whole fraction, text = c :: whole ++ fraction ∧
      (∀ d ∈ c :: whole, d.isDigit = true) ∧ isFraction fraction = true ∧
      (∀ d ∈ fraction, d.isDigit = true ∨ d = '.') ∧ (∀ d ∈ fraction.head?, d = '.') ∧
      (fraction = [] → c ≠ '0' ∨ whole = []) := by
  cases h with
  | integer c rest digits lead =>
    exact ⟨c, rest, [], by simp, digits, rfl, by simp, by simp, fun _ => lead⟩
  | point c whole fraction digits decimals =>
    refine ⟨c, whole, '.' :: fraction, rfl, digits, ?_, ?_, by simp, by simp⟩
    · exact List.all_eq_true.mpr decimals
    · intro d hd
      rcases List.mem_cons.mp hd with rfl | hd
      · exact .inr rfl
      · exact .inl (decimals d hd)

theorem PlainShape.plain {text : List Char} (h : PlainShape text) :
    ∀ d ∈ text, d.isDigit = true ∨ d = '.' := by
  obtain ⟨c, whole, fraction, rfl, hdigits, _, hfraction, _, _⟩ := h.spec
  intro d hd
  rcases List.mem_append.mp hd with hd | hd
  · exact .inl (hdigits d hd)
  · exact hfraction d hd

theorem PlainShape.run {text : List Char} (h : PlainShape text) (tokens : List Token) :
    (Scan.mk .between tokens).run text = some ⟨.number text.reverse, tokens⟩ := by
  have hplain := h.plain
  obtain ⟨c, whole, fraction, rfl, hdigits, _, _, _, _⟩ := h.spec
  apply Scan.run_digits (hdigits c (List.mem_cons_self ..))
  intro d hd
  rcases hplain d (.tail _ hd) with hdigit | rfl
  · exact .inl (isNameChar_of_isDigit hdigit)
  · exact .inr rfl

/-- A mantissa with an exponent part, or without one. -/
theorem isNumber_split {text exponent : List Char} (h : PlainShape text)
    (hexponent : isExponent exponent = true)
    (hhead : ∀ d ∈ exponent.head?, d = 'e') : isNumber (text ++ exponent) = true := by
  have hplain := h.plain
  obtain ⟨c, whole, fraction, rfl, hdigits, hfraction, _, hpoint, hlead⟩ := h.spec
  have hmantissa : ∀ d ∈ c :: whole ++ fraction, (d != 'e' && d != 'E') = true := by
    intro d hd
    rcases hplain d hd with hdigit | rfl
    · have hlower := ne_of_isDigit 'e' hdigit (by decide)
      have hupper := ne_of_isDigit 'E' hdigit (by decide)
      simp [hlower, hupper]
    · decide
  have hexponentHead : ∀ d ∈ exponent.head?, (d != 'e' && d != 'E') = false := by
    intro d hd
    rw [hhead d hd]
    rfl
  have hwhole : ∀ d ∈ c :: whole, (d != '.') = true := by
    intro d hd
    have hne := ne_of_isDigit '.' (hdigits d hd) (by decide)
    simp [hne]
  have hfractionHead : ∀ d ∈ fraction.head?, (d != '.') = false := by
    intro d hd
    rw [hpoint d hd]
    rfl
  obtain ⟨htake, hdrop⟩ := takeWhile_split hmantissa hexponentHead
  obtain ⟨htakeWhole, hdropWhole⟩ := takeWhile_split hwhole hfractionHead
  have hall : (c :: whole).all Char.isDigit = true := List.all_eq_true.mpr hdigits
  unfold isNumber
  dsimp only
  rw [htake, hdrop, htakeWhole, hdropWhole, hall, hfraction, hexponent]
  cases fraction with
  | cons d fraction => simp
  | nil =>
    rcases hlead rfl with hne | rfl
    · simp [hne]
    · by_cases hzero : c = '0'
      · simp [hzero]
      · simp [hzero]

theorem NumberShape.isNumber {text : List Char} (h : NumberShape text) :
    PythonText.isNumber text = true := by
  cases h with
  | plain text shape =>
    have hnone : PythonText.isNumber (text ++ []) = true := isNumber_split shape rfl (by simp)
    rwa [List.append_nil] at hnone
  | exponent mantissa sign c digits shape signed decimals =>
    apply isNumber_split shape
    · have hall : (c :: digits).all Char.isDigit = true := List.all_eq_true.mpr decimals
      rcases signed with rfl | rfl
      · exact hall
      · exact hall
    · simp

theorem NumberShape.run {text : List Char} (h : NumberShape text) (tokens : List Token) :
    (Scan.mk .between tokens).run text = some ⟨.number text.reverse, tokens⟩ := by
  cases h with
  | plain text shape => exact shape.run tokens
  | exponent mantissa sign c digits shape signed decimals =>
    have hmark : (Scan.mk (.number mantissa.reverse) tokens).step 'e' =
        some ⟨.number ('e' :: mantissa.reverse), tokens⟩ := rfl
    have hsign : (Scan.mk (.number ('e' :: mantissa.reverse)) tokens).step sign =
        some ⟨.number (sign :: 'e' :: mantissa.reverse), tokens⟩ := by
      rcases signed with rfl | rfl <;> rfl
    have hdigits : ∀ d ∈ c :: digits, isNameChar d = true ∨ d = '.' :=
      fun d hd => .inl (isNameChar_of_isDigit (decimals d hd))
    rw [Scan.run_append, shape.run, Option.bind_some, Scan.run_cons, hmark, Option.bind_some,
      Scan.run_cons, hsign, Option.bind_some, Scan.run_plainNumber _ _ hdigits]
    simp

theorem notMem_of_isNumber {text : List Char} (h : PythonText.isNumber text = true) :
    's' ∉ text := by
  have hdigits {chars : List Char} (hall : chars.all Char.isDigit = true) : 's' ∉ chars := by
    intro hmem
    exact absurd (List.all_eq_true.mp hall 's' hmem) (by decide)
  unfold PythonText.isNumber at h
  dsimp only at h
  simp only [Bool.and_eq_true] at h
  obtain ⟨⟨⟨⟨_, hwhole⟩, hfraction⟩, hexponent⟩, _⟩ := h
  have hmantissa : 's' ∉ text.takeWhile fun c => c != 'e' && c != 'E' := by
    intro hmem
    rw [← List.takeWhile_append_dropWhile
      (p := (· != '.')) (l := text.takeWhile fun c => c != 'e' && c != 'E')] at hmem
    rcases List.mem_append.mp hmem with hmem | hmem
    · exact hdigits hwhole hmem
    · revert hfraction hmem
      cases (text.takeWhile fun c => c != 'e' && c != 'E').dropWhile (· != '.') with
      | nil => simp
      | cons c digits =>
        intro hfraction hmem
        simp only [isFraction, Bool.and_eq_true, beq_iff_eq] at hfraction
        obtain ⟨rfl, hall⟩ := hfraction
        rcases List.mem_cons.mp hmem with hpoint | hmem
        · exact absurd hpoint (by decide)
        · exact hdigits hall hmem
  have hrest : 's' ∉ text.dropWhile fun c => c != 'e' && c != 'E' := by
    have hhead := List.head?_dropWhile_not (fun c => c != 'e' && c != 'E') text
    revert hexponent hhead
    cases text.dropWhile fun c => c != 'e' && c != 'E' with
    | nil => simp
    | cons c digits =>
      intro hexponent hhead hmem
      have hc : 's' ≠ c := by
        rintro rfl
        cases hhead
      have htail : 's' ∈ digits := (List.mem_cons.mp hmem).resolve_left hc
      unfold isExponent at hexponent
      split at hexponent
      · rename_i heq
        cases heq
      · rename_i heq
        obtain ⟨_, rfl⟩ := List.cons.inj heq
        rw [Bool.and_eq_true] at hexponent
        exact hdigits hexponent.2 ((List.mem_cons.mp htail).resolve_left (by decide))
      · rename_i heq
        obtain ⟨_, rfl⟩ := List.cons.inj heq
        rw [Bool.and_eq_true] at hexponent
        exact hdigits hexponent.2 ((List.mem_cons.mp htail).resolve_left (by decide))
      · rename_i heq
        obtain ⟨_, rfl⟩ := List.cons.inj heq
        rw [Bool.and_eq_true] at hexponent
        exact hdigits hexponent.2 htail
  intro hmem
  rw [← List.takeWhile_append_dropWhile (p := fun c => c != 'e' && c != 'E') (l := text)] at hmem
  rcases List.mem_append.mp hmem with hmem | hmem
  · exact hmantissa hmem
  · exact hrest hmem

end CitPhysicalXR.Foundation
