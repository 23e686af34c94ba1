import CitPhysicalXR.Foundation.PyFloat

/-! Rounding keeps to bounds: a number that a binary64 value bounds stays within it when it is
rounded. -/
namespace CitPhysicalXR.Foundation

theorem roundHalfEven_le {q : ℚ} {n : ℤ} (h : q ≤ n) : roundHalfEven q ≤ n := by
  have hfloor : ⌊q⌋ ≤ n := by exact_mod_cast (Int.floor_le q).trans h
  rcases hfloor.lt_or_eq with hlt | heq
  · unfold roundHalfEven
    dsimp only
    split_ifs <;> omega
  · have hq : q - ⌊q⌋ = 0 := by
      have hle := Int.floor_le q
      rw [heq] at hle ⊢
      linarith
    unfold roundHalfEven
    dsimp only
    rw [if_pos (by rw [hq]; norm_num)]
    exact hfloor

theorem le_roundHalfEven {q : ℚ} {n : ℤ} (h : n ≤ q) : n ≤ roundHalfEven q := by
  have hfloor : n ≤ ⌊q⌋ := Int.le_floor.mpr h
  unfold roundHalfEven
  dsimp only
  split_ifs <;> omega

theorem abs_roundHalfEven_sub_le (q : ℚ) : |(roundHalfEven q : ℚ) - q| ≤ 1 / 2 := by
  have hlow := Int.floor_le q
  have hhigh := Int.lt_floor_add_one q
  rw [abs_le]
  unfold roundHalfEven
  dsimp only
  split_ifs with hbelow habove heven
  · constructor <;> linarith
  · push_cast
    constructor <;> linarith
  · constructor <;> linarith
  · push_cast
    constructor <;> linarith

theorem two_le_roundHalfEven {q : ℚ} (h : 3 / 2 ≤ q) : 2 ≤ roundHalfEven q := by
  rcases h.eq_or_lt with rfl | hlt
  · decide +kernel
  · have hnear := abs_le.mp (abs_roundHalfEven_sub_le q)
    have hone : (1 : ℚ) < roundHalfEven q := by linarith [hnear.1]
    exact_mod_cast hone

theorem roundHalfEven_le_neg_two {q : ℚ} (h : q ≤ -(3 / 2)) : roundHalfEven q ≤ -2 := by
  rcases h.eq_or_lt with rfl | hlt
  · decide +kernel
  · have hnear := abs_le.mp (abs_roundHalfEven_sub_le q)
    have hone : (roundHalfEven q : ℚ) < -1 := by linarith [hnear.2]
    have hint : roundHalfEven q < -1 := by exact_mod_cast hone
    omega

/-- A number that is read on a scale of less than two fifths is at most one unit away from its
rounded reading exactly when it is rounded to one unit or to none. -/
theorem abs_roundHalfEven_sub_mul_le_one {q : ℚ} {scale : ℝ} (hpos : 0 < scale)
    (hscale : scale < 2 / 5) :
    |(roundHalfEven q : ℝ) - scale * q| ≤ 1 ↔ |q| < 3 / 2 := by
  have hnear := abs_le.mp (abs_roundHalfEven_sub_le q)
  have hlow : -(1 / 2 : ℝ) ≤ roundHalfEven q - q := by
    simpa using (Rat.cast_le (K := ℝ)).mpr hnear.1
  have hhigh : (roundHalfEven q : ℝ) - q ≤ 1 / 2 := by
    simpa using (Rat.cast_le (K := ℝ)).mpr hnear.2
  constructor
  · intro h
    obtain ⟨hbelow, habove⟩ := abs_le.mp h
    rw [abs_lt]
    constructor
    · by_contra hnot
      have htwo : ((roundHalfEven q : ℤ) : ℝ) ≤ -2 := by
        exact_mod_cast roundHalfEven_le_neg_two (not_lt.mp hnot)
      nlinarith
    · by_contra hnot
      have htwo : (2 : ℝ) ≤ ((roundHalfEven q : ℤ) : ℝ) := by
        exact_mod_cast two_le_roundHalfEven (not_lt.mp hnot)
      nlinarith
  · intro h
    obtain ⟨hbelow, habove⟩ := abs_lt.mp h
    have hbelowR : -(3 / 2 : ℝ) < q := by simpa using (Rat.cast_lt (K := ℝ)).mpr hbelow
    have haboveR : (q : ℝ) < 3 / 2 := by simpa using (Rat.cast_lt (K := ℝ)).mpr habove
    have hone : (-2 : ℝ) < roundHalfEven q ∧ (roundHalfEven q : ℝ) < 2 := ⟨by linarith, by linarith⟩
    have hint : -1 ≤ roundHalfEven q ∧ roundHalfEven q ≤ 1 := by
      have : -2 < roundHalfEven q ∧ roundHalfEven q < 2 := by exact_mod_cast hone
      omega
    have hcases : roundHalfEven q = -1 ∨ roundHalfEven q = 0 ∨ roundHalfEven q = 1 := by omega
    rw [abs_le]
    rcases hcases with h | h | h <;>
    · rw [h] at hlow hhigh ⊢
      push_cast at hlow hhigh ⊢
      constructor <;> nlinarith

theorem zpow_log2Floor_le {q : ℚ} (h : 0 < q) : (2 : ℚ) ^ log2Floor q ≤ q := by
  have hnum : 0 < q.num := Rat.num_pos.mpr h
  have hlog : 2 ^ Nat.log2 q.num.natAbs ≤ q.num.natAbs := Nat.log2_self_le (by omega)
  have hden : q.den < 2 ^ (Nat.log2 q.den + 1) := Nat.lt_log2_self
  have hbelow : (2 : ℚ) ^ ((Nat.log2 q.num.natAbs : ℤ) - Nat.log2 q.den - 1) ≤ q := by
    have hnumQ : (2 : ℚ) ^ Nat.log2 q.num.natAbs ≤ (q.num : ℚ) := by
      have hint : (2 : ℤ) ^ Nat.log2 q.num.natAbs ≤ q.num := by
        rw [← Int.natAbs_of_nonneg hnum.le]
        exact_mod_cast hlog
      exact_mod_cast hint
    have hdenQ : (q.den : ℚ) ≤ (2 : ℚ) ^ (Nat.log2 q.den + 1) := by exact_mod_cast hden.le
    have hdenPos : (0 : ℚ) < q.den := by exact_mod_cast q.den_pos
    have hexponent : (Nat.log2 q.num.natAbs : ℤ) - Nat.log2 q.den - 1 =
        (Nat.log2 q.num.natAbs : ℤ) - ((Nat.log2 q.den + 1 : ℕ) : ℤ) := by
      push_cast
      ring
    rw [hexponent, zpow_sub₀ (by norm_num), zpow_natCast, zpow_natCast]
    calc (2 : ℚ) ^ Nat.log2 q.num.natAbs / 2 ^ (Nat.log2 q.den + 1)
        ≤ (q.num : ℚ) / 2 ^ (Nat.log2 q.den + 1) := by gcongr
      _ ≤ (q.num : ℚ) / q.den := by
        apply div_le_div_of_nonneg_left _ hdenPos hdenQ
        exact_mod_cast hnum.le
      _ = q := Rat.num_div_den q
  unfold log2Floor
  dsimp only
  split_ifs with hlt
  · exact hbelow
  · exact not_lt.mp hlt

namespace PyFloat

/-- An integer below `2⁵³` is a binary64 value, so it bounds what it bounds after rounding too. -/
theorem ofRat_bounded {q : ℚ} {bound : ℤ} (hbound : bound < 2 ^ 53) (hle : |q| ≤ bound) :
    ∃ v : ℚ, ofRat q = .finite v ∧ |v| ≤ bound := by
  by_cases hzero : q = 0
  · refine ⟨0, by simp [ofRat, hzero], ?_⟩
    rw [abs_zero]
    exact (abs_nonneg q).trans hle
  have hpos : 0 < |q| := abs_pos.mpr hzero
  have hlog : log2Floor |q| ≤ 52 := by
    have hlt : (2 : ℚ) ^ log2Floor |q| < (2 : ℚ) ^ (53 : ℤ) := by
      calc (2 : ℚ) ^ log2Floor |q| ≤ |q| := zpow_log2Floor_le hpos
        _ ≤ bound := hle
        _ < (2 : ℚ) ^ (53 : ℤ) := by exact_mod_cast hbound
    have := (zpow_lt_zpow_iff_right₀ (by norm_num : (1 : ℚ) < 2)).mp hlt
    omega
  obtain ⟨k, hk⟩ : ∃ k : ℕ, max (log2Floor |q| - 52) (-1074) = -(k : ℤ) := by
    refine ⟨(-max (log2Floor |q| - 52) (-1074)).toNat, ?_⟩
    omega
  have hulp : (0 : ℚ) < 2 ^ k := by positivity
  have hscale (x : ℚ) : x / (2 : ℚ) ^ (-(k : ℤ)) = x * 2 ^ k := by
    rw [zpow_neg, zpow_natCast, div_inv_eq_mul]
  have hunscale (n : ℤ) : (n : ℚ) * (2 : ℚ) ^ (-(k : ℤ)) = n / 2 ^ k := by
    rw [zpow_neg, zpow_natCast, div_eq_mul_inv]
  have hupper : roundHalfEven (q * 2 ^ k) ≤ bound * 2 ^ k := by
    apply roundHalfEven_le
    push_cast
    exact mul_le_mul_of_nonneg_right ((le_abs_self q).trans hle) hulp.le
  have hlower : -(bound * 2 ^ k) ≤ roundHalfEven (q * 2 ^ k) := by
    apply le_roundHalfEven
    push_cast
    have := mul_le_mul_of_nonneg_right ((neg_abs_le q).trans' (neg_le_neg hle)) hulp.le
    linarith
  have habs : |(roundHalfEven (q * 2 ^ k) : ℚ) / 2 ^ k| ≤ bound := by
    rw [abs_div, abs_of_pos hulp, div_le_iff₀ hulp]
    exact_mod_cast abs_le.mpr ⟨hlower, hupper⟩
  refine ⟨(roundHalfEven (q * 2 ^ k) : ℚ) / 2 ^ k, ?_, habs⟩
  unfold ofRat
  dsimp only
  rw [if_neg hzero, hk, hscale, hunscale, if_neg]
  rw [not_le]
  calc |(roundHalfEven (q * 2 ^ k) : ℚ) / 2 ^ k| ≤ bound := habs
    _ < (2 : ℚ) ^ (53 : ℤ) := by exact_mod_cast hbound
    _ ≤ (2 : ℚ) ^ (1024 : ℤ) := zpow_le_zpow_right₀ (by norm_num) (by norm_num)

theorem ofRat_nonneg {q v : ℚ} (hq : 0 ≤ q) (h : ofRat q = .finite v) : 0 ≤ v := by
  have hround (ulp : ℚ) (hulp : 0 < ulp) : (0 : ℚ) ≤ roundHalfEven (q / ulp) * ulp := by
    have hint : (0 : ℤ) ≤ roundHalfEven (q / ulp) := by
      apply le_roundHalfEven
      rw [Int.cast_zero]
      exact div_nonneg hq hulp.le
    exact mul_nonneg (by exact_mod_cast hint) hulp.le
  unfold ofRat at h
  dsimp only at h
  split_ifs at h
  · cases h
    exact le_refl 0
  · cases h
    exact hround _ (by positivity)

end PyFloat
end CitPhysicalXR.Foundation
