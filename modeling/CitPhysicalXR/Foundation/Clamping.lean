import CitPhysicalXR.Foundation.PyFloat

/-! Clamping a number to a positive ceiling with comparisons that are false on a NaN. -/
namespace CitPhysicalXR.Foundation.PyFloat

/-- One clamp: a magnitude over the ceiling becomes the ceiling, with a sign. -/
def clampTo (ceiling x : PyFloat) : PyFloat :=
  if ceiling.lt x.abs then if (finite 0).lt x then ceiling else ceiling.neg else x

/-- No NaN takes part, and a limit is somewhere. -/
def Fits (ceiling x : PyFloat) : Prop :=
  x ≠ .nan ∧ ceiling ≠ .nan ∧ (x.isFinite = true ∨ ceiling.isFinite = true)

instance (ceiling x : PyFloat) : Decidable (Fits ceiling x) := by
  unfold Fits
  infer_instance

theorem ceiling_cases {ceiling : PyFloat} (h : ceiling.le (finite 0) = false) :
    (∃ c : ℚ, 0 < c ∧ ceiling = finite c) ∨ ceiling = infinite false ∨ ceiling = nan := by
  cases ceiling with
  | finite c => exact .inl ⟨c, by simpa using h, rfl⟩
  | infinite negative =>
    cases negative with
    | false => exact .inr (.inl rfl)
    | true => cases h
  | nan => exact .inr (.inr rfl)

theorem clampTo_finite {c : ℚ} (hc : 0 < c) (q : ℚ) :
    ∃ q' : ℚ, clampTo (finite c) (finite q) = finite q' ∧ |q'| ≤ c ∧ (0 ≤ q' ↔ 0 ≤ q) := by
  by_cases hover : c < |q|
  · by_cases hpositive : 0 < q
    · refine ⟨c, by simp [clampTo, abs, hover, hpositive], (abs_of_pos hc).le, ?_⟩
      constructor
      · exact fun _ => hpositive.le
      · exact fun _ => hc.le
    · have hnegative : q < 0 := by
        rcases lt_trichotomy q 0 with hq | hq | hq
        · exact hq
        · rw [hq, abs_zero] at hover
          linarith
        · exact absurd hq hpositive
      refine ⟨-c, by simp [clampTo, abs, neg, hover, hpositive], ?_, ?_⟩
      · rw [abs_neg, abs_of_pos hc]
      · constructor
        · intro h
          linarith
        · intro h
          linarith
  · exact ⟨q, by simp [clampTo, abs, hover], not_lt.mp hover, Iff.rfl⟩

theorem clampTo_bounded {ceiling : PyFloat} (hceiling : ceiling.le (finite 0) = false)
    (x : PyFloat) :
    (clampTo ceiling x).isFinite = true ∧ (clampTo ceiling x).abs.le ceiling = true ↔
      Fits ceiling x := by
  rcases ceiling_cases hceiling with ⟨c, hc, rfl⟩ | rfl | rfl
  · cases x with
    | finite q =>
      obtain ⟨q', hq', hle, _⟩ := clampTo_finite hc q
      rw [hq']
      simp [Fits, isFinite, abs, hle]
    | infinite negative =>
      have hle := (abs_of_pos hc).le
      cases negative <;> simp [Fits, clampTo, abs, lt, isFinite, neg, hle]
    | nan => simp [Fits, clampTo, abs, lt, isFinite]
  · cases x with
    | finite q => simp [Fits, clampTo, abs, lt, isFinite, le]
    | infinite negative => cases negative <;> simp [Fits, clampTo, abs, lt, isFinite]
    | nan => simp [Fits, clampTo, abs, lt, isFinite]
  · cases x with
    | finite q => simp [Fits, clampTo, abs, lt, le, eq]
    | infinite negative => simp [Fits, clampTo, abs, lt, isFinite]
    | nan => simp [Fits, clampTo, abs, lt, isFinite]

theorem clampTo_nonneg {ceiling x : PyFloat} (hceiling : ceiling.le (finite 0) = false)
    (hfits : Fits ceiling x) : (finite 0).le (clampTo ceiling x) = (finite 0).le x := by
  rcases ceiling_cases hceiling with ⟨c, hc, rfl⟩ | rfl | rfl
  · cases x with
    | finite q =>
      obtain ⟨q', hq', _, hsign⟩ := clampTo_finite hc q
      rw [hq', le_finite, le_finite, decide_eq_decide]
      exact hsign
    | infinite negative =>
      cases negative with
      | false =>
        have hclamp : clampTo (finite c) (infinite false) = finite c := rfl
        rw [hclamp, le_finite, decide_eq_true hc.le]
        rfl
      | true =>
        have hclamp : clampTo (finite c) (infinite true) = finite (-c) := rfl
        rw [hclamp, le_finite, decide_eq_false (by linarith)]
        rfl
    | nan => exact absurd rfl hfits.1
  · have hfinite := hfits.2.2.resolve_right (by simp [isFinite])
    cases x with
    | finite q => simp [clampTo, abs, lt]
    | infinite negative => cases hfinite
    | nan => cases hfinite
  · exact absurd rfl hfits.2.1

theorem abs_eq_self {x : PyFloat} (h : (finite 0).le x = true) : x.abs = x := by
  cases x with
  | finite q =>
    have hq : 0 ≤ q := by simpa using h
    rw [abs, abs_of_nonneg hq]
  | infinite negative =>
    cases negative with
    | false => rfl
    | true => cases h
  | nan => cases h

end CitPhysicalXR.Foundation.PyFloat
