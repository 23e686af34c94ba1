import Mathlib.Data.Rat.Floor
import Mathlib.Tactic

/-! Python numbers. A finite float is the rational number it denotes (the two zeros are
one value); every result of an operation is rounded to binary64, ties to even. -/
namespace CitPhysicalXR.Foundation

inductive PyFloat where
  | finite (q : ℚ)
  | infinite (negative : Bool)
  | nan
  deriving DecidableEq

/-- Rounding to the nearest integer, ties to even: `round(q)`. -/
def roundHalfEven (q : ℚ) : ℤ :=
  let f := ⌊q⌋
  let r := q - f
  if r < 1 / 2 then f
  else if 1 / 2 < r then f + 1
  else if f % 2 = 0 then f else f + 1

/-- `⌊log₂ q⌋` for a positive `q`. -/
def log2Floor (q : ℚ) : ℤ :=
  let e := (Nat.log2 q.num.natAbs : ℤ) - Nat.log2 q.den
  if q < (2 : ℚ) ^ e then e - 1 else e

/-- `⌊log₁₀ q⌋` for a positive `q`. -/
def log10Floor (q : ℚ) : ℤ :=
  if 1 ≤ q then (Nat.log 10 ⌊q⌋.toNat : ℤ) else -(Nat.clog 10 ⌈1 / q⌉.toNat : ℤ)

namespace PyFloat

/-- The binary64 value nearest to a rational; magnitudes from `2¹⁰²⁴` on overflow. -/
def ofRat (q : ℚ) : PyFloat :=
  if q = 0 then .finite 0
  else
    let ulp := (2 : ℚ) ^ max (log2Floor |q| - 52) (-1074)
    let v := roundHalfEven (q / ulp) * ulp
    if (2 : ℚ) ^ (1024 : ℤ) ≤ |v| then .infinite (decide (q < 0)) else .finite v

/-- Python's `<` on numbers: exact, and false whenever a NaN takes part. -/
def lt : PyFloat → PyFloat → Bool
  | .nan, _ | _, .nan => false
  | .finite a, .finite b => decide (a < b)
  | .infinite s, .infinite t => s && !t
  | .infinite s, .finite _ => s
  | .finite _, .infinite t => !t

/-- Python's `==` on numbers. -/
def eq : PyFloat → PyFloat → Bool
  | .finite a, .finite b => decide (a = b)
  | .infinite s, .infinite t => s == t
  | _, _ => false

def le (x y : PyFloat) : Bool := x.lt y || x.eq y

def abs : PyFloat → PyFloat
  | .finite q => .finite |q|
  | .infinite _ => .infinite false
  | .nan => .nan

def neg : PyFloat → PyFloat
  | .finite q => .finite (-q)
  | .infinite s => .infinite !s
  | .nan => .nan

def isFinite : PyFloat → Bool
  | .finite _ => true
  | _ => false

@[simp] theorem lt_finite (a b : ℚ) : (finite a).lt (finite b) = decide (a < b) := rfl

@[simp] theorem le_finite (a b : ℚ) : (finite a).le (finite b) = decide (a ≤ b) := by
  simp only [le, lt, eq, ← Bool.decide_or, ← le_iff_lt_or_eq]

/-- The shortest decimal significand of at most 17 digits that reads back as `q > 0`:
the digits and the exponent of the last one. -/
def shortestDigits (q : ℚ) : ℕ × ℤ :=
  let k := log10Floor q
  let candidate (p : ℕ) : ℕ × ℤ :=
    let e := k - (p : ℤ) + 1
    ((roundHalfEven (q / (10 : ℚ) ^ e)).toNat, e)
  let readsBack (c : ℕ × ℤ) : Bool := decide (ofRat ((c.1 : ℚ) * (10 : ℚ) ^ c.2) = .finite q)
  (((List.range 17).map fun p => candidate (p + 1)).find? readsBack).getD (candidate 17)

/-- The decimal digits of a positive number without its trailing zeros. -/
def significantDigits (n : ℕ) : List Char :=
  ((Nat.toDigits 10 n).reverse.dropWhile (· == '0')).reverse

/-- `repr` of a positive finite float: positional for exponents from -4 to 15. -/
def reprPositive (q : ℚ) : String :=
  let c := shortestDigits q
  let digits := significantDigits c.1
  let point := (Nat.toDigits 10 c.1).length + c.2
  let exponent := point - 1
  if -4 ≤ exponent ∧ exponent < 16 then
    if point ≤ 0 then
      "0." ++ String.ofList (List.replicate (-point).toNat '0' ++ digits)
    else
      let whole := digits.take point.toNat ++ List.replicate (point.toNat - digits.length) '0'
      let fraction := digits.drop point.toNat
      String.ofList whole ++ "." ++ (if fraction.isEmpty then "0" else String.ofList fraction)
  else
    let mantissa := match digits with
      | d :: [] => String.ofList [d]
      | d :: ds => String.ofList (d :: '.' :: ds)
      | [] => "0"
    let e := exponent.natAbs
    mantissa ++ "e" ++ (if exponent < 0 then "-" else "+") ++ (if e < 10 then "0" else "") ++
      toString e

def repr : PyFloat → String
  | .finite q => if q = 0 then "0.0" else if q < 0 then "-" ++ reprPositive (-q) else reprPositive q
  | .infinite s => if s then "-inf" else "inf"
  | .nan => "nan"

/-- The text of a number that is not negative with a fixed number of decimals, as in `:.2f`. -/
def fixed (places : ℕ) (q : ℚ) : String :=
  let n := (roundHalfEven (q * 10 ^ places)).toNat
  let fraction := Nat.toDigits 10 (n % 10 ^ places)
  toString (n / 10 ^ places) ++
    if places = 0 then ""
    else "." ++ String.ofList (List.replicate (places - fraction.length) '0' ++ fraction)

example : fixed 2 (3 / 5) = "0.60" ∧ fixed 0 300 = "300" := by decide +kernel

example : (ofRat (1 / 10)).repr = "0.1" ∧ (ofRat 350000).repr = "350000.0" ∧
    (ofRat (15 / 1000000)).repr = "1.5e-05" := by decide +kernel

end PyFloat
end CitPhysicalXR.Foundation
