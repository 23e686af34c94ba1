import Mathlib.Tactic.Common
import Mathlib.Data.Int.Basic

/-! Aware datetimes as instants: microseconds since 1970-01-01T00:00:00Z. -/
namespace CitPhysicalXR.Foundation

abbrev Instant := ℤ
abbrev Duration := ℤ

def milliseconds (n : ℤ) : Duration := n * 1000
def seconds (n : ℤ) : Duration := n * 1000000
def minutes (n : ℤ) : Duration := seconds (n * 60)
def hours (n : ℤ) : Duration := minutes (n * 60)

namespace Instant

/-- Year, month and day of a day count in the proleptic Gregorian calendar. -/
def civil (days : ℤ) : ℤ × ℤ × ℤ :=
  let z := days + 719468
  let era := z / 146097
  let doe := z - era * 146097
  let yoe := (doe - doe / 1460 + doe / 36524 - doe / 146096) / 365
  let doy := doe - (365 * yoe + yoe / 4 - yoe / 100)
  let mp := (5 * doy + 2) / 153
  let day := doy - (153 * mp + 2) / 5 + 1
  let month := if mp < 10 then mp + 3 else mp - 9
  (yoe + era * 400 + (if month ≤ 2 then 1 else 0), month, day)

/-- The last `width` decimal digits; a year of `datetime` has four. -/
def digits : ℕ → ℕ → List Char
  | 0, _ => []
  | width + 1, n => digits width (n / 10) ++ [Nat.digitChar (n % 10)]

def padded (width : ℕ) (n : ℤ) : String := String.ofList (digits width n.toNat)

def isoText (t : Instant) (zone : String) : String :=
  let day := t / 86400000000
  let rest := t % 86400000000
  let (y, m, d) := civil day
  let second := rest / 1000000
  let fraction := rest % 1000000
  padded 4 y ++ "-" ++ padded 2 m ++ "-" ++ padded 2 d ++ "T" ++
    padded 2 (second / 3600) ++ ":" ++ padded 2 (second / 60 % 60) ++ ":" ++
    padded 2 (second % 60) ++ (if fraction = 0 then "" else "." ++ padded 6 fraction) ++ zone

example : isoText (seconds 951827696) "Z" = "2000-02-29T12:34:56Z" := by decide

end Instant
end CitPhysicalXR.Foundation
