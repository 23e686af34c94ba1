import CitPhysicalXR.Foundation.PyJson
import CitPhysicalXR.Foundation.PyDatetime

/-! Text of JavaScript: lengths in UTF-16 units, `trim`, dates, `Number::toString` and the
size of what `JSON.stringify` writes. -/
namespace CitPhysicalXR.Foundation

namespace JsString

/-- `s.length`, which counts a character beyond the basic plane twice. -/
def length (s : String) : ℕ :=
  (s.toList.map fun c => if c.toNat < 0x10000 then 1 else 2).sum

/-- The white space and line terminators that `trim` removes. -/
def isSpace (c : Char) : Bool :=
  let n := c.toNat
  (9 ≤ n && n ≤ 13) || n == 32 || n == 0xA0 || n == 0x1680 || (0x2000 ≤ n && n ≤ 0x200A) ||
    n == 0x2028 || n == 0x2029 || n == 0x202F || n == 0x205F || n == 0x3000 || n == 0xFEFF

/-- `!s.trim()`. -/
def isBlank (s : String) : Bool := s.toList.all isSpace

end JsString

namespace PyFloat

/-- `String(x)` of a positive finite number: positional for exponents from -6 to 20. -/
def jsPositive (q : ℚ) : String :=
  let c := shortestDigits q
  let digits := significantDigits c.1
  let point := (Nat.toDigits 10 c.1).length + c.2
  let exponent := point - 1
  if -6 ≤ exponent ∧ exponent ≤ 20 then
    if point ≤ 0 then "0." ++ String.ofList (List.replicate (-point).toNat '0' ++ digits)
    else
      let whole := digits.take point.toNat ++ List.replicate (point.toNat - digits.length) '0'
      let fraction := digits.drop point.toNat
      String.ofList (if fraction.isEmpty then whole else whole ++ '.' :: fraction)
  else
    let mantissa := match digits with
      | d :: [] => String.ofList [d]
      | d :: ds => String.ofList (d :: '.' :: ds)
      | [] => "0"
    mantissa ++ "e" ++ (if exponent < 0 then "-" else "+") ++ toString exponent.natAbs

/-- What `JSON.stringify` writes for a number. -/
def stringify : PyFloat → String
  | .finite q => if q = 0 then "0" else if q < 0 then "-" ++ jsPositive (-q) else jsPositive q
  | .infinite _ | .nan => "null"

example : (ofRat (1 / 10)).stringify = "0.1" ∧ (ofRat 350000).stringify = "350000" ∧
    (ofRat (15 / 100000000)).stringify = "1.5e-7" := by decide +kernel

end PyFloat

namespace Instant

/-- `date.getTime()`. -/
def getTime (t : Instant) : ℤ := t / 1000

def toISOString (t : Instant) : String :=
  let ms := (t % 1000000 / 1000).toNat
  (t - t % 1000000).isoText "." ++
    String.ofList ([ms / 100, ms / 10 % 10, ms % 10].map Nat.digitChar) ++ "Z"

example : toISOString (seconds 951827696 + milliseconds 7) = "2000-02-29T12:34:56.007Z" := by
  decide

end Instant

namespace JsonValue

mutual
/-- `Buffer.byteLength(JSON.stringify(value), "utf8")`. -/
def stringifyBytes : JsonValue → ℕ
  | .null => 4
  | .bool b => if b then 4 else 5
  | .int n => (toString n).length
  | .float x => x.stringify.length
  | .str s => stringBytes s
  | .arr items => 2 + (items.length - 1) + stringifyItems items
  | .obj fields => 2 + (fields.length - 1) + stringifyFields fields

def stringifyItems : List JsonValue → ℕ
  | [] => 0
  | v :: vs => stringifyBytes v + stringifyItems vs

def stringifyFields : List (String × JsonValue) → ℕ
  | [] => 0
  | (k, v) :: fs => stringBytes k + 1 + stringifyBytes v + stringifyFields fs
end

end JsonValue
end CitPhysicalXR.Foundation
