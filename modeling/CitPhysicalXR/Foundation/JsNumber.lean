import CitPhysicalXR.Foundation.JsText

/-! `String(value)` and `Number(value)` of a JSON value in JavaScript. A number is an `int` or a
`float` of the JSON value; both are doubles. -/
namespace CitPhysicalXR.Foundation

namespace PyFloat

def toJsString : PyFloat → String
  | .finite q => (finite q).stringify
  | .infinite negative => if negative then "-Infinity" else "Infinity"
  | .nan => "NaN"

end PyFloat

namespace JsString

def trim (s : String) : List Char :=
  ((s.toList.dropWhile isSpace).reverse.dropWhile isSpace).reverse

def digitValue (c : Char) : Option ℕ :=
  if c.isDigit then some (c.toNat - 48)
  else if 'a' ≤ c ∧ c ≤ 'f' then some (c.toNat - 87)
  else if 'A' ≤ c ∧ c ≤ 'F' then some (c.toNat - 55)
  else none

/-- The natural number that digits of a base write; there must be one at least. -/
def naturalOf (base : ℕ) (digits : List Char) : Option ℕ :=
  if digits.isEmpty then none
  else digits.foldlM (fun value c => do
    let digit ← digitValue c
    if digit < base then some (value * base + digit) else none) 0

/-- An exponent part, or nothing. -/
def exponentOf : List Char → Option ℤ
  | [] => some 0
  | c :: rest =>
    if c ≠ 'e' ∧ c ≠ 'E' then none
    else match rest with
      | '+' :: digits => (naturalOf 10 digits).map fun n => (n : ℤ)
      | '-' :: digits => (naturalOf 10 digits).map fun n => -(n : ℤ)
      | digits => (naturalOf 10 digits).map fun n => (n : ℤ)

/-- An unsigned decimal literal: digits before or after the point, and an exponent. -/
def decimalOf (text : List Char) : Option ℚ := do
  let whole := text.takeWhile Char.isDigit
  let rest := text.dropWhile Char.isDigit
  let (fraction, rest) := match rest with
    | '.' :: rest => (rest.takeWhile Char.isDigit, rest.dropWhile Char.isDigit)
    | rest => ([], rest)
  let digits ← naturalOf 10 (whole ++ fraction)
  let exponent ← exponentOf rest
  return (digits : ℚ) * (10 : ℚ) ^ (exponent - fraction.length)

/-- A decimal literal without its sign, or `Infinity`. -/
def unsignedOf (text : List Char) : PyFloat :=
  if text = "Infinity".toList then .infinite false
  else match decimalOf text with
    | some q => .ofRat q
    | none => .nan

def toNumber (s : String) : PyFloat :=
  match trim s with
  | [] => .finite 0
  | '+' :: text => unsignedOf text
  | '-' :: text => (unsignedOf text).neg
  | '0' :: c :: digits =>
    let base := if c = 'x' ∨ c = 'X' then 16 else if c = 'o' ∨ c = 'O' then 8
      else if c = 'b' ∨ c = 'B' then 2 else 0
    if base = 0 then unsignedOf ('0' :: c :: digits)
    else match naturalOf base digits with
      | some n => .ofRat n
      | none => .nan
  | text => unsignedOf text

example : toNumber " 0x1F " = .finite 31 ∧ toNumber "1e21" = .ofRat (10 ^ 21) ∧
    toNumber "-.5" = .finite (-1 / 2) ∧ toNumber "" = .finite 0 ∧ toNumber "4 m" = .nan := by
  decide +kernel

end JsString

namespace JsonValue

mutual
/-- `String(value)`; `null` is the text it has on its own, not the empty one that it has in an
array. -/
def toJsString : JsonValue → String
  | .null => "null"
  | .bool b => if b then "true" else "false"
  | .int n => (PyFloat.ofRat n).toJsString
  | .float x => x.toJsString
  | .str s => s
  | .arr items => String.intercalate "," (itemStrings items)
  | .obj _ => "[object Object]"

def itemStrings : List JsonValue → List String
  | [] => []
  | .null :: items => "" :: itemStrings items
  | item :: items => toJsString item :: itemStrings items
end

/-- `Number(value)`; an array is read as its text. -/
def toNumber : JsonValue → PyFloat
  | .null => .finite 0
  | .bool b => .finite (if b then 1 else 0)
  | .int n => .ofRat n
  | .float x => x
  | .str s => JsString.toNumber s
  | .arr items => JsString.toNumber (toJsString (.arr items))
  | .obj _ => .nan

end JsonValue
end CitPhysicalXR.Foundation
