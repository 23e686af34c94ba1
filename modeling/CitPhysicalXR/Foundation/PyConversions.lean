import CitPhysicalXR.Foundation.Effect
import CitPhysicalXR.Foundation.PyRepr
import CitPhysicalXR.Foundation.PyText

/-! What `float(…)` and `dict(…)` make of a JSON value, and the exceptions that they raise on the
values that they cannot convert. -/
namespace CitPhysicalXR.Foundation

/-- The built-in exceptions of a conversion or a lookup. -/
inductive PyException where
  | keyError (key : String)
  | typeError (message : String)
  | valueError (message : String)
  | overflowError (message : String)

namespace PyFloat

/-- The underscores of a numeral: each stands between two digits. `none` for any other. -/
def dropUnderscores (previous : Char) : List Char → Option (List Char)
  | [] => if previous = '_' then none else some []
  | c :: rest =>
    if c = '_' then
      if previous.isDigit then dropUnderscores c rest else none
    else if previous = '_' ∧ c.isDigit = false then none
    else (dropUnderscores c rest).map (c :: ·)

/-- A sign, if there is one: whether it is a minus, and what follows it. -/
def takeSign : List Char → Bool × List Char
  | '-' :: rest => (true, rest)
  | '+' :: rest => (false, rest)
  | rest => (false, rest)

def digitsValue (digits : List Char) : ℕ :=
  digits.foldl (fun value c => 10 * value + (c.toNat - '0'.toNat)) 0

/-- The exponent of a numeral, to the end of the text. -/
def exponent? : List Char → Option ℤ
  | [] => some 0
  | e :: rest =>
    let (negative, digits) := takeSign rest
    if e.toLower = 'e' ∧ digits ≠ [] ∧ digits.all Char.isDigit then
      some (if negative then -(digitsValue digits : ℤ) else digitsValue digits)
    else none

/-- The number of an unsigned decimal numeral. -/
def decimal? (text : List Char) : Option ℚ :=
  let whole := text.takeWhile Char.isDigit
  let afterWhole := text.dropWhile Char.isDigit
  let (fraction, tail) := match afterWhole with
    | '.' :: rest => (rest.takeWhile Char.isDigit, rest.dropWhile Char.isDigit)
    | rest => ([], rest)
  if whole = [] ∧ fraction = [] then none
  else (exponent? tail).map fun exponent : ℤ =>
    (digitsValue (whole ++ fraction) : ℚ) * (10 : ℚ) ^ (exponent - fraction.length)

def asciiDigit (c : Char) : Char := ((TextRules.unicodeDecimal? c).map Nat.digitChar).getD c

/-- The white space around a numeral: the separators of ASCII are none. -/
def isMargin (c : Char) : Bool := PyString.isSpace c && !(28 ≤ c.toNat && c.toNat ≤ 31)

/-- `float(text)`, for a text that it accepts. -/
def ofText? (text : String) : Option PyFloat := do
  let stripped := (PyString.stripAll isMargin text).toList
  let plain ← dropUnderscores ' ' (stripped.map asciiDigit)
  let (negative, unsigned) := takeSign plain
  let name := String.ofList (unsigned.map Char.toLower)
  if name = "inf" ∨ name = "infinity" then return .infinite negative
  else if name = "nan" then return .nan
  else
    let value ← decimal? unsigned
    return .ofRat (if negative then -value else value)

example : ofText? " -1_0.5e1\n" = some (.finite (-105)) ∧
    ofText? "Infinity" = some (.infinite false) ∧ ofText? "1__0" = none ∧
    ofText? "" = none := by decide +kernel

end PyFloat

namespace JsonValue

/-- `type(value).__name__`. -/
def typeName : JsonValue → String
  | .null => "NoneType"
  | .bool _ => "bool"
  | .int _ => "int"
  | .float _ => "float"
  | .str _ => "str"
  | .arr _ => "list"
  | .obj _ => "dict"

/-- `float(value)`. -/
def toFloat : JsonValue → Except PyException PyFloat
  | .bool b => .ok (.finite (if b then 1 else 0))
  | .int n =>
    if (PyFloat.ofRat n).isFinite then .ok (.ofRat n)
    else .error (.overflowError "int too large to convert to float")
  | .float x => .ok x
  | .str s =>
    match PyFloat.ofText? s with
    | some x => .ok x
    | none => .error (.valueError s!"could not convert string to float: {PyString.repr s}")
  | value => .error (.typeError
      s!"float() argument must be a string or a real number, not '{value.typeName}'")

/-- A number within the range of a float, or a text that denotes one. -/
def IsNumeric : JsonValue → Prop
  | .bool _ | .float _ => True
  | .int n => (PyFloat.ofRat n).isFinite = true
  | .str s => (PyFloat.ofText? s).isSome = true
  | .null | .arr _ | .obj _ => False

theorem toFloat_eq_ok {value : JsonValue} : (∃ x, value.toFloat = .ok x) ↔ value.IsNumeric := by
  cases value with
  | null | arr _ | obj _ => simp [toFloat, IsNumeric]
  | bool _ | float _ => simp [toFloat, IsNumeric]
  | int n =>
    simp only [toFloat, IsNumeric]
    split <;> simp_all
  | str s =>
    simp only [toFloat, IsNumeric]
    cases PyFloat.ofText? s <;> simp

/-- What iterating over a value gives. -/
def elements? : JsonValue → Option (List JsonValue)
  | .str s => some (s.toList.map fun c => .str (String.singleton c))
  | .arr items => some items
  | .obj fields => some (fields.map fun field => .str field.1)
  | _ => none

/-- Lists and dictionaries have no hash. -/
def isHashable : JsonValue → Bool
  | .arr _ | .obj _ => false
  | _ => true

/-- `entries[key] = value`. -/
def assign (entries : List (JsonValue × JsonValue)) (key value : JsonValue) :
    List (JsonValue × JsonValue) :=
  if entries.any fun entry => entry.1.pyEq key then
    entries.map fun entry => if entry.1.pyEq key then (entry.1, value) else entry
  else entries ++ [(key, value)]

/-- One element of a sequence is taken as a key and its value. -/
def readPair (index : ℕ) (element : JsonValue) : Except PyException (JsonValue × JsonValue) :=
  match element.elements? with
  | none => .error (.typeError
      s!"cannot convert dictionary update sequence element #{index} to a sequence")
  | some [key, value] =>
    if key.isHashable then .ok (key, value)
    else .error (.typeError s!"unhashable type: '{key.typeName}'")
  | some parts => .error (.valueError
      (s!"dictionary update sequence element #{index} has length {parts.length}; " ++
        "2 is required"))

/-- The elements of a sequence from one on are added to a dictionary. -/
def readPairs (entries : List (JsonValue × JsonValue)) (index : ℕ) :
    List JsonValue → Except PyException (List (JsonValue × JsonValue))
  | [] => .ok entries
  | element :: rest => do
    let (key, value) ← element.readPair index
    readPairs (assign entries key value) (index + 1) rest

/-- `dict(value)`. -/
def toDict (value : JsonValue) : Except PyException (List (JsonValue × JsonValue)) :=
  match value with
  | .obj fields => .ok (fields.map fun field => (.str field.1, field.2))
  | value =>
    match value.elements? with
    | none => .error (.typeError s!"'{value.typeName}' object is not iterable")
    | some elements => readPairs [] 0 elements

/-- A sequence of two, the first of them no list and no dictionary. -/
def IsPair (element : JsonValue) : Prop :=
  ∃ key value, element.elements? = some [key, value] ∧ key.isHashable = true

/-- A dictionary, or a sequence of pairs. -/
def IsMapping : JsonValue → Prop
  | .obj _ => True
  | value => ∃ elements, value.elements? = some elements ∧ ∀ element ∈ elements, element.IsPair

theorem readPair_eq_ok {index : ℕ} {element : JsonValue} :
    (∃ entry, element.readPair index = .ok entry) ↔ element.IsPair := by
  unfold readPair IsPair
  constructor
  · rintro ⟨entry, hentry⟩
    split at hentry
    · cases hentry
    · rename_i key value heq
      split at hentry
      · exact ⟨key, value, heq, ‹_›⟩
      · cases hentry
    · cases hentry
  · rintro ⟨key, value, heq, hhash⟩
    exact ⟨(key, value), by simp only [heq, hhash, if_true]⟩

theorem readPairs_eq_ok {elements : List JsonValue} {entries : List (JsonValue × JsonValue)}
    {index : ℕ} : (∃ read, readPairs entries index elements = .ok read) ↔
      ∀ element ∈ elements, element.IsPair := by
  induction elements generalizing entries index with
  | nil => simp [readPairs]
  | cons element rest ih =>
    rw [List.forall_mem_cons, ← @readPair_eq_ok index]
    simp only [readPairs]
    constructor
    · rintro ⟨read, hread⟩
      obtain ⟨⟨key, value⟩, hpair, hrest⟩ := bind_eq_ok.mp hread
      exact ⟨⟨_, hpair⟩, ih.mp ⟨read, hrest⟩⟩
    · rintro ⟨⟨⟨key, value⟩, hpair⟩, hrest⟩
      obtain ⟨read, hread⟩ := ih.mpr hrest
      exact ⟨read, bind_eq_ok.mpr ⟨_, hpair, hread⟩⟩

theorem toDict_eq_ok {value : JsonValue} : (∃ read, value.toDict = .ok read) ↔ value.IsMapping := by
  cases value with
  | obj fields => exact iff_of_true ⟨_, rfl⟩ trivial
  | arr items => simp [toDict, IsMapping, elements?, readPairs_eq_ok]
  | str s => simp [toDict, IsMapping, elements?, readPairs_eq_ok]
  | null | bool _ | int _ | float _ => simp [toDict, IsMapping, elements?]

/-- The dictionary, when all its keys are strings. -/
def stringKeyed (entries : List (JsonValue × JsonValue)) : Option JsonObject :=
  entries.foldlM (fun (object : JsonObject) entry =>
    entry.1.str?.map fun key => object.set key entry.2) .empty

end JsonValue
end CitPhysicalXR.Foundation
