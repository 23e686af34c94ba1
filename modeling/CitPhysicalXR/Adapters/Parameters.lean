import CitPhysicalXR.Adapters.Client
import Mathlib.Data.List.Sort

/-! The checks of command parameters that the adapters share. A value of a class that Python
cannot hash or convert raises another exception than `ValueError`. -/
namespace CitPhysicalXR.Adapters
open Foundation Fabric

/-- `float(n)` of an integer. -/
def floatOfInt (n : ℤ) : Except AdapterError PyFloat :=
  match PyFloat.ofRat n with
  | .infinite _ => .error ⟨.exception, "int too large to convert to float"⟩
  | x => .ok x

def number (value : Option JsonValue) (failure : String) : Except AdapterError PyFloat :=
  match value with
  | some (.int n) => floatOfInt n
  | some (.float x) => .ok x
  | _ => .error (valueError failure)

/-- `value in names` for a set of strings. -/
def memberOf (value : Option JsonValue) (names : List String) : Except AdapterError Bool :=
  match value with
  | some (.str s) => .ok (names.contains s)
  | some (.arr _) => .error ⟨.exception, "unhashable type: 'list'"⟩
  | some (.obj _) => .error ⟨.exception, "unhashable type: 'dict'"⟩
  | _ => .ok false

def integerWithin (value : Option JsonValue) (minimum maximum : ℤ) : Option ℤ :=
  match value with
  | some (.int n) => if minimum ≤ n ∧ n ≤ maximum then some n else none
  | _ => none

/-- `minimum <= x <= maximum` for floats. -/
def floatWithin (x : PyFloat) (minimum maximum : ℚ) : Bool :=
  (PyFloat.ofRat minimum).le x && x.le (.ofRat maximum)

/-- `str(value)` of a string. -/
def textOf : Option JsonValue → String
  | some (.str s) => s
  | _ => ""

def intOf : Option JsonValue → ℤ
  | some (.int n) => n
  | _ => 0

def boolOf : Option JsonValue → Bool
  | some (.bool b) => b
  | _ => false

/-- `repr` of a list of strings. -/
def listRepr (names : List String) : String :=
  "[" ++ PyString.joinComma (names.map PyString.repr) ++ "]"

/-- `sorted(set(parameters) ^ expected)`. -/
def differingKeys (parameters : JsonObject) (expected : List String) : List String :=
  ((parameters.keys.filter fun key => !expected.contains key) ++
    expected.filter fun key => !parameters.keys.contains key).mergeSort fun a b => decide (a ≤ b)

/-- `_expect_keys`; `expected` stands in order. -/
def expectKeys (parameters : JsonObject) (expected : List String) : Except AdapterError Unit :=
  raiseIf (parameters.hasExactly expected = false)
    (valueError ("Command parameters must be exactly " ++ listRepr expected))

/-- `_integer` of the ground robots: a float without a fraction. -/
def integralNumber (parameters : JsonObject) (name : String) (minimum maximum : ℤ) :
    Except AdapterError ℤ := do
  let raw ← number (parameters.get? name) (name ++ " must be numeric")
  match raw with
  | .finite q =>
    if q.den = 1 ∧ minimum ≤ q.num ∧ q.num ≤ maximum then .ok q.num
    else .error (valueError s!"{name} must be an integer from {minimum} to {maximum}")
  | _ => .error (valueError s!"{name} must be an integer from {minimum} to {maximum}")

def velocityFields : List String :=
  ["forwardMetersPerSecond", "rightMetersPerSecond", "clockwiseRadiansPerSecond"]

/-- `_expect_keys` names the velocity fields in order. -/
def sortedVelocityFields : List String :=
  ["clockwiseRadiansPerSecond", "forwardMetersPerSecond", "rightMetersPerSecond"]

end CitPhysicalXR.Adapters
