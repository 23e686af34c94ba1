import CitPhysicalXR.Foundation.PyFloat
import Mathlib.Data.List.Sort

/-! Python strings and JSON values: the comparisons, the dictionary operations and the
length of the text that `json.dumps` writes. -/
namespace CitPhysicalXR.Foundation

namespace PyString

def startsWith (s pre : String) : Bool := pre.toList.isPrefixOf s.toList
def endsWith (s suffix : String) : Bool := suffix.toList.isSuffixOf s.toList

/-- `str.isspace` for one character. -/
def isSpace (c : Char) : Bool :=
  let n := c.toNat
  (9 ≤ n && n ≤ 13) || (28 ≤ n && n ≤ 32) || n == 0x85 || n == 0xA0 || n == 0x1680 ||
    (0x2000 ≤ n && n ≤ 0x200A) || n == 0x2028 || n == 0x2029 || n == 0x202F ||
    n == 0x205F || n == 0x3000

/-- `not s.strip()`. -/
def isBlank (s : String) : Bool := s.toList.all isSpace

/-- `len(s.encode("utf-8"))`. -/
def encodedLength (s : String) : ℕ := (s.toList.map Char.utf8Size).sum

private def hexDigit (n : ℕ) : Char := Nat.digitChar (n % 16)

private def reprChar (quote c : Char) : List Char :=
  if c == quote || c == '\\' then ['\\', c]
  else if c == '\n' then ['\\', 'n']
  else if c == '\r' then ['\\', 'r']
  else if c == '\t' then ['\\', 't']
  else if c.toNat < 32 || c.toNat == 127 then
    ['\\', 'x', hexDigit (c.toNat / 16), hexDigit c.toNat]
  else [c]

/-- `repr(s)`, where every character beyond ASCII counts as printable. -/
def repr (s : String) : String :=
  let cs := s.toList
  let quote := if cs.contains '\'' && !cs.contains '"' then '"' else '\''
  String.ofList (quote :: cs.flatMap (reprChar quote) ++ [quote])

/-- `", ".join(items)`. -/
def joinComma (items : List String) : String := String.intercalate ", " items

end PyString

inductive JsonValue where
  | null
  | bool (b : Bool)
  | int (n : ℤ)
  | float (x : PyFloat)
  | str (s : String)
  | arr (items : List JsonValue)
  | obj (fields : List (String × JsonValue))

namespace JsonValue

/-- The number a value is in arithmetic and comparisons; `bool` is a subclass of `int`. -/
def number? : JsonValue → Option PyFloat
  | .bool b => some (.finite (if b then 1 else 0))
  | .int n => some (.finite n)
  | .float x => some x
  | _ => none

/-- `type(value) is bool`. -/
def isBool : JsonValue → Bool
  | .bool _ => true
  | _ => false

/-- `type(value) is int`. -/
def int? : JsonValue → Option ℤ
  | .int n => some n
  | _ => none

def str? : JsonValue → Option String
  | .str s => some s
  | _ => none

mutual
/-- Python's `==`: numbers compare across `bool`, `int` and `float`, dictionaries
without regard to the order of their keys. -/
def pyEq : JsonValue → JsonValue → Bool
  | .null, .null => true
  | .bool a, b => numberEq (.finite (if a then 1 else 0)) b
  | .int a, b => numberEq (.finite a) b
  | .float a, b => numberEq a b
  | .str a, .str b => a == b
  | .arr as, .arr bs => pyEqItems as bs
  | .obj as, .obj bs => as.length == bs.length && pyEqFields as bs
  | _, _ => false
where
  numberEq (x : PyFloat) (b : JsonValue) : Bool :=
    match b.number? with
    | some y => x.eq y
    | none => false

def pyEqItems : List JsonValue → List JsonValue → Bool
  | [], [] => true
  | a :: as, b :: bs => pyEq a b && pyEqItems as bs
  | _, _ => false

def pyEqFields : List (String × JsonValue) → List (String × JsonValue) → Bool
  | [], _ => true
  | (k, a) :: as, bs =>
    (match bs.lookup k with
      | some b => pyEq a b
      | none => false) && pyEqFields as bs
end

/-- The bytes of one character inside a JSON string written with `ensure_ascii=False`. -/
def charBytes (c : Char) : ℕ :=
  if c == '"' || c == '\\' || c == '\n' || c == '\r' || c == '\t' || c.toNat == 8 || c.toNat == 12
  then 2
  else if c.toNat < 32 then 6
  else c.utf8Size

def stringBytes (s : String) : ℕ := 2 + (s.toList.map charBytes).sum

mutual
/-- The length in bytes of `json.dumps(value, ensure_ascii=False, separators=(",", ":"))`;
the order of the keys does not change it. -/
def dumpsBytes : JsonValue → ℕ
  | .null => 4
  | .bool b => if b then 4 else 5
  | .int n => (toString n).length
  | .float x => x.repr.length
  | .str s => stringBytes s
  | .arr items => 2 + (items.length - 1) + itemsBytes items
  | .obj fields => 2 + (fields.length - 1) + fieldsBytes fields

def itemsBytes : List JsonValue → ℕ
  | [] => 0
  | v :: vs => dumpsBytes v + itemsBytes vs

def fieldsBytes : List (String × JsonValue) → ℕ
  | [] => 0
  | (k, v) :: fs => stringBytes k + 1 + dumpsBytes v + fieldsBytes fs
end

end JsonValue

/-- A dictionary: its keys are distinct. -/
structure JsonObject where
  fields : List (String × JsonValue)
  unique : (fields.map Prod.fst).Nodup

namespace JsonObject

def empty : JsonObject := ⟨[], List.nodup_nil⟩

def keys (o : JsonObject) : List String := o.fields.map Prod.fst

def get? (o : JsonObject) (name : String) : Option JsonValue := o.fields.lookup name

/-- `value[name] = v`. -/
def set (o : JsonObject) (name : String) (v : JsonValue) : JsonObject :=
  if h : name ∈ o.keys then
    ⟨o.fields.map fun f => if f.1 = name then (f.1, v) else f, by
      have : (o.fields.map fun f => if f.1 = name then (f.1, v) else f).map Prod.fst =
          o.fields.map Prod.fst := by
        rw [List.map_map]
        apply List.map_congr_left
        intro f _
        simp only [Function.comp_apply]
        split <;> rfl
      rw [this]
      exact o.unique⟩
  else
    ⟨o.fields ++ [(name, v)], by
      rw [List.map_append, List.map_singleton, List.nodup_append]
      refine ⟨o.unique, List.nodup_singleton _, ?_⟩
      rintro a ha b hb rfl
      obtain rfl := List.mem_singleton.mp hb
      exact h ha⟩

/-- `value.pop(name, None)`. -/
def pop (o : JsonObject) (name : String) : JsonObject :=
  ⟨o.fields.filter fun f => f.1 ≠ name, (List.filter_sublist.map _).nodup o.unique⟩

/-- The keys that `model_dump(exclude_none=True)` keeps of a free-form object. -/
def excludeNone (o : JsonObject) : JsonObject :=
  ⟨o.fields.filter fun f => !(f.2 matches .null), (List.filter_sublist.map _).nodup o.unique⟩

@[simp] theorem excludeNone_excludeNone (o : JsonObject) :
    o.excludeNone.excludeNone = o.excludeNone := by
  simp [excludeNone, List.filter_filter]

def toJson (o : JsonObject) : JsonValue := .obj o.fields

/-- `set(parameters) == names`. -/
def hasExactly (o : JsonObject) (names : List String) : Bool :=
  o.keys.all (fun k => names.contains k) && names.all (fun k => o.keys.contains k)

/-- `parameters.get(name) is True`. -/
def isTrue (o : JsonObject) (name : String) : Bool :=
  match o.get? name with
  | some (.bool true) => true
  | _ => false

end JsonObject
end CitPhysicalXR.Foundation
