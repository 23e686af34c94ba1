import CitPhysicalXR.Foundation.PyJson

/-! The texts that Python makes of JSON values, and their truth. -/
namespace CitPhysicalXR.Foundation.JsonValue

mutual
/-- `repr(value)`. -/
def pyRepr : JsonValue → String
  | .null => "None"
  | .bool b => if b then "True" else "False"
  | .int n => toString n
  | .float x => x.repr
  | .str s => PyString.repr s
  | .arr items => "[" ++ PyString.joinComma (itemReprs items) ++ "]"
  | .obj fields => "\x7b" ++ PyString.joinComma (fieldReprs fields) ++ "\x7d"

def itemReprs : List JsonValue → List String
  | [] => []
  | item :: items => pyRepr item :: itemReprs items

def fieldReprs : List (String × JsonValue) → List String
  | [] => []
  | (name, value) :: fields => (PyString.repr name ++ ": " ++ pyRepr value) :: fieldReprs fields
end

/-- `str(value)`. -/
def pyStr : JsonValue → String
  | .str s => s
  | value => pyRepr value

/-- `bool(value)`. -/
def truthy : JsonValue → Bool
  | .null => false
  | .bool b => b
  | .int n => n ≠ 0
  | .float x => !x.eq (.finite 0)
  | .str s => s ≠ ""
  | .arr items => !items.isEmpty
  | .obj fields => !fields.isEmpty

example : pyStr (.obj [("code", .int 3), ("on", .arr [.bool true, .null, .str "a"])]) =
    "\x7b'code': 3, 'on': [True, None, 'a']\x7d" := by decide

end CitPhysicalXR.Foundation.JsonValue
