import CitPhysicalXR.Foundation.PyJson

/-! When two values are the same JSON, and what assignments make of an object. Python's `==` is
looser: it takes truth values for numbers. -/
namespace CitPhysicalXR.Foundation

namespace JsonValue

/-- The numbers are equal; a truth value is no number. -/
def sameNumber (x : PyFloat) : JsonValue → Bool
  | .int n => x.eq (.finite n)
  | .float y => x.eq y
  | _ => false

mutual

/-- The same JSON value: of one type, and the same at every depth. -/
def same : JsonValue → JsonValue → Bool
  | .null, .null => true
  | .bool a, .bool b => a == b
  | .int a, b => sameNumber (.finite a) b
  | .float a, b => sameNumber a b
  | .str a, .str b => a == b
  | .arr as, .arr bs => sameItems as bs
  | .obj as, .obj bs => as.length == bs.length && sameFields as bs
  | _, _ => false

def sameItems : List JsonValue → List JsonValue → Bool
  | [], [] => true
  | a :: as, b :: bs => same a b && sameItems as bs
  | _, _ => false

def sameFields : List (String × JsonValue) → List (String × JsonValue) → Bool
  | [], _ => true
  | (k, a) :: as, bs =>
    (match bs.lookup k with
      | some b => same a b
      | none => false) && sameFields as bs

end

theorem numberEq_of_sameNumber {x : PyFloat} {b : JsonValue} (h : sameNumber x b = true) :
    pyEq.numberEq x b = true := by
  unfold pyEq.numberEq
  cases b with
  | int n => exact h
  | float y => exact h
  | null => cases h
  | bool _ => cases h
  | str _ => cases h
  | arr _ => cases h
  | obj _ => cases h

mutual

theorem pyEq_of_same {a b : JsonValue} (h : same a b = true) : pyEq a b = true := by
  match a with
  | .null =>
    cases b with
    | null => rfl
    | _ => cases h
  | .bool a =>
    cases b with
    | bool b =>
      obtain rfl := beq_iff_eq.mp h
      cases a <;> rfl
    | _ => cases h
  | .int a =>
    rw [same] at h
    rw [pyEq]
    exact numberEq_of_sameNumber h
  | .float a =>
    rw [same] at h
    rw [pyEq]
    exact numberEq_of_sameNumber h
  | .str a =>
    cases b with
    | str b => exact h
    | _ => cases h
  | .arr as =>
    cases b with
    | arr bs =>
      rw [same] at h
      rw [pyEq]
      exact pyEqItems_of_same h
    | _ => simp [same] at h
  | .obj as =>
    cases b with
    | obj bs =>
      rw [same, Bool.and_eq_true] at h
      rw [pyEq, Bool.and_eq_true]
      exact ⟨h.1, pyEqFields_of_same h.2⟩
    | _ => simp [same] at h

theorem pyEqItems_of_same {as bs : List JsonValue} (h : sameItems as bs = true) :
    pyEqItems as bs = true := by
  match as with
  | [] =>
    cases bs with
    | nil => rfl
    | cons b bs => simp [sameItems] at h
  | a :: as =>
    cases bs with
    | nil => simp [sameItems] at h
    | cons b bs =>
      rw [sameItems, Bool.and_eq_true] at h
      rw [pyEqItems, Bool.and_eq_true]
      exact ⟨pyEq_of_same h.1, pyEqItems_of_same h.2⟩

theorem pyEqFields_of_same {as bs : List (String × JsonValue)} (h : sameFields as bs = true) :
    pyEqFields as bs = true := by
  match as with
  | [] => rw [pyEqFields]
  | (k, a) :: as =>
    rw [sameFields, Bool.and_eq_true] at h
    rw [pyEqFields, Bool.and_eq_true]
    refine ⟨?_, pyEqFields_of_same h.2⟩
    cases hfound : bs.lookup k with
    | none =>
      rw [hfound] at h
      cases h.1
    | some b =>
      rw [hfound] at h
      exact pyEq_of_same h.1

end

end JsonValue

namespace JsonObject

theorem lookup_map_set (fields : List (String × JsonValue)) (name other : String) (v : JsonValue) :
    (fields.map fun f => if f.1 = name then (f.1, v) else f).lookup other =
      (fields.lookup other).map fun w => if other = name then v else w := by
  induction fields with
  | nil => rfl
  | cons field fields ih =>
    obtain ⟨key, value⟩ := field
    rw [List.map_cons]
    dsimp only
    by_cases hname : key = name
    · rw [if_pos hname, List.lookup_cons, List.lookup_cons]
      by_cases hother : other = key
      · subst hother
        simp [hname]
      · have hne : (other == key) = false := by simpa using hother
        rw [hne]
        exact ih
    · rw [if_neg hname, List.lookup_cons, List.lookup_cons]
      by_cases hother : other = key
      · subst hother
        simp [hname]
      · have hne : (other == key) = false := by simpa using hother
        rw [hne]
        exact ih

theorem get?_isSome {o : JsonObject} {name : String} : (o.get? name).isSome ↔ name ∈ o.keys := by
  unfold get? keys
  induction o.fields with
  | nil => simp
  | cons field fields ih =>
    rw [List.lookup_cons, List.map_cons, List.mem_cons]
    by_cases hname : name = field.1
    · simp [hname]
    · have hne : (name == field.1) = false := by simpa using hname
      rw [hne]
      simp only [hname, false_or]
      exact ih

theorem get?_eq_none {o : JsonObject} {name : String} (h : name ∉ o.keys) : o.get? name = none := by
  apply Option.not_isSome_iff_eq_none.mp
  rw [get?_isSome]
  exact h

theorem get?_set (o : JsonObject) (name other : String) (v : JsonValue) :
    (o.set name v).get? other = if other = name then some v else o.get? other := by
  unfold set
  split
  · rename_i hmem
    unfold get?
    rw [lookup_map_set]
    by_cases hother : other = name
    · subst hother
      obtain ⟨value, hvalue⟩ := Option.isSome_iff_exists.mp (get?_isSome.mpr hmem)
      unfold get? at hvalue
      simp [hvalue]
    · simp [hother]
  · rename_i hmem
    unfold get?
    rw [List.lookup_append]
    by_cases hother : other = name
    · subst hother
      have hnone : o.fields.lookup other = none := get?_eq_none hmem
      rw [hnone]
      simp
    · have hne : (other == name) = false := by simpa using hother
      simp [List.lookup_cons, hne, hother]

end JsonObject
end CitPhysicalXR.Foundation
