import CitPhysicalXR.Fabric.Protocol
import Mathlib.Data.List.Range
import Mathlib.Tactic.Ring

/-! Reading the text of a UUID back. -/
namespace CitPhysicalXR.Fabric

/-- The value of a hexadecimal digit, in either case. -/
def hexValue (c : Char) : Option ℕ :=
  if '0' ≤ c ∧ c ≤ '9' then some (c.toNat - 48)
  else if 'a' ≤ c ∧ c ≤ 'f' then some (c.toNat - 87)
  else if 'A' ≤ c ∧ c ≤ 'F' then some (c.toNat - 55)
  else none

/-- The number that hexadecimal digits write, after one that is read already. -/
def readHex : ℕ → List Char → Option ℕ
  | n, [] => some n
  | n, c :: rest => (hexValue c).bind fun digit => readHex (16 * n + digit) rest

/-- Thirty-two hexadecimal digits, whatever hyphens stand between them. -/
def Uuid.ofText (text : String) : Option Uuid :=
  let digits := text.toList.filter (· ≠ '-')
  if digits.length = 32 then (readHex 0 digits).map fun n => ⟨Fin.ofNat (2 ^ 128) n⟩ else none

theorem hexValue_digitChar {digit : ℕ} (h : digit < 16) :
    hexValue (Nat.digitChar digit) = some digit ∧ Nat.digitChar digit ≠ '-' := by
  interval_cases digit <;> decide

theorem readHex_append (n : ℕ) (first rest : List Char) :
    readHex n (first ++ rest) = (readHex n first).bind fun m => readHex m rest := by
  induction first generalizing n with
  | nil => rfl
  | cons c first ih =>
    rw [List.cons_append, readHex, readHex, Option.bind_assoc]
    exact Option.bind_congr fun digit _ => ih _

namespace Uuid

/-- The digit of a place, the first being the most significant. -/
def digit (value i : ℕ) : Char := Nat.digitChar (value / 16 ^ (31 - i) % 16)

theorem readHex_digits {value : ℕ} (hvalue : value < 16 ^ 32) (count : ℕ) (hcount : count ≤ 32) :
    readHex 0 ((List.range count).map (digit value)) = some (value / 16 ^ (32 - count)) := by
  induction count with
  | zero => rw [List.range_zero, List.map_nil, readHex, Nat.sub_zero, Nat.div_eq_of_lt hvalue]
  | succ count ih =>
    have hdigit : value / 16 ^ (31 - count) % 16 < 16 := Nat.mod_lt _ (by decide)
    have hplace : value / 16 ^ (32 - count) = value / 16 ^ (31 - count) / 16 := by
      rw [Nat.div_div_eq_div_mul, ← pow_succ]
      congr 2
      omega
    rw [List.range_succ, List.map_append, readHex_append, ih (by omega), Option.bind_some,
      List.map_singleton, readHex, digit, (hexValue_digitChar hdigit).1, Option.bind_some, readHex,
      hplace, show 32 - (count + 1) = 31 - count by omega]
    congr 1
    omega

theorem filter_text (id : Uuid) :
    id.text.toList.filter (· ≠ '-') = (List.range 32).map (digit id.value) := by
  have hgroup (start length : ℕ) : ((List.range' start length).map (digit id.value)).filter
      (· ≠ '-') = (List.range' start length).map (digit id.value) := by
    rw [List.filter_eq_self]
    intro c hc
    obtain ⟨i, -, rfl⟩ := List.mem_map.mp hc
    have hdigit : id.value.val / 16 ^ (31 - i) % 16 < 16 := Nat.mod_lt _ (by decide)
    exact decide_eq_true (hexValue_digitChar hdigit).2
  have htext : id.text.toList = (List.range' 0 8).map (digit id.value) ++
      '-' :: (List.range' 8 4).map (digit id.value) ++
      '-' :: (List.range' 12 4).map (digit id.value) ++
      '-' :: (List.range' 16 4).map (digit id.value) ++
      '-' :: (List.range' 20 12).map (digit id.value) := String.toList_ofList
  rw [htext]
  simp only [List.filter_append, List.filter_cons, hgroup, ne_eq, not_true_eq_false, decide_false,
    Bool.false_eq_true, if_false, ← List.map_append]
  rfl

theorem ofText_text (id : Uuid) : ofText id.text = some id := by
  unfold ofText
  rw [filter_text]
  simp only [List.length_map, List.length_range, if_true]
  rw [readHex_digits id.value.isLt 32 le_rfl]
  simp

theorem text_injective {id id' : Uuid} (h : id.text = id'.text) : id = id' := by
  have hread := ofText_text id
  rw [h, ofText_text] at hread
  exact (Option.some.inj hread).symm

end Uuid
end CitPhysicalXR.Fabric
