import CitPhysicalXR.Fabric.UuidText
import CitPhysicalXR.Plugs.UnlockAutomation

/-! The Android companion: the canonical strings that it signs, and the bodies that it sends. -/
namespace CitPhysicalXR.Plugs
open Foundation Fabric

structure JavaUuid where
  mostSigBits : BitVec 64
  leastSigBits : BitVec 64

/-- The last `count` hexadecimal digits of a number. -/
def hexDigits (value count : ℕ) : List Char :=
  (List.range count).map fun i => Nat.digitChar (value / 16 ^ (count - 1 - i) % 16)

/-- `UUID.toString`. -/
def JavaUuid.toString (id : JavaUuid) : String :=
  let most := id.mostSigBits.toNat
  let least := id.leastSigBits.toNat
  String.ofList (hexDigits (most / 2 ^ 32) 8 ++ '-' :: hexDigits (most / 2 ^ 16) 4 ++
    '-' :: hexDigits most 4 ++ '-' :: hexDigits (least / 2 ^ 48) 4 ++ '-' :: hexDigits least 12)

/-- `long`, which string concatenation writes in decimal, with its sign. -/
abbrev JavaLong := BitVec 64

def JavaLong.text (n : JavaLong) : String := toString n.toInt

namespace UnlockProtocol

def canonicalOf (domain deviceId eventId : String) (sequence occurredAtEpochMs : JavaLong) :
    String :=
  domain ++ "\n" ++ deviceId ++ "\n" ++ eventId ++ "\n" ++ sequence.text ++ "\n" ++
    occurredAtEpochMs.text

def canonical : String → String → JavaLong → JavaLong → String :=
  canonicalOf "cit-control-tower-unlock-v1"

def toggleCanonical : String → String → JavaLong → JavaLong → String :=
  canonicalOf "cit-control-tower-toggle-v1"

def remoteStateCanonical : String → String → JavaLong → JavaLong → String :=
  canonicalOf "cit-control-tower-remote-state-v1"

def remotePowerCanonical (deviceId eventId : String) (sequence occurredAtEpochMs : JavaLong)
    (on : Bool) : String :=
  canonicalOf "cit-control-tower-remote-power-v1" deviceId eventId sequence occurredAtEpochMs ++
    "\n" ++ if on then "1" else "0"

end UnlockProtocol

/-- What a request of the companion asks for. -/
inductive CompanionCall where
  | unlock | toggle | remoteState
  | remotePower (on : Bool)

structure CompanionRequest where
  call : CompanionCall
  deviceId : String
  eventId : JavaUuid
  sequence : JavaLong
  occurredAt : JavaLong

namespace CompanionRequest
variable (request : CompanionRequest)

/-- The string that is signed. -/
def canonical : String :=
  match request.call with
  | .unlock => UnlockProtocol.canonical request.deviceId request.eventId.toString request.sequence
      request.occurredAt
  | .toggle => UnlockProtocol.toggleCanonical request.deviceId request.eventId.toString
      request.sequence request.occurredAt
  | .remoteState => UnlockProtocol.remoteStateCanonical request.deviceId request.eventId.toString
      request.sequence request.occurredAt
  | .remotePower on => UnlockProtocol.remotePowerCanonical request.deviceId
      request.eventId.toString request.sequence request.occurredAt on

def envelope : List (String × JsonValue) :=
  [("schemaVersion", .str "1.0"), ("deviceId", .str request.deviceId),
    ("eventId", .str request.eventId.toString), ("sequence", .int request.sequence.toInt),
    ("occurredAtEpochMs", .int request.occurredAt.toInt)]

def body : List (String × JsonValue) :=
  match request.call with
  | .unlock | .toggle | .remoteState => request.envelope
  | .remotePower on => request.envelope ++ [("on", .bool on)]

end CompanionRequest

section
variable (readUuid : String → Option Uuid)

structure ReadsEvent (body : List (String × JsonValue)) (event : UnlockEventRequest) : Prop where
  deviceId : body.lookup "deviceId" = some (.str event.deviceId)
  eventId : ∃ text, body.lookup "eventId" = some (.str text) ∧ readUuid text = some event.eventId
  sequence : body.lookup "sequence" = some (.int event.sequence)
  occurredAt : body.lookup "occurredAtEpochMs" = some (.int event.occurredAtEpochMs)

/-- The request that the server reads from a body at the endpoint of a call. A selection that is
not there is `None`. -/
def Receives (call : CompanionCall) (body : List (String × JsonValue)) :
    SignedRequest → Prop
  | .unlock event => call = .unlock ∧ ReadsEvent readUuid body event
  | .toggle event => call = .toggle ∧ ReadsEvent readUuid body event
  | .remoteState event => call = .remoteState ∧ ReadsEvent readUuid body event
  | .remotePower event => (∃ on, call = .remotePower on) ∧
      ReadsEvent readUuid body event.toUnlockEventRequest ∧
      body.lookup "on" = some (.bool event.on) ∧
      (body.lookup "selectedNodeIds" = none → event.selectedNodeIds = none)

end

def JavaUuid.uuid (id : JavaUuid) : Uuid :=
  ⟨⟨id.mostSigBits.toNat * 2 ^ 64 + id.leastSigBits.toNat, by
    have hmost := id.mostSigBits.isLt
    have hleast := id.leastSigBits.isLt
    omega⟩⟩

theorem hexDigits_places {value whole start count : ℕ}
    (h : ∀ i < count, value / 16 ^ (count - 1 - i) % 16 = whole / 16 ^ (31 - (start + i)) % 16) :
    hexDigits value count = (List.range' start count).map (Uuid.digit whole) := by
  rw [List.range'_eq_map_range, List.map_map]
  refine List.map_congr_left ?_
  intro i hi
  exact congrArg Nat.digitChar (h i (List.mem_range.mp hi))

section
variable (most least : ℕ)

theorem high_digits (hleast : least < 2 ^ 64) (start count : ℕ) (h : start + count ≤ 16) :
    hexDigits (most / 16 ^ (16 - start - count)) count =
      (List.range' start count).map (Uuid.digit (most * 2 ^ 64 + least)) := by
  refine hexDigits_places ?_
  intro i hi
  have hwhole : (most * 2 ^ 64 + least) / 16 ^ 16 = most := by
    omega
  rw [Nat.div_div_eq_div_mul, ← pow_add,
    show 31 - (start + i) = 16 + (16 - start - count + (count - 1 - i)) by omega, pow_add _ 16,
    ← Nat.div_div_eq_div_mul, hwhole]

theorem low_digits (start count : ℕ) (hstart : 16 ≤ start) (h : start + count ≤ 32) :
    hexDigits (least / 16 ^ (32 - start - count)) count =
      (List.range' start count).map (Uuid.digit (most * 2 ^ 64 + least)) := by
  refine hexDigits_places ?_
  intro i hi
  have hplace : 31 - (start + i) = 32 - start - count + (count - 1 - i) := by
    omega
  have hrest : most * 2 ^ 64 = 16 ^ (31 - (start + i)) * (16 ^ (start + i - 16) * most * 16) := by
    have hpower : 2 ^ 64 = 16 ^ (31 - (start + i)) * 16 ^ (start + i - 16) * 16 := by
      rw [← pow_add, ← pow_succ, show 31 - (start + i) + (start + i - 16) + 1 = 16 by omega]
      norm_num
    rw [hpower]
    ring
  rw [Nat.div_div_eq_div_mul, ← pow_add, ← hplace, hrest, Nat.mul_add_div (by positivity),
    Nat.mul_add_mod_self_right]

end

theorem JavaUuid.toString_uuid (id : JavaUuid) : id.toString = id.uuid.text := by
  have htime := high_digits id.mostSigBits.toNat _ id.leastSigBits.isLt 0 8 (by omega)
  have hmid := high_digits id.mostSigBits.toNat _ id.leastSigBits.isLt 8 4 (by omega)
  have hversion := high_digits id.mostSigBits.toNat _ id.leastSigBits.isLt 12 4 (by omega)
  have hclock := low_digits id.mostSigBits.toNat id.leastSigBits.toNat 16 4 (by omega) (by omega)
  have hnode := low_digits id.mostSigBits.toNat id.leastSigBits.toNat 20 12 (by omega) (by omega)
  rw [show (16 : ℕ) ^ (16 - 0 - 8) = 2 ^ 32 by decide] at htime
  rw [show (16 : ℕ) ^ (16 - 8 - 4) = 2 ^ 16 by decide] at hmid
  rw [show (16 : ℕ) ^ (16 - 12 - 4) = 1 by decide, Nat.div_one] at hversion
  rw [show (16 : ℕ) ^ (32 - 16 - 4) = 2 ^ 48 by decide] at hclock
  rw [show (16 : ℕ) ^ (32 - 20 - 12) = 1 by decide, Nat.div_one] at hnode
  simp only [toString, htime, hmid, hversion, hclock, hnode]
  rfl

end CitPhysicalXR.Plugs
