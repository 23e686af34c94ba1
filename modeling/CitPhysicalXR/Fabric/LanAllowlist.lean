import CitPhysicalXR.Fabric.UuidText
import CitPhysicalXR.Foundation.KeyedTable
import CitPhysicalXR.Foundation.PyDatetime
import CitPhysicalXR.Foundation.PyText
import CitPhysicalXR.Foundation.SavedState

/-! The allowlist of hardware addresses: its map in memory, its file, and the decision on a client
of the local network. -/
namespace CitPhysicalXR.Fabric
open Foundation

/-- `normalize_device_name`. -/
def normalizeDeviceName (value : String) : Option String :=
  if value.toList.any fun c => decide (c.toNat < 32) || decide (c.toNat = 127) then none
  else
    let words := (value.toList.splitOnP PyString.isSpace).filter (· ≠ [])
    let normalized := String.ofList (List.intercalate [' '] words)
    if 1 ≤ normalized.length ∧ normalized.length ≤ 80 then some normalized else none

def isUnicast (octets : List ℕ) : Bool :=
  octets.length == 6 && octets.any (· ≠ 0) && octets.any (· ≠ 255) && octets.headD 1 % 2 == 0

/-- An address in its normal form, of which the text is written. -/
structure MacAddress where
  octets : List ℕ
  unicast : isUnicast octets = true
  deriving DecidableEq

def readOctets : List Char → Option (List ℕ)
  | [] => some []
  | [_] => none
  | high :: low :: rest => do
    let high ← hexValue high
    let low ← hexValue low
    return (16 * high + low) :: (← readOctets rest)

/-- `normalize_mac_address`. -/
def normalizeMacAddress (value : String) : Option MacAddress := do
  let compact := (PyString.stripAll PyString.isSpace value).toList.filter (· ∉ [':', '-', '.'])
  let octets ← readOctets compact
  if h : isUnicast octets = true then some ⟨octets, h⟩ else none

structure LanAccessDevice where
  displayName : String
  macAddress : MacAddress
  addedAt : Instant

/-- `_devices`, in the order of insertion, which is that of the stored list. -/
abbrev LanDevices := Table LanAccessDevice.macAddress

inductive LanFailure where
  | invalid
  | saveFailed
  deriving DecidableEq

/-- The map is changed, and then `_save` writes it. -/
def saveChange (f : LanDevices → LanDevices) (outcome : SaveOutcome) :
    Effect (SavedState LanDevices) LanFailure Unit := do
  SavedState.modify f
  SavedState.save .saveFailed outcome

/-- A device that is known keeps the time at which it was added. -/
def withDevice (name : String) (mac : MacAddress) (now : Instant) (devices : LanDevices) :
    LanDevices :=
  devices.upsert ⟨name, mac, ((devices.get? mac).map (·.addedAt)).getD now⟩

def withoutDevice (mac : MacAddress) (devices : LanDevices) : LanDevices :=
  devices.filterRows fun device => device.macAddress ≠ mac

/-- `add_device`. -/
def addDevice (displayName macAddress : String) (now : Instant) (outcome : SaveOutcome) :
    Effect (SavedState LanDevices) LanFailure Unit :=
  match normalizeDeviceName displayName, normalizeMacAddress macAddress with
  | some name, some mac => saveChange (withDevice name mac now) outcome
  | _, _ => throw .invalid

/-- `remove_device`; an unknown device is not saved. -/
def removeDevice (macAddress : String) (outcome : SaveOutcome) :
    Effect (SavedState LanDevices) LanFailure Unit :=
  match normalizeMacAddress macAddress with
  | none => throw .invalid
  | some mac => fun s =>
    if (s.memory.get? mac).isNone then .ok () s
    else saveChange (withoutDevice mac) outcome s

inductive LanCall where
  | add (displayName macAddress : String) (now : Instant) (outcome : SaveOutcome)
  | remove (macAddress : String) (outcome : SaveOutcome)
  | restart

def LanCall.run : LanCall → Effect (SavedState LanDevices) LanFailure Unit
  | add displayName macAddress now outcome => addDevice displayName macAddress now outcome
  | remove macAddress outcome => removeDevice macAddress outcome
  | restart => fun s => .ok () (SavedState.load s.file)

/-- The address of a client that `ipaddress` reads. -/
inductive ClientAddress where
  | loopback
  | ipv4 (text : String)
  | ipv6 (text : String)

/-- `allows`; a client without an address is refused. -/
def allowsClient (enabled : Bool) (resolve : String → Option String) (devices : LanDevices) :
    Option ClientAddress → Bool
  | none => false
  | some .loopback => true
  | some (.ipv4 text) => !enabled ||
    match (resolve text).bind normalizeMacAddress with
    | none => false
    | some mac => (devices.get? mac).isSome
  | some (.ipv6 _) => !enabled

/-- After the call the file holds what the memory holds, so that a restart decides as before, and a
failed save has changed neither. -/
def CallKept (s : SavedState LanDevices) (call : LanCall) : Prop :=
  let next := Effect.final (call.run s)
  next.memory = next.file ∧
    (∀ enabled resolve client,
      allowsClient enabled resolve (SavedState.load next.file).memory client =
        allowsClient enabled resolve next.memory client) ∧
    (Effect.raised (call.run s) = some .saveFailed → next = s)

/-- The save succeeds, or there is nothing to save. -/
def SavesOrKeeps (s : SavedState LanDevices) : LanCall → Prop
  | .add displayName macAddress now outcome => outcome = .saved ∨
      ∀ name mac, normalizeDeviceName displayName = some name →
        normalizeMacAddress macAddress = some mac → withDevice name mac now s.memory = s.memory
  | .remove macAddress outcome => outcome = .saved ∨
      ∀ mac, normalizeMacAddress macAddress = some mac → s.memory.get? mac = none
  | .restart => True

/-- A property of every call of a run, with the state that it finds. -/
def AlongCalls (P : SavedState LanDevices → LanCall → Prop) :
    SavedState LanDevices → List LanCall → Prop
  | _, [] => True
  | s, call :: calls => P s call ∧ AlongCalls P (Effect.final (call.run s)) calls

variable {s : SavedState LanDevices}

theorem saveChange_kept (h : s.memory = s.file) (f : LanDevices → LanDevices)
    (outcome : SaveOutcome) :
    ((Effect.final (saveChange f outcome s)).memory = (Effect.final (saveChange f outcome s)).file ∧
      (Effect.raised (saveChange f outcome s) = some .saveFailed →
        Effect.final (saveChange f outcome s) = s)) ↔ outcome = .saved ∨ f s.memory = s.memory := by
  rw [saveChange, SavedState.modify_save]
  by_cases hsaved : outcome = .saved
  · subst hsaved
    simp [Effect.final, Effect.raised, SavedState.written]
  · rw [if_neg hsaved]
    have hself := @SavedState.written_eq_self _ f outcome s hsaved
    simp only [Effect.final, Effect.raised, forall_const, hself, hsaved, false_or]
    constructor
    · intro hkept
      exact hkept.2.1
    · intro hsame
      refine ⟨?_, hsame, fun _ => h.symm⟩
      unfold SavedState.written
      split
      · exact hsame.trans h
      · rfl

theorem withoutDevice_eq_iff {mac : MacAddress} {devices : LanDevices}
    (h : devices.get? mac ≠ none) : withoutDevice mac devices ≠ devices := by
  obtain ⟨device, hdevice⟩ := Option.ne_none_iff_exists'.mp h
  obtain ⟨hmem, hkey⟩ := Table.get?_some hdevice
  intro hsame
  rw [← hsame, withoutDevice, Table.mem_filterRows] at hmem
  simp [hkey] at hmem

theorem callKept_iff (h : s.memory = s.file) (call : LanCall) :
    CallKept s call ↔ SavesOrKeeps s call := by
  have hdecides : ∀ next : SavedState LanDevices, next.memory = next.file →
      ∀ enabled resolve client,
        allowsClient enabled resolve (SavedState.load next.file).memory client =
          allowsClient enabled resolve next.memory client := by
    intro next hnext enabled resolve client
    rw [hnext]
    rfl
  have hchange : ∀ f outcome, call.run s = saveChange f outcome s →
      (CallKept s call ↔ outcome = .saved ∨ f s.memory = s.memory) := by
    intro f outcome hrun
    rw [← saveChange_kept h f outcome, CallKept, hrun]
    exact ⟨fun hkept => ⟨hkept.1, hkept.2.2⟩, fun hkept => ⟨hkept.1, hdecides _ hkept.1, hkept.2⟩⟩
  have hquiet : ∀ result, call.run s = result → Effect.final result = s →
      CallKept s call := by
    intro result hrun hsame
    rw [CallKept, hrun, hsame]
    exact ⟨h, hdecides s h, fun _ => rfl⟩
  cases call with
  | add displayName macAddress now outcome =>
    cases hname : normalizeDeviceName displayName with
    | none =>
      have hkept := hquiet (.error .invalid s) (by simp [LanCall.run, addDevice, hname]; rfl) rfl
      simp [SavesOrKeeps, hname, hkept]
    | some name =>
      cases hmac : normalizeMacAddress macAddress with
      | none =>
        have hkept := hquiet (.error .invalid s)
          (by simp [LanCall.run, addDevice, hname, hmac]; rfl) rfl
        simp [SavesOrKeeps, hmac, hkept]
      | some mac =>
        rw [hchange (withDevice name mac now) outcome
          (by simp [LanCall.run, addDevice, hname, hmac])]
        simp [SavesOrKeeps, hname, hmac]
  | remove macAddress outcome =>
    cases hmac : normalizeMacAddress macAddress with
    | none =>
      have hkept := hquiet (.error .invalid s) (by simp [LanCall.run, removeDevice, hmac]; rfl) rfl
      simp [SavesOrKeeps, hmac, hkept]
    | some mac =>
      by_cases hknown : s.memory.get? mac = none
      · have hkept := hquiet (.ok () s) (by simp [LanCall.run, removeDevice, hmac, hknown]) rfl
        simp [SavesOrKeeps, hmac, hknown, hkept]
      · rw [hchange (withoutDevice mac) outcome
          (by simp [LanCall.run, removeDevice, hmac, hknown])]
        simp [SavesOrKeeps, hmac, hknown, withoutDevice_eq_iff hknown]
  | restart =>
    have hkept := hquiet (.ok () (SavedState.load s.file)) rfl (by
      obtain ⟨memory, file⟩ := s
      obtain rfl : memory = file := h
      rfl)
    simp [SavesOrKeeps, hkept]

/-- From what the file holds at the start: every call of a run keeps memory and file equal, and
leaves both as they were where its save fails, exactly if every save succeeds or has nothing to
save. A client of the network is allowed only by its resolved hardware address. -/
theorem allowlist_consistent_iff (file : LanDevices) (calls : List LanCall) :
    (AlongCalls CallKept (SavedState.load file) calls ↔
      AlongCalls SavesOrKeeps (SavedState.load file) calls) ∧
    ∀ resolve devices client, allowsClient true resolve devices client = true →
      client ≠ some .loopback → ∃ text resolved mac, client = some (.ipv4 text) ∧
        resolve text = some resolved ∧ normalizeMacAddress resolved = some mac ∧
          devices.get? mac ≠ none := by
  constructor
  · have hsame : (SavedState.load file).memory = (SavedState.load file).file := rfl
    generalize SavedState.load file = s at *
    induction calls generalizing s with
    | nil => rfl
    | cons call calls ih =>
      rw [AlongCalls, AlongCalls, ← callKept_iff hsame]
      exact and_congr_right fun hkept => ih _ hkept.1
  · intro resolve devices client hallowed hremote
    match client with
    | none => cases hallowed
    | some .loopback => exact absurd rfl hremote
    | some (.ipv6 _) => cases hallowed
    | some (.ipv4 text) =>
      simp only [allowsClient, Bool.not_true, Bool.false_or] at hallowed
      split at hallowed
      · cases hallowed
      · rename_i mac hmac
        obtain ⟨resolved, hresolved, hnormal⟩ := Option.bind_eq_some_iff.mp hmac
        exact ⟨text, resolved, mac, rfl, hresolved, hnormal,
          Option.isSome_iff_ne_none.mp hallowed⟩

def classroomTablet : LanCall :=
  .add "Classroom tablet" "3C-22-FB-00-1A-2B" (seconds 1767225600) (.failed false)

/-- The tablet is refused an entry, and is allowed until the next restart. -/
theorem failed_save_allows : ¬ AlongCalls CallKept (SavedState.load Table.empty) [classroomTablet] := by
  intro h
  have hdiffer : (Effect.final (classroomTablet.run (SavedState.load Table.empty))).memory.rows.length ≠
      (Effect.final (classroomTablet.run (SavedState.load Table.empty))).file.rows.length := by
    decide
  exact hdiffer (by rw [h.1.1])

end CitPhysicalXR.Fabric
