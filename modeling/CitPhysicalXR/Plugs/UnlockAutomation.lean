import CitPhysicalXR.Fabric.Protocol
import CitPhysicalXR.Foundation.KeyedList
import CitPhysicalXR.Foundation.SavedState
import CitPhysicalXR.Foundation.Transition
import Mathlib.Data.List.Sort

/-! The unlock-automation service: signed requests of paired phones and desktops, the file of its
state, and the commands for the saved group of smart plugs. -/
namespace CitPhysicalXR.Plugs
open Foundation Fabric

/-- `[a-f0-9]`. -/
def isLowerHex (c : Char) : Bool := c.isDigit || (decide ('a' ≤ c) && decide (c ≤ 'f'))

/-- `^(?:android|desktop)-[a-f0-9]{16}$`. -/
def isDeviceId (s : String) : Bool :=
  ["android-", "desktop-"].any fun kind =>
    s.startsWith kind && (s.toList.drop 8).length == 16 && (s.toList.drop 8).all isLowerHex

def maxInt64 : ℕ := 9223372036854775807

structure UnlockEventRequest where
  deviceId : String
  eventId : Uuid
  sequence : ℕ
  occurredAtEpochMs : ℕ
  device_ok : isDeviceId deviceId = true
  sequence_ok : 1 ≤ sequence ∧ sequence ≤ maxInt64
  occurred_ok : occurredAtEpochMs ≤ maxInt64
  deriving DecidableEq

/-- A list of nodes to switch. -/
structure NodeSelection where
  nodeIds : List Identifier
  nodup : nodeIds.Nodup
  bounds : 1 ≤ nodeIds.length ∧ nodeIds.length ≤ 8
  deriving DecidableEq

structure RemotePlugPowerRequest extends UnlockEventRequest where
  on : Bool
  selectedNodeIds : Option NodeSelection
  deriving DecidableEq

inductive SignedRequest where
  | unlock (event : UnlockEventRequest)
  | toggle (event : UnlockEventRequest)
  | remoteState (event : UnlockEventRequest)
  | remotePower (event : RemotePlugPowerRequest)
  deriving DecidableEq

namespace SignedRequest

def event : SignedRequest → UnlockEventRequest
  | unlock event | toggle event | remoteState event => event
  | remotePower event => event.toUnlockEventRequest

def signingDomain : SignedRequest → String
  | unlock _ => "cit-control-tower-unlock-v1"
  | toggle _ => "cit-control-tower-toggle-v1"
  | remoteState _ => "cit-control-tower-remote-state-v1"
  | remotePower _ => "cit-control-tower-remote-power-v1"

/-- The requests that every paired device may send. -/
def isRemote : SignedRequest → Bool
  | remoteState _ | remotePower _ => true
  | unlock _ | toggle _ => false

end SignedRequest

def signedPhonePayload (domain : String) (event : UnlockEventRequest) : String :=
  "\n".intercalate [domain, event.deviceId, event.eventId.text, toString event.sequence,
    toString event.occurredAtEpochMs]

/-- `json.dumps(sorted(ids), separators=(",", ":"))`; no identifier needs an escape. -/
def sortedJson (nodeIds : List Identifier) : String :=
  "[" ++ ",".intercalate (((nodeIds.map (·.text)).mergeSort fun a b => decide (a ≤ b)).map
    fun nodeId => "\"" ++ nodeId ++ "\"") ++ "]"

def signedRemotePowerPayload (event : RemotePlugPowerRequest) : String :=
  signedPhonePayload "cit-control-tower-remote-power-v1" event.toUnlockEventRequest ++
    (if event.on then "\n1" else "\n0") ++
    match event.selectedNodeIds with
    | none => ""
    | some selection => "\nselected-node-ids-v1\n" ++ sortedJson selection.nodeIds

def SignedRequest.signedPayload : SignedRequest → String
  | .remotePower event => signedRemotePowerPayload event
  | request => signedPhonePayload request.signingDomain request.event

/-- `[0-9a-fA-F]`. -/
def isHex (c : Char) : Bool := isLowerHex c || (decide ('A' ≤ c) && decide (c ≤ 'F'))

/-- `_valid_signature`; `hmac secret payload` is the digest in lower-case hexadecimal. -/
def validSignature (hmac : String → String → String) (payload signature secret : String) : Bool :=
  signature.length == 64 && signature.toList.all isHex &&
    hmac secret payload == signature.map Char.toLower

inductive UnlockOutcome where
  | succeeded | failed | disabled | cooldown
  deriving DecidableEq

structure UnlockAutomationLastResult where
  outcome : UnlockOutcome
  occurredAt : Instant
  requestedCount : ℕ
  acceptedCount : ℕ
  message : String

/-- A paired device. `pairing` numbers the pairings and is no field of the source. -/
structure StoredCompanion where
  deviceId : String
  displayName : String
  secret : String
  pairedAt : Instant
  lastSequence : ℕ := 0
  lastSeenAt : Option Instant := none
  pairing : ℕ

structure StoredUnlockAutomation where
  enabled : Bool := false
  selectedNodeIds : List String := []
  cooldownSeconds : ℕ := 15
  companion : Option StoredCompanion := none
  remoteCompanions : List StoredCompanion := []
  lastAcceptedAt : Option Instant := none
  lastResult : Option UnlockAutomationLastResult := none

namespace StoredUnlockAutomation
variable (s : StoredUnlockAutomation)

def pairedCompanions : List StoredCompanion := s.companion.toList ++ s.remoteCompanions

/-- The companion that a request is for, the primary one for an unlock and a toggle. -/
def companionOf (request : SignedRequest) : Option StoredCompanion :=
  if request.isRemote then
    s.pairedCompanions.find? fun phone => phone.deviceId == request.event.deviceId
  else s.companion.filter fun phone => phone.deviceId == request.event.deviceId

def updateCompanion (deviceId : String) (f : StoredCompanion → StoredCompanion) :
    StoredUnlockAutomation :=
  match s.companion with
  | some companion =>
    if companion.deviceId == deviceId then { s with companion := some (f companion) }
    else { s with
      remoteCompanions := KeyedList.updateFirst (fun phone => phone.deviceId == deviceId) f
        s.remoteCompanions }
  | none => { s with
      remoteCompanions := KeyedList.updateFirst (fun phone => phone.deviceId == deviceId) f
        s.remoteCompanions }

end StoredUnlockAutomation

structure UnlockAutomationError where
  code : String
  message : String
  statusCode : ℕ
  deriving DecidableEq

def saveFailed : UnlockAutomationError :=
  ⟨"UNLOCK_AUTOMATION_SAVE_FAILED", "The unlock-automation configuration could not be saved.", 409⟩

abbrev UnlockM := Effect (SavedState StoredUnlockAutomation) UnlockAutomationError

def save (outcome : SaveOutcome) : UnlockM Unit := SavedState.save saveFailed outcome

def current : UnlockM StoredUnlockAutomation := Effect.read fun s => .ok s.memory

/-- What `_authenticate_and_record_event` returns; `pairing` is the one of the companion. -/
structure RecordedEvent where
  pairing : ℕ
  enabled : Bool
  selectedNodeIds : List String
  lastAcceptedAt : Option Instant
  cooldownSeconds : ℕ

def maxClockSkewMs : ℤ := 120000

/-- The checks of `_authenticate_and_record_event`. -/
def authenticateEvent (hmac : String → String → String) (request : SignedRequest)
    (signature : String) (at_ : Instant) (s : StoredUnlockAutomation) :
    Except UnlockAutomationError StoredCompanion := do
  raiseIf (request.event.deviceId.startsWith "desktop-" = true ∧ request.isRemote = false)
    ⟨"REMOTE_PLUG_ONLY", "Desktop pairings can only access remote plug controls.", 403⟩
  let companion ← (s.companionOf request).elim (.error ⟨"UNLOCK_AUTOMATION_DEVICE_DENIED",
    "This phone is not paired for Control Tower automation.", 401⟩) .ok
  raiseIf (validSignature hmac request.signedPayload signature companion.secret = false)
    ⟨"UNLOCK_AUTOMATION_SIGNATURE_INVALID", "The phone event signature is invalid.", 401⟩
  raiseIf (maxClockSkewMs < |at_ / 1000 - request.event.occurredAtEpochMs|)
    ⟨"UNLOCK_AUTOMATION_EVENT_STALE", "The phone event is outside the accepted time window.", 409⟩
  raiseIf (request.event.sequence ≤ companion.lastSequence)
    ⟨"UNLOCK_AUTOMATION_EVENT_REPLAYED", "The phone event was already processed.", 409⟩
  return companion

/-- `companion.lastSequence` and `companion.lastSeenAt`. -/
def StoredCompanion.record (event : UnlockEventRequest) (at_ : Instant)
    (companion : StoredCompanion) : StoredCompanion :=
  { companion with lastSequence := event.sequence, lastSeenAt := some at_ }

def authenticateAndRecordEvent (hmac : String → String → String) (request : SignedRequest)
    (signature : String) (at_ : Instant) (outcome : SaveOutcome) : UnlockM RecordedEvent := do
  let companion ← Effect.read fun s => authenticateEvent hmac request signature at_ s.memory
  SavedState.modify (·.updateCompanion request.event.deviceId (·.record request.event at_))
  let s ← current
  save outcome
  return ⟨companion.pairing, s.enabled, s.selectedNodeIds, s.lastAcceptedAt, s.cooldownSeconds⟩

/-- What a command runner returns. -/
structure UnlockPowerResult where
  requestedCount : ℕ
  acceptedCount : ℕ
  failedNodeIds : List String
  on : Option Bool
  message : String

def UnlockPowerResult.succeeded (power : UnlockPowerResult) : Bool :=
  decide (power.acceptedCount = power.requestedCount ∧ 0 < power.requestedCount)

structure UnlockEventResult where
  accepted : Bool
  outcome : UnlockOutcome
  requestedCount : ℕ
  acceptedCount : ℕ
  message : String
  deriving DecidableEq

structure ToggleEventResult where
  accepted : Bool
  outcome : UnlockOutcome
  requestedCount : ℕ
  acceptedCount : ℕ
  on : Option Bool
  message : String
  deriving DecidableEq

structure RemotePlugPowerResult where
  siteId : String
  displayName : String
  accepted : Bool
  outcome : UnlockOutcome
  requestedCount : ℕ
  acceptedCount : ℕ
  on : Bool
  message : String
  deriving DecidableEq

def finishEvent (result : UnlockEventResult) (at_ : Instant) (outcome : SaveOutcome) :
    UnlockM UnlockEventResult := do
  SavedState.modify fun s => { s with
    lastResult := some ⟨result.outcome, at_, result.requestedCount, result.acceptedCount,
      result.message⟩ }
  save outcome
  return result

structure UnlockAutomationConfig where
  remoteOrigin : Option String
  siteId : String
  siteName : String

structure UnlockAutomationConfigurationRequest where
  enabled : Bool
  selectedNodeIds : List Identifier
  nodup : selectedNodeIds.Nodup
  bound : selectedNodeIds.length ≤ 8

structure UnlockPairingCandidate where
  deviceId : String
  displayName : String
  pairedAt : Instant
  secret : String

def requirePairingCapacity (config : UnlockAutomationConfig) (s : StoredUnlockAutomation) :
    Except UnlockAutomationError Unit := do
  raiseIf (s.companion.isSome = true ∧ config.remoteOrigin = none)
    ⟨"UNLOCK_AUTOMATION_PHONE_ALREADY_PAIRED",
      "Unpair the current Android companion before pairing another phone.", 409⟩
  raiseIf (8 ≤ s.pairedCompanions.length)
    ⟨"UNLOCK_AUTOMATION_PHONE_LIMIT", "A gateway supports at most eight paired phones.", 409⟩

def requireUnpaired (candidate : UnlockPairingCandidate) (s : StoredUnlockAutomation) :
    Except UnlockAutomationError Unit :=
  raiseIf (∃ phone ∈ s.pairedCompanions, phone.deviceId = candidate.deviceId)
    ⟨"UNLOCK_AUTOMATION_PHONE_ALREADY_PAIRED", "This phone is already paired.", 409⟩

namespace StoredUnlockAutomation
variable (s : StoredUnlockAutomation)

/-- The first companion is the primary one and starts the automation anew. -/
def addCompanion (companion : StoredCompanion) : StoredUnlockAutomation :=
  match s.companion with
  | none => { s with
      companion := some companion, enabled := false, lastAcceptedAt := none, lastResult := none }
  | some _ => { s with remoteCompanions := s.remoteCompanions ++ [companion] }

def removeCompanions : StoredUnlockAutomation :=
  { s with
    enabled := false, companion := none, remoteCompanions := [], lastAcceptedAt := none
    lastResult := none }

end StoredUnlockAutomation

def UnlockPairingCandidate.companion (candidate : UnlockPairingCandidate) (pairing : ℕ) :
    StoredCompanion where
  deviceId := candidate.deviceId
  displayName := candidate.displayName
  secret := candidate.secret
  pairedAt := candidate.pairedAt
  pairing := pairing

def commitPairing (config : UnlockAutomationConfig) (candidate : UnlockPairingCandidate)
    (pairing : ℕ) (outcome : SaveOutcome) : UnlockM Unit := do
  Effect.read fun s => requirePairingCapacity config s.memory
  Effect.read fun s => requireUnpaired candidate s.memory
  SavedState.modify (·.addCompanion (candidate.companion pairing))
  save outcome

def removeCompanion (outcome : SaveOutcome) : UnlockM Unit := do
  SavedState.modify (·.removeCompanions)
  save outcome

def checkConfiguration (request : UnlockAutomationConfigurationRequest)
    (knownNodeIds : List String) (s : StoredUnlockAutomation) :
    Except UnlockAutomationError Unit := do
  let selected := request.selectedNodeIds.map (·.text)
  raiseIf ((∃ nodeId ∈ selected, nodeId ∉ knownNodeIds) ∧
      ¬ (request.enabled = false ∧ selected = s.selectedNodeIds))
    ⟨"UNLOCK_AUTOMATION_NODE_INVALID",
      "Unlock automation can target only known Matter smart plugs.", 409⟩
  raiseIf (request.enabled = true ∧ s.companion = none)
    ⟨"UNLOCK_AUTOMATION_PHONE_REQUIRED",
      "Pair the wireless Android companion before enabling unlock automation.", 409⟩
  raiseIf (request.enabled = true ∧ selected = [])
    ⟨"UNLOCK_AUTOMATION_TARGET_REQUIRED",
      "Select at least one Matter smart plug before enabling unlock automation.", 409⟩

def configure (request : UnlockAutomationConfigurationRequest) (knownNodeIds : List String)
    (outcome : SaveOutcome) : UnlockM Unit := do
  Effect.read fun s => checkConfiguration request knownNodeIds s.memory
  SavedState.modify fun s => { s with
    enabled := request.enabled, selectedNodeIds := request.selectedNodeIds.map (·.text) }
  save outcome

structure RunningEvent where
  request : SignedRequest
  selectedNodeIds : List String
  now : Instant

structure UnlockAutomation where
  store : SavedState StoredUnlockAutomation
  running : Option RunningEvent := none
  /-- The devices of the pairings so far, which are numbered in their order. -/
  pairings : List String := []

inductive UnlockReport where
  /-- A request of a pairing is authenticated and recorded. -/
  | accepted (pairing : ℕ) (request : SignedRequest)
  /-- The command runner is called. -/
  | commanded (request : SignedRequest) (nodeIds : List String)
  | raised (error : UnlockAutomationError)
  | unlocked (result : UnlockEventResult)
  | toggled (result : ToggleEventResult)
  | powered (event : RemotePlugPowerRequest) (result : RemotePlugPowerResult)
  | selected (nodeIds : List String)
  deriving DecidableEq

/-- The calls, with the outcomes of the saves that they make. -/
inductive UnlockEvent where
  /-- A signed request that gets the event lock, or needs none, up to its first await. -/
  | receive (request : SignedRequest) (signature : String) (now : Instant)
      (outcomes : ℕ → SaveOutcome)
  /-- The command runner returns, or raises. -/
  | commandRan (power : Option UnlockPowerResult) (outcome : SaveOutcome)
  /-- The request that waits for its command runner is cancelled. -/
  | cancelled
  | configure (request : UnlockAutomationConfigurationRequest) (knownNodeIds : List String)
      (outcome : SaveOutcome)
  | commitPairing (candidate : UnlockPairingCandidate) (outcome : SaveOutcome)
  | removeCompanion (outcome : SaveOutcome)
  | restart

namespace UnlockAutomation
variable (config : UnlockAutomationConfig) (hmac : String → String → String)
variable (s : UnlockAutomation)

/-- A call that needs no command, with what it reports. -/
def call {α : Type} (m : UnlockM α) (report : α → List UnlockReport) :
    UnlockAutomation × List UnlockReport :=
  match m s.store with
  | .ok a store => ({ s with store := store }, report a)
  | .error e store => ({ s with store := store }, [.raised e])

/-- The rest of an event calls its command runner. -/
def run (request : SignedRequest) (selectedNodeIds : List String) (now : Instant) :
    UnlockAutomation × List UnlockReport :=
  ({ s with running := some ⟨request, selectedNodeIds, now⟩ }, [.commanded request selectedNodeIds])

/-- The rest of `accept_event`. -/
def acceptEvent (event : UnlockEventRequest) (recorded : RecordedEvent) (now : Instant)
    (outcome : SaveOutcome) : UnlockAutomation × List UnlockReport :=
  if recorded.enabled = false then
    s.call (finishEvent ⟨false, .disabled, recorded.selectedNodeIds.length, 0,
      "Unlock automation is disabled in Control Tower."⟩ now outcome) fun result =>
        [.unlocked result]
  else if recorded.lastAcceptedAt.any fun lastAcceptedAt =>
      decide (now - lastAcceptedAt < seconds recorded.cooldownSeconds) then
    s.call (finishEvent ⟨false, .cooldown, recorded.selectedNodeIds.length, 0,
      "A recent unlock event already triggered the configured plugs."⟩ now outcome) fun result =>
        [.unlocked result]
  else
    match (do
        SavedState.modify fun state => { state with lastAcceptedAt := some now }
        save outcome : UnlockM Unit) s.store with
    | .error e store => ({ s with store := store }, [.raised e])
    | .ok _ store =>
      run { s with store := store } (.unlock event) recorded.selectedNodeIds now

/-- The rest of `accept_toggle`. -/
def acceptToggle (event : UnlockEventRequest) (recorded : RecordedEvent) (now : Instant) :
    UnlockAutomation × List UnlockReport :=
  if recorded.selectedNodeIds = [] then
    (s, [.toggled ⟨false, .failed, 0, 0, none,
      "No Matter smart plugs are saved for phone control."⟩])
  else s.run (.toggle event) recorded.selectedNodeIds now

/-- The rest of `accept_remote_power`. -/
def acceptRemotePower (event : RemotePlugPowerRequest) (recorded : RecordedEvent)
    (now : Instant) : UnlockAutomation × List UnlockReport :=
  match event.selectedNodeIds with
  | some selection =>
    if ∃ nodeId ∈ selection.nodeIds, nodeId.text ∉ recorded.selectedNodeIds then
      (s, [.raised ⟨"REMOTE_PLUG_SELECTION_DENIED",
        "Only plugs saved for remote control can be selected.", 403⟩])
    else s.run (.remotePower event) (selection.nodeIds.map (·.text)) now
  | none =>
    if recorded.selectedNodeIds = [] then
      (s, [.powered event ⟨config.siteId, config.siteName, false, .failed, 0, 0, event.on,
        "No Matter smart plugs are saved for phone control at this site."⟩])
    else s.run (.remotePower event) recorded.selectedNodeIds now

/-- A signed request after it is recorded. -/
def accept (request : SignedRequest) (recorded : RecordedEvent) (now : Instant)
    (outcome : SaveOutcome) : UnlockAutomation × List UnlockReport :=
  match request with
  | .unlock event => s.acceptEvent event recorded now outcome
  | .toggle event => s.acceptToggle event recorded now
  | .remoteState _ => (s, [.selected recorded.selectedNodeIds])
  | .remotePower event => s.acceptRemotePower config event recorded now

def receive (request : SignedRequest) (signature : String) (now : Instant)
    (outcomes : ℕ → SaveOutcome) : UnlockAutomation × List UnlockReport :=
  match authenticateAndRecordEvent hmac request signature now (outcomes 0) s.store with
  | .error e store => ({ s with store := store }, [.raised e])
  | .ok recorded store =>
    let (s', out) := accept config { s with store := store } request recorded now (outcomes 1)
    (s', .accepted recorded.pairing request :: out)

/-- The rest of an event once its command runner is done. -/
def finish (event : RunningEvent) (power : Option UnlockPowerResult) (outcome : SaveOutcome) :
    UnlockAutomation × List UnlockReport :=
  match event.request, power with
  | .unlock _, none =>
    s.call (finishEvent ⟨false, .failed, event.selectedNodeIds.length, 0,
      "Control Tower could not prepare the configured smart-plug command."⟩ event.now outcome)
        fun result => [.unlocked result]
  | .unlock _, some power =>
    s.call (finishEvent ⟨power.succeeded, if power.succeeded then .succeeded else .failed,
      power.requestedCount, power.acceptedCount, power.message⟩ event.now outcome) fun result =>
        [.unlocked result]
  | .toggle _, none =>
    (s, [.toggled ⟨false, .failed, event.selectedNodeIds.length, 0, none,
      "Control Tower could not prepare the smart-plug toggle."⟩])
  | .toggle _, some power =>
    (s, [.toggled ⟨power.succeeded, if power.succeeded then .succeeded else .failed,
      power.requestedCount, power.acceptedCount, if power.succeeded then power.on else none,
      power.message⟩])
  | .remotePower request, none =>
    (s, [.powered request ⟨config.siteId, config.siteName, false, .failed,
      event.selectedNodeIds.length, 0, request.on,
      "Control Tower could not prepare the remote smart-plug command."⟩])
  | .remotePower request, some power =>
    (s, [.powered request ⟨config.siteId, config.siteName, power.succeeded,
      if power.succeeded then .succeeded else .failed, power.requestedCount, power.acceptedCount,
      request.on, power.message⟩])
  | .remoteState _, _ => (s, [])

/-- One step; `none` where the event lock is held by another, or by nobody. -/
def step : UnlockEvent → Option (UnlockAutomation × List UnlockReport)
  | .receive request signature now outcomes =>
    match request, s.running with
    | .remoteState _, _ | _, none => some (s.receive config hmac request signature now outcomes)
    | _, some _ => none
  | .commandRan power outcome =>
    s.running.map fun event => finish config { s with running := none } event power outcome
  | .cancelled => s.running.map fun _ => ({ s with running := none }, [])
  | .configure request knownNodeIds outcome =>
    some (s.call (Plugs.configure request knownNodeIds outcome) fun _ => [])
  | .commitPairing candidate outcome =>
    some (call { s with pairings := s.pairings ++ [candidate.deviceId] }
      (Plugs.commitPairing config candidate s.pairings.length outcome) fun _ => [])
  | .removeCompanion outcome => some (s.call (Plugs.removeCompanion outcome) fun _ => [])
  | .restart => some ({ s with store := .load s.store.file, running := none }, [])

end UnlockAutomation

/-- The service, from an empty file. -/
def unlockAutomation (config : UnlockAutomationConfig) (hmac : String → String → String) :
    Machine UnlockAutomation UnlockEvent UnlockReport where
  Initial s := s = { store := .load {} }
  Step s e s' out := s.step config hmac e = some (s', out)

end CitPhysicalXR.Plugs
