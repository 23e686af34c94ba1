import CitPhysicalXR.Plugs.ReplayProtection

/-! What the calls of the unlock automation leave in the memory and in the file. -/
namespace CitPhysicalXR.Plugs
open Foundation

theorem UnlockAutomation.call_error {α : Type} {m : UnlockM α} {report : α → List UnlockReport}
    {s : UnlockAutomation} {e : UnlockAutomationError} {store : SavedState StoredUnlockAutomation}
    (h : m s.store = .error e store) : s.call m report = ({ s with store := store }, [.raised e]) := by
  unfold call
  rw [h]

theorem UnlockAutomation.call_ok {α : Type} {m : UnlockM α} {report : α → List UnlockReport}
    {s : UnlockAutomation} {a : α} {store : SavedState StoredUnlockAutomation}
    (h : m s.store = .ok a store) : s.call m report = ({ s with store := store }, report a) := by
  unfold call
  rw [h]

theorem read_then_ok {α β : Type} {f : SavedState StoredUnlockAutomation → Except UnlockAutomationError α}
    {k : α → UnlockM β} {store : SavedState StoredUnlockAutomation} {a : α} (h : f store = .ok a) :
    (Effect.read f >>= k) store = k a store := by
  change EStateM.bind (Effect.read f) k store = k a store
  unfold EStateM.bind Effect.read
  rw [h]

theorem read_then_error {α β : Type}
    {f : SavedState StoredUnlockAutomation → Except UnlockAutomationError α} {k : α → UnlockM β}
    {store : SavedState StoredUnlockAutomation} {e : UnlockAutomationError}
    (h : f store = .error e) : (Effect.read f >>= k) store = .error e store := by
  change EStateM.bind (Effect.read f) k store = .error e store
  unfold EStateM.bind Effect.read
  rw [h]

theorem finishEvent_apply (result : UnlockEventResult) (now : Instant) (outcome : SaveOutcome)
    (store : SavedState StoredUnlockAutomation) : ∃ lastResult : UnlockAutomationLastResult,
      finishEvent result now outcome store = if outcome = .saved then
        .ok result (store.written (fun m => { m with lastResult := some lastResult }) outcome)
      else
        .error saveFailed
          (store.written (fun m => { m with lastResult := some lastResult }) outcome) := by
  refine ⟨⟨result.outcome, now, result.requestedCount, result.acceptedCount, result.message⟩, ?_⟩
  match outcome with
  | .saved => rfl
  | .failed true => rfl
  | .failed false => rfl

/-- What `authenticateAndRecordEvent` writes of an authenticated request. -/
def recordOf (request : SignedRequest) (now : Instant) (m : StoredUnlockAutomation) :
    StoredUnlockAutomation :=
  m.updateCompanion request.event.deviceId (·.record request.event now)

theorem recordOf_fields (request : SignedRequest) (now : Instant) (m : StoredUnlockAutomation) :
    (recordOf request now m).enabled = m.enabled ∧
      (recordOf request now m).selectedNodeIds = m.selectedNodeIds ∧
      (recordOf request now m).lastAcceptedAt = m.lastAcceptedAt ∧
      (recordOf request now m).cooldownSeconds = m.cooldownSeconds := by
  unfold recordOf StoredUnlockAutomation.updateCompanion
  split
  · split
    · exact ⟨rfl, rfl, rfl, rfl⟩
    · exact ⟨rfl, rfl, rfl, rfl⟩
  · exact ⟨rfl, rfl, rfl, rfl⟩

variable {hmac : String → String → String} {request : SignedRequest} {signature : String}
  {now : Instant} {companion : StoredCompanion}

theorem pairedCompanions_recordOf_ne {m : StoredUnlockAutomation}
    (h : authenticateEvent hmac request signature now m = .ok companion) :
    (recordOf request now m).pairedCompanions ≠ m.pairedCompanions := by
  obtain ⟨hfind, hlater⟩ := authenticateEvent_ok h
  intro hsame
  unfold recordOf at hsame
  rw [m.pairedCompanions_update] at hsame
  have hdevice : (companion.deviceId == request.event.deviceId) = true :=
    List.find?_some (p := fun phone : StoredCompanion => phone.deviceId == request.event.deviceId)
      hfind
  have hrecorded := KeyedList.find?_updateFirst (f := (·.record request.event now)) hfind hdevice
  rw [hsame, hfind] at hrecorded
  have hsequence := congrArg StoredCompanion.lastSequence (Option.some.inj hrecorded)
  change companion.lastSequence = request.event.sequence at hsequence
  omega

theorem authenticateAndRecordEvent_apply {store : SavedState StoredUnlockAutomation}
    (h : authenticateEvent hmac request signature now store.memory = .ok companion)
    (outcome : SaveOutcome) :
    authenticateAndRecordEvent hmac request signature now outcome store =
      if outcome = .saved then .ok ⟨companion.pairing, store.memory.enabled,
          store.memory.selectedNodeIds, store.memory.lastAcceptedAt, store.memory.cooldownSeconds⟩
        (store.written (recordOf request now) outcome)
      else .error saveFailed (store.written (recordOf request now) outcome) := by
  obtain ⟨henabled, hselected, haccepted, hcooldown⟩ := recordOf_fields request now store.memory
  rw [← henabled, ← hselected, ← haccepted, ← hcooldown]
  have hread : authenticateAndRecordEvent hmac request signature now outcome store = _ :=
    read_then_ok h
  rw [hread]
  match outcome with
  | .saved => rfl
  | .failed true => rfl
  | .failed false => rfl

end CitPhysicalXR.Plugs
