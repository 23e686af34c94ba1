import CitPhysicalXR.Plugs.UnlockCalls

/-! What a failed save of the unlock automation leaves behind. Every operation changes the memory
before it saves and restores nothing, so it is atomic exactly when no save of it fails, or when it
changes nothing. -/
namespace CitPhysicalXR.Plugs
open Foundation

/-- The calls that save. A signed request comes with what its command runner returns, should it
be called. -/
inductive UnlockOperation where
  | configure (request : UnlockAutomationConfigurationRequest) (knownNodeIds : List String)
  | commitPairing (candidate : UnlockPairingCandidate) (pairing : ℕ)
  | removeCompanion
  | receive (request : SignedRequest) (signature : String) (now : Instant)
      (power : Option UnlockPowerResult)

namespace UnlockOperation
variable (config : UnlockAutomationConfig) (hmac : String → String → String)

/-- A signed request from its reception to its end. -/
def receiveAndFinish (request : SignedRequest) (signature : String) (now : Instant)
    (power : Option UnlockPowerResult) (outcomes : ℕ → SaveOutcome) (s : UnlockAutomation) :
    UnlockAutomation × List UnlockReport :=
  let (s', out) := s.receive config hmac request signature now outcomes
  match s'.running with
  | none => (s', out)
  | some event =>
    let (s'', out') := UnlockAutomation.finish config { s' with running := none } event power
      (outcomes 2)
    (s'', out ++ out')

/-- The operation, with the outcomes of its saves in their order. -/
def perform (outcomes : ℕ → SaveOutcome) (store : SavedState StoredUnlockAutomation) :
    UnlockOperation → UnlockAutomation × List UnlockReport
  | configure request knownNodeIds => UnlockAutomation.call { store := store }
      (Plugs.configure request knownNodeIds (outcomes 0)) fun _ => []
  | commitPairing candidate pairing => UnlockAutomation.call { store := store }
      (Plugs.commitPairing config candidate pairing (outcomes 0)) fun _ => []
  | removeCompanion => UnlockAutomation.call { store := store }
      (Plugs.removeCompanion (outcomes 0)) fun _ => []
  | receive request signature now power =>
    receiveAndFinish config hmac request signature now power outcomes { store := store }

/-- Should the operation raise that its save has failed, memory and file are as before it. -/
def SaveAtomic (op : UnlockOperation) (outcomes : ℕ → SaveOutcome)
    (store : SavedState StoredUnlockAutomation) : Prop :=
  .raised saveFailed ∈ (op.perform config hmac outcomes store).2 →
    (op.perform config hmac outcomes store).1.store = store

/-- A check of the operation fails, before anything is changed. -/
def Refused (m : StoredUnlockAutomation) : UnlockOperation → Prop
  | configure request knownNodeIds => checkConfiguration request knownNodeIds m ≠ .ok ()
  | commitPairing candidate _ =>
    requirePairingCapacity config m ≠ .ok () ∨ requireUnpaired candidate m ≠ .ok ()
  | removeCompanion => False
  | receive request signature now _ =>
    ∀ companion, authenticateEvent hmac request signature now m ≠ .ok companion

/-- The state is already what the operation would make of it. -/
def ChangesNothing (m : StoredUnlockAutomation) : UnlockOperation → Prop
  | configure request _ =>
    m.enabled = request.enabled ∧ m.selectedNodeIds = request.selectedNodeIds.map (·.text)
  | removeCompanion => m.enabled = false ∧ m.companion = none ∧ m.remoteCompanions = [] ∧
      m.lastAcceptedAt = none ∧ m.lastResult = none
  | commitPairing .. | receive .. => False

def wouldTrigger (m : StoredUnlockAutomation) (now : Instant) : Bool :=
  m.enabled && !m.lastAcceptedAt.any fun lastAcceptedAt =>
    decide (now - lastAcceptedAt < seconds m.cooldownSeconds)

/-- How often the operation saves, unless a save fails. -/
def saves (m : StoredUnlockAutomation) : UnlockOperation → ℕ
  | receive (.unlock _) _ now _ => if wouldTrigger m now then 3 else 2
  | _ => 1

/-- No save fails, or there is nothing to undo: the memory does not change, and neither does the
file should it be replaced. -/
def SavesHold (op : UnlockOperation) (outcomes : ℕ → SaveOutcome)
    (store : SavedState StoredUnlockAutomation) : Prop :=
  (∀ n < op.saves store.memory, outcomes n = .saved) ∨
    op.ChangesNothing store.memory ∧ (outcomes 0 = .failed true → store.file = store.memory)

end UnlockOperation

section
variable {m : UnlockM Unit} {store : SavedState StoredUnlockAutomation}

/-- The property of an operation that is one call. -/
def CallAtomic (m : UnlockM Unit) (store : SavedState StoredUnlockAutomation) : Prop :=
  .raised saveFailed ∈ (UnlockAutomation.call { store := store } m fun _ => []).2 →
    (UnlockAutomation.call { store := store } m fun _ => []).1.store = store

theorem CallAtomic.of_refused {e : UnlockAutomationError} (h : m store = .error e store) :
    CallAtomic m store := by
  intro _
  rw [UnlockAutomation.call_error h]

theorem callAtomic_iff {f : StoredUnlockAutomation → StoredUnlockAutomation}
    {outcome : SaveOutcome} (h : m store = (do SavedState.modify f; save outcome : UnlockM Unit) store) :
    CallAtomic m store ↔ outcome = .saved ∨
      f store.memory = store.memory ∧ (outcome = .failed true → store.file = store.memory) := by
  have hwrite : m store = if outcome = .saved then .ok () (store.written f outcome)
      else .error saveFailed (store.written f outcome) :=
    h.trans (SavedState.modify_save f saveFailed outcome store)
  unfold CallAtomic
  by_cases houtcome : outcome = .saved
  · rw [if_pos houtcome] at hwrite
    rw [UnlockAutomation.call_ok hwrite]
    simp [houtcome]
  · rw [if_neg houtcome] at hwrite
    rw [UnlockAutomation.call_error hwrite]
    simp only [List.mem_singleton, forall_const, houtcome, false_or]
    exact SavedState.written_eq_self houtcome

end

theorem exists_error_of_ne_ok {α : Type} {x : Except UnlockAutomationError α}
    (h : ∀ a, x ≠ .ok a) : ∃ e, x = .error e := by
  cases x with
  | ok a => exact absurd rfl (h a)
  | error e => exact ⟨e, rfl⟩

theorem configure_atomic_iff {request : UnlockAutomationConfigurationRequest}
    {knownNodeIds : List String} {outcome : SaveOutcome}
    {store : SavedState StoredUnlockAutomation} :
    CallAtomic (configure request knownNodeIds outcome) store ↔
      checkConfiguration request knownNodeIds store.memory ≠ .ok () ∨ outcome = .saved ∨
        (store.memory.enabled = request.enabled ∧
          store.memory.selectedNodeIds = request.selectedNodeIds.map (·.text)) ∧
        (outcome = .failed true → store.file = store.memory) := by
  by_cases hcheck : checkConfiguration request knownNodeIds store.memory = .ok ()
  · have hwrite : configure request knownNodeIds outcome store = _ := read_then_ok hcheck
    rw [callAtomic_iff hwrite]
    have hsame : ({ store.memory with
        enabled := request.enabled
        selectedNodeIds := request.selectedNodeIds.map (·.text) } : StoredUnlockAutomation) =
          store.memory ↔ store.memory.enabled = request.enabled ∧
            store.memory.selectedNodeIds = request.selectedNodeIds.map (·.text) := by
      constructor
      · intro h
        rw [← h]
        exact ⟨rfl, rfl⟩
      · rintro ⟨henabled, hselected⟩
        rw [← henabled, ← hselected]
    simp only [hsame, hcheck, ne_eq, not_true_eq_false, false_or]
  · obtain ⟨e, herror⟩ := exists_error_of_ne_ok fun _ => hcheck
    exact iff_of_true (.of_refused (read_then_error herror)) (.inl hcheck)

theorem addCompanion_ne (m : StoredUnlockAutomation) (companion : StoredCompanion) :
    m.addCompanion companion ≠ m := by
  intro hsame
  have hlength := (m.pairedCompanions_add companion).length_eq
  rw [hsame, List.length_cons] at hlength
  omega

theorem commitPairing_atomic_iff {config : UnlockAutomationConfig}
    {candidate : UnlockPairingCandidate} {pairing : ℕ} {outcome : SaveOutcome}
    {store : SavedState StoredUnlockAutomation} :
    CallAtomic (commitPairing config candidate pairing outcome) store ↔
      (requirePairingCapacity config store.memory ≠ .ok () ∨
        requireUnpaired candidate store.memory ≠ .ok ()) ∨ outcome = .saved := by
  by_cases hcapacity : requirePairingCapacity config store.memory = .ok ()
  · have hfirst : commitPairing config candidate pairing outcome store = _ :=
      read_then_ok hcapacity
    by_cases hunpaired : requireUnpaired candidate store.memory = .ok ()
    · rw [callAtomic_iff (hfirst.trans (read_then_ok hunpaired))]
      simp only [addCompanion_ne, hcapacity, hunpaired, ne_eq, not_true_eq_false, false_and,
        or_false, false_or]
    · obtain ⟨e, herror⟩ := exists_error_of_ne_ok fun _ => hunpaired
      exact iff_of_true (.of_refused (hfirst.trans (read_then_error herror)))
        (.inl (.inr hunpaired))
  · obtain ⟨e, herror⟩ := exists_error_of_ne_ok fun _ => hcapacity
    exact iff_of_true (.of_refused (read_then_error herror)) (.inl (.inl hcapacity))

theorem removeCompanion_atomic_iff {outcome : SaveOutcome}
    {store : SavedState StoredUnlockAutomation} :
    CallAtomic (removeCompanion outcome) store ↔ outcome = .saved ∨
      (UnlockOperation.ChangesNothing store.memory .removeCompanion) ∧
        (outcome = .failed true → store.file = store.memory) := by
  have hwrite : removeCompanion outcome store = (do
      SavedState.modify (·.removeCompanions); save outcome : UnlockM Unit) store := rfl
  rw [callAtomic_iff hwrite]
  have hsame : store.memory.removeCompanions = store.memory ↔
      UnlockOperation.ChangesNothing store.memory .removeCompanion := by
    constructor
    · intro h
      rw [← h]
      exact ⟨rfl, rfl, rfl, rfl, rfl⟩
    · rintro ⟨henabled, hcompanion, hremote, haccepted, hresult⟩
      unfold StoredUnlockAutomation.removeCompanions
      rw [← henabled, ← hcompanion, ← hremote, ← haccepted, ← hresult]
  rw [hsame]

structure Ends (companions : List StoredCompanion) (failed : Prop)
    (result : UnlockAutomation × List UnlockReport) : Prop where
  companions : result.1.store.memory.pairedCompanions = companions
  raised : .raised saveFailed ∈ result.2 ↔ failed

theorem Ends.finishEvent (s : UnlockAutomation) (result : UnlockEventResult) (now : Instant)
    (outcome : SaveOutcome) : Ends s.store.memory.pairedCompanions (outcome ≠ .saved)
      (s.call (Plugs.finishEvent result now outcome) fun result => [.unlocked result]) := by
  obtain ⟨lastResult, hfinish⟩ := finishEvent_apply result now outcome s.store
  by_cases houtcome : outcome = .saved
  · rw [if_pos houtcome] at hfinish
    rw [UnlockAutomation.call_ok hfinish]
    exact ⟨rfl, by simp [houtcome]⟩
  · rw [if_neg houtcome] at hfinish
    rw [UnlockAutomation.call_error hfinish]
    exact ⟨rfl, by simp [houtcome]⟩

/-- The rest of a request once its command runner is done: only an unlock saves. -/
theorem Ends.finish (config : UnlockAutomationConfig) (s : UnlockAutomation)
    (event : RunningEvent) (power : Option UnlockPowerResult) (outcome : SaveOutcome) :
    Ends s.store.memory.pairedCompanions
      ((∃ unlock, event.request = .unlock unlock) ∧ outcome ≠ .saved)
      (UnlockAutomation.finish config s event power outcome) := by
  obtain ⟨request, selectedNodeIds, now⟩ := event
  match request, power with
  | .unlock _, none =>
    have hfinish := Ends.finishEvent s ⟨false, .failed, selectedNodeIds.length, 0,
      "Control Tower could not prepare the configured smart-plug command."⟩ now outcome
    exact ⟨hfinish.companions, hfinish.raised.trans (by simp)⟩
  | .unlock _, some power =>
    have hfinish := Ends.finishEvent s ⟨power.succeeded,
      if power.succeeded then .succeeded else .failed, power.requestedCount, power.acceptedCount,
      power.message⟩ now outcome
    exact ⟨hfinish.companions, hfinish.raised.trans (by simp)⟩
  | .toggle _, none => exact ⟨rfl, by simp [UnlockAutomation.finish]⟩
  | .toggle _, some _ => exact ⟨rfl, by simp [UnlockAutomation.finish]⟩
  | .remoteState _, none => exact ⟨rfl, by simp [UnlockAutomation.finish]⟩
  | .remoteState _, some _ => exact ⟨rfl, by simp [UnlockAutomation.finish]⟩
  | .remotePower _, none => exact ⟨rfl, by simp [UnlockAutomation.finish]⟩
  | .remotePower _, some _ => exact ⟨rfl, by simp [UnlockAutomation.finish]⟩

namespace UnlockOperation
variable (config : UnlockAutomationConfig) (hmac : String → String → String)

/-- A recorded request goes to its end, with its command where one is called. -/
def finishRunning (power : Option UnlockPowerResult) (outcome : SaveOutcome)
    (result : UnlockAutomation × List UnlockReport) : UnlockAutomation × List UnlockReport :=
  match result.1.running with
  | none => result
  | some event =>
    let (s, out) := UnlockAutomation.finish config { result.1 with running := none } event power
      outcome
    (s, result.2 ++ out)

theorem receiveAndFinish_eq (request : SignedRequest) (signature : String) (now : Instant)
    (power : Option UnlockPowerResult) (outcomes : ℕ → SaveOutcome) (s : UnlockAutomation) :
    receiveAndFinish config hmac request signature now power outcomes s =
      finishRunning config power (outcomes 2)
        (s.receive config hmac request signature now outcomes) := rfl

variable {config hmac}

theorem finishRunning_cons (power : Option UnlockPowerResult) (outcome : SaveOutcome)
    (report : UnlockReport) (result : UnlockAutomation × List UnlockReport) :
    finishRunning config power outcome (result.1, report :: result.2) =
      ((finishRunning config power outcome result).1,
        report :: (finishRunning config power outcome result).2) := by
  obtain ⟨s, out⟩ := result
  cases hrunning : s.running with
  | none => simp [finishRunning, hrunning]
  | some event => simp [finishRunning, hrunning]

theorem ends_idle {companions : List StoredCompanion} {failed : Prop}
    {power : Option UnlockPowerResult} {outcome : SaveOutcome}
    {result : UnlockAutomation × List UnlockReport} (hidle : result.1.running = none)
    (h : Ends companions failed result) :
    Ends companions failed (finishRunning config power outcome result) := by
  unfold finishRunning
  rw [hidle]
  exact h

theorem ends_run (s : UnlockAutomation) (request : SignedRequest) (nodeIds : List String)
    (now : Instant) (power : Option UnlockPowerResult) (outcome : SaveOutcome) :
    Ends s.store.memory.pairedCompanions
      ((∃ unlock, request = .unlock unlock) ∧ outcome ≠ .saved)
      (finishRunning config power outcome (s.run request nodeIds now)) := by
  have hfinish := Ends.finish config { s with running := none } ⟨request, nodeIds, now⟩ power outcome
  refine ⟨hfinish.companions, ?_⟩
  rw [← hfinish.raised]
  change _ ∈ [UnlockReport.commanded request nodeIds] ++ _ ↔ _
  rw [List.mem_append]
  exact or_iff_right (by simp)

theorem ends_unlock {s : UnlockAutomation} (hidle : s.running = none) {m : StoredUnlockAutomation}
    (pairing : ℕ) (event : UnlockEventRequest) (now : Instant) (power : Option UnlockPowerResult)
    (outcomes : ℕ → SaveOutcome) {result : UnlockAutomation × List UnlockReport}
    (hresult : s.acceptEvent event
      ⟨pairing, m.enabled, m.selectedNodeIds, m.lastAcceptedAt, m.cooldownSeconds⟩ now
      (outcomes 1) = result) :
    Ends s.store.memory.pairedCompanions
      (outcomes 1 ≠ .saved ∨ wouldTrigger m now = true ∧ outcomes 2 ≠ .saved)
      (finishRunning config power (outcomes 2) result) := by
  have hfinished {outcome : UnlockEventResult} (hquiet : wouldTrigger m now = false)
      (hfinish : s.call (Plugs.finishEvent outcome now (outcomes 1))
        (fun result => [.unlocked result]) = result) :
      Ends s.store.memory.pairedCompanions
        (outcomes 1 ≠ .saved ∨ wouldTrigger m now = true ∧ outcomes 2 ≠ .saved)
        (finishRunning config power (outcomes 2) result) := by
    have hends := Ends.finishEvent s outcome now (outcomes 1)
    rw [hfinish] at hends
    have hstays : result.1.running = none := by
      rw [← hfinish]
      unfold UnlockAutomation.call
      split <;> exact hidle
    refine ends_idle hstays ⟨hends.companions, hends.raised.trans ?_⟩
    simp [hquiet]
  unfold UnlockAutomation.acceptEvent at hresult
  split at hresult
  · rename_i hdisabled
    have hoff : m.enabled = false := hdisabled
    exact hfinished (by simp [wouldTrigger, hoff]) hresult
  split at hresult
  · rename_i hcooldown
    exact hfinished (by simp only [wouldTrigger, hcooldown, Bool.not_true, Bool.and_false]) hresult
  rename_i henabled hcooldown
  have htrigger : wouldTrigger m now = true := by
    simp only [wouldTrigger, Bool.and_eq_true, Bool.not_eq_true']
    exact ⟨eq_true_of_ne_false henabled, eq_false_of_ne_true hcooldown⟩
  rw [show (do
      SavedState.modify fun state => { state with lastAcceptedAt := some now }
      save (outcomes 1) : UnlockM Unit) s.store = _ from
    SavedState.modify_save _ saveFailed (outcomes 1) s.store] at hresult
  by_cases hsaved : outcomes 1 = .saved
  · rw [if_pos hsaved] at hresult
    subst hresult
    refine ⟨(ends_run _ _ _ _ _ _).companions, (ends_run _ _ _ _ _ _).raised.trans ?_⟩
    simp [hsaved, htrigger]
  · rw [if_neg hsaved] at hresult
    subst hresult
    refine ends_idle hidle ⟨rfl, ?_⟩
    simp [hsaved]

/-- The other requests save nothing after they are recorded. -/
theorem ends_accept {s : UnlockAutomation} (hidle : s.running = none) {m : StoredUnlockAutomation}
    (pairing : ℕ) (request : SignedRequest) (signature : String) (now : Instant)
    (power : Option UnlockPowerResult) (outcomes : ℕ → SaveOutcome) :
    Ends s.store.memory.pairedCompanions
      (∃ n < (receive request signature now power).saves m, 1 ≤ n ∧ outcomes n ≠ .saved)
      (finishRunning config power (outcomes 2) (s.accept config request
        ⟨pairing, m.enabled, m.selectedNodeIds, m.lastAcceptedAt, m.cooldownSeconds⟩ now
        (outcomes 1))) := by
  have hnone {request : SignedRequest} (hsaves : (receive request signature now power).saves m = 1) :
      ¬ ∃ n < (receive request signature now power).saves m, 1 ≤ n ∧ outcomes n ≠ .saved := by
    rintro ⟨n, hlt, hle, -⟩
    omega
  have hreported {request : SignedRequest} {report : UnlockReport}
      (hsaves : (receive request signature now power).saves m = 1)
      (hreport : report ≠ .raised saveFailed) : Ends s.store.memory.pairedCompanions
        (∃ n < (receive request signature now power).saves m, 1 ≤ n ∧ outcomes n ≠ .saved)
        (finishRunning config power (outcomes 2) (s, [report])) := by
    refine ends_idle hidle ⟨rfl, iff_of_false ?_ (hnone hsaves)⟩
    rw [List.mem_singleton]
    exact hreport.symm
  have hcommanded {request : SignedRequest} {nodeIds : List String}
      (hsaves : (receive request signature now power).saves m = 1)
      (hother : ∀ unlock, request ≠ .unlock unlock) : Ends s.store.memory.pairedCompanions
        (∃ n < (receive request signature now power).saves m, 1 ≤ n ∧ outcomes n ≠ .saved)
        (finishRunning config power (outcomes 2) (s.run request nodeIds now)) := by
    have hends := @ends_run config s request nodeIds now power (outcomes 2)
    refine ⟨hends.companions, hends.raised.trans (iff_of_false ?_ (hnone hsaves))⟩
    rintro ⟨⟨unlock, hunlock⟩, -⟩
    exact hother unlock hunlock
  cases request with
  | unlock event =>
    have hends := @ends_unlock config s hidle m pairing event now power outcomes _ rfl
    refine ⟨hends.companions, hends.raised.trans ?_⟩
    by_cases htrigger : wouldTrigger m now = true
    · simp only [saves, htrigger, if_true, true_and]
      constructor
      · rintro (hfirst | hsecond)
        · exact ⟨1, by omega, le_rfl, hfirst⟩
        · exact ⟨2, by omega, by omega, hsecond⟩
      · rintro ⟨n, hlt, hle, hfailed⟩
        obtain rfl | rfl : n = 1 ∨ n = 2 := by omega
        · exact .inl hfailed
        · exact .inr hfailed
    · simp only [saves, htrigger, Bool.false_eq_true, if_false, false_and, or_false]
      constructor
      · intro hfirst
        exact ⟨1, by omega, le_rfl, hfirst⟩
      · rintro ⟨n, hlt, hle, hfailed⟩
        obtain rfl : n = 1 := by omega
        exact hfailed
  | toggle event =>
    simp only [UnlockAutomation.accept, UnlockAutomation.acceptToggle]
    split
    · exact hreported rfl (by simp)
    · exact hcommanded rfl (by simp)
  | remoteState event => exact hreported rfl (by simp)
  | remotePower event =>
    simp only [UnlockAutomation.accept, UnlockAutomation.acceptRemotePower]
    split
    · split
      · exact hreported rfl (by simp [saveFailed])
      · exact hcommanded rfl (by simp)
    · split
      · exact hreported rfl (by simp)
      · exact hcommanded rfl (by simp)

variable {request : SignedRequest} {signature : String} {now : Instant}

theorem receive_atomic_iff (power : Option UnlockPowerResult) (outcomes : ℕ → SaveOutcome)
    (store : SavedState StoredUnlockAutomation) :
    SaveAtomic config hmac (receive request signature now power) outcomes store ↔
      (∀ companion, authenticateEvent hmac request signature now store.memory ≠ .ok companion) ∨
      ∀ n < (receive request signature now power).saves store.memory, outcomes n = .saved := by
  unfold SaveAtomic
  simp only [perform, receiveAndFinish_eq]
  unfold UnlockAutomation.receive
  cases hcheck : authenticateEvent hmac request signature now store.memory with
  | error e =>
    have herror : authenticateAndRecordEvent hmac request signature now (outcomes 0) store = _ :=
      read_then_error hcheck
    simp only [herror]
    exact iff_of_true (fun _ => rfl) (.inl fun _ hok => by cases hok)
  | ok companion =>
    have hrecord := authenticateAndRecordEvent_apply hcheck (outcomes 0)
    have hchanged := pairedCompanions_recordOf_ne hcheck
    have hraise (h : ∀ n < (receive request signature now power).saves store.memory,
        outcomes n = .saved) : outcomes 0 = .saved := by
      refine h 0 ?_
      unfold saves
      split
      · split <;> omega
      · omega
    by_cases hsaved : outcomes 0 = .saved
    · rw [if_pos hsaved] at hrecord
      simp only [hrecord]
      rw [finishRunning_cons]
      let recorded : UnlockAutomation :=
        { store := store.written (recordOf request now) (outcomes 0) }
      have hends := @ends_accept config recorded rfl store.memory
        companion.pairing request signature now power outcomes
      have hlost := mt (congrArg fun s : SavedState StoredUnlockAutomation =>
        s.memory.pairedCompanions) (hends.companions.trans_ne hchanged)
      simp only [List.mem_cons, reduceCtorEq, false_or]
      rw [hends.raised]
      constructor
      · intro hatomic
        right
        intro n hn
        by_contra hfailed
        refine hlost (hatomic ⟨n, hn, ?_, hfailed⟩)
        obtain rfl | hpos := Nat.eq_zero_or_pos n
        · exact absurd hsaved hfailed
        · exact hpos
      · rintro (hrefused | hall) ⟨n, hn, -, hfailed⟩
        · exact absurd rfl (hrefused companion)
        · exact absurd (hall n hn) hfailed
    · rw [if_neg hsaved] at hrecord
      simp only [hrecord]
      refine iff_of_false ?_ ?_
      · intro hatomic
        have hsame := hatomic (List.mem_singleton.mpr rfl)
        exact hchanged (congrArg (fun s : SavedState StoredUnlockAutomation =>
          s.memory.pairedCompanions) hsame)
      · rintro (hrefused | hall)
        · exact hrefused companion rfl
        · exact hsaved (hraise hall)

theorem saves_one {op : UnlockOperation} {m : StoredUnlockAutomation} (h : op.saves m = 1)
    {outcomes : ℕ → SaveOutcome} :
    (∀ n < op.saves m, outcomes n = .saved) ↔ outcomes 0 = .saved := by
  rw [h]
  simp

/-- An operation that raises that its save has failed leaves memory and file as they were exactly
when it is refused before, when no save of it fails, or when it had nothing to change. -/
theorem save_atomic_iff (config : UnlockAutomationConfig) (hmac : String → String → String)
    (op : UnlockOperation) (outcomes : ℕ → SaveOutcome)
    (store : SavedState StoredUnlockAutomation) :
    op.SaveAtomic config hmac outcomes store ↔
      op.Refused config hmac store.memory ∨ op.SavesHold outcomes store := by
  unfold SavesHold
  cases op with
  | configure request knownNodeIds =>
    rw [saves_one rfl]
    exact configure_atomic_iff
  | commitPairing candidate pairing =>
    rw [saves_one rfl]
    simp only [ChangesNothing, false_and, or_false]
    exact commitPairing_atomic_iff
  | removeCompanion =>
    rw [saves_one rfl]
    simp only [Refused, false_or]
    exact removeCompanion_atomic_iff
  | receive request signature now power =>
    simp only [ChangesNothing, false_and, or_false]
    exact receive_atomic_iff power outcomes store

/-- The disk is full when a plug is selected: the call raises and the plug stays selected. -/
theorem selection_not_rolled_back :
    ¬ (configure ⟨false, [⟨"plug-1", by decide⟩], List.nodup_singleton _, by decide⟩
      ["plug-1"]).SaveAtomic Desktop.config Desktop.knownHmac (fun _ => .failed false)
        (.load {}) := by
  intro hatomic
  have hsame := hatomic (by decide)
  have hselected := congrArg (fun s : SavedState StoredUnlockAutomation =>
    s.memory.selectedNodeIds) hsame
  revert hselected
  decide

end UnlockOperation
end CitPhysicalXR.Plugs
