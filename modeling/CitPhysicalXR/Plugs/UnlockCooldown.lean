import CitPhysicalXR.Foundation.Execution
import CitPhysicalXR.Plugs.UnlockCalls

/-! The cooldown between the unlocks that trigger the saved plugs. It is measured with the clock of
the service, which may be set forward and back. -/
namespace CitPhysicalXR.Plugs
open Foundation

/-- The reading of the clock that a call takes. -/
def UnlockEvent.reading : UnlockEvent → Option Instant
  | .receive _ _ now _ => some now
  | _ => none

/-- The service over any saved state. Every call comes at a moment, in microseconds, not before
the last one, and reads what the clock shows then. -/
def clockedUnlocks (config : UnlockAutomationConfig) (hmac : String → String → String)
    (clock : ℤ → Instant) : Machine (UnlockAutomation × ℤ) (ℤ × UnlockEvent) UnlockReport where
  Initial s := ∃ file, s.1 = { store := .load file }
  Step s e s' out := s.2 ≤ e.1 ∧ s'.2 = e.1 ∧ (∀ now ∈ e.2.reading, now = clock e.1) ∧
    s.1.step config hmac e.2 = some (s'.1, out)

/-- An unlock has its command runner called. -/
def Triggers (reports : List UnlockReport) : Prop :=
  ∃ event nodeIds, .commanded (.unlock event) nodeIds ∈ reports

def StartsPairing (s : UnlockAutomation) (e : UnlockEvent) : Prop :=
  s.store.memory.companion = none ∧ ∃ candidate outcome, e = .commitPairing candidate outcome

/-- What the calls other than pairings and triggers keep of the saved state. -/
structure Stable (P : StoredUnlockAutomation → Prop) : Prop where
  record : ∀ {request now m}, P m → P (recordOf request now m)
  configure : ∀ {m} enabled selectedNodeIds, P m →
    P { m with enabled := enabled, selectedNodeIds := selectedNodeIds }
  finish : ∀ {m} lastResult, P m → P { m with lastResult := lastResult }
  remove : ∀ {m}, P m → P m.removeCompanions

structure MayTrigger (m : StoredUnlockAutomation) (now : Instant) : Prop where
  paired : m.companion ≠ none
  cooled : ∀ lastAcceptedAt ∈ m.lastAcceptedAt, seconds m.cooldownSeconds ≤ now - lastAcceptedAt

namespace Stable
variable {P : StoredUnlockAutomation → Prop} {s s' : UnlockAutomation} {out : List UnlockReport}

theorem finishEvent (hP : Stable P) (h : SavedState.Both P s.store) (result : UnlockEventResult)
    (now : Instant) (outcome : SaveOutcome) (report : UnlockEventResult → List UnlockReport) :
    SavedState.Both P (s.call (Plugs.finishEvent result now outcome) report).1.store := by
  obtain ⟨lastResult, hfinish⟩ := finishEvent_apply result now outcome s.store
  have hwritten : SavedState.Both P (s.store.written
      (fun m => { m with lastResult := some lastResult }) outcome) :=
    h.written (hP.finish _) outcome
  by_cases houtcome : outcome = .saved
  · rw [if_pos houtcome] at hfinish
    rw [UnlockAutomation.call_ok hfinish]
    exact hwritten
  · rw [if_neg houtcome] at hfinish
    rw [UnlockAutomation.call_error hfinish]
    exact hwritten

theorem finishRunning (hP : Stable P) (h : SavedState.Both P s.store)
    (config : UnlockAutomationConfig) (event : RunningEvent) (power : Option UnlockPowerResult)
    (outcome : SaveOutcome) :
    SavedState.Both P (s.finish config event power outcome).1.store := by
  unfold UnlockAutomation.finish
  split
  · exact hP.finishEvent h _ _ _ _
  · exact hP.finishEvent h _ _ _ _
  all_goals exact h

/-- A call that changes the memory, once its checks pass, and saves. -/
theorem write (h : SavedState.Both P s.store) {m : UnlockM Unit}
    (f : StoredUnlockAutomation → StoredUnlockAutomation) (outcome : SaveOutcome)
    (hf : P s.store.memory → P (f s.store.memory))
    (hm : (∃ e, m s.store = .error e s.store) ∨
      m s.store = (do SavedState.modify f; save outcome : UnlockM Unit) s.store)
    (report : Unit → List UnlockReport) : SavedState.Both P (s.call m report).1.store := by
  rcases hm with ⟨e, herror⟩ | hwrite
  · rw [UnlockAutomation.call_error herror]
    exact h
  · have happly : m s.store = if outcome = .saved then .ok () (s.store.written f outcome)
        else .error saveFailed (s.store.written f outcome) :=
      hwrite.trans (SavedState.modify_save f saveFailed outcome s.store)
    by_cases houtcome : outcome = .saved
    · rw [if_pos houtcome] at happly
      rw [UnlockAutomation.call_ok happly]
      exact h.written hf outcome
    · rw [if_neg houtcome] at happly
      rw [UnlockAutomation.call_error happly]
      exact h.written hf outcome

end Stable

variable {hmac : String → String → String} {e : UnlockEvent} {s s' : UnlockAutomation}
  {out : List UnlockReport}

theorem companion_of_authenticateEvent
    {event : UnlockEventRequest} {signature : String} {now : Instant} {m : StoredUnlockAutomation}
    {companion : StoredCompanion}
    (h : authenticateEvent hmac (.unlock event) signature now m = .ok companion) :
    m.companion ≠ none := by
  intro hnone
  unfold authenticateEvent at h
  obtain ⟨-, h⟩ := seq_eq_ok.mp h
  obtain ⟨found, hfound, -⟩ := bind_eq_ok.mp h
  simp [StoredUnlockAutomation.companionOf, SignedRequest.isRemote, hnone] at hfound

/-- What a request leaves, and what holds where it triggers the plugs. -/
structure Handled (P : StoredUnlockAutomation → Prop) (now : Instant) (s : UnlockAutomation)
    (result : UnlockAutomation × List UnlockReport) : Prop where
  kept : SavedState.Both P result.1.store
  triggered : Triggers result.2 → MayTrigger s.store.memory now ∧
    SavedState.Both (fun m => m.lastAcceptedAt = some now) result.1.store

namespace Handled
variable {P : StoredUnlockAutomation → Prop} {s : UnlockAutomation} {now : Instant}
  {config : UnlockAutomationConfig} {hmac : String → String → String}

variable {t : UnlockAutomation}

theorem report (h : SavedState.Both P t.store) {out : List UnlockReport}
    (hquiet : ¬ Triggers out) : Handled P now s (t, out) :=
  ⟨h, fun htriggers => absurd htriggers hquiet⟩

theorem quiet_of_call {α : Type} {m : UnlockM α} {report : α → List UnlockReport}
    (hreport : ∀ a, ¬ Triggers (report a)) : ¬ Triggers (t.call m report).2 := by
  unfold UnlockAutomation.call
  split
  · exact hreport _
  · simp [Triggers]

/-- The rest of `accept_event`, over the state in which the request is recorded. -/
theorem acceptEvent (hP : Stable P) (ht : SavedState.Both P t.store)
    (hpaired : s.store.memory.companion ≠ none)
    (haccept : MayTrigger s.store.memory now → ∀ {m : StoredUnlockAutomation}, P m →
      P { m with lastAcceptedAt := some now })
    (pairing : ℕ) (event : UnlockEventRequest) (outcome : SaveOutcome) :
    Handled P now s (t.acceptEvent event ⟨pairing, s.store.memory.enabled,
      s.store.memory.selectedNodeIds, s.store.memory.lastAcceptedAt,
      s.store.memory.cooldownSeconds⟩ now outcome) := by
  unfold UnlockAutomation.acceptEvent
  split
  · exact ⟨hP.finishEvent ht _ _ _ _, fun h => absurd h (quiet_of_call (by simp [Triggers]))⟩
  split
  · exact ⟨hP.finishEvent ht _ _ _ _, fun h => absurd h (quiet_of_call (by simp [Triggers]))⟩
  rename_i hcooldown
  have hmay : MayTrigger s.store.memory now := by
    refine ⟨hpaired, ?_⟩
    intro lastAcceptedAt hlast
    by_contra hrecent
    refine hcooldown ?_
    simp only [Option.mem_def.mp hlast, Option.any_some, decide_eq_true_eq]
    exact not_le.mp hrecent
  have hwritten : SavedState.Both P (t.store.written
      (fun state => { state with lastAcceptedAt := some now }) outcome) :=
    ht.written (haccept hmay) outcome
  rw [show (do
      SavedState.modify fun state => { state with lastAcceptedAt := some now }
      save outcome : UnlockM Unit) t.store = _ from
    SavedState.modify_save _ saveFailed outcome t.store]
  by_cases houtcome : outcome = .saved
  · rw [if_pos houtcome]
    refine ⟨hwritten, fun _ => ⟨hmay, rfl, ?_⟩⟩
    simp [UnlockAutomation.run, SavedState.written, houtcome]
  · rw [if_neg houtcome]
    exact .report hwritten (by simp [Triggers])

theorem receive (hP : Stable P) (h : SavedState.Both P s.store)
    (haccept : MayTrigger s.store.memory now → ∀ {m : StoredUnlockAutomation}, P m →
      P { m with lastAcceptedAt := some now })
    (request : SignedRequest) (signature : String) (outcomes : ℕ → SaveOutcome) :
    Handled P now s (s.receive config hmac request signature now outcomes) := by
  unfold UnlockAutomation.receive
  cases hcheck : authenticateEvent hmac request signature now s.store.memory with
  | error e =>
    have herror : authenticateAndRecordEvent hmac request signature now (outcomes 0) s.store = _ :=
      read_then_error hcheck
    rw [herror]
    exact .report h (by simp [Triggers])
  | ok companion =>
    have hrecord := authenticateAndRecordEvent_apply hcheck (outcomes 0)
    have hwritten : SavedState.Both P (s.store.written (recordOf request now) (outcomes 0)) :=
      h.written hP.record (outcomes 0)
    by_cases hsaved : outcomes 0 = .saved
    · rw [if_pos hsaved] at hrecord
      rw [hrecord]
      have hcons {result : UnlockAutomation × List UnlockReport} (hresult : Handled P now s result) :
          Handled P now s (result.1, .accepted companion.pairing request :: result.2) := by
        refine ⟨hresult.kept, fun htriggers => hresult.triggered ?_⟩
        obtain ⟨event, nodeIds, hmem⟩ := htriggers
        exact ⟨event, nodeIds, by simpa using hmem⟩
      refine hcons ?_
      cases request with
      | unlock event =>
        exact acceptEvent hP hwritten (companion_of_authenticateEvent hcheck) haccept _ _ _
      | toggle event =>
        simp only [UnlockAutomation.acceptToggle]
        split
        · exact .report hwritten (by simp [Triggers])
        · exact .report hwritten (by simp [Triggers])
      | remoteState event => exact .report hwritten (by simp [Triggers])
      | remotePower event =>
        simp only [UnlockAutomation.acceptRemotePower]
        split
        · split
          · exact .report hwritten (by simp [Triggers])
          · exact .report hwritten (by simp [Triggers])
        · split
          · exact .report hwritten (by simp [Triggers])
          · exact .report hwritten (by simp [Triggers])
    · rw [if_neg hsaved] at hrecord
      rw [hrecord]
      exact .report hwritten (by simp [Triggers])

end Handled

theorem Stable.step {P : StoredUnlockAutomation → Prop} (hP : Stable P)
    {config : UnlockAutomationConfig}
        (hs : s.step config hmac e = some (s', out)) (h : SavedState.Both P s.store)
    (hpair : ∀ candidate outcome, e = .commitPairing candidate outcome →
      ∀ companion, P s.store.memory → P (s.store.memory.addCompanion companion))
    (haccept : ∀ now ∈ e.reading, MayTrigger s.store.memory now →
      ∀ {m : StoredUnlockAutomation}, P m → P { m with lastAcceptedAt := some now }) :
    SavedState.Both P s'.store := by
  cases e with
  | receive request signature now outcomes =>
    have hhandled : Handled P now s (s.receive config hmac request signature now outcomes) :=
      Handled.receive hP h (haccept now rfl) request signature outcomes
    rw [UnlockAutomation.receive_of_step hs] at hhandled
    exact hhandled.kept
  | commandRan power outcome =>
    obtain ⟨event, -, hfinish⟩ := Option.map_eq_some_iff.mp hs
    have hkept := hP.finishRunning (s := { s with running := none }) h config event power outcome
    rw [hfinish] at hkept
    exact hkept
  | cancelled =>
    obtain ⟨event, -, hcancelled⟩ := Option.map_eq_some_iff.mp hs
    cases hcancelled
    exact h
  | configure request knownNodeIds outcome =>
    have hkept := Stable.write h (m := Plugs.configure request knownNodeIds outcome)
      (fun m => { m with
        enabled := request.enabled, selectedNodeIds := request.selectedNodeIds.map (·.text) })
      outcome (hP.configure _ _) ?_ fun _ => []
    · rw [Option.some.inj hs] at hkept
      exact hkept
    · cases hcheck : checkConfiguration request knownNodeIds s.store.memory with
      | error e => exact .inl ⟨e, read_then_error hcheck⟩
      | ok _ => exact .inr (read_then_ok hcheck)
  | commitPairing candidate outcome =>
    have hkept := Stable.write
      (s := { s with pairings := s.pairings ++ [candidate.deviceId] }) h
      (m := Plugs.commitPairing config candidate s.pairings.length outcome)
      (·.addCompanion (candidate.companion s.pairings.length)) outcome (hpair candidate outcome rfl _) ?_ fun _ => []
    · rw [Option.some.inj hs] at hkept
      exact hkept
    · cases hcapacity : requirePairingCapacity config s.store.memory with
      | error e => exact .inl ⟨e, read_then_error hcapacity⟩
      | ok _ =>
        have hfirst : Plugs.commitPairing config candidate s.pairings.length outcome s.store = _ :=
          read_then_ok hcapacity
        cases hunpaired : requireUnpaired candidate s.store.memory with
        | error e => exact .inl ⟨e, hfirst.trans (read_then_error hunpaired)⟩
        | ok _ => exact .inr (hfirst.trans (read_then_ok hunpaired))
  | removeCompanion outcome =>
    have hkept := Stable.write h (m := Plugs.removeCompanion outcome) (·.removeCompanions)
      outcome hP.remove (.inr rfl) fun _ => []
    rw [Option.some.inj hs] at hkept
    exact hkept
  | restart =>
    cases hs
    exact h.load

theorem Triggers.of_step {config : UnlockAutomationConfig}
        (hs : s.step config hmac e = some (s', out)) (h : Triggers out) :
    ∃ now ∈ e.reading, MayTrigger s.store.memory now ∧
      SavedState.Both (fun m => m.lastAcceptedAt = some now) s'.store := by
  have hcall {t : UnlockAutomation} {m : UnlockM Unit} (hs : (t.call m fun _ => []) = (s', out)) :
      ¬ Triggers out := by
    have hout : (t.call m fun _ => []).2 = out := congrArg Prod.snd hs
    rw [← hout]
    exact Handled.quiet_of_call (by simp [Triggers])
  cases e with
  | receive request signature now outcomes =>
    have hall : Stable fun _ => True := by constructor <;> simp
    have hhandled : Handled (fun _ => True) now s
        (s.receive config hmac request signature now outcomes) :=
      Handled.receive hall ⟨trivial, trivial⟩ (fun _ _ _ => trivial) request signature outcomes
    rw [UnlockAutomation.receive_of_step hs] at hhandled
    exact ⟨now, rfl, hhandled.triggered h⟩
  | commandRan power outcome =>
    obtain ⟨event, -, hfinish⟩ := Option.map_eq_some_iff.mp hs
    have hquiet : ¬ Triggers
        (UnlockAutomation.finish config { s with running := none } event power outcome).2 := by
      unfold UnlockAutomation.finish
      split
      · exact Handled.quiet_of_call (by simp [Triggers])
      · exact Handled.quiet_of_call (by simp [Triggers])
      all_goals simp [Triggers]
    rw [hfinish] at hquiet
    exact absurd h hquiet
  | cancelled =>
    obtain ⟨event, -, hcancelled⟩ := Option.map_eq_some_iff.mp hs
    cases hcancelled
    exact absurd h (by simp [Triggers])
  | configure request knownNodeIds outcome =>
    exact absurd h (hcall (Option.some.inj hs))
  | commitPairing candidate outcome => exact absurd h (hcall (Option.some.inj hs))
  | removeCompanion outcome => exact absurd h (hcall (Option.some.inj hs))
  | restart =>
    cases hs
    exact absurd h (by simp [Triggers])

/-- The last trigger is not before an instant, as long as there is a primary companion. -/
def NotBefore (instant : Instant) (m : StoredUnlockAutomation) : Prop :=
  m.companion ≠ none → ∃ lastAcceptedAt ∈ m.lastAcceptedAt, instant ≤ lastAcceptedAt

theorem companion_recordOf {request : SignedRequest} {now : Instant} {m : StoredUnlockAutomation}
    (h : (recordOf request now m).companion ≠ none) : m.companion ≠ none := by
  intro hnone
  refine h ?_
  unfold recordOf StoredUnlockAutomation.updateCompanion
  rw [hnone]

theorem stable_notBefore (instant : Instant) : Stable (NotBefore instant) where
  record {request now m} h hpaired := by
    rw [(recordOf_fields request now m).2.2.1]
    exact h (companion_recordOf hpaired)
  configure _ _ h := h
  finish _ h := h
  remove _ hpaired := absurd rfl hpaired

theorem stable_cooldown (cooldownSeconds : ℕ) : Stable (·.cooldownSeconds = cooldownSeconds) where
  record {request now m} h := (recordOf_fields request now m).2.2.2.trans h
  configure _ _ h := h
  finish _ h := h
  remove h := h

theorem cooldown_kept {config : UnlockAutomationConfig}
        (hs : s.step config hmac e = some (s', out)) {cooldownSeconds : ℕ}
    (h : SavedState.Both (·.cooldownSeconds = cooldownSeconds) s.store) :
    SavedState.Both (·.cooldownSeconds = cooldownSeconds) s'.store := by
  refine (stable_cooldown cooldownSeconds).step hs h ?_ fun _ _ _ _ hm => hm
  intro _ _ _ companion hm
  unfold StoredUnlockAutomation.addCompanion
  split
  · exact hm
  · exact hm

theorem notBefore_kept {config : UnlockAutomationConfig}
        (hs : s.step config hmac e = some (s', out)) (hpairing : ¬ StartsPairing s e)
    {instant : Instant} (h : SavedState.Both (NotBefore instant) s.store) :
    SavedState.Both (NotBefore instant) s'.store := by
  refine (stable_notBefore instant).step hs h ?_ ?_
  · intro candidate outcome he companion hm
    have hpaired : s.store.memory.companion ≠ none :=
      fun hnone => hpairing ⟨hnone, candidate, outcome, he⟩
    unfold StoredUnlockAutomation.addCompanion
    split
    · exact absurd ‹_› hpaired
    · exact fun _ => hm hpaired
  · intro now _ hmay m _ _
    obtain ⟨last, hlast, hle⟩ := h.memory hmay.paired
    have hcooled := hmay.cooled last hlast
    have hnonneg : 0 ≤ seconds s.store.memory.cooldownSeconds := by
      unfold seconds
      exact Int.mul_nonneg (Int.natCast_nonneg _) (by decide)
    exact ⟨now, rfl, hle.trans (sub_nonneg.mp (hnonneg.trans hcooled))⟩

section
variable {config : UnlockAutomationConfig} {hmac : String → String → String} {clock : ℤ → Instant}

theorem cooldown_of_reachable {s : UnlockAutomation × ℤ}
    (h : (clockedUnlocks config hmac clock).Reachable s) :
    SavedState.Both (·.cooldownSeconds = s.1.store.memory.cooldownSeconds) s.1.store := by
  have hsame : ∃ c, SavedState.Both (·.cooldownSeconds = c) s.1.store := by
    refine h.invariant (P := fun s => ∃ c, SavedState.Both (·.cooldownSeconds = c) s.1.store) ?_ ?_
    · rintro s ⟨file, hs⟩
      rw [hs]
      exact ⟨file.cooldownSeconds, rfl, rfl⟩
    · rintro s e s' out ⟨c, hc⟩ ⟨-, -, -, hstep⟩
      exact ⟨c, cooldown_kept hstep hc⟩
  obtain ⟨c, hc⟩ := hsame
  rw [hc.memory]
  exact hc

/-- Between two triggers of which none follows a new pairing, the clock of the service advances by
the cooldown, however it is set meanwhile; so does time, unless the clock gains on it. -/
theorem unlock_cooldown {s₀ s : UnlockAutomation × ℤ}
    {trace : List ((ℤ × UnlockEvent) × List UnlockReport)}
    (hs₀ : (clockedUnlocks config hmac clock).Reachable s₀)
    (h : ((clockedUnlocks config hmac clock).restrict fun s e =>
      ¬ StartsPairing s.1 e.2).Steps s₀ trace s) :
    trace.Pairwise fun x y => Triggers x.2 → Triggers y.2 →
      seconds s₀.1.store.memory.cooldownSeconds ≤ clock y.1.1 - clock x.1.1 ∧
        (clock y.1.1 - clock x.1.1 ≤ y.1.1 - x.1.1 →
          seconds s₀.1.store.memory.cooldownSeconds ≤ y.1.1 - x.1.1) := by
  have hcooldown := cooldown_of_reachable hs₀
  generalize s₀.1.store.memory.cooldownSeconds = cooldown at hcooldown ⊢
  have hinvariant : SavedState.Both (·.cooldownSeconds = cooldown) s.1.store ∧
      (∀ x ∈ trace, Triggers x.2 → SavedState.Both (NotBefore (clock x.1.1)) s.1.store) ∧
      trace.Pairwise fun x y => Triggers x.2 → Triggers y.2 →
        seconds cooldown ≤ clock y.1.1 - clock x.1.1 := by
    induction h with
    | nil => exact ⟨hcooldown, by simp, List.Pairwise.nil⟩
    | @snoc trace s e s' out _ hs ih =>
      obtain ⟨hsame, hlast, hapart⟩ := ih
      obtain ⟨hpairing, -, -, hreading, hstep⟩ := hs
      refine ⟨cooldown_kept hstep hsame, ?_, ?_⟩
      · intro x hx htriggers
        rcases List.mem_append.mp hx with hx | hx
        · exact notBefore_kept hstep hpairing (hlast x hx htriggers)
        · obtain rfl := List.mem_singleton.mp hx
          obtain ⟨now, hnow, -, hrecorded⟩ := Triggers.of_step hstep htriggers
          rw [hreading now hnow] at hrecorded
          exact ⟨fun _ => ⟨_, hrecorded.memory, le_rfl⟩, fun _ => ⟨_, hrecorded.file, le_rfl⟩⟩
      · rw [List.pairwise_append]
        refine ⟨hapart, List.pairwise_singleton _ _, ?_⟩
        intro x hx y hy hbefore htriggers
        obtain rfl := List.mem_singleton.mp hy
        obtain ⟨now, hnow, hmay, -⟩ := Triggers.of_step hstep htriggers
        obtain ⟨last, hlatest, hle⟩ := (hlast x hx hbefore).memory hmay.paired
        have hcooled := hmay.cooled last hlatest
        rw [hsame.memory, hreading now hnow] at hcooled
        exact hcooled.trans (sub_le_sub_left hle _)
  refine hinvariant.2.2.imp ?_
  intro x y hapart hx hy
  exact ⟨hapart hx hy, fun hgain => (hapart hx hy).trans hgain⟩

end

namespace Phone

/-- The phone is unlocked, for the first or for the second time. -/
def unlock (again : Bool) : UnlockEventRequest where
  deviceId := "android-0123456789abcdef"
  eventId := ⟨if again then 2 else 1⟩
  sequence := if again then 2 else 1
  occurredAtEpochMs := if again then 1767225603000 else 1767225601000
  device_ok := by decide +kernel
  sequence_ok := by cases again <;> decide
  occurred_ok := by cases again <;> decide

def digest (again : Bool) : String :=
  if again then "194c4fd0b95324785b41e90c32e8cdebf24017a7dd315a34e8e93064d7789baf"
  else "36d3ef99d1ae9da6bf2ad12510127ab3f49bd1e6d753d3725f6f623eca995190"

def knownHmac (key payload : String) : String :=
  if key = Desktop.secret ∧ payload = (SignedRequest.unlock (unlock false)).signedPayload then
    digest false
  else if key = Desktop.secret ∧ payload = (SignedRequest.unlock (unlock true)).signedPayload then
    digest true
  else ""

def saved : StoredUnlockAutomation where
  enabled := true
  selectedNodeIds := ["plug-1"]
  companion := some
    ⟨"android-0123456789abcdef", "Phone", Desktop.secret, seconds 1767225000, 0, none, 0⟩

/-- The request of an unlock is received so many seconds after the first moment. -/
def send (again : Bool) (second : ℤ) (clock : ℤ → Instant) : ℤ × UnlockEvent :=
  (seconds second, .receive (.unlock (unlock again)) (digest again) (clock (seconds second))
    fun _ => .saved)

def switched : UnlockPowerResult := ⟨1, 1, [], some true, "Smart plug command accepted."⟩

/-- The clock runs evenly, or is set forward by a minute after two seconds. -/
def clock (adjusted : Bool) (time : ℤ) : Instant :=
  seconds 1767225600 + time + if adjusted = true ∧ seconds 2 ≤ time then seconds 60 else 0

def step (clock : ℤ → Instant) (s : UnlockAutomation × ℤ) (e : ℤ × UnlockEvent) :
    Option ((UnlockAutomation × ℤ) × List UnlockReport) :=
  if s.2 ≤ e.1 ∧ e.2.reading.all (fun now => now = clock e.1) then
    (s.1.step Desktop.config knownHmac e.2).map fun next => ((next.1, e.1), next.2)
  else none

theorem step_clocked {clock : ℤ → Instant} {s : UnlockAutomation × ℤ} {e : ℤ × UnlockEvent}
    {next : (UnlockAutomation × ℤ) × List UnlockReport} (h : step clock s e = some next) :
    (clockedUnlocks Desktop.config knownHmac clock).Step s e next.1 next.2 := by
  unfold step at h
  split at h
  · rename_i hready
    obtain ⟨last, hlast, rfl⟩ := Option.map_eq_some_iff.mp h
    refine ⟨hready.1, rfl, ?_, hlast⟩
    intro now hnow
    have hreading := hready.2
    rw [Option.mem_def.mp hnow] at hreading
    simpa using hreading
  · cases h

/-- The first unlock, its plugs, and the second one. -/
def day (adjusted : Bool) (second : ℤ) : List (ℤ × UnlockEvent) :=
  [send false 1 (clock adjusted), (seconds 1, UnlockEvent.commandRan (some switched) .saved),
    send true second (clock adjusted)]

def isTrigger : UnlockReport → Bool
  | .commanded (.unlock _) _ => true
  | _ => false

theorem triggers_of_any {reports : List UnlockReport} (h : reports.any isTrigger = true) :
    Triggers reports := by
  obtain ⟨report, hreport, htrigger⟩ := List.any_eq_true.mp h
  unfold isTrigger at htrigger
  split at htrigger
  · exact ⟨_, _, hreport⟩
  · cases htrigger

/-- When the entries of a trace come, and whether they trigger the plugs. -/
def triggerTimes (trace : List ((ℤ × UnlockEvent) × List UnlockReport)) : List (ℤ × Bool) :=
  trace.map fun entry => (entry.1.1, entry.2.any isTrigger)

theorem day_steps (adjusted : Bool) (second : ℤ)
    (hexec : ((Machine.execute (step (clock adjusted))
      (fun s _ => s.1.store.memory.companion.isSome = true)
      ({ store := .load saved }, 0) (day adjusted second)).any fun last =>
        decide (triggerTimes last.2 = [(seconds 1, true), (seconds 1, false),
          (seconds second, true)])) = true) :
    ∃ x y z s, ((clockedUnlocks Desktop.config knownHmac (clock adjusted)).restrict fun s e =>
        ¬ StartsPairing s.1 e.2).Steps ({ store := .load saved }, 0) [x, y, z] s ∧
      (Triggers x.2 ∧ x.1.1 = seconds 1) ∧ Triggers z.2 ∧ z.1.1 = seconds second := by
  obtain ⟨⟨s, trace⟩, hlast, htimes⟩ := (Option.any_eq_true ..).mp hexec
  have hsteps := Machine.steps_of_execute
    (M := clockedUnlocks Desktop.config knownHmac (clock adjusted)) step_clocked hlast
  have htrace := of_decide_eq_true htimes
  have hlength : trace.length = 3 := by
    have hsame := congrArg List.length htrace
    simpa [triggerTimes] using hsame
  obtain ⟨x, y, z, rfl⟩ := List.length_eq_three.mp hlength
  simp only [triggerTimes, List.map_cons, List.map_nil, List.cons.injEq, Prod.mk.injEq] at htrace
  obtain ⟨⟨hx, hfirst⟩, -, ⟨hz, hlater⟩, -⟩ := htrace
  refine ⟨x, y, z, s, hsteps.mono ?_, ⟨triggers_of_any hfirst, hx⟩, triggers_of_any hlater, hz⟩
  intro s e hpaired hstarts
  rw [hstarts.1] at hpaired
  cases hpaired

end Phone

/-- The phone is unlocked twice in two seconds, between which the clock is set forward by a
minute: both unlocks trigger the plug. -/
theorem clock_set_forward : ¬ ∀ (clock : ℤ → Instant) (s₀ s : UnlockAutomation × ℤ)
    (trace : List ((ℤ × UnlockEvent) × List UnlockReport)),
    (clockedUnlocks Desktop.config Phone.knownHmac clock).Reachable s₀ →
    ((clockedUnlocks Desktop.config Phone.knownHmac clock).restrict fun s e =>
      ¬ StartsPairing s.1 e.2).Steps s₀ trace s →
    trace.Pairwise fun x y => Triggers x.2 → Triggers y.2 →
      seconds s₀.1.store.memory.cooldownSeconds ≤ y.1.1 - x.1.1 := by
  intro hclaim
  obtain ⟨x, y, z, s, hsteps, ⟨hx, hfirst⟩, hz, hlater⟩ :=
    Phone.day_steps true 3 (by decide +kernel)
  have hapart := hclaim _ _ _ _ ⟨[], _, ⟨Phone.saved, rfl⟩, .nil⟩ hsteps
  have hpair := (List.pairwise_cons.mp hapart).1 z (by simp) hx hz
  rw [hfirst, hlater] at hpair
  revert hpair
  decide

/-- The clock runs evenly: nineteen seconds lie between the two triggers. -/
theorem unlock_cooldown_phone : ∃ x y z s,
    ((clockedUnlocks Desktop.config Phone.knownHmac (Phone.clock false)).restrict fun s e =>
      ¬ StartsPairing s.1 e.2).Steps ({ store := .load Phone.saved }, 0) [x, y, z] s ∧
    Triggers x.2 ∧ Triggers z.2 ∧
    [x, y, z].Pairwise fun x y => Triggers x.2 → Triggers y.2 →
      seconds Phone.saved.cooldownSeconds ≤ Phone.clock false y.1.1 - Phone.clock false x.1.1 ∧
        (Phone.clock false y.1.1 - Phone.clock false x.1.1 ≤ y.1.1 - x.1.1 →
          seconds Phone.saved.cooldownSeconds ≤ y.1.1 - x.1.1) := by
  obtain ⟨x, y, z, s, hsteps, ⟨hx, -⟩, hz, -⟩ :=
    Phone.day_steps false 20 (by decide +kernel)
  have hreachable : (clockedUnlocks Desktop.config Phone.knownHmac (Phone.clock false)).Reachable
      ({ store := .load Phone.saved }, 0) := ⟨[], _, ⟨Phone.saved, rfl⟩, .nil⟩
  have hapart := unlock_cooldown hreachable hsteps
  exact ⟨x, y, z, s, hsteps, hx, hz, hapart⟩

end CitPhysicalXR.Plugs
