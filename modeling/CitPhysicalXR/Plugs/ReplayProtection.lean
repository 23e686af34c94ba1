import CitPhysicalXR.Foundation.Execution
import CitPhysicalXR.Plugs.UnlockAutomation

/-! The replay protection of the signed requests. The counter of a pairing, in the memory and in
the file, is at every moment past the sequence numbers that were accepted. -/
namespace CitPhysicalXR.Plugs
open Foundation

def accepted (pairing : ℕ) (reports : List UnlockReport) : List SignedRequest :=
  reports.filterMap fun
    | .accepted pairing' request => if pairing' = pairing then some request else none
    | _ => none

theorem accepted_append (pairing : ℕ) (before after : List UnlockReport) :
    accepted pairing (before ++ after) = accepted pairing before ++ accepted pairing after :=
  List.filterMap_append

structure Ledger (history : List UnlockReport) (pairings : List String)
    (s : StoredUnlockAutomation) : Prop where
  distinct : (s.pairedCompanions.map (·.pairing)).Nodup
  made : ∀ companion ∈ s.pairedCompanions,
    pairings[companion.pairing]? = some companion.deviceId
  counted : ∀ companion ∈ s.pairedCompanions, ∀ request ∈ accepted companion.pairing history,
    request.event.sequence ≤ companion.lastSequence

namespace StoredUnlockAutomation
variable {s : StoredUnlockAutomation}

theorem pairedCompanions_update (deviceId : String) (f : StoredCompanion → StoredCompanion) :
    (s.updateCompanion deviceId f).pairedCompanions =
      KeyedList.updateFirst (fun phone => phone.deviceId == deviceId) f s.pairedCompanions := by
  unfold updateCompanion pairedCompanions
  cases hprimary : s.companion with
  | none => rfl
  | some primary =>
    by_cases hdevice : (primary.deviceId == deviceId) = true
    · simp [KeyedList.updateFirst, hdevice]
    · simp [KeyedList.updateFirst, hdevice]

theorem companionOf_find {request : SignedRequest} {companion : StoredCompanion}
    (h : s.companionOf request = some companion) :
    s.pairedCompanions.find? (fun phone => phone.deviceId == request.event.deviceId) =
      some companion := by
  unfold companionOf at h
  split at h
  · exact h
  · obtain ⟨hprimary, hdevice⟩ := Option.filter_eq_some_iff.mp h
    unfold pairedCompanions
    rw [hprimary]
    simp [hdevice]

theorem pairedCompanions_add (companion : StoredCompanion) :
    (s.addCompanion companion).pairedCompanions.Perm (companion :: s.pairedCompanions) := by
  unfold addCompanion pairedCompanions
  cases hprimary : s.companion with
  | none => simp
  | some primary =>
    simp only [Option.toList_some]
    rw [← List.append_assoc]
    exact List.perm_append_singleton _ _

end StoredUnlockAutomation

namespace Ledger
variable {history : List UnlockReport} {pairings : List String} {s s' : StoredUnlockAutomation}

theorem of_sublist (h : Ledger history pairings s)
    (hcompanions : s'.pairedCompanions.Sublist s.pairedCompanions) : Ledger history pairings s' where
  distinct := h.distinct.sublist (hcompanions.map _)
  made companion hmem := h.made companion (hcompanions.subset hmem)
  counted companion hmem := h.counted companion (hcompanions.subset hmem)

theorem of_accepted {history' : List UnlockReport}
    (hsame : ∀ pairing, accepted pairing history' = accepted pairing history)
    (h : Ledger history pairings s) : Ledger history' pairings s where
  distinct := h.distinct
  made := h.made
  counted companion hmem request hrequest := by
    rw [hsame] at hrequest
    exact h.counted companion hmem request hrequest

theorem of_append {out : List UnlockReport} (h : Ledger (history ++ out) pairings s) :
    Ledger history pairings s where
  distinct := h.distinct
  made := h.made
  counted companion hmem request hrequest := by
    apply h.counted companion hmem request
    rw [accepted_append]
    exact List.mem_append_left _ hrequest

theorem grow (h : Ledger history pairings s) (deviceId : String) :
    Ledger history (pairings ++ [deviceId]) s where
  distinct := h.distinct
  made companion hmem := by
    have hmade := h.made companion hmem
    rw [List.getElem?_append_left (List.getElem?_eq_some_iff.mp hmade).1]
    exact hmade
  counted := h.counted

/-- A new pairing starts with nothing accepted. -/
theorem add (h : Ledger history pairings s) (hunused : accepted pairings.length history = [])
    {companion : StoredCompanion} (hpairing : companion.pairing = pairings.length) :
    Ledger history (pairings ++ [companion.deviceId]) (s.addCompanion companion) := by
  have hperm := s.pairedCompanions_add companion
  constructor
  · rw [(hperm.map _).nodup_iff, List.map_cons, List.nodup_cons]
    refine ⟨?_, h.distinct⟩
    intro hmem
    obtain ⟨old, hold, hsame⟩ := List.mem_map.mp hmem
    have hlt := (List.getElem?_eq_some_iff.mp (h.made old hold)).1
    omega
  · intro other hmem
    obtain rfl | hold := List.mem_cons.mp (hperm.subset hmem)
    · rw [hpairing]
      exact List.getElem?_concat_length
    · exact (h.grow companion.deviceId).made other hold
  · intro other hmem request hrequest
    obtain rfl | hold := List.mem_cons.mp (hperm.subset hmem)
    · rw [hpairing, hunused] at hrequest
      cases hrequest
    · exact h.counted other hold request hrequest

variable {request : SignedRequest} {companion : StoredCompanion} {at_ : Instant}

/-- The counter of the companion is set to a later sequence number. -/
theorem advance (h : Ledger history pairings s) (hfind : s.pairedCompanions.find?
      (fun phone => phone.deviceId == request.event.deviceId) = some companion)
    (hlater : companion.lastSequence < request.event.sequence) :
    Ledger history pairings (s.updateCompanion request.event.deviceId
      (·.record request.event at_)) := by
  have hcompanion := List.mem_of_find?_eq_some hfind
  have hpairing (phone : StoredCompanion) :
      (phone.record request.event at_).pairing = phone.pairing := rfl
  constructor
  · rw [s.pairedCompanions_update, KeyedList.map_updateFirst hpairing]
    exact h.distinct
  · intro other hmem
    rw [s.pairedCompanions_update] at hmem
    obtain hold | ⟨found, hfound, rfl⟩ := KeyedList.mem_updateFirst hmem
    · exact h.made other hold
    · exact h.made found (List.mem_of_find?_eq_some hfound)
  · intro other hmem accepted_ haccepted
    rw [s.pairedCompanions_update] at hmem
    obtain hold | ⟨found, hfound, rfl⟩ := KeyedList.mem_updateFirst hmem
    · exact h.counted other hold accepted_ haccepted
    · obtain rfl := Option.some.inj (hfind.symm.trans hfound)
      exact (h.counted companion hcompanion accepted_ haccepted).trans hlater.le

/-- With its counter there, the request itself is counted. -/
theorem accept (h : Ledger history pairings s) (hfind : s.pairedCompanions.find?
      (fun phone => phone.deviceId == request.event.deviceId) = some companion)
    (hlater : companion.lastSequence < request.event.sequence) :
    Ledger (history ++ [UnlockReport.accepted companion.pairing request]) pairings
      (s.updateCompanion request.event.deviceId (·.record request.event at_)) := by
  have hadvanced : Ledger history pairings
      (s.updateCompanion request.event.deviceId (·.record request.event at_)) :=
    h.advance hfind hlater
  refine ⟨hadvanced.distinct, hadvanced.made, ?_⟩
  intro other hmem accepted_ haccepted
  rw [accepted_append] at haccepted
  obtain hold | hnew := List.mem_append.mp haccepted
  · exact hadvanced.counted other hmem accepted_ hold
  · by_cases hpairing : companion.pairing = other.pairing
    · obtain rfl : accepted_ = request := by simpa [accepted, hpairing] using hnew
      have hupdated : companion.record accepted_.event at_ ∈
          (s.updateCompanion accepted_.event.deviceId
            (·.record accepted_.event at_)).pairedCompanions := by
        rw [s.pairedCompanions_update]
        exact KeyedList.updated_mem hfind
      obtain rfl : companion.record accepted_.event at_ = other :=
        List.inj_on_of_nodup_map hadvanced.distinct hupdated hmem hpairing
      exact le_rfl
    · simp [accepted, hpairing] at hnew

end Ledger

theorem authenticateEvent_ok {hmac : String → String → String} {request : SignedRequest}
    {signature : String} {at_ : Instant} {s : StoredUnlockAutomation}
    {companion : StoredCompanion}
    (h : authenticateEvent hmac request signature at_ s = .ok companion) :
    s.pairedCompanions.find? (fun phone => phone.deviceId == request.event.deviceId) =
      some companion ∧ companion.lastSequence < request.event.sequence := by
  unfold authenticateEvent at h
  obtain ⟨-, h⟩ := seq_eq_ok.mp h
  obtain ⟨found, hfound, h⟩ := bind_eq_ok.mp h
  obtain ⟨-, h⟩ := seq_eq_ok.mp h
  obtain ⟨-, h⟩ := seq_eq_ok.mp h
  obtain ⟨hlater, h⟩ := seq_eq_ok.mp h
  rw [raiseIf_eq_ok] at hlater
  cases h
  cases hcompanion : s.companionOf request with
  | none =>
    rw [hcompanion] at hfound
    cases hfound
  | some companion' =>
    rw [hcompanion] at hfound
    cases hfound
    exact ⟨StoredUnlockAutomation.companionOf_find hcompanion, by omega⟩

/-- A request that is recorded is counted in the memory and in the file. -/
theorem authenticateAndRecordEvent_ledger {history : List UnlockReport} {pairings : List String}
    (hmac : String → String → String) (request : SignedRequest) (signature : String)
    (at_ : Instant) (outcome : SaveOutcome) :
    Effect.Triple (SavedState.Both (Ledger history pairings))
      (authenticateAndRecordEvent hmac request signature at_ outcome)
      (fun recorded => fun store =>
        SavedState.Both (Ledger (history ++ [UnlockReport.accepted recorded.pairing request]) pairings) store ∧
          pairings[recorded.pairing]? = some request.event.deviceId ∧ ∀ earlier ∈ accepted recorded.pairing history,
            earlier.event.sequence < request.event.sequence)
      (fun _ => SavedState.Both (Ledger history pairings)) := by
  apply Effect.Triple.bind (Q := fun companion store =>
    SavedState.Both (Ledger history pairings) store ∧
      store.memory.pairedCompanions.find? (fun phone => phone.deviceId == request.event.deviceId) =
        some companion ∧ companion.lastSequence < request.event.sequence)
  · apply Effect.Triple.read
    · intro store companion hstore hcheck
      exact ⟨hstore, authenticateEvent_ok hcheck⟩
    · exact fun _ _ hstore _ => hstore
  intro companion
  apply Effect.Triple.bind (Q := fun _ store =>
    (Ledger (history ++ [UnlockReport.accepted companion.pairing request]) pairings store.memory ∧
      Ledger history pairings store.file) ∧
        pairings[companion.pairing]? = some request.event.deviceId ∧
        ∀ earlier ∈ accepted companion.pairing history,
          earlier.event.sequence < request.event.sequence)
  · apply Effect.Triple.update
    rintro store ⟨hstore, hfind, hlater⟩
    have hcompanion := List.mem_of_find?_eq_some hfind
    refine ⟨⟨hstore.memory.accept hfind hlater, hstore.file⟩,
      ?_, ?_⟩
    · have hdevice : companion.deviceId = request.event.deviceId := by
        simpa using List.find?_some hfind
      rw [← hdevice]
      exact hstore.memory.made companion hcompanion
    intro earlier hearlier
    exact (hstore.memory.counted companion hcompanion earlier hearlier).trans_lt hlater
  intro _
  apply Effect.Triple.assume
  intro hlater
  apply Effect.Triple.bind (Q := fun _ store =>
    Ledger (history ++ [UnlockReport.accepted companion.pairing request]) pairings store.memory ∧
      Ledger history pairings store.file)
  · apply Effect.Triple.read
    · exact fun _ _ hstore _ => hstore
    · intro _ _ _ herror
      cases herror
  intro state
  apply Effect.Triple.bind (SavedState.triple_save fun _ hledger => hledger.of_append)
  intro _
  exact Effect.Triple.pure fun _ hstore => ⟨hstore, hlater⟩

/-- A call that accepts nothing keeps the counters. -/
structure Quiet (s : UnlockAutomation) (result : UnlockAutomation × List UnlockReport) : Prop where
  pairings : result.1.pairings = s.pairings
  reports : ∀ pairing, accepted pairing result.2 = []
  store : ∀ history pairings, SavedState.Both (Ledger history pairings) s.store →
    SavedState.Both (Ledger history pairings) result.1.store

/-- A call that leaves the companions, or some of them, as they are. -/
def KeepsLedger {α : Type} (m : UnlockM α) : Prop :=
  ∀ history pairings, Effect.Triple (SavedState.Both (Ledger history pairings)) m
    (fun _ => SavedState.Both (Ledger history pairings)) fun _ => SavedState.Both (Ledger history pairings)

theorem KeepsLedger.modify_save {f : StoredUnlockAutomation → StoredUnlockAutomation}
    (hcompanions : ∀ s, (f s).pairedCompanions.Sublist s.pairedCompanions) (outcome : SaveOutcome) :
    KeepsLedger (do SavedState.modify f; save outcome) := by
  intro history pairings
  apply Effect.Triple.bind (SavedState.triple_modify fun s hs => hs.of_sublist (hcompanions s))
  intro _
  exact SavedState.triple_saves

theorem finishEvent_ledger (result : UnlockEventResult) (at_ : Instant) (outcome : SaveOutcome) :
    KeepsLedger (finishEvent result at_ outcome) := by
  intro history pairings
  apply Effect.Triple.bind (SavedState.triple_modify fun s hs => hs.of_sublist (.refl _))
  intro _
  apply Effect.Triple.bind SavedState.triple_saves
  intro _
  exact Effect.Triple.pure fun _ hstore => hstore

theorem configure_ledger (request : UnlockAutomationConfigurationRequest)
    (knownNodeIds : List String) (outcome : SaveOutcome) :
    KeepsLedger (configure request knownNodeIds outcome) := by
  intro history pairings
  apply Effect.Triple.bind (Effect.Triple.read (fun _ _ hstore _ => hstore)
    fun _ _ hstore _ => hstore)
  intro _
  apply KeepsLedger.modify_save
  exact fun s => List.Sublist.refl s.pairedCompanions

theorem removeCompanion_ledger (outcome : SaveOutcome) :
    KeepsLedger (removeCompanion outcome) := by
  apply KeepsLedger.modify_save
  exact fun s => List.nil_sublist s.pairedCompanions

theorem commitPairing_ledger {history : List UnlockReport} {pairings : List String}
    (hunused : accepted pairings.length history = []) (config : UnlockAutomationConfig)
    (candidate : UnlockPairingCandidate) (outcome : SaveOutcome) :
    Effect.Triple (SavedState.Both (Ledger history pairings))
      (commitPairing config candidate pairings.length outcome)
      (fun _ => SavedState.Both (Ledger history (pairings ++ [candidate.deviceId])))
      (fun _ => SavedState.Both (Ledger history (pairings ++ [candidate.deviceId]))) := by
  have hmore (store : SavedState StoredUnlockAutomation)
      (hstore : SavedState.Both (Ledger history pairings) store) :
      SavedState.Both (Ledger history (pairings ++ [candidate.deviceId])) store :=
    hstore.mono fun _ hs => hs.grow candidate.deviceId
  apply Effect.Triple.bind (Effect.Triple.read (fun _ _ hstore _ => hstore)
    fun store _ hstore _ => hmore store hstore)
  intro _
  apply Effect.Triple.bind (Effect.Triple.read (fun _ _ hstore _ => hstore)
    fun store _ hstore _ => hmore store hstore)
  intro _
  apply Effect.Triple.bind
    (Q := fun _ => SavedState.Both (Ledger history (pairings ++ [candidate.deviceId])))
  · apply Effect.Triple.update
    intro store hstore
    have hadded : Ledger history
        (pairings ++ [(candidate.companion pairings.length).deviceId])
        (store.memory.addCompanion (candidate.companion pairings.length)) :=
      hstore.memory.add hunused rfl
    exact ⟨hadded, (hmore store hstore).file⟩
  · intro _
    exact SavedState.triple_saves

namespace Quiet
variable {s : UnlockAutomation}

theorem report {out : List UnlockReport} (hout : ∀ pairing, accepted pairing out = []) :
    Quiet s (s, out) := ⟨rfl, hout, fun _ _ hstore => hstore⟩

theorem run (request : SignedRequest) (selectedNodeIds : List String) (now : Instant) :
    Quiet s (s.run request selectedNodeIds now) := ⟨rfl, fun _ => rfl, fun _ _ hstore => hstore⟩

theorem call {α : Type} {m : UnlockM α} {report : α → List UnlockReport}
    (hm : KeepsLedger m) (hreport : ∀ a pairing, accepted pairing (report a) = []) :
    Quiet s (s.call m report) := by
  have hstore (history : List UnlockReport) (pairings : List String)
      (hledger : SavedState.Both (Ledger history pairings) s.store) := hm history pairings s.store hledger
  unfold UnlockAutomation.call
  cases hrun : m s.store with
  | ok a store =>
    simp only [hrun] at hstore ⊢
    exact ⟨rfl, hreport a, hstore⟩
  | error e store =>
    simp only [hrun] at hstore ⊢
    exact ⟨rfl, fun _ => rfl, hstore⟩

theorem accept (config : UnlockAutomationConfig) (request : SignedRequest)
    (recorded : RecordedEvent) (now : Instant) (outcome : SaveOutcome) :
    Quiet s (s.accept config request recorded now outcome) := by
  cases request with
  | unlock event =>
    simp only [UnlockAutomation.accept, UnlockAutomation.acceptEvent]
    split
    · exact .call (finishEvent_ledger _ _ _) fun _ _ => rfl
    · split
      · exact .call (finishEvent_ledger _ _ _) fun _ _ => rfl
      · have hstore (history : List UnlockReport) (pairings : List String)
            (hledger : SavedState.Both (Ledger history pairings) s.store) :=
          KeepsLedger.modify_save (f := fun state => { state with lastAcceptedAt := some now })
            (fun state => List.Sublist.refl state.pairedCompanions) outcome history pairings s.store
            hledger
        split
        · rename_i e store hrun
          simp only [hrun] at hstore
          exact ⟨rfl, fun _ => rfl, hstore⟩
        · rename_i store hrun
          simp only [hrun] at hstore
          exact ⟨rfl, fun _ => rfl, hstore⟩
  | toggle event =>
    simp only [UnlockAutomation.accept, UnlockAutomation.acceptToggle]
    split
    · exact .report fun _ => rfl
    · exact .run _ _ _
  | remoteState event => exact .report fun _ => rfl
  | remotePower event =>
    simp only [UnlockAutomation.accept, UnlockAutomation.acceptRemotePower]
    split
    · split
      · exact .report fun _ => rfl
      · exact .run _ _ _
    · split
      · exact .report fun _ => rfl
      · exact .run _ _ _

theorem finish (config : UnlockAutomationConfig) (event : RunningEvent)
    (power : Option UnlockPowerResult) (outcome : SaveOutcome) :
    Quiet s (s.finish config event power outcome) := by
  unfold UnlockAutomation.finish
  split
  · exact .call (finishEvent_ledger _ _ _) fun _ _ => rfl
  · exact .call (finishEvent_ledger _ _ _) fun _ _ => rfl
  all_goals exact .report fun _ => rfl

end Quiet

theorem UnlockAutomation.receive_of_step {config : UnlockAutomationConfig}
    {hmac : String → String → String} {s s' : UnlockAutomation} {out : List UnlockReport}
    {request : SignedRequest} {signature : String} {now : Instant} {outcomes : ℕ → SaveOutcome}
    (h : s.step config hmac (.receive request signature now outcomes) = some (s', out)) :
    s.receive config hmac request signature now outcomes = (s', out) := by
  simp only [step] at h
  split at h
  · exact Option.some.inj h
  · exact Option.some.inj h
  · cases h

structure Recorded (history : List UnlockReport) (s : UnlockAutomation) : Prop where
  store : SavedState.Both (Ledger history s.pairings) s.store
  devices : ∀ pairing, ∀ request ∈ accepted pairing history,
    s.pairings[pairing]? = some request.event.deviceId
  increasing : ∀ pairing, ((accepted pairing history).map (·.event.sequence)).Pairwise (· < ·)

namespace Recorded
variable {history out : List UnlockReport} {s s' : UnlockAutomation}

/-- Nothing is accepted of a pairing that is not made yet. -/
theorem unused (h : Recorded history s) : accepted s.pairings.length history = [] := by
  rw [List.eq_nil_iff_forall_not_mem]
  intro request hrequest
  have hdevice := h.devices s.pairings.length request hrequest
  rw [List.getElem?_eq_none le_rfl] at hdevice
  cases hdevice

theorem quiet {result : UnlockAutomation × List UnlockReport} (h : Recorded history s)
    (hquiet : Quiet s result) (hresult : result = (s', out)) : Recorded (history ++ out) s' := by
  obtain rfl : result.1 = s' := congrArg Prod.fst hresult
  obtain rfl : result.2 = out := congrArg Prod.snd hresult
  have hsame (pairing : ℕ) : accepted pairing (history ++ result.2) = accepted pairing history := by
    rw [accepted_append, hquiet.reports, List.append_nil]
  constructor
  · rw [hquiet.pairings]
    exact (hquiet.store _ _ h.store).mono fun _ hledger => hledger.of_accepted hsame
  · intro pairing request hrequest
    rw [hsame] at hrequest
    rw [hquiet.pairings]
    exact h.devices pairing request hrequest
  · intro pairing
    rw [hsame]
    exact h.increasing pairing

/-- A request of a pairing that is later than all before it. -/
theorem accepting {pairing : ℕ} {request : SignedRequest}
    {store : SavedState StoredUnlockAutomation} (h : Recorded history s)
    (hstore : SavedState.Both (Ledger (history ++ [UnlockReport.accepted pairing request]) s.pairings) store)
    (hdevice : s.pairings[pairing]? = some request.event.deviceId)
    (hlater : ∀ earlier ∈ accepted pairing history,
      earlier.event.sequence < request.event.sequence) :
    Recorded (history ++ [UnlockReport.accepted pairing request]) { s with store := store } := by
  have hother {other : ℕ} (hne : pairing ≠ other) :
      accepted other (history ++ [UnlockReport.accepted pairing request]) = accepted other history := by
    rw [accepted_append]
    simp [accepted, hne]
  have hsame : accepted pairing (history ++ [UnlockReport.accepted pairing request]) =
      accepted pairing history ++ [request] := by
    rw [accepted_append]
    simp [accepted]
  refine ⟨hstore, ?_, ?_⟩
  · intro other accepted_ haccepted
    by_cases hpairing : pairing = other
    · subst hpairing
      rw [hsame] at haccepted
      obtain hold | hnew := List.mem_append.mp haccepted
      · exact h.devices pairing accepted_ hold
      · obtain rfl := List.mem_singleton.mp hnew
        exact hdevice
    · rw [hother hpairing] at haccepted
      exact h.devices other accepted_ haccepted
  · intro other
    by_cases hpairing : pairing = other
    · subst hpairing
      rw [hsame, List.map_append, List.pairwise_append]
      refine ⟨h.increasing pairing, List.pairwise_singleton _ _, ?_⟩
      intro earlier hearlier sequence hsequence
      obtain ⟨old, hold, rfl⟩ := List.mem_map.mp hearlier
      obtain rfl := List.mem_singleton.mp hsequence
      exact hlater old hold
    · rw [hother hpairing]
      exact h.increasing other

theorem receive {config : UnlockAutomationConfig} {hmac : String → String → String}
    (h : Recorded history s) {request : SignedRequest} {signature : String} {now : Instant}
    {outcomes : ℕ → SaveOutcome}
    (hresult : s.receive config hmac request signature now outcomes = (s', out)) :
    Recorded (history ++ out) s' := by
  have hspec (history : List UnlockReport) (pairings : List String) :
      Effect.Triple (SavedState.Both (Ledger history pairings)) _ _ _ :=
    authenticateAndRecordEvent_ledger hmac request signature now (outcomes 0)
  have htriple (history : List UnlockReport) (pairings : List String) :=
    hspec history pairings s.store
  unfold UnlockAutomation.receive at hresult
  cases hrun : authenticateAndRecordEvent hmac request signature now (outcomes 0) s.store with
  | error e store =>
    simp only [hrun] at htriple hresult
    exact h.quiet ⟨rfl, fun _ => rfl, htriple⟩ hresult
  | ok recorded store =>
    simp only [hrun] at htriple hresult
    obtain ⟨hstore, hdevice, hlater⟩ := htriple history s.pairings h.store
    have haccepted := h.accepting hstore hdevice hlater
    have hquiet := haccepted.quiet (Quiet.accept config request recorded now (outcomes 1)) rfl
    cases hresult
    rw [List.append_assoc] at hquiet
    exact hquiet

theorem commitPairing {config : UnlockAutomationConfig} (h : Recorded history s)
    {candidate : UnlockPairingCandidate} {outcome : SaveOutcome}
    (hresult : UnlockAutomation.call { s with pairings := s.pairings ++ [candidate.deviceId] }
      (Plugs.commitPairing config candidate s.pairings.length outcome) (fun _ => []) = (s', out)) :
    Recorded (history ++ out) s' := by
  have hstore := commitPairing_ledger h.unused config candidate outcome s.store h.store
  have hmade (store : SavedState StoredUnlockAutomation) {out : List UnlockReport}
      (hstore : SavedState.Both (Ledger history (s.pairings ++ [candidate.deviceId])) store)
      (hout : ∀ pairing, accepted pairing out = []) : Recorded (history ++ out)
        { s with store := store, pairings := s.pairings ++ [candidate.deviceId] } := by
    have hcounted : Recorded history
        { s with store := store, pairings := s.pairings ++ [candidate.deviceId] } := by
      refine ⟨hstore, ?_, h.increasing⟩
      intro pairing request hrequest
      have hdevice := h.devices pairing request hrequest
      rw [List.getElem?_append_left (List.getElem?_eq_some_iff.mp hdevice).1]
      exact hdevice
    exact hcounted.quiet (.report hout) rfl
  unfold UnlockAutomation.call at hresult
  cases hrun : Plugs.commitPairing config candidate s.pairings.length outcome s.store with
  | error e store =>
    simp only [hrun] at hstore hresult
    cases hresult
    exact hmade store hstore fun _ => rfl
  | ok _ store =>
    simp only [hrun] at hstore hresult
    cases hresult
    exact hmade store hstore fun _ => rfl

theorem step {config : UnlockAutomationConfig} {hmac : String → String → String}
    {e : UnlockEvent} (h : Recorded history s) (hs : s.step config hmac e = some (s', out)) :
    Recorded (history ++ out) s' := by
  cases e with
  | receive request signature now outcomes =>
    exact h.receive (UnlockAutomation.receive_of_step hs)
  | commandRan power outcome =>
    obtain ⟨event, -, hfinish⟩ := Option.map_eq_some_iff.mp hs
    have hidle : Recorded history { s with running := none } := ⟨h.store, h.devices, h.increasing⟩
    exact hidle.quiet (Quiet.finish config event power outcome) hfinish
  | cancelled =>
    obtain ⟨event, -, hcancelled⟩ := Option.map_eq_some_iff.mp hs
    exact h.quiet ⟨rfl, fun _ => rfl, fun _ _ hstore => hstore⟩ hcancelled
  | configure request knownNodeIds outcome =>
    exact h.quiet (.call (configure_ledger request knownNodeIds outcome) fun _ _ => rfl)
      (Option.some.inj hs)
  | commitPairing candidate outcome => exact h.commitPairing (Option.some.inj hs)
  | removeCompanion outcome =>
    exact h.quiet (.call (removeCompanion_ledger outcome) fun _ _ => rfl) (Option.some.inj hs)
  | restart =>
    exact h.quiet ⟨rfl, fun _ => rfl, fun _ _ hstore => hstore.load⟩ (Option.some.inj hs)

end Recorded

theorem Recorded.initial : Recorded [] { store := .load {} } := by
  have hledger : Ledger [] [] {} :=
    ⟨List.nodup_nil, fun _ hmem => (by cases hmem), fun _ hmem => (by cases hmem)⟩
  exact ⟨⟨hledger, hledger⟩, fun _ _ hrequest => (by cases hrequest), fun _ => List.Pairwise.nil⟩

/-- Over every run the sequence numbers that are accepted of a pairing increase strictly, so each
of its requests is accepted once at most. -/
theorem accepted_once {config : UnlockAutomationConfig} {hmac : String → String → String}
    {s : UnlockAutomation} {trace : List (UnlockEvent × List UnlockReport)}
    (h : (unlockAutomation config hmac).Run trace s) (pairing : ℕ) :
    ((accepted pairing (Machine.outputs trace)).map (·.event.sequence)).Pairwise (· < ·) ∧
      (accepted pairing (Machine.outputs trace)).Nodup := by
  have hrecorded : Recorded (Machine.outputs trace) s := by
    refine h.induct (P := fun trace s => Recorded (Machine.outputs trace) s) ?_ ?_
    · rintro s rfl
      exact Recorded.initial
    · intro trace s e s' out _ ih hstep
      rw [Machine.outputs_append, Machine.outputs_singleton]
      exact ih.step hstep
  have hincreasing := hrecorded.increasing pairing
  exact ⟨hincreasing, .of_map _ (hincreasing.imp Nat.ne_of_lt)⟩

namespace Desktop

def secret : String := "AAAAAAAAAAAAAAAAAAAAAAAAAAAAAAAAAAAAAAAAAAA"

/-- The desktop switches the saved plugs on. -/
def powerOn (sequence : Fin 100) : RemotePlugPowerRequest where
  deviceId := "desktop-0123456789abcdef"
  eventId := ⟨⟨sequence + 1, by omega⟩⟩
  sequence := sequence + 1
  occurredAtEpochMs := 1767225600000
  device_ok := by decide +kernel
  sequence_ok := ⟨by omega, by unfold maxInt64; omega⟩
  occurred_ok := by decide
  on := true
  selectedNodeIds := none

example : signedRemotePowerPayload (powerOn 0) = "cit-control-tower-remote-power-v1\n" ++
    "desktop-0123456789abcdef\n00000000-0000-0000-0000-000000000001\n1\n1767225600000\n1" := by
  decide

instance neZero : NeZero 100 := ⟨by decide⟩

/-- The digests of the first two requests. -/
def digest (sequence : Fin 100) : String :=
  if sequence = 0 then "3191d6b39bd174aa7935aaf69263fe2f557d6e5c0311a2570cd50377006a941f"
  else if sequence = 1 then "4d951e23ead7cb84859727913f22ff04fc0f7629714fc93c4b63aeee43323891"
  else ""

def knownHmac (key payload : String) : String :=
  if key = secret ∧ payload = signedRemotePowerPayload (powerOn 0) then digest 0
  else if key = secret ∧ payload = signedRemotePowerPayload (powerOn 1) then digest 1
  else ""

def config : UnlockAutomationConfig := ⟨some "https://tower.tail0.ts.net", "local-site", "Tower"⟩

def candidate : UnlockPairingCandidate :=
  ⟨"desktop-0123456789abcdef", "Desktop", seconds 1767225000, secret⟩

def send (sequence : Fin 100) (outcome : SaveOutcome) : UnlockEvent :=
  .receive (.remotePower (powerOn sequence)) (digest sequence) (seconds 1767225601) fun _ => outcome

end Desktop

/-- A request is sent again before and after a restart, another after its save has failed. -/
theorem accepted_once_desktop : ∃ trace s,
    (unlockAutomation Desktop.config Desktop.knownHmac).Run trace s ∧
    accepted 0 (Machine.outputs trace) =
      [.remotePower (Desktop.powerOn 0), .remotePower (Desktop.powerOn 1)] ∧
    ((accepted 0 (Machine.outputs trace)).map (·.event.sequence)).Pairwise (· < ·) ∧
    (accepted 0 (Machine.outputs trace)).Nodup := by
  have hexec : ((Machine.execute
      (UnlockAutomation.step Desktop.config Desktop.knownHmac) (fun _ _ => True)
      { store := .load {} }
      [.commitPairing Desktop.candidate .saved, Desktop.send 0 .saved, Desktop.send 0 .saved,
        .restart, Desktop.send 0 .saved, Desktop.send 1 (.failed false), .restart,
        Desktop.send 1 .saved]).any fun last =>
      decide (accepted 0 (Machine.outputs last.2) =
        [.remotePower (Desktop.powerOn 0), .remotePower (Desktop.powerOn 1)])) = true := by
    decide +kernel
  obtain ⟨last, hlast, hend⟩ := (Option.any_eq_true ..).mp hexec
  have hrun := (Machine.run_of_execute
    (M := unlockAutomation Desktop.config Desktop.knownHmac) rfl id hlast).of_restrict
  exact ⟨_, _, hrun, of_decide_eq_true hend, accepted_once hrun 0⟩

end CitPhysicalXR.Plugs
