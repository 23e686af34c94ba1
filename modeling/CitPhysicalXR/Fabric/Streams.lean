import CitPhysicalXR.Fabric.Repository
import CitPhysicalXR.Foundation.Execution
import CitPhysicalXR.Foundation.Stream

/-! The event stream and the lifecycle stream: pages of them, and the readers that follow them
while records are appended. -/
namespace CitPhysicalXR.Fabric
open Foundation

namespace Repository
variable (repo : Repository)

/-- The rows of `fabric_events`; `AUTOINCREMENT` counts them from one. -/
def storedEvents : List StoredFabricEvent := repo.events.mapIdx fun i event => ⟨i + 1, event⟩

def storedLifecycle : List StoredFabricLifecycle :=
  repo.lifecycle.mapIdx fun i lifecycle => ⟨i + 1, lifecycle⟩

def checkLimit (limit : ℤ) : Except FabricError Unit :=
  raiseIf (¬ (1 ≤ limit ∧ limit ≤ fabricPageLimit))
    (.value s!"limit must be between 1 and {fabricPageLimit}")

/-- `session_id = ?`, when a session is given. -/
def ofSession (sessionId : Option String) (row : StoredFabricEvent) : Bool :=
  sessionId.all fun text => row.event.sessionId.text = text

def ofCommand (commandId : Option String) (row : StoredFabricLifecycle) : Bool :=
  commandId.all fun text => row.lifecycle.commandId.text = text

def listFabricEvents (sessionId : Option String) (afterStreamSequence limit : ℤ)
    (latest : Bool) : Except FabricError (List StoredFabricEvent) := do
  checkLimit limit
  let rows := repo.storedEvents.filter fun row =>
    afterStreamSequence < row.streamSequence && ofSession sessionId row
  let ordered := orderedBy (fun row : StoredFabricEvent => (row.streamSequence : ℤ)) rows
  return if latest then (ordered.reverse.take limit.toNat).reverse else ordered.take limit.toNat

/-- `list_fabric_lifecycle` with all its arguments. -/
def listStoredLifecycle (commandId : Option String) (afterStreamSequence limit : ℤ) :
    Except FabricError (List StoredFabricLifecycle) := do
  checkLimit limit
  let rows := repo.storedLifecycle.filter fun row =>
    afterStreamSequence < row.streamSequence && ofCommand commandId row
  let ordered := orderedBy (fun row : StoredFabricLifecycle => (row.streamSequence : ℤ)) rows
  return ordered.take limit.toNat

end Repository

def StoredFabricEvent.number (row : StoredFabricEvent) : ℤ := row.streamSequence

def StoredFabricLifecycle.number (row : StoredFabricLifecycle) : ℤ := row.streamSequence

structure Streams where
  repo : Repository
  events : Stream.Reader StoredFabricEvent
  lifecycle : Stream.Reader StoredFabricLifecycle

/-- Appends, and requests for a page of which the reader receives the first `seen` records. -/
inductive StreamCall where
  | appendEvent (event : FabricEventEnvelope)
  | claimCommand (command : FabricResolvedCommand)
  | appendLifecycle (lifecycle : FabricCommandLifecycleEvent)
  | listEvents (limit : ℤ) (seen : ℕ)
  | listLifecycle (limit : ℤ) (seen : ℕ)

namespace Streams
variable (sessionId commandId : Option String) (s : Streams)

def withRepo {α : Type} (result : Except FabricError (Repository × α)) : Streams :=
  match result with
  | .ok (repo, _) => { s with repo }
  | .error _ => s

def step : StreamCall → Streams
  | .appendEvent event => s.withRepo (s.repo.appendFabricEvent event)
  | .claimCommand command => s.withRepo (s.repo.claimFabricCommand command)
  | .appendLifecycle lifecycle => s.withRepo (s.repo.appendFabricLifecycle lifecycle)
  | .listEvents limit seen =>
    match s.repo.listFabricEvents sessionId s.events.cursor limit false with
    | .ok rows => { s with events := s.events.receive StoredFabricEvent.number (rows.take seen) }
    | .error _ => s
  | .listLifecycle limit seen =>
    match s.repo.listStoredLifecycle commandId s.lifecycle.cursor limit with
    | .ok rows =>
      { s with lifecycle := s.lifecycle.receive StoredFabricLifecycle.number (rows.take seen) }
    | .error _ => s

end Streams

/-- An empty repository, and readers that begin behind a number each. -/
def fabricStreams (sessionId commandId : Option String) (eventStart lifecycleStart : ℤ) :
    Machine Streams StreamCall Empty where
  Initial s := s = ⟨.empty, ⟨eventStart, []⟩, ⟨lifecycleStart, []⟩⟩
  Step s call s' _ := s' = s.step sessionId commandId call

section Numbers
variable {α β : Type*}

theorem mapIdx_ascending (make : ℕ → α → β) (number : β → ℤ)
    (hnumber : ∀ i a, number (make i a) = i + 1) (items : List α) :
    Stream.Ascending number (items.mapIdx make) := by
  rw [Stream.Ascending, List.pairwise_iff_getElem]
  intro i j hi hj hij
  rw [List.getElem_mapIdx, List.getElem_mapIdx, hnumber, hnumber]
  omega

end Numbers

namespace Repository
variable {repo repo' : Repository}

theorem storedEvents_ascending (repo : Repository) :
    Stream.Ascending StoredFabricEvent.number repo.storedEvents :=
  mapIdx_ascending _ _ (fun i _ => by simp [StoredFabricEvent.number]) repo.events

theorem storedLifecycle_ascending (repo : Repository) :
    Stream.Ascending StoredFabricLifecycle.number repo.storedLifecycle :=
  mapIdx_ascending _ _ (fun i _ => by simp [StoredFabricLifecycle.number]) repo.lifecycle

theorem checkLimit_ok {limit : ℤ} : checkLimit limit = .ok () ↔ 1 ≤ limit ∧ limit ≤ fabricPageLimit := by
  rw [checkLimit, raiseIf_eq_ok, not_not]

theorem listFabricEvents_page {sessionId : Option String} {after limit : ℤ}
    {rows : List StoredFabricEvent}
    (h : repo.listFabricEvents sessionId after limit false = .ok rows) :
    rows = Stream.page StoredFabricEvent.number (ofSession sessionId) after limit.toNat
      repo.storedEvents := by
  obtain ⟨_, h⟩ := seq_eq_ok.mp h
  exact (Except.ok.inj h).symm

theorem listFabricEvents_latest {sessionId : Option String} {after limit : ℤ}
    {rows : List StoredFabricEvent}
    (h : repo.listFabricEvents sessionId after limit true = .ok rows) :
    rows = Stream.latestPage StoredFabricEvent.number (ofSession sessionId) after limit.toNat
      repo.storedEvents := by
  obtain ⟨_, h⟩ := seq_eq_ok.mp h
  exact (Except.ok.inj h).symm

theorem listStoredLifecycle_page {commandId : Option String} {after limit : ℤ}
    {rows : List StoredFabricLifecycle}
    (h : repo.listStoredLifecycle commandId after limit = .ok rows) :
    rows = Stream.page StoredFabricLifecycle.number (ofCommand commandId) after limit.toNat
      repo.storedLifecycle := by
  obtain ⟨_, h⟩ := seq_eq_ok.mp h
  exact (Except.ok.inj h).symm

theorem appendFabricEvent_stream {event : FabricEventEnvelope} {stored : Option StoredFabricEvent}
    (h : repo.appendFabricEvent event = .ok (repo', stored)) :
    (∃ more, repo'.storedEvents = repo.storedEvents ++ more) ∧
      repo'.storedLifecycle = repo.storedLifecycle := by
  obtain ⟨_, rfl, _⟩ | ⟨_, rfl, _⟩ := appendFabricEvent_ok h
  · exact ⟨⟨[], (List.append_nil _).symm⟩, rfl⟩
  · exact ⟨⟨_, List.mapIdx_append⟩, rfl⟩

theorem appendFabricLifecycle_stream {lifecycle : FabricCommandLifecycleEvent}
    {stored : Option StoredFabricLifecycle}
    (h : repo.appendFabricLifecycle lifecycle = .ok (repo', stored)) :
    (∃ more, repo'.storedLifecycle = repo.storedLifecycle ++ more) ∧
      repo'.storedEvents = repo.storedEvents := by
  obtain ⟨_, rfl, _⟩ | ⟨_, rfl, _⟩ := appendFabricLifecycle_ok h
  · exact ⟨⟨[], (List.append_nil _).symm⟩, rfl⟩
  · exact ⟨⟨_, List.mapIdx_append⟩, rfl⟩

theorem claimFabricCommand_stream {command claimed : FabricResolvedCommand} {isNew : Bool}
    (h : repo.claimFabricCommand command = .ok (repo', claimed, isNew)) :
    repo'.storedEvents = repo.storedEvents ∧ repo'.storedLifecycle = repo.storedLifecycle := by
  obtain ⟨_, rfl, _⟩ | ⟨_, _, rfl, _⟩ := claimFabricCommand_ok h
  · exact ⟨rfl, rfl⟩
  · exact ⟨rfl, rfl⟩

end Repository

namespace Streams
variable {sessionId commandId : Option String} {eventStart lifecycleStart : ℤ}

def eventView (s : Streams) : List StoredFabricEvent × Stream.Reader StoredFabricEvent :=
  (s.repo.storedEvents, s.events)

def lifecycleView (s : Streams) :
    List StoredFabricLifecycle × Stream.Reader StoredFabricLifecycle :=
  (s.repo.storedLifecycle, s.lifecycle)

/-- A valid request for events of which something arrives. -/
def showsEvents : StreamCall → Bool
  | .listEvents limit seen => 1 ≤ limit && limit ≤ Repository.fabricPageLimit && 0 < seen
  | _ => false

def showsLifecycle : StreamCall → Bool
  | .listLifecycle limit seen => 1 ≤ limit && limit ≤ Repository.fabricPageLimit && 0 < seen
  | _ => false

def matchingEvents (sessionId : Option String) (start : ℤ) (repo : Repository) :
    List StoredFabricEvent :=
  Stream.selected StoredFabricEvent.number (Repository.ofSession sessionId) start
    repo.storedEvents

def matchingLifecycle (commandId : Option String) (start : ℤ) (repo : Repository) :
    List StoredFabricLifecycle :=
  Stream.selected StoredFabricLifecycle.number (Repository.ofCommand commandId) start
    repo.storedLifecycle

theorem withRepo_readers {α : Type} (s : Streams) (result : Except FabricError (Repository × α)) :
    (s.withRepo result).events = s.events ∧ (s.withRepo result).lifecycle = s.lifecycle := by
  cases result <;> exact ⟨rfl, rfl⟩

/-- What a write leaves of the streams: both as they were, with records behind them. -/
structure Grown (repo repo' : Repository) : Prop where
  events : ∃ more, repo'.storedEvents = repo.storedEvents ++ more
  lifecycle : ∃ more, repo'.storedLifecycle = repo.storedLifecycle ++ more

theorem Grown.same {repo repo' : Repository} (hevents : repo'.storedEvents = repo.storedEvents)
    (hlifecycle : repo'.storedLifecycle = repo.storedLifecycle) : Grown repo repo' :=
  ⟨⟨[], by rw [hevents, List.append_nil]⟩, ⟨[], by rw [hlifecycle, List.append_nil]⟩⟩

theorem withRepo_grown {α : Type} (s : Streams) {result : Except FabricError (Repository × α)}
    (h : ∀ repo a, result = .ok (repo, a) → Grown s.repo repo) :
    Grown s.repo (s.withRepo result).repo := by
  cases result with
  | error e => exact .same rfl rfl
  | ok found => exact h found.1 found.2 rfl

variable (sessionId commandId eventStart lifecycleStart)

theorem step_grown (s : Streams) (call : StreamCall) :
    Grown s.repo (s.step sessionId commandId call).repo := by
  cases call with
  | appendEvent event =>
    apply withRepo_grown
    intro repo stored hresult
    obtain ⟨hevents, hlifecycle⟩ := Repository.appendFabricEvent_stream hresult
    exact ⟨hevents, [], by rw [hlifecycle, List.append_nil]⟩
  | claimCommand command =>
    apply withRepo_grown
    intro repo claimed hresult
    obtain ⟨hevents, hlifecycle⟩ := Repository.claimFabricCommand_stream hresult
    exact .same hevents hlifecycle
  | appendLifecycle lifecycle =>
    apply withRepo_grown
    intro repo stored hresult
    obtain ⟨hlifecycle, hevents⟩ := Repository.appendFabricLifecycle_stream hresult
    exact ⟨⟨[], by rw [hevents, List.append_nil]⟩, hlifecycle⟩
  | listEvents limit seen =>
    unfold Streams.step
    dsimp only
    split <;> exact .same rfl rfl
  | listLifecycle limit seen =>
    unfold Streams.step
    dsimp only
    split <;> exact .same rfl rfl

theorem grown_eventView {s s' : Streams} (hgrown : Grown s.repo s'.repo)
    (hreader : s'.events = s.events) : ∃ event,
    (Stream.readers StoredFabricEvent.number (Repository.ofSession sessionId) eventStart).Step
      s.eventView event s'.eventView [] := by
  obtain ⟨more, hmore⟩ := hgrown.events
  refine ⟨.append more, ?_, Prod.ext hmore hreader⟩
  change Stream.Ascending _ (s.repo.storedEvents ++ more)
  rw [← hmore]
  exact s'.repo.storedEvents_ascending

theorem grown_lifecycleView {s s' : Streams} (hgrown : Grown s.repo s'.repo)
    (hreader : s'.lifecycle = s.lifecycle) : ∃ event,
    (Stream.readers StoredFabricLifecycle.number (Repository.ofCommand commandId)
      lifecycleStart).Step s.lifecycleView event s'.lifecycleView [] := by
  obtain ⟨more, hmore⟩ := hgrown.lifecycle
  refine ⟨.append more, ?_, Prod.ext hmore hreader⟩
  change Stream.Ascending _ (s.repo.storedLifecycle ++ more)
  rw [← hmore]
  exact s'.repo.storedLifecycle_ascending

theorem step_eventView (s : Streams) (call : StreamCall) : ∃ event,
    (Stream.readers StoredFabricEvent.number (Repository.ofSession sessionId) eventStart).Step
      s.eventView event (s.step sessionId commandId call).eventView [] ∧
    (showsEvents call = true → event.shows = true) := by
  have hgrown := step_grown sessionId commandId s call
  have hquiet : (s.step sessionId commandId call).events = s.events → showsEvents call = false →
      ∃ event, (Stream.readers StoredFabricEvent.number (Repository.ofSession sessionId)
        eventStart).Step s.eventView event (s.step sessionId commandId call).eventView [] ∧
          (showsEvents call = true → event.shows = true) := by
    intro hreader hnot
    obtain ⟨event, hstep⟩ := grown_eventView sessionId eventStart hgrown hreader
    exact ⟨event, hstep, fun hshows => by rw [hnot] at hshows; cases hshows⟩
  cases call with
  | appendEvent => exact hquiet (withRepo_readers s _).1 rfl
  | claimCommand => exact hquiet (withRepo_readers s _).1 rfl
  | appendLifecycle => exact hquiet (withRepo_readers s _).1 rfl
  | listEvents limit seen =>
    cases hrows : s.repo.listFabricEvents sessionId s.events.cursor limit false with
    | ok rows =>
      refine ⟨.read limit.toNat seen, ?_, ?_⟩
      · simp only [Streams.step, hrows, Repository.listFabricEvents_page hrows]
        rfl
      · intro hshows
        simp only [showsEvents, Bool.and_eq_true, decide_eq_true_eq] at hshows
        simp only [Stream.Event.shows, decide_eq_true_eq]
        omega
    | error e =>
      refine hquiet (by simp only [Streams.step, hrows]) ?_
      by_contra hshows
      simp only [showsEvents, Bool.not_eq_false, Bool.and_eq_true, decide_eq_true_eq] at hshows
      rw [Repository.listFabricEvents, Repository.checkLimit_ok.mpr hshows.1] at hrows
      cases hrows
  | listLifecycle limit seen =>
    refine hquiet ?_ rfl
    simp only [Streams.step]
    split <;> rfl

theorem step_lifecycleView (s : Streams) (call : StreamCall) : ∃ event,
    (Stream.readers StoredFabricLifecycle.number (Repository.ofCommand commandId)
      lifecycleStart).Step s.lifecycleView event
        (s.step sessionId commandId call).lifecycleView [] ∧
    (showsLifecycle call = true → event.shows = true) := by
  have hgrown := step_grown sessionId commandId s call
  have hquiet : (s.step sessionId commandId call).lifecycle = s.lifecycle →
      showsLifecycle call = false → ∃ event,
        (Stream.readers StoredFabricLifecycle.number (Repository.ofCommand commandId)
          lifecycleStart).Step s.lifecycleView event
            (s.step sessionId commandId call).lifecycleView [] ∧
          (showsLifecycle call = true → event.shows = true) := by
    intro hreader hnot
    obtain ⟨event, hstep⟩ := grown_lifecycleView commandId lifecycleStart hgrown hreader
    exact ⟨event, hstep, fun hshows => by rw [hnot] at hshows; cases hshows⟩
  cases call with
  | appendEvent => exact hquiet (withRepo_readers s _).2 rfl
  | claimCommand => exact hquiet (withRepo_readers s _).2 rfl
  | appendLifecycle => exact hquiet (withRepo_readers s _).2 rfl
  | listEvents limit seen =>
    refine hquiet ?_ rfl
    simp only [Streams.step]
    split <;> rfl
  | listLifecycle limit seen =>
    cases hrows : s.repo.listStoredLifecycle commandId s.lifecycle.cursor limit with
    | ok rows =>
      refine ⟨.read limit.toNat seen, ?_, ?_⟩
      · simp only [Streams.step, hrows, Repository.listStoredLifecycle_page hrows]
        rfl
      · intro hshows
        simp only [showsLifecycle, Bool.and_eq_true, decide_eq_true_eq] at hshows
        simp only [Stream.Event.shows, decide_eq_true_eq]
        omega
    | error e =>
      refine hquiet (by simp only [Streams.step, hrows]) ?_
      by_contra hshows
      simp only [showsLifecycle, Bool.not_eq_false, Bool.and_eq_true, decide_eq_true_eq] at hshows
      rw [Repository.listStoredLifecycle, Repository.checkLimit_ok.mpr hshows.1] at hrows
      cases hrows

variable {sessionId commandId eventStart lifecycleStart}

theorem run_views {trace : List (StreamCall × List Empty)} {s : Streams}
    (hrun : (fabricStreams sessionId commandId eventStart lifecycleStart).Run trace s) :
    Stream.Follows StoredFabricEvent.number (Repository.ofSession sessionId) eventStart
        s.repo.storedEvents s.events ∧
      Stream.Follows StoredFabricLifecycle.number (Repository.ofCommand commandId) lifecycleStart
        s.repo.storedLifecycle s.lifecycle := by
  refine hrun.reachable.invariant (P := fun s => Stream.Follows StoredFabricEvent.number
    (Repository.ofSession sessionId) eventStart s.repo.storedEvents s.events ∧
      Stream.Follows StoredFabricLifecycle.number (Repository.ofCommand commandId) lifecycleStart
        s.repo.storedLifecycle s.lifecycle) ?_ ?_
  · intro s hinit
    cases hinit
    exact ⟨Stream.follows_start eventStart, Stream.follows_start lifecycleStart⟩
  · intro s call s' out h hstep
    obtain rfl := hstep
    obtain ⟨_, hevents, _⟩ := step_eventView sessionId commandId eventStart s call
    obtain ⟨_, hlifecycle, _⟩ := step_lifecycleView sessionId commandId lifecycleStart s call
    exact ⟨h.1.step hevents, h.2.step hlifecycle⟩

end Streams

open Streams in
/-- In every run each reader has received the first part of the records that match its filter,
each once and in stream order; the more it reads the more it has, until every record is there.
The latest page holds the last matching events. -/
theorem streams_lossless {sessionId commandId : Option String} {eventStart lifecycleStart : ℤ}
    {trace : List (StreamCall × List Empty)} {s : Streams}
    (hrun : (fabricStreams sessionId commandId eventStart lifecycleStart).Run trace s) :
    (s.events.received <+: matchingEvents sessionId eventStart s.repo ∧
      s.lifecycle.received <+: matchingLifecycle commandId lifecycleStart s.repo) ∧
    (∀ more s', (fabricStreams sessionId commandId eventStart lifecycleStart).Steps s more s' →
      ((matchingEvents sessionId eventStart s.repo).length ≤
          (more.countP fun entry => showsEvents entry.1) →
        matchingEvents sessionId eventStart s.repo <+: s'.events.received) ∧
      ((matchingLifecycle commandId lifecycleStart s.repo).length ≤
          (more.countP fun entry => showsLifecycle entry.1) →
        matchingLifecycle commandId lifecycleStart s.repo <+: s'.lifecycle.received)) ∧
    ∀ after limit rows, s.repo.listFabricEvents sessionId after limit true = .ok rows →
      rows = (matchingEvents sessionId after s.repo).rtake limit.toNat := by
  obtain ⟨hevents, hlifecycle⟩ := run_views hrun
  refine ⟨⟨hevents.received_prefix, hlifecycle.received_prefix⟩, ?_, ?_⟩
  · intro more s' hsteps
    refine ⟨?_, ?_⟩
    · intro henough
      obtain ⟨steps, hview, hcount⟩ := hsteps.project eventView (q := Stream.Event.shows)
        (N := Stream.readers StoredFabricEvent.number (Repository.ofSession sessionId) eventStart)
        (p := showsEvents) fun hstep => by
          obtain rfl := hstep
          obtain ⟨event, hstep, hshows⟩ := step_eventView _ _ _ _ _
          exact ⟨event, [], hstep, hshows⟩
      exact hevents.catches_up (s := s.eventView) hview (henough.trans hcount)
    · intro henough
      obtain ⟨steps, hview, hcount⟩ := hsteps.project lifecycleView (q := Stream.Event.shows)
        (N := Stream.readers StoredFabricLifecycle.number (Repository.ofCommand commandId)
          lifecycleStart)
        (p := showsLifecycle) fun hstep => by
          obtain rfl := hstep
          obtain ⟨event, hstep, hshows⟩ := step_lifecycleView _ _ _ _ _
          exact ⟨event, [], hstep, hshows⟩
      exact hlifecycle.catches_up (s := s.lifecycleView) hview (henough.trans hcount)
  · intro after limit rows hrows
    rw [Repository.listFabricEvents_latest hrows]
    exact Stream.latestPage_eq s.repo.storedEvents_ascending after limit.toNat

namespace Gestures

def gesture (messageId : Fin (2 ^ 128)) (sequence : ℕ) : FabricEventEnvelope where
  messageId := ⟨messageId⟩
  topic := ⟨"interaction.ring.gesture", by decide⟩
  sourceNodeId := ⟨"ring-1", by decide⟩
  sourceCapability := ⟨"interaction.ring.gesture", by decide⟩
  siteId := ⟨"site-1", by decide⟩
  roomId := ⟨"room-1", by decide⟩
  sessionId := ⟨"lesson-1", by decide⟩
  participantId := none
  timestamp := 0
  monotonicTimestamp := 1
  sequence := sequence
  correlationId := none
  causationId := none
  confidence := none
  ttlMs := 5000
  dataClassification := .operational
  payload := .empty

/-- The second gesture is appended between two pages of one record. -/
def calls : List StreamCall :=
  [.appendEvent (gesture 1 1), .listEvents 1 1, .appendEvent (gesture 2 2), .listEvents 1 1]

end Gestures

theorem streams_lossless_gestures : ∃ trace s,
    (fabricStreams (some "lesson-1") none 0 0).Run trace s ∧
    s.events.received.map (·.streamSequence) = [1, 2] ∧
    s.events.received <+: Streams.matchingEvents (some "lesson-1") 0 s.repo := by
  have hexec : ((Machine.execute (fun s call =>
      some (Streams.step (some "lesson-1") none s call, ([] : List Empty))) (fun _ _ => True)
      ⟨.empty, ⟨0, []⟩, ⟨0, []⟩⟩ Gestures.calls).any fun last =>
        decide (last.1.events.received.map (·.streamSequence) = [1, 2])) = true := by
    decide +kernel
  obtain ⟨last, hlast, hend⟩ := (Option.any_eq_true ..).mp hexec
  have hrun := (Machine.run_of_execute (M := fabricStreams (some "lesson-1") none 0 0) rfl
    (by rintro s call next ⟨⟩; rfl) hlast).of_restrict
  exact ⟨_, _, hrun, of_decide_eq_true hend, (streams_lossless hrun).1.1⟩

end CitPhysicalXR.Fabric
