import CitPhysicalXR.Foundation.OrderedRows
import CitPhysicalXR.Foundation.PyIsoFormat
import CitPhysicalXR.Foundation.PyJson
import Mathlib.Algebra.Order.Ring.Rat

/-! Recordings as they are kept: their JSON document, what is read back from it, and the timeline
of several recordings. -/
namespace CitPhysicalXR.Runtime.Recorder
open Foundation

structure RecordedEvent (Event : Type) where
  offsetSeconds : ℚ
  event : Event
  deriving DecidableEq

structure Recording (Event : Type) where
  recordingId : String
  sessionId : String
  startedAt : Datetime
  events : List (RecordedEvent Event)
  deriving DecidableEq

variable {Event : Type}

section Json
variable (modelDump : Event → JsonValue) (modelValidate : JsonValue → Option Event)

def RecordedEvent.toJson (recorded : RecordedEvent Event) : JsonValue :=
  .obj [("event", modelDump recorded.event),
    ("offsetSeconds", .float (.finite recorded.offsetSeconds))]

/-- What `to_json` dumps, its keys sorted. -/
def Recording.toJson (recording : Recording Event) : JsonValue :=
  .obj [("events", .arr (recording.events.map (RecordedEvent.toJson modelDump))),
    ("physicalOutput", .bool false), ("recordingId", .str recording.recordingId),
    ("sessionId", .str recording.sessionId), ("startedAt", .str recording.startedAt.isoformat)]

/-- `value[name]`. -/
def field? (name : String) : JsonValue → Option JsonValue
  | .obj fields => fields.lookup name
  | _ => none

/-- `float(value)` of a number that is finite. -/
def float? (value : JsonValue) : Option ℚ :=
  match value.number? with
  | some (.finite q) => some q
  | _ => none

def items? : JsonValue → Option (List JsonValue)
  | .arr items => some items
  | _ => none

def RecordedEvent.fromJson (item : JsonValue) : Option (RecordedEvent Event) := do
  let offsetSeconds ← float? (← field? "offsetSeconds" item)
  let event ← modelValidate (← field? "event" item)
  return ⟨offsetSeconds, event⟩

/-- `from_json`, of the value that `json.loads` returns. -/
def Recording.fromJson (payload : JsonValue) : Option (Recording Event) := do
  let events ← (← items? (← field? "events" payload)).mapM (RecordedEvent.fromJson modelValidate)
  let recordingId ← (← field? "recordingId" payload).str?
  let sessionId ← (← field? "sessionId" payload).str?
  let startedAt ← Datetime.fromisoformat (← (← field? "startedAt" payload).str?)
  return ⟨recordingId, sessionId, startedAt, events⟩

end Json

/-- Between two instants, in seconds. -/
def totalSeconds (duration : Duration) : ℚ := duration / 1000000

def earliest (first : Datetime) (rest : List Datetime) : Datetime :=
  rest.foldl (fun least t => if t.instant < least.instant then t else least) first

/-- The events of a recording, against another start. -/
def Recording.shifted (recording : Recording Event) (startedAt : Datetime) :
    List (RecordedEvent Event) :=
  recording.events.map fun item =>
    ⟨item.offsetSeconds + totalSeconds (recording.startedAt.instant - startedAt.instant),
      item.event⟩

def mergeRecordings (recordings : List (Recording Event)) (recordingId : String) :
    Except String (Recording Event) :=
  match recordings with
  | [] => .error "Cannot merge an empty recording set"
  | first :: rest =>
    let startedAt := earliest first.startedAt (rest.map Recording.startedAt)
    .ok {
      recordingId
      sessionId := first.sessionId
      startedAt
      events := orderedBy RecordedEvent.offsetSeconds
        ((first :: rest).flatMap fun recording => recording.shifted startedAt) }

/-- The events of a recording with the times at which they happened, in seconds. -/
def Recording.timeline (recording : Recording Event) : List (ℚ × Event) :=
  recording.events.map fun item =>
    (totalSeconds recording.startedAt.instant + item.offsetSeconds, item.event)

section RoundTrip
variable {modelDump : Event → JsonValue} {modelValidate : JsonValue → Option Event}

theorem RecordedEvent.fromJson_toJson {recorded : RecordedEvent Event}
    (h : modelValidate (modelDump recorded.event) = some recorded.event) :
    RecordedEvent.fromJson modelValidate (recorded.toJson modelDump) = some recorded := by
  have hevent : field? "event" (recorded.toJson modelDump) = some (modelDump recorded.event) := rfl
  have hoffset : field? "offsetSeconds" (recorded.toJson modelDump) =
      some (.float (.finite recorded.offsetSeconds)) := rfl
  simp [fromJson, hevent, hoffset, h, float?, JsonValue.number?]

theorem Recording.fromJson_toJson {recording : Recording Event}
    (h : ∀ recorded ∈ recording.events,
      modelValidate (modelDump recorded.event) = some recorded.event) :
    Recording.fromJson modelValidate (recording.toJson modelDump) = some recording := by
  have hevents : (recording.events.map (RecordedEvent.toJson modelDump)).mapM
      (RecordedEvent.fromJson modelValidate) = some recording.events := by
    generalize recording.events = events at h
    induction events with
    | nil => rfl
    | cons first events ih =>
      rw [List.map_cons, List.mapM_cons,
        RecordedEvent.fromJson_toJson (h first List.mem_cons_self),
        ih fun recorded hmem => h recorded (List.mem_cons_of_mem _ hmem)]
      rfl
  have hlist : field? "events" (recording.toJson modelDump) =
      some (.arr (recording.events.map (RecordedEvent.toJson modelDump))) := rfl
  have hid : field? "recordingId" (recording.toJson modelDump) =
      some (.str recording.recordingId) := rfl
  have hsession : field? "sessionId" (recording.toJson modelDump) =
      some (.str recording.sessionId) := rfl
  have hstart : field? "startedAt" (recording.toJson modelDump) =
      some (.str recording.startedAt.isoformat) := rfl
  simp [fromJson, hlist, hid, hsession, hstart, items?, JsonValue.str?, hevents,
    Datetime.fromisoformat_isoformat]

end RoundTrip

theorem earliest_spec (first : Datetime) (rest : List Datetime) :
    earliest first rest ∈ first :: rest ∧
      ∀ t ∈ first :: rest, (earliest first rest).instant ≤ t.instant := by
  induction rest generalizing first with
  | nil => simp [earliest]
  | cons second rest ih =>
    obtain ⟨hmem, hleast⟩ := ih (if second.instant < first.instant then second else first)
    have hfold : earliest first (second :: rest) =
        earliest (if second.instant < first.instant then second else first) rest := rfl
    rw [hfold]
    have hhead := hleast _ List.mem_cons_self
    refine ⟨?_, ?_⟩
    · rcases List.mem_cons.mp hmem with hhere | hrest
      · rw [hhere]
        split
        · exact List.mem_cons_of_mem _ List.mem_cons_self
        · exact List.mem_cons_self
      · exact List.mem_cons_of_mem _ (List.mem_cons_of_mem _ hrest)
    · intro t ht
      have hboth : (if second.instant < first.instant then second else first).instant ≤
          first.instant ∧
          (if second.instant < first.instant then second else first).instant ≤
            second.instant := by
        split
        · rename_i hlt
          exact ⟨le_of_lt hlt, le_rfl⟩
        · rename_i hge
          exact ⟨le_rfl, not_lt.mp hge⟩
      rcases List.mem_cons.mp ht with rfl | ht
      · exact hhead.trans hboth.1
      · rcases List.mem_cons.mp ht with rfl | ht
        · exact hhead.trans hboth.2
        · exact hleast t (List.mem_cons_of_mem _ ht)

theorem timeline_shifted (recording : Recording Event) (startedAt : Datetime) :
    (recording.shifted startedAt).map (fun item =>
      (totalSeconds startedAt.instant + item.offsetSeconds, item.event)) = recording.timeline := by
  rw [Recording.shifted, Recording.timeline, List.map_map]
  refine List.map_congr_left ?_
  intro item _
  simp only [Function.comp_apply, Prod.mk.injEq, and_true, totalSeconds]
  push_cast
  ring

/-- A recording comes back from its document as it was, if its events do. The timeline of several
recordings begins with the earliest of them, is sorted, and has their events, each as often and at
the time as they have it. -/
theorem recordings_survive (modelDump : Event → JsonValue)
    (modelValidate : JsonValue → Option Event) :
    (∀ recording : Recording Event,
      (∀ recorded ∈ recording.events,
        modelValidate (modelDump recorded.event) = some recorded.event) →
      Recording.fromJson modelValidate (recording.toJson modelDump) = some recording) ∧
    ∀ (recordings : List (Recording Event)) (recordingId : String), recordings ≠ [] →
      ∃ merged, mergeRecordings recordings recordingId = .ok merged ∧
        merged.timeline.Perm (recordings.flatMap Recording.timeline) ∧
        merged.startedAt ∈ recordings.map Recording.startedAt ∧
        (∀ recording ∈ recordings, merged.startedAt.instant ≤ recording.startedAt.instant) ∧
        merged.events.Pairwise fun first second => first.offsetSeconds ≤ second.offsetSeconds := by
  refine ⟨fun recording => Recording.fromJson_toJson, ?_⟩
  intro recordings recordingId hne
  cases recordings with
  | nil => exact absurd rfl hne
  | cons first rest =>
    obtain ⟨hmem, hleast⟩ := earliest_spec first.startedAt (rest.map Recording.startedAt)
    refine ⟨_, rfl, ?_, hmem, ?_, orderedBy_pairwise _⟩
    · have hperm := (@orderedBy_perm _ _ _ RecordedEvent.offsetSeconds
        ((first :: rest).flatMap fun recording => recording.shifted
          (earliest first.startedAt (rest.map Recording.startedAt)))).map fun item =>
            (totalSeconds (earliest first.startedAt (rest.map Recording.startedAt)).instant +
              item.offsetSeconds, item.event)
      refine hperm.trans (List.Perm.of_eq ?_)
      rw [List.map_flatMap]
      exact List.flatMap_congr fun recording _ => timeline_shifted recording _
    · intro recording hrecording
      exact hleast _ (List.mem_map_of_mem hrecording)

section Lesson

/-- An event stands for its identity here. -/
def eventDump (eventId : String) : JsonValue := .obj [("eventId", .str eventId)]

def eventValidate (value : JsonValue) : Option String :=
  (field? "eventId" value).bind JsonValue.str?

def robotRecording : Recording String :=
  ⟨"robot", "lesson-1", ⟨⟨2026, 3, 2, 9, 0, 2, 0, true, 0⟩, by decide⟩, [⟨1 / 2, "moved"⟩]⟩

def gloveRecording : Recording String :=
  ⟨"glove", "lesson-1", ⟨⟨2026, 3, 2, 9, 0, 1, 0, true, 0⟩, by decide⟩,
    [⟨1, "pinched"⟩, ⟨2, "released"⟩]⟩

/-- The recording of the robot comes back, and the timeline of both is that of their events. -/
theorem recordings_survive_lesson :
    Recording.fromJson eventValidate (robotRecording.toJson eventDump) = some robotRecording ∧
      ∃ merged, mergeRecordings [robotRecording, gloveRecording] "lesson" = .ok merged ∧
        merged.timeline.Perm (robotRecording.timeline ++ gloveRecording.timeline) := by
  obtain ⟨hround, hmerge⟩ := recordings_survive eventDump eventValidate
  obtain ⟨merged, hmerged, htimeline, _⟩ :=
    hmerge [robotRecording, gloveRecording] "lesson" (by decide)
  exact ⟨hround robotRecording fun _ _ => rfl, merged, hmerged, htimeline⟩

/-- Without a recording there is no timeline. -/
theorem empty_set_refused :
    ¬∃ merged : Recording String, mergeRecordings [] "lesson" = .ok merged := by
  rintro ⟨merged, hmerged⟩
  cases hmerged

end Lesson

end CitPhysicalXR.Runtime.Recorder
