import CitPhysicalXR.Runtime.Replay

/-! Replay does not interfere: what the live consumers are given beside a replay is what they are
given without it. -/
namespace CitPhysicalXR.Runtime
open Foundation

namespace EventRouter
variable {α : Type*} {limit : ℕ}

theorem lastOf_suffix (limit : ℕ) (items : List α) : lastOf limit items <:+ items :=
  List.drop_suffix _ items

theorem length_lastOf (limit : ℕ) (items : List α) :
    (lastOf limit items).length = min limit items.length := by
  simp only [lastOf, List.length_drop]
  omega

theorem lastOf_concat (limit : ℕ) (items : List α) (item : α) :
    lastOf limit (lastOf limit items ++ [item]) = lastOf limit (items ++ [item]) := by
  have hleft := (lastOf_suffix limit (lastOf limit items ++ [item])).trans
    ((List.suffix_append_inj_of_length_eq rfl).mpr ⟨lastOf_suffix limit items, rfl⟩)
  have hright := lastOf_suffix limit (items ++ [item])
  have hlength : (lastOf limit (lastOf limit items ++ [item])).length =
      (lastOf limit (items ++ [item])).length := by
    simp only [length_lastOf, List.length_append, List.length_singleton]
    omega
  exact (List.suffix_of_suffix_length_le hleft hright hlength.le).eq_of_length hlength

theorem filter_lastOf (limit : ℕ) (p : α → Bool) (items : List α) :
    (lastOf limit items).filter p <:+ lastOf limit (items.filter p) := by
  have hsuffix : (lastOf limit items).filter p <:+ items.filter p :=
    (lastOf_suffix limit items).filter p
  apply List.suffix_of_suffix_length_le hsuffix (lastOf_suffix limit _)
  rw [length_lastOf]
  have hshort : ((lastOf limit items).filter p).length ≤ (lastOf limit items).length :=
    List.length_filter_le _ _
  rw [length_lastOf] at hshort
  exact le_min (hshort.trans (min_le_left _ _)) hsuffix.length_le

end EventRouter

/-- The last item of a kind in a list. -/
theorem find?_reverse_eq_some {α : Type*} {p : α → Bool} {items : List α} {item : α} :
    items.reverse.find? p = some item ↔
      p item = true ∧ ∃ pre post, items = pre ++ item :: post ∧ ∀ later ∈ post, p later = false := by
  rw [List.find?_eq_some_iff_append]
  constructor
  · intro h
    obtain ⟨hitem, post, pre, hitems, hpost⟩ := h
    refine ⟨hitem, pre.reverse, post.reverse, ?_, ?_⟩
    · rw [← List.reverse_reverse items, hitems]
      simp
    · intro later hlater
      simpa using hpost later (List.mem_reverse.mp hlater)
  · intro h
    obtain ⟨hitem, pre, post, rfl, hpost⟩ := h
    refine ⟨hitem, post.reverse, pre.reverse, by simp, ?_⟩
    intro later hlater
    simpa using hpost later (List.mem_reverse.mp hlater)

def ReceivedEvent.isLive (event : ReceivedEvent) : Bool := !event.historical

def ReceivedEvent.isReading (deviceId sensor : String) (event : ReceivedEvent) : Bool :=
  event.deviceId == deviceId &&
    (event.name == sensor || PyString.endsWith event.name ("." ++ sensor))

namespace Recording

def live (recording : Recording) : Recording :=
  { recording with events := recording.events.filter fun recorded => recorded.event.isLive }

theorem live_capture (recording : Recording) (event : ReceivedEvent) :
    (recording.capture event).live =
      if event.isLive then recording.live.capture event else recording.live := by
  unfold live capture
  rw [List.filter_append]
  split
  · rename_i hlive
    simp [hlive]
  · rename_i hhistorical
    simp [hhistorical]

theorem replayed_historical (recording : Recording) :
    ∀ event ∈ recording.replayed, event.isLive = false := by
  intro event hevent
  obtain ⟨recorded, _, rfl⟩ := List.mem_map.mp hevent
  rfl

end Recording

namespace EventRouter
variable (router : EventRouter)

theorem publish_of_fresh {event : ReceivedEvent} (h : router.isRetry event = false) :
    (router.publish event).1 = {
      seen := if event.historical then router.seen
        else lastOf dedupeWindow (router.seen ++ [event.eventId])
      history := lastOf historyLimit (router.history ++ [event])
      broadcast := if router.broadcast.length < broadcastLimit then router.broadcast ++ [event]
        else router.broadcast
      recorders := router.recorders.mapRows (·.capture event) fun _ => rfl } := by
  unfold publish
  rw [if_neg (of_decide_eq_false h)]

theorem isRetry_of_historical {event : ReceivedEvent} (h : event.isLive = false) :
    router.isRetry event = false := by
  apply decide_eq_false
  intro hretry
  unfold ReceivedEvent.isLive at h
  rw [hretry.1] at h
  cases h

theorem get?_capture (event : ReceivedEvent) (recordingId : String) :
    (router.recorders.mapRows (·.capture event) fun _ => rfl).get? recordingId =
      (router.recorders.get? recordingId).map (·.capture event) := by
  cases hfound : router.recorders.get? recordingId with
  | none =>
    rw [Option.map_none, Table.get?_eq_none]
    intro after hafter
    obtain ⟨recording, hmem, rfl⟩ := (Table.mem_mapRows _).mp hafter
    exact Table.get?_eq_none.mp hfound recording hmem
  | some recording =>
    obtain ⟨hmem, hid⟩ := Table.get?_some hfound
    rw [Option.map_some, Table.get?_eq_some]
    exact ⟨(Table.mem_mapRows _).mpr ⟨recording, hmem, rfl⟩, hid⟩

end EventRouter

namespace LiveRuntime
variable (s : LiveRuntime)

theorem publish_of_retry {s : LiveRuntime} {event : ReceivedEvent}
    (h : s.router.isRetry event = true) : s.publish event = s := if_pos h

theorem publish_of_fresh {event : ReceivedEvent} (h : s.router.isRetry event = false) :
    (s.publish event).router = {
      seen := if event.historical then s.router.seen
        else EventRouter.lastOf EventRouter.dedupeWindow (s.router.seen ++ [event.eventId])
      history := EventRouter.lastOf EventRouter.historyLimit (s.router.history ++ [event])
      broadcast := if s.router.broadcast.length < EventRouter.broadcastLimit then
          s.router.broadcast ++ [event]
        else s.router.broadcast
      recorders := s.router.recorders.mapRows (·.capture event) fun _ => rfl } ∧
    (s.publish event).status = s.status.observe event.toDeviceEvent ∧
    (s.publish event).sent = s.sent := by
  have hnot : ¬s.router.isRetry event = true := by
    rw [h]
    exact Bool.false_ne_true
  unfold publish
  rw [if_neg hnot]
  exact ⟨s.router.publish_of_fresh h, rfl, rfl⟩

theorem pump_keeps : s.pump.status = s.status ∧ s.pump.router.seen = s.router.seen ∧
    s.pump.router.history = s.router.history ∧ s.pump.router.recorders = s.router.recorders := by
  unfold pump
  split <;> exact ⟨rfl, rfl, rfl, rfl⟩

/-- What is sent or waits to be sent stays, and one event less waits. -/
theorem pump_broadcast : s.pump.sent ++ s.pump.router.broadcast = s.sent ++ s.router.broadcast ∧
    s.pump.router.broadcast.length = s.router.broadcast.length - 1 := by
  unfold pump
  split
  · rename_i hempty
    rw [hempty]
    exact ⟨rfl, rfl⟩
  · rename_i event rest hqueue
    rw [hqueue]
    refine ⟨?_, rfl⟩
    show (s.sent ++ [event]) ++ rest = s.sent ++ event :: rest
    rw [List.append_assoc]
    rfl

theorem stopped_router (room : Classroom) (recording : Recording) (actorId : String)
    (now : Instant) (diskFails : Bool) :
    (room.stopRecording recording actorId now diskFails).router = { room.router with
      recorders := room.router.recorders.filterRows fun other =>
        decide (other.recordingId ≠ recording.recordingId) } := by
  unfold Classroom.stopRecording
  cases diskFails with
  | true => rfl
  | false =>
    simp only [Bool.false_eq_true, if_false]
    split <;> rfl

theorem stopRecording_keeps (recordingId actorId : String) (now : Instant) (diskFails : Bool) :
    (s.stopRecording recordingId actorId now diskFails).status = s.status ∧
      (s.stopRecording recordingId actorId now diskFails).router.seen = s.router.seen ∧
      (s.stopRecording recordingId actorId now diskFails).router.history = s.router.history ∧
      (s.stopRecording recordingId actorId now diskFails).router.broadcast = s.router.broadcast ∧
      (s.stopRecording recordingId actorId now diskFails).sent = s.sent := by
  unfold stopRecording
  split
  · exact ⟨rfl, rfl, rfl, rfl, rfl⟩
  · rename_i recording _
    have hrouter := stopped_router s.room recording actorId now diskFails
    have hseen := congrArg EventRouter.seen hrouter
    have hhistory := congrArg EventRouter.history hrouter
    have hbroadcast := congrArg EventRouter.broadcast hrouter
    exact ⟨rfl, hseen, hhistory, hbroadcast, rfl⟩

theorem stopRecording_get? (recordingId actorId : String) (now : Instant) (diskFails : Bool)
    (other : String) :
    (s.stopRecording recordingId actorId now diskFails).router.recorders.get? other =
      if other = recordingId then none else s.router.recorders.get? other := by
  unfold stopRecording
  split
  · rename_i hnone
    split
    · rename_i hsame
      rw [hsame, hnone]
    · rfl
  · rename_i recording hfound
    have hid := (Table.get?_some hfound).2
    have hrouter := stopped_router s.room recording actorId now diskFails
    refine (congrArg (fun router : EventRouter => router.recorders.get? other) hrouter).trans ?_
    show (s.router.recorders.filterRows _).get? other = _
    rw [Table.get?_filterRows, hid]
    cases hother : s.router.recorders.get? other with
    | none => simp
    | some found =>
      have hfoundId := (Table.get?_some hother).2
      split
      · rename_i hsame
        rw [Option.filter_eq_none_iff]
        intro candidate hcandidate
        cases hcandidate
        simp [hfoundId, hsame]
      · rename_i hdiffers
        rw [Option.filter_some]
        simp [hfoundId, hdiffers]

end LiveRuntime

namespace ReplayTwin
variable {p p' : ReplayTwin} {e : StreamEvent} {out : List SensorAnswers}

/-- What never differs: retries, the status of the devices, and the live part of the history and
of what the recorders have. -/
structure Related (p : ReplayTwin) : Prop where
  seen : p.shown.router.seen = p.plain.router.seen
  status : p.shown.status = p.plain.status
  history : ∃ events : List ReceivedEvent,
    p.shown.router.history = EventRouter.lastOf EventRouter.historyLimit events ∧
      p.plain.router.history =
        EventRouter.lastOf EventRouter.historyLimit (events.filter ReceivedEvent.isLive)
  recorders : ∀ recordingId, (p.shown.router.recorders.get? recordingId).map Recording.live =
    p.plain.router.recorders.get? recordingId

structure Abreast (p : ReplayTwin) : Prop where
  received : (p.shown.sent ++ p.shown.router.broadcast).filter ReceivedEvent.isLive =
    p.plain.sent ++ p.plain.router.broadcast
  behind : p.plain.router.broadcast.length ≤ p.shown.router.broadcast.length

theorem Related.isRetry (h : p.Related) (event : ReceivedEvent) :
    p.shown.router.isRetry event = p.plain.router.isRetry event := by
  unfold EventRouter.isRetry
  rw [h.seen]

theorem Related.history_concat {shown plain : LiveRuntime} (h : Related ⟨shown, plain⟩)
    (event : ReceivedEvent) : ∃ events : List ReceivedEvent,
      EventRouter.lastOf EventRouter.historyLimit (shown.router.history ++ [event]) =
        EventRouter.lastOf EventRouter.historyLimit events ∧
      (if event.isLive then
        EventRouter.lastOf EventRouter.historyLimit (plain.router.history ++ [event])
      else plain.router.history) =
        EventRouter.lastOf EventRouter.historyLimit (events.filter ReceivedEvent.isLive) := by
  obtain ⟨events, hshown, hplain⟩ := h.history
  refine ⟨events ++ [event], ?_, ?_⟩
  · rw [hshown, EventRouter.lastOf_concat]
  · rw [hplain, List.filter_append]
    split
    · rename_i hlive
      rw [EventRouter.lastOf_concat]
      simp [hlive]
    · rename_i hhistorical
      simp [hhistorical]

theorem Related.recorders_capture {shown plain : LiveRuntime} (h : Related ⟨shown, plain⟩)
    (event : ReceivedEvent) (recordingId : String) :
    ((shown.router.recorders.get? recordingId).map (·.capture event)).map Recording.live =
      if event.isLive then (plain.router.recorders.get? recordingId).map (·.capture event)
      else plain.router.recorders.get? recordingId := by
  rw [← h.recorders recordingId]
  cases shown.router.recorders.get? recordingId with
  | none => simp
  | some recording =>
    simp only [Option.map_some, Recording.live_capture]
    split <;> rfl

theorem Related.published (h : p.Related) (event : LiveEvent) :
    (p.both (·.publish event)).Related := by
  have hlive : event.1.isLive = true := by simp [ReceivedEvent.isLive, event.2]
  cases hretry : p.plain.router.isRetry event with
  | true =>
    rw [both, LiveRuntime.publish_of_retry hretry,
      LiveRuntime.publish_of_retry ((h.isRetry event).trans hretry)]
    exact h
  | false =>
    obtain ⟨hshown, hshownStatus, _⟩ :=
      p.shown.publish_of_fresh ((h.isRetry event).trans hretry)
    obtain ⟨hplain, hplainStatus, _⟩ := p.plain.publish_of_fresh hretry
    obtain ⟨events, hhistory⟩ := h.history_concat event
    have hrecorders := h.recorders_capture event
    simp only [hlive, if_true] at hhistory hrecorders
    constructor
    · show (p.shown.publish event).router.seen = (p.plain.publish event).router.seen
      rw [hshown, hplain, h.seen]
    · show (p.shown.publish event).status = (p.plain.publish event).status
      rw [hshownStatus, hplainStatus, h.status]
    · refine ⟨events, ?_⟩
      have hshownHistory := congrArg EventRouter.history hshown
      have hplainHistory := congrArg EventRouter.history hplain
      dsimp only at hshownHistory hplainHistory
      exact ⟨hshownHistory.trans hhistory.1, hplainHistory.trans hhistory.2⟩
    · intro recordingId
      show ((p.shown.publish event).router.recorders.get? recordingId).map _ =
        (p.plain.publish event).router.recorders.get? recordingId
      rw [hshown, hplain]
      simp only [EventRouter.get?_capture]
      exact hrecorders recordingId

theorem Related.replayed_event {shown plain : LiveRuntime} (h : Related ⟨shown, plain⟩)
    {event : ReceivedEvent} (hhistorical : event.isLive = false) :
    Related ⟨shown.publish event, plain⟩ := by
  have hhist : event.historical = true := by simpa [ReceivedEvent.isLive] using hhistorical
  obtain ⟨hshown, hstatus, _⟩ :=
    shown.publish_of_fresh (shown.router.isRetry_of_historical hhistorical)
  obtain ⟨events, hhistory⟩ := h.history_concat event
  have hrecorders := h.recorders_capture event
  simp only [hhistorical, Bool.false_eq_true, if_false] at hhistory hrecorders
  constructor
  · show (shown.publish event).router.seen = plain.router.seen
    rw [hshown]
    simp only [hhist, if_true]
    exact h.seen
  · show (shown.publish event).status = plain.status
    rw [hstatus, DeviceStatusProjection.observe_historical _ hhist]
    exact h.status
  · refine ⟨events, ?_⟩
    have hshownHistory := congrArg EventRouter.history hshown
    dsimp only at hshownHistory
    exact ⟨hshownHistory.trans hhistory.1, hhistory.2⟩
  · intro recordingId
    show ((shown.publish event).router.recorders.get? recordingId).map _ =
      plain.router.recorders.get? recordingId
    rw [hshown]
    simp only [EventRouter.get?_capture]
    exact hrecorders recordingId

theorem Related.replayed {shown plain : LiveRuntime} (h : Related ⟨shown, plain⟩)
    (recording : Recording) : Related ⟨shown.replay recording, plain⟩ := by
  have hfold (events : List ReceivedEvent) (hevents : ∀ event ∈ events, event.isLive = false)
      (shown : LiveRuntime) (h : Related ⟨shown, plain⟩) :
      Related ⟨events.foldl LiveRuntime.publish shown, plain⟩ := by
    induction events generalizing shown with
    | nil => exact h
    | cons event events ih =>
      apply ih (fun other hother => hevents other (List.mem_cons_of_mem _ hother))
      exact h.replayed_event (hevents event (List.mem_cons_self ..))
  exact hfold _ recording.replayed_historical shown h

/-- A call that touches neither retries nor status nor history nor recorders. -/
theorem Related.of_eq (h : p.Related)
    (hshown : p'.shown.status = p.shown.status ∧ p'.shown.router.seen = p.shown.router.seen ∧
      p'.shown.router.history = p.shown.router.history ∧
      p'.shown.router.recorders = p.shown.router.recorders)
    (hplain : p'.plain.status = p.plain.status ∧ p'.plain.router.seen = p.plain.router.seen ∧
      p'.plain.router.history = p.plain.router.history ∧
      p'.plain.router.recorders = p.plain.router.recorders) : p'.Related := by
  obtain ⟨hs₁, hs₂, hs₃, hs₄⟩ := hshown
  obtain ⟨hp₁, hp₂, hp₃, hp₄⟩ := hplain
  constructor
  · rw [hs₂, hp₂, h.seen]
  · rw [hs₁, hp₁, h.status]
  · rw [hs₃, hp₃]
    exact h.history
  · rw [hs₄, hp₄]
    exact h.recorders

theorem Related.pumped (h : p.Related) : (p.both LiveRuntime.pump).Related :=
  h.of_eq p.shown.pump_keeps p.plain.pump_keeps

theorem Related.recordingStarted (h : p.Related) (recordingId sessionId actorId : String)
    (now : Instant) : (p.both (·.startRecording recordingId sessionId actorId now)).Related := by
  refine ⟨h.seen, h.status, h.history, ?_⟩
  intro other
  show ((p.shown.router.recorders.upsert ⟨recordingId, sessionId, now, []⟩).get? other).map _ =
    (p.plain.router.recorders.upsert ⟨recordingId, sessionId, now, []⟩).get? other
  by_cases hsame : other = recordingId
  · subst hsame
    have hshown := Table.get?_upsert_self (t := p.shown.router.recorders)
      (⟨other, sessionId, now, []⟩ : Recording)
    have hplain := Table.get?_upsert_self (t := p.plain.router.recorders)
      (⟨other, sessionId, now, []⟩ : Recording)
    rw [hshown, hplain]
    rfl
  · rw [Table.get?_upsert_of_ne hsame, Table.get?_upsert_of_ne hsame]
    exact h.recorders other

theorem Related.recordingStopped (h : p.Related) (recordingId actorId : String)
    (now : Instant) (diskFails : Bool) :
    (p.both (·.stopRecording recordingId actorId now diskFails)).Related := by
  have hrecorders (other : String) : ((p.shown.stopRecording recordingId actorId now
      diskFails).router.recorders.get? other).map Recording.live =
        (p.plain.stopRecording recordingId actorId now diskFails).router.recorders.get? other := by
    rw [p.shown.stopRecording_get?, p.plain.stopRecording_get?]
    split
    · rfl
    · exact h.recorders other
  have hshown := p.shown.stopRecording_keeps recordingId actorId now diskFails
  have hplain := p.plain.stopRecording_keeps recordingId actorId now diskFails
  refine ⟨?_, ?_, ?_, hrecorders⟩
  · show (p.shown.stopRecording recordingId actorId now diskFails).router.seen =
      (p.plain.stopRecording recordingId actorId now diskFails).router.seen
    rw [hshown.2.1, hplain.2.1, h.seen]
  · show (p.shown.stopRecording recordingId actorId now diskFails).status =
      (p.plain.stopRecording recordingId actorId now diskFails).status
    rw [hshown.1, hplain.1, h.status]
  · obtain ⟨events, hhistory⟩ := h.history
    refine ⟨events, ?_⟩
    show (p.shown.stopRecording recordingId actorId now diskFails).router.history = _ ∧
      (p.plain.stopRecording recordingId actorId now diskFails).router.history = _
    rw [hshown.2.2.1, hplain.2.2.1]
    exact hhistory

theorem Abreast.of_eq (h : p.Abreast)
    (hshown : p'.shown.sent = p.shown.sent ∧
      p'.shown.router.broadcast = p.shown.router.broadcast)
    (hplain : p'.plain.sent = p.plain.sent ∧
      p'.plain.router.broadcast = p.plain.router.broadcast) : p'.Abreast := by
  constructor
  · rw [hshown.1, hshown.2, hplain.1, hplain.2, h.received]
  · rw [hshown.2, hplain.2]
    exact h.behind

/-- The queue has room for a live event in both runtimes, or in neither. -/
theorem Abreast.published (h : p.Abreast) (hrelated : p.Related) (event : LiveEvent)
    (hroom : EventRouter.broadcastLimit ≤ p.shown.router.broadcast.length →
      EventRouter.broadcastLimit ≤ p.plain.router.broadcast.length) :
    (p.both (·.publish event)).Abreast := by
  have hlive : event.1.isLive = true := by simp [ReceivedEvent.isLive, event.2]
  cases hretry : p.plain.router.isRetry event with
  | true =>
    rw [both, LiveRuntime.publish_of_retry hretry,
      LiveRuntime.publish_of_retry ((hrelated.isRetry event).trans hretry)]
    exact h
  | false =>
    obtain ⟨hshown, _, hshownSent⟩ :=
      p.shown.publish_of_fresh ((hrelated.isRetry event).trans hretry)
    obtain ⟨hplain, _, hplainSent⟩ := p.plain.publish_of_fresh hretry
    have hshownQueue := congrArg EventRouter.broadcast hshown
    have hplainQueue := congrArg EventRouter.broadcast hplain
    dsimp only at hshownQueue hplainQueue
    have hbehind := h.behind
    by_cases hfull : EventRouter.broadcastLimit ≤ p.shown.router.broadcast.length
    · rw [if_neg (not_lt.mpr hfull)] at hshownQueue
      rw [if_neg (not_lt.mpr (hroom hfull))] at hplainQueue
      exact h.of_eq ⟨hshownSent, hshownQueue⟩ ⟨hplainSent, hplainQueue⟩
    · rw [if_pos (not_le.mp hfull)] at hshownQueue
      rw [if_pos (hbehind.trans_lt (not_le.mp hfull))] at hplainQueue
      constructor
      · show ((p.shown.publish event).sent ++ (p.shown.publish event).router.broadcast).filter _ =
          (p.plain.publish event).sent ++ (p.plain.publish event).router.broadcast
        rw [hshownSent, hshownQueue, hplainSent, hplainQueue, ← List.append_assoc,
          List.filter_append, h.received, ← List.append_assoc]
        simp [hlive]
      · show (p.plain.publish event).router.broadcast.length ≤
          (p.shown.publish event).router.broadcast.length
        rw [hshownQueue, hplainQueue, List.length_append, List.length_append]
        exact Nat.add_le_add_right hbehind _

theorem Abreast.replayed_event {shown plain : LiveRuntime} (h : Abreast ⟨shown, plain⟩)
    {event : ReceivedEvent} (hhistorical : event.isLive = false) :
    Abreast ⟨shown.publish event, plain⟩ := by
  obtain ⟨hshown, _, hsent⟩ :=
    shown.publish_of_fresh (shown.router.isRetry_of_historical hhistorical)
  have hqueue := congrArg EventRouter.broadcast hshown
  dsimp only at hqueue
  have hreceived := h.received
  have hbehind := h.behind
  dsimp only at hreceived hbehind
  split at hqueue
  · constructor
    · show ((shown.publish event).sent ++ (shown.publish event).router.broadcast).filter _ =
        plain.sent ++ plain.router.broadcast
      rw [hsent, hqueue, ← List.append_assoc, List.filter_append, hreceived]
      simp [hhistorical]
    · show plain.router.broadcast.length ≤ (shown.publish event).router.broadcast.length
      rw [hqueue, List.length_append]
      omega
  · exact h.of_eq ⟨hsent, hqueue⟩ ⟨rfl, rfl⟩

theorem Abreast.replayed {shown plain : LiveRuntime} (h : Abreast ⟨shown, plain⟩)
    (recording : Recording) : Abreast ⟨shown.replay recording, plain⟩ := by
  have hfold (events : List ReceivedEvent) (hevents : ∀ event ∈ events, event.isLive = false)
      (shown : LiveRuntime) (h : Abreast ⟨shown, plain⟩) :
      Abreast ⟨events.foldl LiveRuntime.publish shown, plain⟩ := by
    induction events generalizing shown with
    | nil => exact h
    | cons event events ih =>
      apply ih (fun other hother => hevents other (List.mem_cons_of_mem _ hother))
      exact h.replayed_event (hevents event (List.mem_cons_self ..))
  exact hfold _ recording.replayed_historical shown h

theorem Abreast.pumped (h : p.Abreast) : (p.both LiveRuntime.pump).Abreast := by
  obtain ⟨hshown, hshownLength⟩ := p.shown.pump_broadcast
  obtain ⟨hplain, hplainLength⟩ := p.plain.pump_broadcast
  have hbehind := h.behind
  constructor
  · show (p.shown.pump.sent ++ p.shown.pump.router.broadcast).filter _ =
      p.plain.pump.sent ++ p.plain.pump.router.broadcast
    rw [hshown, hplain, h.received]
  · show p.plain.pump.router.broadcast.length ≤ p.shown.pump.router.broadcast.length
    rw [hshownLength, hplainLength]
    omega

/-- The history of the runtime that is replayed to ends, among the readings of the sensor, with a
live one, unless neither history has a reading. -/
def Undisturbed (p : ReplayTwin) (deviceId sensor : String) : Prop :=
  (∀ pre event post, p.shown.router.history = pre ++ event :: post →
    event.isReading deviceId sensor = true →
    (∀ later ∈ post, later.isReading deviceId sensor = false) → event.isLive = true) ∧
  ((∃ event ∈ p.plain.router.history, event.isReading deviceId sensor = true) →
    ∃ event ∈ p.shown.router.history, event.isReading deviceId sensor = true)

theorem Related.live_history (h : p.Related) :
    p.shown.router.history.filter ReceivedEvent.isLive <:+ p.plain.router.history ∧
      ∀ event ∈ p.plain.router.history, event.isLive = true := by
  obtain ⟨events, hshown, hplain⟩ := h.history
  rw [hshown, hplain]
  refine ⟨EventRouter.filter_lastOf _ _ _, ?_⟩
  intro event hevent
  exact (List.mem_filter.mp ((EventRouter.lastOf_suffix _ _).mem hevent)).2

/-- The reading is the one without the replay exactly when the replay does not disturb it. -/
theorem Related.lastReading_iff (h : p.Related) (deviceId sensor : String) :
    ClassroomApi.lastReading p.shown.room deviceId sensor =
        ClassroomApi.lastReading p.plain.room deviceId sensor ↔
      p.Undisturbed deviceId sensor := by
  obtain ⟨hsuffix, hlive⟩ := h.live_history
  constructor
  · intro hsame
    refine ⟨?_, ?_⟩
    · intro pre event post hhistory hreading hpost
      have hfound : ClassroomApi.lastReading p.shown.room deviceId sensor = some event :=
        find?_reverse_eq_some.mpr ⟨hreading, pre, post, hhistory, hpost⟩
      obtain ⟨_, pre', post', hplain, _⟩ := find?_reverse_eq_some.mp (hsame.symm.trans hfound)
      apply hlive
      show event ∈ p.plain.room.router.history
      rw [hplain]
      simp
    · intro hexists
      obtain ⟨event, hevent, hreading⟩ := hexists
      have hsome : ((ClassroomApi.lastReading p.plain.room deviceId sensor).isSome) = true := by
        refine List.find?_isSome.mpr ⟨event, List.mem_reverse.mpr hevent, hreading⟩
      rw [← hsame] at hsome
      obtain ⟨other, hother, hreading'⟩ := List.find?_isSome.mp hsome
      exact ⟨other, List.mem_reverse.mp hother, hreading'⟩
  · intro hundisturbed
    obtain ⟨hlast, hkept⟩ := hundisturbed
    cases hfound : ClassroomApi.lastReading p.shown.room deviceId sensor with
    | none =>
      symm
      apply List.find?_eq_none.mpr
      intro event hevent hreading
      obtain ⟨other, hother, hreading'⟩ := hkept ⟨event, List.mem_reverse.mp hevent, hreading⟩
      exact List.find?_eq_none.mp hfound other (List.mem_reverse.mpr hother) hreading'
    | some event =>
      obtain ⟨hreading, pre, post, hhistory, hpost⟩ := find?_reverse_eq_some.mp hfound
      have heventLive := hlast pre event post hhistory hreading hpost
      obtain ⟨before, hplain⟩ := hsuffix
      have hhistory : p.shown.router.history = pre ++ event :: post := hhistory
      rw [hhistory, List.filter_append, List.filter_cons_of_pos heventLive,
        ← List.append_assoc] at hplain
      symm
      refine find?_reverse_eq_some.mpr ⟨hreading, _, _, hplain.symm, ?_⟩
      intro later hlater
      exact hpost later (List.mem_filter.mp hlater).1

/-- What is asked of the steps: a live event is published while the queue of the broadcaster has
room, unless it is as full without the replays; and a sensor is read while no replay disturbs it. -/
def Harmless (p : ReplayTwin) : StreamEvent → Prop
  | .published _ => EventRouter.broadcastLimit ≤ p.shown.router.broadcast.length →
      EventRouter.broadcastLimit ≤ p.plain.router.broadcast.length
  | .sensorRead deviceId sensor => p.Undisturbed deviceId sensor
  | _ => True

/-- Whatever is replayed, the status and the recorders keep to the live events. -/
theorem related_step (h : p.Related) (hstep : p.step e = some (p', out)) : p'.Related := by
  cases e with
  | published event =>
    cases hstep
    exact h.published event
  | replayed recording =>
    cases hstep
    have hpair : Related ⟨p.shown, p.plain⟩ := h
    exact hpair.replayed recording
  | pumped =>
    cases hstep
    exact h.pumped
  | commandNoted deviceId capability action result at_ =>
    cases hstep
    refine ⟨h.seen, ?_, h.history, h.recorders⟩
    exact congrArg (·.noteCommand deviceId capability action result at_) h.status
  | recordingStarted recordingId sessionId actorId now =>
    cases hstep
    exact h.recordingStarted recordingId sessionId actorId now
  | recordingStopped recordingId actorId now diskFails =>
    cases hstep
    exact h.recordingStopped recordingId actorId now diskFails
  | sensorRead deviceId sensor =>
    cases hstep
    exact h

theorem abreast_step (h : p.Abreast) (hrelated : p.Related) (hharmless : p.Harmless e)
    (hstep : p.step e = some (p', out)) : p'.Abreast := by
  cases e with
  | published event =>
    cases hstep
    exact h.published hrelated event hharmless
  | replayed recording =>
    cases hstep
    have hpair : Abreast ⟨p.shown, p.plain⟩ := h
    exact hpair.replayed recording
  | pumped =>
    cases hstep
    exact h.pumped
  | commandNoted deviceId capability action result at_ =>
    cases hstep
    exact h.of_eq ⟨rfl, rfl⟩ ⟨rfl, rfl⟩
  | recordingStarted recordingId sessionId actorId now =>
    cases hstep
    exact h.of_eq ⟨rfl, rfl⟩ ⟨rfl, rfl⟩
  | recordingStopped recordingId actorId now diskFails =>
    cases hstep
    have hshown := p.shown.stopRecording_keeps recordingId actorId now diskFails
    have hplain := p.plain.stopRecording_keeps recordingId actorId now diskFails
    exact h.of_eq ⟨hshown.2.2.2.2, hshown.2.2.2.1⟩ ⟨hplain.2.2.2.2, hplain.2.2.2.1⟩
  | sensorRead deviceId sensor =>
    cases hstep
    exact h

theorem answers_step (hrelated : p.Related) (hharmless : p.Harmless e)
    (hstep : p.step e = some (p', out)) : ∀ answers ∈ out, answers.shown = answers.plain := by
  intro answers hanswers
  cases e with
  | sensorRead deviceId sensor =>
    cases hstep
    obtain rfl := List.mem_singleton.mp hanswers
    show p.shown.readSensor deviceId sensor = p.plain.readSensor deviceId sensor
    unfold LiveRuntime.readSensor
    rw [(hrelated.lastReading_iff deviceId sensor).mpr hharmless]
  | _ =>
    cases hstep
    cases hanswers

end ReplayTwin

/-- What a replay leaves alone, at the end of a run. -/
structure Unaffected (trace : List (StreamEvent × List SensorAnswers)) (p : ReplayTwin) :
    Prop where
  related : p.Related
  abreast : p.Abreast
  answers : ∀ answers ∈ Machine.outputs trace, answers.shown = answers.plain

theorem unaffected_initial {p : ReplayTwin} (h : replayTwin.Initial p) : Unaffected [] p := by
  obtain ⟨hsame, hsent, hrouter⟩ := h
  refine ⟨⟨?_, ?_, ?_, ?_⟩, ⟨?_, ?_⟩, ?_⟩
  · rw [hsame]
  · rw [hsame]
  · refine ⟨[], ?_⟩
    rw [hsame, hrouter]
    exact ⟨rfl, rfl⟩
  · intro recordingId
    rw [hsame, hrouter]
    rfl
  · rw [hsame, hsent, hrouter]
    rfl
  · rw [hsame]
  · intro answers hanswers
    cases hanswers

/-- In a run with recordings replayed at any points, in which live events find the queue of the
broadcaster as they would without the replays and sensors are read while no replay disturbs
them: every reading of a sensor, the status of every device, the live events that the broadcaster
has taken, in order, and those that each recorder has are what they are without the replays. -/
theorem replay_noninterference {trace : List (StreamEvent × List SensorAnswers)} {p : ReplayTwin}
    (hrun : (replayTwin.restrict ReplayTwin.Harmless).Run trace p) :
    (∀ answers ∈ Machine.outputs trace, answers.shown = answers.plain) ∧
    (∀ deviceId, p.shown.status.get deviceId = p.plain.status.get deviceId) ∧
    (p.shown.sent ++ p.shown.router.broadcast).filter ReceivedEvent.isLive =
      p.plain.sent ++ p.plain.router.broadcast ∧
    ∀ recordingId, (p.shown.router.recorders.get? recordingId).map Recording.live =
      p.plain.router.recorders.get? recordingId := by
  have h : Unaffected trace p :=
    Machine.Run.induct (M := replayTwin.restrict ReplayTwin.Harmless) (P := Unaffected)
      (fun _ hinit => unaffected_initial hinit)
      (fun _ ih hstep => {
        related := ReplayTwin.related_step ih.related hstep.2
        abreast := ReplayTwin.abreast_step ih.abreast ih.related hstep.1 hstep.2
        answers := by
          intro answers hanswers
          rw [Machine.outputs_append, Machine.outputs_singleton] at hanswers
          rcases List.mem_append.mp hanswers with hbefore | hnow
          · exact ih.answers answers hbefore
          · exact ReplayTwin.answers_step ih.related hstep.1 hstep.2 answers hnow }) hrun
  refine ⟨h.answers, ?_, h.abreast.received, h.related.recorders⟩
  intro deviceId
  rw [h.related.status]

def thermometerReading (eventId : String) (celsius : ℤ) (receivedAt : Instant) :
    ReceivedEvent where
  eventId := eventId
  deviceId := "hub"
  category := .sensor
  name := "sensor.temperature"
  values := ⟨[("celsius", .int celsius)], List.nodup_singleton _⟩
  receivedAt := receivedAt
  heldBy := none

def yesterday : Recording where
  recordingId := "rec-1"
  sessionId := "lesson"
  startedAt := 0
  events := [⟨0, thermometerReading "event-1" 99 0⟩]

def quietTwin : ReplayTwin :=
  let start : LiveRuntime := { room := { authority := { instructorPasscode := "3f9a1c20" } } }
  ⟨start, start⟩

/-- The queue has room, and the last reading is a live one. -/
def ReplayTwin.isFresh (p : ReplayTwin) : StreamEvent → Bool
  | .published _ => decide (p.shown.router.broadcast.length < EventRouter.broadcastLimit)
  | .sensorRead deviceId sensor =>
    (ClassroomApi.lastReading p.shown.room deviceId sensor).any ReceivedEvent.isLive
  | _ => true

theorem ReplayTwin.harmless_of_isFresh {p : ReplayTwin} {e : StreamEvent}
    (h : p.isFresh e = true) : p.Harmless e := by
  cases e with
  | published event => exact fun hfull => absurd (of_decide_eq_true h) (not_lt.mpr hfull)
  | sensorRead deviceId sensor =>
    obtain ⟨last, hlast, hlive⟩ := (Option.any_eq_true ..).mp h
    obtain ⟨hreading, pre, post, hhistory, hpost⟩ := find?_reverse_eq_some.mp hlast
    refine ⟨?_, fun _ => ⟨last, List.mem_of_find?_eq_some hlast |> List.mem_reverse.mp, hreading⟩⟩
    intro pre' event post' hhistory' hreading' hpost'
    have hsame : ClassroomApi.lastReading p.shown.room deviceId sensor = some event :=
      find?_reverse_eq_some.mpr ⟨hreading', pre', post', hhistory', hpost'⟩
    obtain rfl := Option.some.inj (hlast.symm.trans hsame)
    exact hlive
  | replayed recording => trivial
  | pumped => trivial
  | commandNoted => trivial
  | recordingStarted => trivial
  | recordingStopped => trivial

/-- Yesterday is replayed before today's reading. -/
theorem replay_noninterference_thermometer : ∃ trace p,
    (replayTwin.restrict ReplayTwin.Harmless).Run trace p ∧
    (Machine.outputs trace).length = 1 ∧ p.shown.router.history.length = 2 ∧
    ((∀ answers ∈ Machine.outputs trace, answers.shown = answers.plain) ∧
    (∀ deviceId, p.shown.status.get deviceId = p.plain.status.get deviceId) ∧
    (p.shown.sent ++ p.shown.router.broadcast).filter ReceivedEvent.isLive =
      p.plain.sent ++ p.plain.router.broadcast ∧
    ∀ recordingId, (p.shown.router.recorders.get? recordingId).map Recording.live =
      p.plain.router.recorders.get? recordingId) := by
  have hexec : ((Machine.execute ReplayTwin.step (fun p e => p.isFresh e = true) quietTwin
      [.replayed yesterday, .published ⟨thermometerReading "event-2" 20 60, rfl⟩, .pumped,
        .sensorRead "hub" "temperature"]).any fun last =>
      decide ((Machine.outputs last.2).length = 1 ∧
        last.1.shown.router.history.length = 2)) = true := by
    decide
  obtain ⟨last, hlast, hend⟩ := (Option.any_eq_true ..).mp hexec
  have hrun := (Machine.run_of_execute (M := replayTwin) ⟨rfl, rfl, rfl⟩ id hlast).mono
    ReplayTwin.harmless_of_isFresh
  obtain ⟨hanswers, hhistory⟩ := of_decide_eq_true hend
  exact ⟨_, _, hrun, hanswers, hhistory, replay_noninterference hrun⟩

/-- Yesterday is replayed after today's reading: the sensor reads what it read yesterday. -/
theorem replayed_reading_answered : ∃ trace p, replayTwin.Run trace p ∧
    ∃ answers ∈ Machine.outputs trace, answers.shown ≠ answers.plain := by
  have hexec : ((Machine.execute ReplayTwin.step (fun _ _ => True) quietTwin
      [.published ⟨thermometerReading "event-2" 20 60, rfl⟩, .replayed yesterday,
        .sensorRead "hub" "temperature"]).any fun last =>
      (Machine.outputs last.2).any fun answers =>
        decide ((answers.shown.bind (·.get? "celsius")).bind JsonValue.int? ≠
          (answers.plain.bind (·.get? "celsius")).bind JsonValue.int?)) = true := by
    decide
  obtain ⟨last, hlast, hend⟩ := (Option.any_eq_true ..).mp hexec
  have hrun := (Machine.run_of_execute (M := replayTwin) ⟨rfl, rfl, rfl⟩ id hlast).of_restrict
  obtain ⟨answers, hanswers, hdiffer⟩ := List.any_eq_true.mp hend
  refine ⟨_, _, hrun, answers, hanswers, ?_⟩
  intro hsame
  apply of_decide_eq_true hdiffer
  rw [hsame]

end CitPhysicalXR.Runtime
