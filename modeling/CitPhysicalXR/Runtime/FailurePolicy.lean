import CitPhysicalXR.Runtime.ClassroomApi
import CitPhysicalXR.Runtime.DeviceBinding

/-! The failure policy of a physical session: what a command that fails stops, and what is left in
the audit, while the other tasks go on at every await. -/
namespace CitPhysicalXR.Runtime
open Foundation

namespace Classroom
variable (s : Classroom)

def isPhysical (deviceId : String) : Prop := (s.devices.get? deviceId).any (·.physical) = true

structure Extends (after : Classroom) : Prop where
  audit : s.audit <+: after.audit
  physical : ∀ deviceId, s.isPhysical deviceId → after.isPhysical deviceId

def Audits (after : Classroom) (action : AuditAction) (fields : AuditContext) : Prop :=
  ∃ entry ∈ after.audit.drop s.audit.length, entry.action = action ∧
    ∀ field ∈ fields, field ∈ entry.context

end Classroom

/-- A command that has its turn, and the room around it. -/
structure Dispatching where
  room : Classroom
  progress : Progress

/-- Its turn, the answers of the adapters, and what the other tasks do meanwhile. -/
inductive DispatchEvent where
  | turn (reading : Reading)
  | executed (reply : AdapterReply) (reading : Reading)
  | stopped (reply : AdapterReply) (reading : Reading)
  | others (room : Classroom)

namespace DispatchEvent

def isStopped : DispatchEvent → Bool
  | stopped .. => true
  | _ => false

/-- The adapter of the command has come back with a result. -/
def result? : DispatchEvent → Option CommandResult
  | executed (.returned result _) _ => some result
  | _ => none

def raises : DispatchEvent → Bool
  | executed .raised _ | stopped .raised _ => true
  | _ => false

end DispatchEvent

inductive AdapterCall where
  | execute (command : DeviceCommandIntent)
  | stop (deviceId reason : String)

/-- The adapter that a request waits for. -/
def Progress.calls : Progress → List AdapterCall
  | .waits (.executing run) => [.execute run.command]
  | .waits (.stoppingGroup run _ deviceId _ _ _) =>
    [.stop deviceId (Classroom.failureReason run)]
  | _ => []

namespace Dispatching
variable (s : Dispatching)

def resumed (reading : Reading) (task : Suspended) (reply : AdapterReply) :
    Dispatching × List AdapterCall :=
  let (room, progress) := s.room.resume reading task reply
  (⟨room, progress⟩, progress.calls)

/-- Nothing is awaited between the turn of a command and its adapter. -/
def step : DispatchEvent → Option (Dispatching × List AdapterCall)
  | .turn reading =>
    match s.progress with
    | .waits (.queued item form) => some (s.resumed reading (.queued item form) .raised)
    | _ => none
  | .executed reply reading =>
    match s.progress with
    | .waits (.executing run) => some (s.resumed reading (.executing run) reply)
    | _ => none
  | .stopped reply reading =>
    match s.progress with
    | .waits (.stoppingGroup run result deviceId cleared rest stopped) =>
      some (s.resumed reading (.stoppingGroup run result deviceId cleared rest stopped) reply)
    | _ => none
  | .others room =>
    match s.progress with
    | .waits (.queued ..) => none
    | _ => some ({ s with room := room }, [])

/-- The other tasks append to the audit, and keep the physical devices of the registry. -/
def Keeps : DispatchEvent → Prop
  | .others room => s.room.Extends room
  | _ => True

end Dispatching

def dispatching (item : QueueItem) (form : CommandForm) (room : Classroom) :
    Machine Dispatching DispatchEvent AdapterCall where
  Initial s := s = ⟨room, .waits (.queued item form)⟩
  Step s event s' out := s.step event = some (s', out)

namespace Classroom
variable {s : Classroom}

theorem Extends.refl (s : Classroom) : s.Extends s := ⟨List.prefix_rfl, fun _ h => h⟩

theorem Extends.trans {first second third : Classroom} (h : first.Extends second)
    (h' : second.Extends third) : first.Extends third :=
  ⟨h.audit.trans h'.audit, fun _ hphysical => h'.physical _ (h.physical _ hphysical)⟩

/-- A step that records, or that leaves the audit alone, and leaves the registry alone. -/
theorem Extends.of_devices {after : Classroom} (haudit : s.audit <+: after.audit)
    (hdevices : after.devices = s.devices) : s.Extends after := by
  refine ⟨haudit, ?_⟩
  intro _ hphysical
  unfold isPhysical
  rw [hdevices]
  exact hphysical

theorem extends_record (action : AuditAction) (actorId : String) (at_ : Instant)
    (context : AuditContext) : s.Extends (s.record action actorId at_ context) :=
  .of_devices (List.prefix_append ..) rfl

theorem extends_reject (command : DeviceCommandIntent) (denial : Denial) (now : Instant) :
    s.Extends (s.reject command denial now) := extends_record ..

theorem extends_rejects (now : Instant) (answers : List StopReport) (current : Classroom) :
    current.Extends (answers.foldl (fun current answer =>
      match answer with
      | .discarded item denial => current.reject item.command denial now
      | _ => current) current) := by
  induction answers generalizing current with
  | nil => exact .refl current
  | cons answer answers ih =>
    rw [List.foldl_cons]
    refine .trans ?_ (ih _)
    split
    · exact extends_reject ..
    · exact .refl current

theorem extends_discard (deviceId reason : String) (now : Instant) :
    s.Extends (s.discard deviceId reason now).1 := by
  have hdropped : s.Extends (s.withPipeline (s.pipeline.discard (some deviceId) reason).1) :=
    .of_devices List.prefix_rfl rfl
  exact hdropped.trans (extends_rejects now _ _)

theorem extends_recordDispatch (run : CommandRun) (reports : List DispatchReport) :
    s.Extends (recordDispatch run reports s) := by
  induction reports generalizing s with
  | nil => exact .refl s
  | cons report reports ih =>
    cases report with
    | denied command denial => exact (extends_reject ..).trans ih
    | clamped command clampedFields => exact (extends_record ..).trans ih
    | executed execution => exact ih

theorem extends_stopped (deviceId reason actorId : String) (cleared : ℕ)
    (events : List ReceivedEvent) (now : Instant) :
    s.Extends (s.stopped deviceId reason actorId cleared events now) :=
  .of_devices (List.prefix_append ..) rfl

theorem Audits.mono {middle after : Classroom} {action : AuditAction} {fields : AuditContext}
    (h : s.Audits middle action fields) (hextends : middle.Extends after) :
    s.Audits after action fields := by
  obtain ⟨entry, hmem, hentry⟩ := h
  exact ⟨entry, (hextends.audit.drop s.audit.length).subset hmem, hentry⟩

/-- The fields of a context that the audit shows as they are. -/
def isAuditable (key : String) : Bool :=
  !(forbiddenSubstrings.any fun text => text.toList <:+: (key.toList.map Char.toLower)) &&
    decide (key ∈ allowedContextKeys)

theorem mem_redact {context : AuditContext} {key : String} {value : JsonValue}
    (hkey : isAuditable key = true) (h : (key, value) ∈ context) :
    (key, value) ∈ redact context := by
  obtain ⟨hforbidden, hallowed⟩ := Bool.and_eq_true_iff.mp hkey
  refine List.mem_filterMap.mpr ⟨_, h, ?_⟩
  rw [Bool.not_eq_true'] at hforbidden
  simp only [hforbidden, Bool.false_eq_true, if_false]
  exact if_pos (of_decide_eq_true hallowed)

theorem audits_record {middle : Classroom} (hextends : s.Extends middle) (action : AuditAction)
    (actorId : String) (at_ : Instant) {context fields : AuditContext}
    (hfields : ∀ field ∈ fields, field ∈ context)
    (hkeys : fields.all (fun field => isAuditable field.1) = true) :
    s.Audits (middle.record action actorId at_ context) action fields := by
  refine ⟨⟨middle.audit.length + 1, at_, action, actorId, redact context⟩, ?_, rfl, ?_⟩
  · have hlength := hextends.audit.length_le
    rw [record, List.drop_append_of_le_length hlength]
    exact List.mem_append_right _ (List.mem_singleton_self _)
  · intro field hfield
    exact mem_redact (List.all_eq_true.mp hkeys field hfield) (hfields field hfield)

end Classroom

theorem CommandPipeline.dispatch_reports (p : CommandPipeline) (command : DeviceCommandIntent)
    (reading : Reading) :
    (∃ denial, (p.dispatch command reading).2 = [.denied command denial]) ∨
      (p.sessions.get? command.sessionId).isSome = true ∧
        ∃ clamps execution, (p.dispatch command reading).2 = clamps ++ [.executed execution] ∧
          (clamps = [] ∨ ∃ clampedFields, clamps = [.clamped command clampedFields]) := by
  unfold dispatch
  split
  · exact .inl ⟨_, rfl⟩
  · rename_i session device hresolved
    have hsession : (p.sessions.get? command.sessionId).isSome = true := by
      unfold resolve at hresolved
      split at hresolved
      · cases hresolved
      · rename_i hfound
        rw [hfound]
        rfl
    simp only
    split
    · exact .inl ⟨_, rfl⟩
    · simp only [authorize]
      split
      · exact .inl ⟨_, rfl⟩
      · split
        · exact .inl ⟨_, rfl⟩
        · refine .inr ⟨hsession, _, _, rfl, ?_⟩
          split
          · exact .inl rfl
          · exact .inr ⟨_, rfl⟩

namespace Classroom
variable {s : Classroom}

theorem pipeline_session {sessionId : String} (hnone : s.sessions.get? sessionId = none) :
    s.pipeline.sessions.get? sessionId = none := by
  refine Table.get?_eq_none.mpr ?_
  intro session hmem
  obtain ⟨full, hfull, rfl⟩ := List.mem_map.mp hmem
  exact Table.get?_eq_none.mp hnone full hfull

/-- The fields of a refusal that the audit shows. -/
def deniedFields (command : DeviceCommandIntent) (denial : Denial) : AuditContext :=
  [("commandId", .str command.commandId), ("deviceId", .str command.deviceId),
    ("sessionId", .str command.sessionId), ("code", .str denial.code.value),
    ("reason", .str denial.reason)]

theorem audits_reject {middle : Classroom} (hextends : s.Extends middle)
    (command : DeviceCommandIntent) (denial : Denial) (now : Instant) :
    s.Audits (middle.reject command denial now) .commandDenied (deniedFields command denial) := by
  refine audits_record hextends .commandDenied _ _ ?_ ?_
  · simp [deniedFields]
  · simp only [deniedFields, List.all_cons, List.all_nil]
    decide

/-- A command is refused and recorded as denied, or it goes to its adapter with its session. -/
theorem dispatch_course (reading : Reading) (item : QueueItem) (form : CommandForm) :
    s.Extends (s.dispatch reading item form).1 ∧
      ((∃ denial, (s.dispatch reading item form).2 =
          .done (deniedReply form item.command.deviceId denial) ∧
        s.Audits (s.dispatch reading item form).1 .commandDenied
          (deniedFields item.command denial)) ∨
      ∃ run : CommandRun, (s.dispatch reading item form).2 = .waits (.executing run) ∧
        run.command = item.command ∧
        s.sessions.get? item.command.sessionId = some run.session) := by
  simp only [dispatch]
  generalize hpopped : ({ s.pipeline with
    queue := s.queue.filter fun other => decide (other.tiebreak ≠ item.tiebreak) } :
      CommandPipeline) = popped
  have hsessions : popped.sessions = s.pipeline.sessions := by
    rw [← hpopped]
  have hreports := popped.dispatch_reports item.command reading
  rw [hsessions] at hreports
  generalize popped.dispatch item.command reading = dispatched at hreports
  obtain ⟨dispatched, reports⟩ := dispatched
  have hafter : s.Extends (s.withPipeline dispatched) := .of_devices List.prefix_rfl rfl
  simp only at hreports
  cases hsession : s.sessions.get? item.command.sessionId with
  | none =>
    rcases hreports with ⟨denial, rfl⟩ | ⟨hsome, _⟩
    · exact ⟨hafter.trans (extends_reject ..), .inl ⟨denial, rfl, audits_reject hafter ..⟩⟩
    · rw [pipeline_session hsession] at hsome
      cases hsome
  | some session =>
    refine ⟨hafter.trans (extends_recordDispatch ..), ?_⟩
    rcases hreports with ⟨denial, rfl⟩ |
      ⟨_, clamps, execution, rfl, rfl | ⟨fields, rfl⟩⟩
    · exact .inl ⟨denial, rfl, audits_reject hafter ..⟩
    · exact .inr ⟨_, rfl, rfl, rfl⟩
    · exact .inr ⟨_, rfl, rfl, rfl⟩

def outcomeFields (command : DeviceCommandIntent) (result : CommandResult) : AuditContext :=
  [("commandId", .str command.commandId), ("deviceId", .str command.deviceId),
    ("sessionId", .str command.sessionId), ("result", .str result.status)]

theorem extends_accept (run : CommandRun) (result : CommandResult) :
    s.Extends (s.accept run result).1 := extends_record ..

theorem audits_accept {middle : Classroom} (hextends : s.Extends middle) (run : CommandRun)
    (result : CommandResult) :
    s.Audits (middle.accept run result).1 .commandAccepted
      (outcomeFields run.command result) := by
  refine audits_record hextends .commandAccepted _ _ ?_ ?_
  · simp [outcomeFields]
  · simp only [outcomeFields, List.all_cons, List.all_nil]
    decide

/-- A device that the failure policy passes over. -/
def PassedOver (s : Classroom) (run : CommandRun) (deviceId : String) : Prop :=
  deviceId = run.command.deviceId ∨ ¬s.isPhysical deviceId

/-- From a device of the group on, the policy waits for the next device that is not passed over,
or the execution is recorded. -/
theorem stopGroup_course (run : CommandRun) (result : CommandResult)
    (group stopped : List String) :
    s.Extends (stopGroup run result group stopped s).1 ∧
      ((∃ deviceId cleared rest, (stopGroup run result group stopped s).2 =
          .waits (.stoppingGroup run result deviceId cleared rest stopped) ∧
        rest.length < group.length ∧
        ∀ other ∈ group, s.PassedOver run other ∨ other = deviceId ∨ other ∈ rest) ∨
      (stopGroup run result group stopped s).2 = .done (executedReply run result) ∧
        (∀ other ∈ group, s.PassedOver run other) ∧
        s.Audits (stopGroup run result group stopped s).1 .commandAccepted
          (outcomeFields run.command result)) := by
  induction group with
  | nil =>
    refine ⟨(extends_record ..).trans (extends_accept ..), .inr ⟨rfl, nofun, ?_⟩⟩
    exact audits_accept (extends_record ..) run result
  | cons first group ih =>
    unfold stopGroup
    split
    · refine ⟨extends_discard .., .inl ⟨first, _, group, rfl, Nat.lt_succ_self _, ?_⟩⟩
      intro other hother
      exact .inr (List.mem_cons.mp hother)
    · rename_i hpassed
      have hfirst : s.PassedOver run first := by
        rw [Classical.not_and_iff_not_or_not, not_not] at hpassed
        exact hpassed
      refine ⟨ih.1, ?_⟩
      rcases ih.2 with ⟨deviceId, cleared, rest, hwaits, hlength, hrest⟩ |
        ⟨hdone, hall, haudits⟩
      · refine .inl ⟨deviceId, cleared, rest, hwaits, Nat.lt_succ_of_lt hlength, ?_⟩
        intro other hother
        rcases List.mem_cons.mp hother with rfl | hother
        · exact .inl hfirst
        · exact hrest other hother
      · refine .inr ⟨hdone, ?_, haudits⟩
        intro other hother
        rcases List.mem_cons.mp hother with rfl | hother
        · exact hfirst
        · exact hall other hother

end Classroom

/-- The session stops its other devices when one of them fails. -/
def ClassroomSession.Coordinates (session : ClassroomSession) : Prop :=
  session.executionMode = .physical ∧ session.failurePolicy = .stopCoordinated

/-- What a dispatch has done since its turn. -/
abbrev DispatchTrace := List (DispatchEvent × List AdapterCall)

namespace DispatchTrace

def stops (trace : DispatchTrace) : ℕ := trace.countP fun entry => entry.1.isStopped

def Raised (trace : DispatchTrace) : Prop := ∃ entry ∈ trace, entry.1.raises = true

def Executed (trace : DispatchTrace) (result : CommandResult) : Prop :=
  ∃ entry ∈ trace, entry.1.result? = some result

variable {trace : DispatchTrace} {event : DispatchEvent} {out : List AdapterCall}

theorem stops_concat (trace : DispatchTrace) (event : DispatchEvent) (out : List AdapterCall) :
    stops (trace ++ [(event, out)]) = stops trace + if event.isStopped = true then 1 else 0 := by
  rw [stops, List.countP_append, List.countP_singleton]
  rfl

theorem Raised.concat (h : Raised trace) : Raised (trace ++ [(event, out)]) := by
  obtain ⟨entry, hmem, hraised⟩ := h
  exact ⟨entry, List.mem_append_left _ hmem, hraised⟩

theorem raised_last (h : event.raises = true) : Raised (trace ++ [(event, out)]) :=
  ⟨_, List.mem_append_right _ (List.mem_singleton_self _), h⟩

theorem executed_concat {result : CommandResult} (h : Executed (trace ++ [(event, out)]) result) :
    Executed trace result ∨ event.result? = some result := by
  obtain ⟨entry, hmem, hresult⟩ := h
  rcases List.mem_append.mp hmem with hmem | hmem
  · exact .inl ⟨entry, hmem, hresult⟩
  · obtain rfl := List.mem_singleton.mp hmem
    exact .inr hresult

end DispatchTrace

namespace Dispatching
open Classroom DispatchTrace

def stopFields (deviceId reason : String) : AuditContext :=
  [("deviceId", .str deviceId), ("reason", .str reason)]

structure Stopped (start : Classroom) (reason : String) (trace : DispatchTrace) (room : Classroom)
    (deviceId : String) : Prop where
  called : .stop deviceId reason ∈ Machine.outputs trace
  audited : start.Audits room .emergencyStop (stopFields deviceId reason)

variable {deviceId : String} {trace : DispatchTrace} {form : CommandForm} {s : Dispatching}

theorem Stopped.mono {start room room' : Classroom} {reason : String}
    (h : Stopped start reason trace room deviceId)
    (hextends : room.Extends room') (entry : DispatchEvent × List AdapterCall) :
    Stopped start reason (trace ++ [entry]) room' deviceId := by
  refine ⟨?_, h.audited.mono hextends⟩
  rw [Machine.outputs_append]
  exact List.mem_append_left _ h.called

/-- The command of an item is with its adapter, for the session found at its turn. -/
def RunOf (start : Classroom) (item : QueueItem) (run : CommandRun) : Prop :=
  run.command = item.command ∧ start.sessions.get? item.command.sessionId = some run.session

/-- A device that the policy passes over, or that has stopped. -/
def Settled (start : Classroom) (run : CommandRun) (trace : DispatchTrace) (room : Classroom)
    (deviceId : String) : Prop :=
  start.PassedOver run deviceId ∨ Stopped start (failureReason run) trace room deviceId

theorem Settled.mono {start room room' : Classroom} {run : CommandRun}
    (h : Settled start run trace room deviceId)
    (hextends : room.Extends room') (entry : DispatchEvent × List AdapterCall) :
    Settled start run (trace ++ [entry]) room' deviceId := by
  rcases h with hpassed | hstopped
  · exact .inl hpassed
  · exact .inr (hstopped.mono hextends entry)

theorem passedOver_of_extends {start room : Classroom} {run : CommandRun}
    (hextends : start.Extends room) (h : room.PassedOver run deviceId) :
    start.PassedOver run deviceId := by
  rcases h with hfailed | hphysical
  · exact .inl hfailed
  · exact .inr fun hstart => hphysical (hextends.physical _ hstart)

/-- Where a dispatch stands, since the room at its turn. -/
inductive Course (start : Classroom) (item : QueueItem) (form : CommandForm) :
    DispatchTrace → Dispatching → Prop
  | turn : Course start item form [] ⟨start, .waits (.queued item form)⟩
  | executing {trace room run} (hextends : start.Extends room) (hrun : RunOf start item run)
      (hstops : stops trace = 0) (hresult : ∀ result, ¬Executed trace result)
      (hcalled : Machine.outputs trace ≠ []) :
      Course start item form trace ⟨room, .waits (.executing run)⟩
  | stopping {trace room run result deviceId cleared rest stopped}
      (hextends : start.Extends room) (hrun : RunOf start item run)
      (hstops : stops trace + rest.length < run.session.deviceBindings.length)
      (hresult : ∀ other, Executed trace other → other = result)
      (hcalled : .stop deviceId (failureReason run) ∈ Machine.outputs trace)
      (hgroup : ∀ other ∈ run.session.deviceBindings,
        Settled start run trace room other ∨ other = deviceId ∨ other ∈ rest) :
      Course start item form trace
        ⟨room, .waits (.stoppingGroup run result deviceId cleared rest stopped)⟩
  | refused {trace room denial} (hextends : start.Extends room) (hstops : stops trace = 0)
      (hresult : ∀ result, ¬Executed trace result) (hcalls : Machine.outputs trace = [])
      (haudits : start.Audits room .commandDenied (deniedFields item.command denial)) :
      Course start item form trace
        ⟨room, .done (deniedReply form item.command.deviceId denial)⟩
  | raised {trace room run reply} (hextends : start.Extends room) (hrun : RunOf start item run)
      (hstops : stops trace ≤ run.session.deviceBindings.length)
      (hcalled : Machine.outputs trace ≠ []) (hraised : Raised trace) :
      Course start item form trace ⟨room, .done reply⟩
  | finished {trace room run result} (hextends : start.Extends room)
      (hrun : RunOf start item run)
      (hstops : stops trace ≤ run.session.deviceBindings.length)
      (hcalled : Machine.outputs trace ≠ [])
      (hresult : ∀ other, Executed trace other → other = result)
      (haudits : start.Audits room .commandAccepted (outcomeFields item.command result))
      (hgroup : result.accepted = false → run.session.Coordinates →
        ∀ other ∈ run.session.deviceBindings, Settled start run trace room other) :
      Course start item form trace ⟨room, .done (executedReply run result)⟩

section Course
variable {start : Classroom} {item : QueueItem} {form : CommandForm} {trace : DispatchTrace}
  {s s' : Dispatching} {out : List AdapterCall}

theorem outputs_concat_ne {trace : DispatchTrace} (h : Machine.outputs trace ≠ [])
    (entry : DispatchEvent × List AdapterCall) : Machine.outputs (trace ++ [entry]) ≠ [] := by
  rw [Machine.outputs_append]
  exact List.append_ne_nil_of_left_ne_nil h _

theorem Course.turn_step (reading : Reading) :
    Course start item form
      [(.turn reading, (Progress.calls (start.dispatch reading item form).2))]
      ⟨(start.dispatch reading item form).1, (start.dispatch reading item form).2⟩ := by
  have hstops : stops [(.turn reading, (Progress.calls (start.dispatch reading item form).2))] =
      0 := rfl
  have hresult (result : CommandResult) : ¬Executed
      [(.turn reading, (Progress.calls (start.dispatch reading item form).2))] result := by
    intro hexecuted
    obtain ⟨entry, hmem, heq⟩ := hexecuted
    obtain rfl := List.mem_singleton.mp hmem
    cases heq
  obtain ⟨hextends, ⟨denial, hdone, haudits⟩ | ⟨run, hwaits, hcommand, hsession⟩⟩ :=
    start.dispatch_course reading item form
  · rw [hdone] at hstops hresult ⊢
    exact .refused hextends hstops hresult rfl haudits
  · rw [hwaits] at hstops hresult ⊢
    exact .executing hextends ⟨hcommand, hsession⟩ hstops hresult (by simp [Progress.calls])

theorem Course.group_step {room : Classroom} {run : CommandRun} {result : CommandResult}
    {rest stopped : List String} {event : DispatchEvent} (hextends : start.Extends room)
    (hrun : RunOf start item run)
    (hstops : stops (trace ++ [(event, (stopGroup run result rest stopped room).2.calls)]) +
      rest.length ≤ run.session.deviceBindings.length)
    (hresult : ∀ other,
      Executed (trace ++ [(event, (stopGroup run result rest stopped room).2.calls)]) other →
        other = result)
    (hcalled : Machine.outputs trace ≠ [])
    (hgroup : ∀ other ∈ run.session.deviceBindings,
      Settled start run trace room other ∨ other ∈ rest) :
    Course start item form (trace ++ [(event, (stopGroup run result rest stopped room).2.calls)])
      ⟨(stopGroup run result rest stopped room).1,
        (stopGroup run result rest stopped room).2⟩ := by
  obtain ⟨hafter, ⟨deviceId, cleared, next, hwaits, hlength, hnext⟩ |
      ⟨hdone, hpassed, haudits⟩⟩ :=
    room.stopGroup_course run result rest stopped
  · rw [hwaits] at hstops hresult ⊢
    refine .stopping (hextends.trans hafter) hrun ?_ hresult ?_ ?_
    · omega
    · rw [Machine.outputs_append]
      exact List.mem_append_right _ (List.mem_singleton_self _)
    · intro other hother
      rcases hgroup other hother with hsettled | hrest
      · exact .inl (hsettled.mono hafter _)
      · rcases hnext other hrest with hpassed | hwaiting
        · exact .inl (.inl (passedOver_of_extends hextends hpassed))
        · exact .inr hwaiting
  · rw [hdone] at hstops hresult ⊢
    refine .finished (hextends.trans hafter) hrun ?_ (outputs_concat_ne hcalled _) hresult ?_ ?_
    · omega
    · rw [← hrun.1]
      obtain ⟨entry, hmem, hentry⟩ := haudits
      exact ⟨entry, List.drop_subset_drop_left _ hextends.audit.length_le hmem, hentry⟩
    · intro _ _ other hother
      rcases hgroup other hother with hsettled | hrest
      · exact hsettled.mono hafter _
      · exact .inl (passedOver_of_extends hextends (hpassed other hrest))

/-- Where other tasks leave the dispatch. -/
theorem Course.others_step {room : Classroom} (h : Course start item form trace s)
    (hextends : s.room.Extends room) (hturn : s.progress ≠ .waits (.queued item form)) :
    Course start item form (trace ++ [(.others room, [])]) ⟨room, s.progress⟩ := by
  have hstops : stops (trace ++ [(.others room, [])]) = stops trace := stops_concat ..
  have hexecuted (result : CommandResult)
      (hlast : Executed (trace ++ [(.others room, [])]) result) :
      Executed trace result := by
    rcases executed_concat hlast with hexecuted | hevent
    · exact hexecuted
    · cases hevent
  have houtputs : Machine.outputs (trace ++ [(DispatchEvent.others room, [])]) =
      Machine.outputs trace := by
    rw [Machine.outputs_append, Machine.outputs_singleton, List.append_nil]
  cases h with
  | turn => exact absurd rfl hturn
  | executing hstart hrun hcount hresult hcalled =>
    exact .executing (hstart.trans hextends) hrun (hstops.trans hcount)
      (fun result hlast => hresult result (hexecuted result hlast)) (houtputs ▸ hcalled)
  | stopping hstart hrun hcount hresult hcalled hgroup =>
    refine .stopping (hstart.trans hextends) hrun (hstops ▸ hcount)
      (fun other hlast => hresult other (hexecuted other hlast)) (houtputs ▸ hcalled) ?_
    intro other hother
    rcases hgroup other hother with hsettled | hwaits
    · exact .inl (hsettled.mono hextends _)
    · exact .inr hwaits
  | refused hstart hcount hresult hcalls haudits =>
    exact .refused (hstart.trans hextends) (hstops.trans hcount)
      (fun result hlast => hresult result (hexecuted result hlast)) (houtputs.trans hcalls)
      (haudits.mono hextends)
  | raised hstart hrun hcount hcalled hraised =>
    exact .raised (hstart.trans hextends) hrun (hstops ▸ hcount) (houtputs ▸ hcalled)
      hraised.concat
  | finished hstart hrun hcount hcalled hresult haudits hgroup =>
    refine .finished (hstart.trans hextends) hrun (hstops ▸ hcount) (houtputs ▸ hcalled)
      (fun other hlast => hresult other (hexecuted other hlast)) (haudits.mono hextends) ?_
    intro hfailed hcoordinates other hother
    exact (hgroup hfailed hcoordinates other hother).mono hextends _

/-- The adapter of the command answers. -/
theorem Course.executed_step {room : Classroom} {run : CommandRun}
    (h : Course start item form trace ⟨room, .waits (.executing run)⟩) (reply : AdapterReply)
    (reading : Reading) :
    Course start item form
      (trace ++ [(.executed reply reading, (room.resume reading (.executing run) reply).2.calls)])
      ⟨(room.resume reading (.executing run) reply).1,
        (room.resume reading (.executing run) reply).2⟩ := by
  cases h with
  | executing hstart hrun hcount hresult hcalled =>
    have hstops (out : List AdapterCall) :
        stops (trace ++ [(.executed reply reading, out)]) = 0 :=
      (stops_concat ..).trans hcount
    cases reply with
    | raised =>
      exact .raised hstart hrun ((hstops _).symm ▸ Nat.zero_le _) (outputs_concat_ne hcalled _)
        (raised_last rfl)
    | returned result events =>
      have hlast (out : List AdapterCall) (other : CommandResult)
          (hexecuted : Executed (trace ++ [(.executed (.returned result events) reading, out)])
            other) : other = result := by
        rcases executed_concat hexecuted with hbefore | hevent
        · exact absurd hbefore (hresult other)
        · cases hevent
          rfl
      have hpublished : start.Extends { room with router := (room.router.publishAll events).1 } :=
        hstart.trans (.of_devices List.prefix_rfl rfl)
      simp only [resume, executed]
      split
      · rename_i hquiet
        refine .finished (hpublished.trans (extends_accept ..)) hrun
          ((hstops _).symm ▸ Nat.zero_le _) (outputs_concat_ne hcalled _) (hlast _) ?_ ?_
        · rw [← hrun.1]
          exact audits_accept hpublished run result
        · intro hfailed hcoordinates
          rcases hquiet with haccepted | hmode | hpolicy
          · rw [hfailed] at haccepted
            cases haccepted
          · exact absurd hcoordinates.1 hmode
          · exact absurd hcoordinates.2 hpolicy
      · refine Course.group_step hpublished hrun ?_ (hlast _) hcalled (fun other => .inr)
        rw [hstops, Nat.zero_add]

/-- The stop of a device is answered. -/
theorem Course.stopped_step {room : Classroom} {run : CommandRun} {result : CommandResult}
    {deviceId : String} {cleared : ℕ} {rest stopped : List String}
    (h : Course start item form trace
      ⟨room, .waits (.stoppingGroup run result deviceId cleared rest stopped)⟩)
    (reply : AdapterReply) (reading : Reading) :
    Course start item form
      (trace ++ [(.stopped reply reading, (room.resume reading
        (.stoppingGroup run result deviceId cleared rest stopped) reply).2.calls)])
      ⟨(room.resume reading (.stoppingGroup run result deviceId cleared rest stopped) reply).1,
        (room.resume reading
          (.stoppingGroup run result deviceId cleared rest stopped) reply).2⟩ := by
  cases h with
  | stopping hstart hrun hcount hresult hcalled hgroup =>
    have hstops (out : List AdapterCall) :
        stops (trace ++ [(.stopped reply reading, out)]) = stops trace + 1 := stops_concat ..
    have hne : Machine.outputs trace ≠ [] := List.ne_nil_of_mem hcalled
    cases reply with
    | raised =>
      refine .raised hstart hrun ?_ (outputs_concat_ne hne _) (raised_last rfl)
      have hlast := hstops (Progress.calls (room.raised .unhandled).2)
      exact hlast ▸ (by omega)
    | returned other events =>
      have hafter : room.Extends (room.stopped deviceId (failureReason run) "system" cleared events
          reading.now) := extends_stopped ..
      have haudits : start.Audits (room.stopped deviceId (failureReason run) "system" cleared
          events reading.now) .emergencyStop (stopFields deviceId (failureReason run)) := by
        have hsupervised : start.Extends { room with
            router := (room.router.publishAll events).1
            supervisor := room.supervisor.disarm deviceId } :=
          hstart.trans (.of_devices List.prefix_rfl rfl)
        refine audits_record hsupervised .emergencyStop _ _ ?_ ?_
        · simp [stopFields]
        · simp only [stopFields, List.all_cons, List.all_nil]
          decide
      simp only [resume]
      refine Course.group_step (hstart.trans hafter) hrun ?_ ?_ hne ?_
      · rw [hstops]
        omega
      · intro second hexecuted
        rcases executed_concat hexecuted with hbefore | hevent
        · exact hresult second hbefore
        · cases hevent
      · intro second hsecond
        rcases hgroup second hsecond with (hpassed | hstopped) | rfl | hrest
        · exact .inl (.inl hpassed)
        · exact .inl (.inr ⟨hstopped.called, hstopped.audited.mono hafter⟩)
        · exact .inl (.inr ⟨hcalled, haudits⟩)
        · exact .inr hrest

end Course

theorem Course.step {start : Classroom} {item : QueueItem}
    {s' : Dispatching} {event : DispatchEvent} {out : List AdapterCall}
    (h : Course start item form trace s) (hkeeps : s.Keeps event)
    (hstep : s.step event = some (s', out)) :
    Course start item form (trace ++ [(event, out)]) s' := by
  obtain ⟨room, progress⟩ := s
  cases event with
  | turn reading =>
    cases h with
    | turn =>
      cases hstep
      exact Course.turn_step reading
    | executing => cases hstep
    | stopping => cases hstep
    | refused => cases hstep
    | raised => cases hstep
    | finished => cases hstep
  | executed reply reading =>
    unfold Dispatching.step at hstep
    dsimp only at hstep
    split at hstep
    · cases hstep
      exact h.executed_step reply reading
    · cases hstep
  | stopped reply reading =>
    unfold Dispatching.step at hstep
    dsimp only at hstep
    split at hstep
    · cases hstep
      exact h.stopped_step reply reading
    · cases hstep
  | others after =>
    unfold Dispatching.step at hstep
    dsimp only at hstep
    split at hstep
    · cases hstep
    · rename_i hturn
      cases hstep
      exact h.others_step hkeeps (hturn item form)

theorem course {item : QueueItem} {start : Classroom}
        (hrun : ((dispatching item form start).restrict Keeps).Run trace s) :
    Course start item form trace s :=
  Machine.Run.induct (M := (dispatching item form start).restrict Keeps)
    (P := fun trace s => Course start item form trace s) (fun _ hinit => hinit ▸ .turn)
    (fun _ ih hstep => ih.step hstep.1 hstep.2) hrun

/-- A dispatch that has not ended goes on at its turn, or when the adapter that it waits for
answers. -/
def GoesOn (s : Dispatching) (reply : AdapterReply) (reading : Reading) : Prop :=
  (∃ answer, s.progress = .done answer) ∨ (s.step (.turn reading)).isSome = true ∨
    (s.step (.executed reply reading)).isSome = true ∨
    (s.step (.stopped reply reading)).isSome = true

theorem Course.goesOn {start : Classroom} {item : QueueItem}
    (h : Course start item form trace s)
    (reply : AdapterReply) (reading : Reading) : s.GoesOn reply reading := by
  cases h with
  | turn => exact .inr (.inl rfl)
  | executing => exact .inr (.inr (.inl rfl))
  | stopping => exact .inr (.inr (.inr rfl))
  | refused => exact .inl ⟨_, rfl⟩
  | raised => exact .inl ⟨_, rfl⟩
  | finished => exact .inl ⟨_, rfl⟩

/-- A command that is refused is audited as denied and calls no adapter. When its adapter comes
back with a failure, and no adapter raises, the outcome is audited, and before the dispatch ends
every other physical device of a session that coordinates has stopped. A dispatch goes on until it
ends, and stops no more devices than its session has. -/
theorem failures_coordinated {item : QueueItem} {form : CommandForm} {start : Classroom}
    {trace : DispatchTrace} {s : Dispatching}
    (hrun : ((dispatching item form start).restrict Keeps).Run trace s) :
    (∀ reply reading, s.GoesOn reply reading) ∧
    (∀ answer, s.progress = .done answer → Machine.outputs trace = [] →
      ∃ denial, answer = deniedReply form item.command.deviceId denial ∧
        start.Audits s.room .commandDenied (deniedFields item.command denial)) ∧
    ∀ result, Executed trace result → result.accepted = false → ¬Raised trace →
      ∃ session, start.sessions.get? item.command.sessionId = some session ∧
        stops trace ≤ session.deviceBindings.length ∧
        ∀ answer, s.progress = .done answer →
          start.Audits s.room .commandAccepted (outcomeFields item.command result) ∧
          (session.Coordinates → ∀ deviceId ∈ session.deviceBindings,
            deviceId ≠ item.command.deviceId → start.isPhysical deviceId →
            Stopped start s!"failure policy: {item.command.deviceId} failed" trace s.room
              deviceId) := by
  have hcourse := course hrun
  refine ⟨hcourse.goesOn, ?_, ?_⟩
  · intro answer hdone hcalls
    cases hcourse with
    | turn => cases hdone
    | executing => cases hdone
    | stopping => cases hdone
    | refused _ _ _ _ haudits =>
      cases hdone
      exact ⟨_, rfl, haudits⟩
    | raised _ _ _ hcalled => exact absurd hcalls hcalled
    | finished _ _ _ hcalled => exact absurd hcalls hcalled
  · intro result hexecuted hfailed hraised
    cases hcourse with
    | turn =>
      obtain ⟨_, hmem, _⟩ := hexecuted
      cases hmem
    | executing _ _ _ hresult => exact absurd hexecuted (hresult result)
    | stopping _ hsession hcount =>
      exact ⟨_, hsession.2, by omega, nofun⟩
    | refused _ _ hresult => exact absurd hexecuted (hresult result)
    | raised _ _ _ _ h => exact absurd h hraised
    | finished _ hsession hcount _ hresult haudits hgroup =>
      obtain rfl := hresult result hexecuted
      refine ⟨_, hsession.2, hcount, ?_⟩
      intro answer _
      refine ⟨haudits, ?_⟩
      intro hcoordinates deviceId hbound hother hphysical
      have hreason : failureReason _ = s!"failure policy: {item.command.deviceId} failed" :=
        congrArg (fun command : DeviceCommandIntent =>
          s!"failure policy: {command.deviceId} failed") hsession.1
      rcases hgroup hfailed hcoordinates deviceId hbound with (hself | hsimulated) | hstopped
      · exact absurd (hsession.1 ▸ hself) hother
      · exact absurd hphysical hsimulated
      · exact hreason ▸ hstopped

end Dispatching

section Lesson
open Classroom DispatchTrace Dispatching

/-- A lesson binds two robots. -/
def robotGroup : List RuntimeEvent :=
  [.discovered labRobot, .discovered { labRobot with deviceId := "rover" },
    .connect "robot", .connected 0 none, .connect "rover", .connected 0 none,
    .createSession (labRequest "lesson-1") "student-1" 1,
    .bindDevices "lesson-1" ["robot", "rover"] 2]

def robotItem (capability : String) : QueueItem :=
  ⟨2, 0, { lightCommand "lesson-1" with capability := capability }, 0⟩

/-- The lesson coordinates, and the second robot is one of its physical devices. -/
def hasRover (room : Classroom) : Bool :=
  ((room.sessions.get? "lesson-1").any fun session =>
    decide (session.executionMode = .physical ∧ session.failurePolicy = .stopCoordinated ∧
      "rover" ∈ session.deviceBindings)) &&
    (room.devices.get? "rover").any (·.physical)

theorem hasRover_spec {room : Classroom} (h : hasRover room = true) :
    room.isPhysical "rover" ∧ ∃ session, room.sessions.get? "lesson-1" = some session ∧
      session.Coordinates ∧ "rover" ∈ session.deviceBindings := by
  obtain ⟨hsession, hphysical⟩ := Bool.and_eq_true_iff.mp h
  obtain ⟨session, hfound, hcoordinates⟩ := (Option.any_eq_true ..).mp hsession
  obtain ⟨hmode, hpolicy, hmem⟩ := of_decide_eq_true hcoordinates
  exact ⟨hphysical, session, hfound, ⟨hmode, hpolicy⟩, hmem⟩

/-- Nothing else goes on in the room. -/
def DispatchEvent.isAlone : DispatchEvent → Bool
  | .others _ => false
  | _ => true

theorem keeps_of_isAlone {s : Dispatching} {event : DispatchEvent} (h : event.isAlone = true) :
    s.Keeps event := by
  cases event with
  | turn => trivial
  | executed => trivial
  | stopped => trivial
  | others => cases h

def Progress.isDone : Progress → Bool
  | .done _ => true
  | .waits _ => false

def robotDispatch (capability : String) (events : List DispatchEvent) (room : Classroom) :
    Option (Dispatching × DispatchTrace) :=
  Machine.execute Dispatching.step (fun _ event => event.isAlone = true)
    ⟨room, .waits (.queued (robotItem capability) .console)⟩ events

theorem robotDispatch_run {capability : String} {events : List DispatchEvent} {room : Classroom}
    {last : Dispatching × DispatchTrace} (h : robotDispatch capability events room = some last) :
    ((dispatching (robotItem capability) .console room).restrict Keeps).Run last.2 last.1 :=
  (Machine.run_of_execute (M := dispatching (robotItem capability) .console room) rfl id h).mono
    keeps_of_isAlone

/-- The first robot fails at its light, and the second one stops. -/
theorem failures_coordinated_robots : ∃ start trace s,
    ((dispatching (robotItem "light.rgb") .console start).restrict Keeps).Run trace s ∧
      Stopped start "failure policy: robot failed" trace s.room "rover" := by
  have hexec : ((Machine.execute RuntimeState.step (fun _ _ => True) laboratory robotGroup).any
      fun lesson => hasRover lesson.1.room && (robotDispatch "light.rgb"
        [.turn ⟨3, 3, 3⟩, .executed (.returned { status := "failed" } []) ⟨4, 4, 4⟩,
          .stopped (.returned { status := "completed" } []) ⟨5, 5, 5⟩] lesson.1.room).any
            fun last => last.1.progress.isDone && (last.2.all fun entry => !entry.1.raises) &&
              last.2.any fun entry =>
                entry.1.result?.any fun result => !result.accepted) = true := by
    decide
  obtain ⟨lesson, _, hlesson⟩ := (Option.any_eq_true ..).mp hexec
  obtain ⟨hrover, hdispatch⟩ := Bool.and_eq_true_iff.mp hlesson
  obtain ⟨last, hlast, hended⟩ := (Option.any_eq_true ..).mp hdispatch
  obtain ⟨hended, hresult⟩ := Bool.and_eq_true_iff.mp hended
  obtain ⟨hdone, hreturns⟩ := Bool.and_eq_true_iff.mp hended
  obtain ⟨entry, hmem, hentry⟩ := List.any_eq_true.mp hresult
  obtain ⟨result, hresult, hfailed⟩ := (Option.any_eq_true ..).mp hentry
  have hraised : ¬Raised last.2 := by
    rintro ⟨entry, hmem, hraises⟩
    have hreturned := List.all_eq_true.mp hreturns entry hmem
    rw [hraises] at hreturned
    cases hreturned
  have hrun := robotDispatch_run hlast
  obtain ⟨hphysical, session, hsession, hcoordinates, hbound⟩ := hasRover_spec hrover
  obtain ⟨found, hfound, _, hended⟩ := (failures_coordinated hrun).2.2 result
    ⟨entry, hmem, hresult⟩ (by simpa using hfailed) hraised
  obtain rfl := Option.some.inj (hsession.symm.trans hfound)
  cases hprogress : last.1.progress with
  | waits task =>
    rw [hprogress] at hdone
    cases hdone
  | done answer =>
    exact ⟨_, _, _, hrun, (hended answer hprogress).2 hcoordinates "rover" hbound (by decide)
      hphysical⟩

def DispatchReport.denial? : DispatchReport → Option Denial
  | .denied _ denial => some denial
  | _ => none

/-- The supervisor denies the first robot its blaster: the dispatch is over, and the second one has
not been stopped. -/
theorem refusal_stops_nobody : ∃ lesson : RuntimeState, classroomRuntime.Reachable lesson ∧
    (∃ session, lesson.room.sessions.get? "lesson-1" = some session ∧ session.Coordinates ∧
      "rover" ∈ session.deviceBindings) ∧ lesson.room.isPhysical "rover" ∧
    ∃ trace s answer,
      ((dispatching (robotItem "weapon.blaster") .console lesson.room).restrict Keeps).Run
        trace s ∧ s.progress = .done answer ∧
        (∃ report ∈ (lesson.room.pipeline.dispatch (robotItem "weapon.blaster").command
          ⟨3, 3, 3⟩).2, ∃ denial, report.denial? = some denial ∧
            denial.code = .deviceCapabilityUnsupported) ∧
        ∀ reason, .stop "rover" reason ∉ Machine.outputs trace := by
  have hexec : ((Machine.execute RuntimeState.step (fun _ _ => True) laboratory robotGroup).any
      fun lesson => hasRover lesson.1.room &&
        ((lesson.1.room.pipeline.dispatch (robotItem "weapon.blaster").command ⟨3, 3, 3⟩).2.any
          fun report => report.denial?.any fun denial =>
            decide (denial.code = .deviceCapabilityUnsupported)) &&
        (robotDispatch "weapon.blaster" [.turn ⟨3, 3, 3⟩] lesson.1.room).any fun last =>
          last.1.progress.isDone && (Machine.outputs last.2).isEmpty) = true := by
    decide
  obtain ⟨lesson, hlesson, hlast⟩ := (Option.any_eq_true ..).mp hexec
  obtain ⟨hroom, hdispatch⟩ := Bool.and_eq_true_iff.mp hlast
  obtain ⟨hrover, hdenied⟩ := Bool.and_eq_true_iff.mp hroom
  obtain ⟨report, hreport, hdenial⟩ := List.any_eq_true.mp hdenied
  obtain ⟨denial, hdenial, hcode⟩ := (Option.any_eq_true ..).mp hdenial
  obtain ⟨last, hlast, hended⟩ := (Option.any_eq_true ..).mp hdispatch
  obtain ⟨hdone, hcalls⟩ := Bool.and_eq_true_iff.mp hended
  obtain ⟨hphysical, hsession⟩ := hasRover_spec hrover
  have hreached : classroomRuntime.Reachable lesson.1 :=
    (Machine.run_of_execute (M := classroomRuntime) ⟨rfl, rfl, rfl, rfl⟩ id
      hlesson).of_restrict.reachable
  cases hprogress : last.1.progress with
  | waits task =>
    rw [hprogress] at hdone
    cases hdone
  | done answer =>
    refine ⟨lesson.1, hreached, hsession, hphysical, last.2, last.1, answer,
      robotDispatch_run hlast, hprogress,
      ⟨report, hreport, denial, hdenial, of_decide_eq_true hcode⟩, ?_⟩
    intro reason hmem
    rw [List.isEmpty_iff.mp hcalls] at hmem
    cases hmem

end Lesson

end CitPhysicalXR.Runtime
