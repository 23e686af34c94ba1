import CitPhysicalXR.Runtime.ClassroomApi

/-! What belongs to whom in a classroom, and the steps that leave every holding as it is. -/
namespace CitPhysicalXR.Runtime
open Foundation

def SameArms (at_ : Instant) (before after : SafetySupervisor) : Prop :=
  ∀ arm, arm.isActive at_ = true → (arm ∈ after.arms ↔ arm ∈ before.arms)

namespace SameArms
variable {at_ : Instant} {first second third : SafetySupervisor}

theorem refl (first : SafetySupervisor) : SameArms at_ first first := fun _ _ => Iff.rfl

theorem trans (h : SameArms at_ first second) (h' : SameArms at_ second third) :
    SameArms at_ first third :=
  fun arm hactive => (h' arm hactive).trans (h arm hactive)

theorem of_eq (h : second.arms = first.arms) : SameArms at_ first second := by
  intro arm _
  rw [h]

theorem armState (s : SafetySupervisor) (deviceId : String) (at_ : Instant) :
    SameArms at_ s (s.armState deviceId at_).2 := by
  intro arm hactive
  unfold SafetySupervisor.armState
  split
  · rfl
  · rename_i found hfound
    split
    · rfl
    · rename_i hexpired
      simp only [SafetySupervisor.disarm, Table.mem_filterRows, decide_eq_true_eq,
        and_iff_left_iff_imp]
      intro hmem hdevice
      obtain ⟨hmem', hdevice'⟩ := Table.get?_some hfound
      obtain rfl := Table.eq_of_key_eq hmem hmem' (hdevice.trans hdevice'.symm)
      exact hexpired hactive

theorem evaluate (s : SafetySupervisor) (command : DeviceCommandIntent)
    (sessionDeviceIds : List String) (physical : Bool) (reading : Reading) :
    SameArms reading.checkedAt s (s.evaluate command sessionDeviceIds physical reading).2 := by
  have hlooked := armState s command.deviceId reading.checkedAt
  simp only [SafetySupervisor.evaluate]
  split
  · exact refl s
  · split
    · exact refl s
    · split
      · split <;> exact hlooked
      · exact refl s

end SameArms

theorem CommandPipeline.dispatch_arms (p : CommandPipeline) (command : DeviceCommandIntent)
    (reading : Reading) :
    SameArms reading.checkedAt p.supervisor (p.dispatch command reading).1.supervisor := by
  simp only [CommandPipeline.dispatch]
  split
  · exact .refl _
  · rename_i session device _
    split
    · exact .refl _
    · have hevaluated := SameArms.evaluate p.supervisor command session.deviceBindings
        (decide (session.executionMode = .physical) && device.physical) reading
      simp only [CommandPipeline.authorize]
      split
      · exact hevaluated
      · simp only [CommandPipeline.lease]
        split <;> exact hevaluated

namespace Classroom
variable (s : Classroom) (principal : Principal)

def Owns (sessionId : String) : Prop :=
  ∃ session ∈ s.sessions, session.sessionId = sessionId ∧ session.userId = principal.actorId

instance (sessionId : String) : Decidable (s.Owns principal sessionId) :=
  inferInstanceAs (Decidable (∃ session ∈ s.sessions.rows,
    session.sessionId = sessionId ∧ session.userId = principal.actorId))

/-- A device that is bound to a session of another actor. -/
def Withheld (deviceId : String) : Prop :=
  ∃ device ∈ s.devices, device.deviceId = deviceId ∧
    ∃ sessionId, device.assignedSessionId = some sessionId ∧ ¬s.Owns principal sessionId

/-- An event that was received while its device was bound to a session of another actor. -/
def IsForeignEvent (event : ReceivedEvent) : Prop :=
  ∃ sessionId, event.heldBy = some sessionId ∧ ¬s.Owns principal sessionId

/-- A record of another actor: an entry of the audit belongs to its actor and to the owner of its
session, a recording to the owner of its session. -/
def IsForeign : Record → Prop
  | .device _ => False
  | .session session => session.userId ≠ principal.actorId
  | .auditEntry entry => entry.actorId ≠ principal.actorId ∧
    ∀ sessionId, entry.session? = some sessionId → ¬s.Owns principal sessionId
  | .event event => s.IsForeignEvent principal event
  | .recording recording => ¬s.Owns principal recording.sessionId
  | .project project => ∃ owner, project.owner = some owner ∧ owner ≠ principal.actorId

/-- Nothing of another actor has changed or is gone: no session, no binding or active arm of a
device bound to one, no project, and no recording, in memory or on disk. -/
structure Undisturbed (at_ : Instant) (after : Classroom) : Prop where
  sessions : ∀ session ∈ s.sessions, session.userId ≠ principal.actorId →
    session ∈ after.sessions
  bindings : ∀ device ∈ s.devices, s.Withheld principal device.deviceId →
    ∃ kept ∈ after.devices, kept.deviceId = device.deviceId ∧
      kept.assignedSessionId = device.assignedSessionId
  arms : ∀ arm, s.Withheld principal arm.deviceId → arm.isActive at_ = true →
    (arm ∈ after.supervisor.arms ↔ arm ∈ s.supervisor.arms)
  projects : ∀ project ∈ s.projects, s.IsForeign principal (.project project) →
    project ∈ after.projects
  stored : ∀ recording ∈ s.store.stored, ¬s.Owns principal recording.sessionId →
    recording ∈ after.store.stored
  finished : ∀ recording ∈ s.finished, ¬s.Owns principal recording.sessionId →
    recording ∈ after.finished

/-- A part of a request, from one await to the next, neither disturbs another actor nor carries a
record of one. -/
structure Isolated (at_ : Instant) (turn : Classroom × Progress) : Prop where
  undisturbed : s.Undisturbed principal at_ turn.1
  records : ∀ record ∈ turn.2.records, ¬turn.1.IsForeign principal record

variable {s principal}

theorem mem_ownedSessions {sessionId : String} :
    sessionId ∈ s.ownedSessions principal ↔ s.Owns principal sessionId := by
  simp only [ownedSessions, List.mem_map, List.mem_filter, decide_eq_true_eq, Owns]
  constructor
  · intro h
    obtain ⟨session, ⟨hmem, huser⟩, hid⟩ := h
    exact ⟨session, hmem, hid, huser⟩
  · intro h
    obtain ⟨session, hmem, hid, huser⟩ := h
    exact ⟨session, ⟨hmem, huser⟩, hid⟩

/-- Every holding is as it was. -/
structure Steady (at_ : Instant) (before after : Classroom) : Prop where
  sessions : after.sessions = before.sessions
  devices : after.devices = before.devices
  arms : SameArms at_ before.supervisor after.supervisor
  projects : after.projects = before.projects
  stored : after.store.stored = before.store.stored
  finished : after.finished = before.finished

namespace Steady
variable {at_ : Instant} {first second third : Classroom}

theorem refl (first : Classroom) : Steady at_ first first :=
  ⟨rfl, rfl, .refl _, rfl, rfl, rfl⟩

theorem trans (h : Steady at_ first second) (h' : Steady at_ second third) :
    Steady at_ first third :=
  ⟨h'.sessions.trans h.sessions, h'.devices.trans h.devices, h.arms.trans h'.arms,
    h'.projects.trans h.projects, h'.stored.trans h.stored, h'.finished.trans h.finished⟩

theorem owns (h : Steady at_ first second) {sessionId : String} :
    second.Owns principal sessionId ↔ first.Owns principal sessionId := by
  unfold Owns
  rw [h.sessions]

theorem isForeign (h : Steady at_ first second) (record : Record) :
    second.IsForeign principal record ↔ first.IsForeign principal record := by
  cases record <;> simp only [IsForeign, IsForeignEvent, h.owns]

theorem undisturbed (h : Steady at_ first second) : first.Undisturbed principal at_ second where
  sessions session hmem _ := by rwa [h.sessions]
  bindings device hmem _ := ⟨device, by rwa [h.devices], rfl, rfl⟩
  arms arm _ hactive := h.arms arm hactive
  projects project hmem _ := by rwa [h.projects]
  stored recording hmem _ := by rwa [h.stored]
  finished recording hmem _ := by rwa [h.finished]

/-- A response after a steady turn is judged as before it. -/
theorem isolated (h : Steady at_ first second) {progress : Progress} :
    first.Isolated principal at_ (second, progress) ↔
      ∀ record ∈ progress.records, ¬first.IsForeign principal record := by
  constructor
  · intro hisolated record hrecord
    rw [← h.isForeign]
    exact hisolated.records record hrecord
  · intro hrecords
    refine ⟨h.undisturbed, ?_⟩
    intro record hrecord
    rw [h.isForeign]
    exact hrecords record hrecord

/-- A turn that carries nothing. -/
theorem silent (h : Steady at_ first second) {progress : Progress}
    (hsilent : progress.records = []) :
    first.Isolated principal at_ (second, progress) := by
  rw [h.isolated, hsilent]
  simp

end Steady

/-- What follows a disturbance, or does not, changes nothing about it. -/
theorem Undisturbed.steady {at_ : Instant} {middle after : Classroom}
    (h : s.Undisturbed principal at_ middle) (hsteady : Steady at_ middle after) :
    s.Undisturbed principal at_ after where
  sessions session hmem hother := by
    rw [hsteady.sessions]
    exact h.sessions session hmem hother
  bindings device hmem hwithheld := by
    rw [hsteady.devices]
    exact h.bindings device hmem hwithheld
  arms arm hwithheld hactive :=
    (hsteady.arms arm hactive).trans (h.arms arm hwithheld hactive)
  projects project hmem hforeign := by
    rw [hsteady.projects]
    exact h.projects project hmem hforeign
  stored recording hmem hother := by
    rw [hsteady.stored]
    exact h.stored recording hmem hother
  finished recording hmem hother := by
    rw [hsteady.finished]
    exact h.finished recording hmem hother

section Steps
variable (s) (at_ : Instant)

theorem steady_record (action : AuditAction) (actorId : String) (time : Instant)
    (context : AuditContext) : Steady at_ s (s.record action actorId time context) :=
  ⟨rfl, rfl, .refl _, rfl, rfl, rfl⟩

theorem steady_reject (command : DeviceCommandIntent) (denial : Denial) (now : Instant) :
    Steady at_ s (s.reject command denial now) := s.steady_record ..

theorem steady_router (router : EventRouter) : Steady at_ s { s with router := router } :=
  ⟨rfl, rfl, .refl _, rfl, rfl, rfl⟩

theorem steady_supervisor {at_ : Instant} {supervisor : SafetySupervisor}
    (harms : SameArms at_ s.supervisor supervisor) :
    Steady at_ s { s with supervisor := supervisor } :=
  ⟨rfl, rfl, harms, rfl, rfl, rfl⟩

theorem steady_rejects (now : Instant) (answers : List StopReport) (current : Classroom) :
    Steady at_ current (answers.foldl (fun current answer =>
      match answer with
      | .discarded item denial => current.reject item.command denial now
      | _ => current) current) := by
  induction answers generalizing current with
  | nil => exact .refl current
  | cons answer answers ih =>
    rw [List.foldl_cons]
    refine .trans ?_ (ih _)
    split
    · exact current.steady_reject ..
    · exact .refl current

theorem steady_discard (deviceId reason : String) (now : Instant) :
    Steady at_ s (s.discard deviceId reason now).1 := by
  have hdropped : Steady at_ s (s.withPipeline (s.pipeline.discard (some deviceId) reason).1) :=
    ⟨rfl, rfl, .refl _, rfl, rfl, rfl⟩
  exact hdropped.trans (steady_rejects _ now _ _)

theorem steady_submit (reading : Reading) (command : DeviceCommandIntent) (form : CommandForm) :
    Steady at_ s (s.submit reading command form).1 ∧
      (s.submit reading command form).2.records = [] := by
  unfold submit
  split
  · exact ⟨⟨rfl, rfl, .refl _, rfl, rfl, rfl⟩, rfl⟩
  · exact ⟨s.steady_reject .., rfl⟩

theorem steady_recordDispatch (run : CommandRun) (reports : List DispatchReport) :
    Steady at_ s (recordDispatch run reports s) := by
  induction reports generalizing s with
  | nil => exact .refl s
  | cons report reports ih =>
    cases report with
    | denied command denial => exact (s.steady_reject ..).trans (ih _)
    | clamped command clampedFields => exact (s.steady_record ..).trans (ih _)
    | executed execution => exact ih s

theorem outcome_records (form : CommandForm) (run : CommandRun) (reports : List DispatchReport) :
    (outcome form run reports).records = [] := by
  induction reports generalizing run with
  | nil => rfl
  | cons report reports ih =>
    cases report with
    | denied command denial => rfl
    | clamped command clampedFields => exact ih _
    | executed execution => rfl

theorem steady_dispatch (reading : Reading) (item : QueueItem) (form : CommandForm) :
    Steady reading.checkedAt s (s.dispatch reading item form).1 ∧
      (s.dispatch reading item form).2.records = [] := by
  simp only [dispatch]
  generalize hpopped : ({ s.pipeline with
    queue := s.queue.filter fun other => decide (other.tiebreak ≠ item.tiebreak) } :
      CommandPipeline) = popped
  have harms := popped.dispatch_arms item.command reading
  have hsupervisor : popped.supervisor = s.supervisor := by
    rw [← hpopped]
    rfl
  rw [hsupervisor] at harms
  generalize popped.dispatch item.command reading = dispatched at harms
  obtain ⟨dispatched, reports⟩ := dispatched
  have hafter : Steady reading.checkedAt s (s.withPipeline dispatched) :=
    ⟨rfl, rfl, harms, rfl, rfl, rfl⟩
  split
  · exact ⟨hafter.trans (steady_recordDispatch ..), outcome_records _ _ _⟩
  · exact ⟨hafter.trans (steady_reject ..), rfl⟩
  · exact ⟨hafter, rfl⟩

theorem executedReply_records (run : CommandRun) (result : CommandResult) :
    (executedReply run result).records = [] := by
  unfold executedReply
  split
  · rfl
  · split <;> rfl

theorem steady_accept (run : CommandRun) (result : CommandResult) :
    Steady at_ s (s.accept run result).1 ∧ (s.accept run result).2.records = [] :=
  ⟨s.steady_record .., executedReply_records run result⟩

theorem steady_stopGroup (run : CommandRun) (result : CommandResult)
    (group stopped : List String) :
    Steady at_ s (stopGroup run result group stopped s).1 ∧
      (stopGroup run result group stopped s).2.records = [] := by
  induction group with
  | nil =>
    obtain ⟨hsteady, hrecords⟩ := steady_accept
      (s.record .failurePolicyApplied "system" run.now
        [("sessionId", .str run.session.sessionId), ("deviceId", .str run.command.deviceId),
          ("failurePolicy", .str run.session.failurePolicy.value),
          ("result", .str (String.intercalate "," stopped))]) at_ run result
    exact ⟨(s.steady_record ..).trans hsteady, hrecords⟩
  | cons deviceId rest ih =>
    unfold stopGroup
    split
    · exact ⟨s.steady_discard .., rfl⟩
    · exact ih

theorem steady_executed (run : CommandRun) (result : CommandResult)
    (events : List ReceivedEvent) :
    Steady at_ s (s.executed run result events).1 ∧
      (s.executed run result events).2.records = [] := by
  have hrouter := s.steady_router at_ (s.router.publishAll events).1
  simp only [executed]
  split
  · obtain ⟨hsteady, hrecords⟩ := steady_accept { s with
      router := (s.router.publishAll events).1 } at_ run result
    exact ⟨hrouter.trans hsteady, hrecords⟩
  · obtain ⟨hsteady, hrecords⟩ := steady_stopGroup { s with
      router := (s.router.publishAll events).1 } at_ run result run.session.deviceBindings []
    exact ⟨hrouter.trans hsteady, hrecords⟩

end Steps
end Classroom
end CitPhysicalXR.Runtime
