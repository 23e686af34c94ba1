import CitPhysicalXR.Runtime.Confinement

/-! The routes that a student may take, one by one: most keep to what is theirs in every state, and
for each of the others a lemma says exactly when it does. -/
namespace CitPhysicalXR.Runtime
open Foundation

namespace Classroom
variable (s : Classroom) (principal : Principal)

/-- The events of a device that may be seen were not received while another actor had it. -/
def SeesOwnEvents (deviceId : Option String) : Prop :=
  ∀ event ∈ s.router.history, deviceId.all (fun device => event.deviceId == device) = true →
    s.isVisible principal event.deviceId = true → ¬s.IsForeignEvent principal event

/-- The last reading of a sensor is not of another actor. -/
def ReadsOwnEvent (request : StudentRpcRequest) : Prop :=
  ∀ session deviceRef sensor device event,
    s.getOwnSession principal request.sessionId = .ok session →
    request.call = .device deviceRef (.readSensor sensor) →
    ClassroomApi.resolve s request.aliases deviceRef = .ok device →
    ClassroomApi.lastReading s device.deviceId sensor = some event →
    ¬s.IsForeignEvent principal event

/-- The recorder is one's own, and what is kept under its id or goes by the retention is too. -/
def StopsOwnRecording (now : Instant) (recordingId : String) (diskFails : Bool) : Prop :=
  ∀ recorder, s.router.recorders.get? recordingId = some recorder →
    s.Owns principal recorder.sessionId ∧
    (∀ recording ∈ s.finished, recording.recordingId = recordingId →
      s.Owns principal recording.sessionId) ∧
    (diskFails = false → ∀ recording ∈ s.store.stored,
      recording.recordingId = recordingId ∨ recording ∈ ({ s.store with
        stored := s.store.stored.upsert recorder } : RecordingStore).doomed now →
      s.Owns principal recording.sessionId)

/-- The recording is one's own, nobody else's device was in the room, and nobody else left an
entry without a session in the audit. -/
def ExportsOwnRecording (recordingId : String) : Prop :=
  ∀ recording, s.getRecording recordingId = .ok recording →
    s.Owns principal recording.sessionId ∧
    (∀ recorded ∈ recording.events, ¬s.IsForeignEvent principal recorded.event) ∧
    ∀ entry ∈ s.audit, entry.isUnbound = true → entry.actorId = principal.actorId

/-- What a request has to meet to keep to what belongs to its student. -/
def KeepsToOwn (now : Instant) : Request → Prop
  | .recentEvents deviceId => s.SeesOwnEvents principal deviceId
  | .studentRpc request => s.ReadsOwnEvent principal request
  | .listRecordings => ∀ recording ∈ s.store.stored, s.Owns principal recording.sessionId
  | .stopRecording recordingId diskFails => s.StopsOwnRecording principal now recordingId diskFails
  | .exportRecording recordingId => s.ExportsOwnRecording principal recordingId
  | .deleteRecording recordingId => RecordingStore.isRecordingId recordingId = true →
    ∀ recording ∈ s.store.stored, recording.recordingId = recordingId →
      s.Owns principal recording.sessionId
  | _ => True

/-- What a request that goes on has to meet: the device it stops is not armed for another actor. -/
def GoesOnWithOwn (at_ : Instant) : Suspended → AdapterReply → Prop
  | .stoppingGroup _ _ deviceId _ _ _, .returned _ _
  | .stoppingDevice deviceId _ _ _, .returned _ _ =>
    ∀ arm ∈ s.supervisor.arms, arm.deviceId = deviceId → arm.isActive at_ = true →
      ¬s.Withheld principal deviceId
  | _, _ => True

/-- What the stream of a student has to meet: the event that comes next, if they may see its
device, was not received while another actor had it. -/
def StreamsOwnEvents : Prop :=
  ∀ event, s.router.broadcast.head? = some event →
    s.isVisible principal event.deviceId = true → ¬s.IsForeignEvent principal event

end Classroom

namespace ClassroomApi
open Classroom
variable {s : Classroom} {principal : Principal} {reading : Reading}

variable {at_ : Instant}

/-- A response that leaves the classroom as it is. -/
theorem answer_isolated {reply : Reply} :
    s.Isolated principal at_ (s.answer reply) ↔
      ∀ record ∈ reply.records, ¬s.IsForeign principal record :=
  (Steady.refl s).isolated

theorem raised_isolated (error : HttpError) :
    s.Isolated principal at_ (s.raised error) :=
  (Steady.refl s).silent rfl

theorem raised_after {after : Classroom}
    (h : s.Undisturbed principal at_ after) (error : HttpError) :
    s.Isolated principal at_ (after.raised error) :=
  ⟨h, fun _ hrecord => absurd hrecord List.not_mem_nil⟩

theorem describeSession_isolated {after : Classroom} {sessionId : String}
    (h : s.Undisturbed principal at_ after) (howns : after.Owns principal sessionId) :
    s.Isolated principal at_ (describeSession after sessionId) := by
  unfold describeSession
  split
  · exact raised_after h _
  · rename_i session hsession
    refine ⟨h, ?_⟩
    intro record hrecord
    obtain rfl := List.mem_singleton.mp hrecord
    unfold getSession at hsession
    split at hsession
    · rename_i found hfound
      obtain rfl := Except.ok.inj hsession
      obtain ⟨hmem, hid⟩ := Table.get?_some hfound
      rw [← hid] at howns
      exact not_not.mpr (howns.userId hmem)
    · cases hsession

theorem getOwnSession_ok (hstudent : principal.role = .student) {sessionId : String}
    {session : ClassroomSession} (h : s.getOwnSession principal sessionId = .ok session) :
    session ∈ s.sessions ∧ session.sessionId = sessionId ∧
      session.userId = principal.actorId := by
  obtain ⟨found, hfound, hrest⟩ := bind_eq_ok.mp h
  obtain ⟨howner, hsame⟩ := seq_eq_ok.mp hrest
  obtain rfl := Except.ok.inj hsame
  unfold getSession at hfound
  split at hfound
  · rename_i row hrow
    obtain rfl := Except.ok.inj hfound
    obtain ⟨hmem, hid⟩ := Table.get?_some hrow
    exact ⟨hmem, hid, (requireSessionOwner_ok hstudent howner).symm⟩
  · cases hfound

theorem privileged_isolated (hstudent : principal.role = .student) (action : Action)
    (effect : Classroom → Classroom × Progress) :
    s.Isolated principal reading.checkedAt (privileged s principal reading action effect) := by
  obtain ⟨error, herror⟩ := authorize_student hstudent action
  rw [privileged, herror]
  exact (s.steady_record ..).silent rfl

theorem isInstructor_student (hstudent : principal.role = .student) :
    principal.isInstructor = false := by
  simp [Principal.isInstructor, hstudent]

theorem describeDevices_isolated (devices : List ClassroomDevice)
    (current : Classroom × List Record) (hsteady : Steady reading.checkedAt s current.1)
    (hrecords : ∀ record ∈ current.2, ¬s.IsForeign principal record) :
    let listed := devices.foldl (fun current device =>
      let (described, description) := current.1.describeDevice device reading.checkedAt
      (described, current.2 ++ [Record.device description])) current
    Steady reading.checkedAt s listed.1 ∧
      ∀ record ∈ listed.2, ¬s.IsForeign principal record := by
  induction devices generalizing current with
  | nil => exact ⟨hsteady, hrecords⟩
  | cons device devices ih =>
    refine ih _ ?_ ?_
    · exact hsteady.trans (current.1.steady_supervisor (SameArms.armState _ _ _))
    · intro record hrecord
      obtain hrecord | hrecord := List.mem_append.mp hrecord
      · exact hrecords record hrecord
      · obtain rfl := List.mem_singleton.mp hrecord
        exact id

theorem listDevices_isolated :
    s.Isolated principal reading.checkedAt (listDevices s principal reading) := by
  obtain ⟨hsteady, hrecords⟩ := describeDevices_isolated
    (s.listedDevices.filter fun device => s.isVisible principal device.deviceId) (s, [])
    (.refl s) (by simp)
  exact hsteady.isolated.mpr hrecords

theorem listSessions_isolated (hstudent : principal.role = .student) :
    s.Isolated principal at_ (listSessions s principal) := by
  refine answer_isolated.mpr ?_
  intro record hrecord
  obtain ⟨session, hsession, rfl⟩ := List.mem_map.mp hrecord
  have howner := (List.mem_filter.mp hsession).2
  rw [isInstructor_student hstudent, Bool.false_or, decide_eq_true_eq] at howner
  exact not_not.mpr howner

theorem createSession_isolated (hstudent : principal.role = .student)
    (request : CreateSessionRequest) :
    s.Isolated principal reading.checkedAt (createSession s principal reading request) := by
  simp only [createSession]
  split
  · exact privileged_isolated hstudent _ _
  · split
    · exact raised_isolated _
    · rename_i created hcreated
      unfold Classroom.createSession at hcreated
      split at hcreated
      · cases hcreated
      · split at hcreated
        · cases hcreated
        · rename_i sessions hsessions
          obtain rfl := Except.ok.inj hcreated
          have hold : s.Undisturbed principal reading.checkedAt { s with sessions := sessions } :=
            undisturbed_sessions fun session hmem =>
              (Table.mem_insert? hsessions).mpr (.inl hmem)
          refine describeSession_isolated (hold.steady (steady_record ..)) ?_
          exact ⟨newSession principal reading request,
            (Table.mem_insert? hsessions).mpr (.inr rfl), rfl, rfl⟩

theorem bindDevices_isolated (hstudent : principal.role = .student) (sessionId : String)
    (deviceIds : List String) :
    s.Isolated principal reading.checkedAt
      (bindDevices s principal reading sessionId deviceIds) := by
  unfold bindDevices
  split
  · exact raised_isolated _
  · rename_i session hsession
    obtain ⟨hmem, hid, howner⟩ := getOwnSession_ok hstudent hsession
    have hbound := confined_bindDevices reading.checkedAt reading.now deviceIds hmem howner
    split
    · rename_i heq
      rw [heq] at hbound
      exact raised_after hbound.undisturbed _
    · rename_i heq
      rw [heq] at hbound
      exact describeSession_isolated hbound.undisturbed
        ((hbound.owns sessionId).mpr ⟨session, hmem, hid, howner⟩)

theorem transition_isolated (hstudent : principal.role = .student) (sessionId : String)
    (state : SessionState) (reason : Option String) :
    s.Isolated principal reading.checkedAt
      (transition s principal reading sessionId state reason) := by
  unfold transition
  split
  · exact raised_isolated _
  · rename_i session hsession
    obtain ⟨hmem, hid, howner⟩ := getOwnSession_ok hstudent hsession
    split
    · exact raised_isolated _
    · rename_i moved after htransition
      obtain ⟨hconfined, hmem', hid', howner'⟩ := confined_transition
        reading.checkedAt hmem howner htransition
      exact describeSession_isolated hconfined.undisturbed
        ⟨moved, hmem', hid'.trans hid, howner'⟩

theorem validate_isolated (hstudent : principal.role = .student) (sessionId : String) :
    s.Isolated principal reading.checkedAt (validate s principal reading sessionId) := by
  unfold validate
  split
  · exact raised_isolated _
  · rename_i session hsession
    obtain ⟨hmem, hid, howner⟩ := getOwnSession_ok hstudent hsession
    split
    · exact raised_isolated _
    · rename_i validating moved hvalidating
      obtain ⟨hconfined, hmem', hid', howner'⟩ := confined_transition
        reading.checkedAt hmem howner hvalidating
      split
      · exact raised_after hconfined.undisturbed _
      · rename_i next after hready
        obtain ⟨hconfined', hmem'', hid'', howner''⟩ := confined_transition
          reading.checkedAt hmem' howner' hready
        exact describeSession_isolated (hconfined.trans hconfined').undisturbed
          ⟨next, hmem'', hid''.trans (hid'.trans hid), howner''⟩

theorem heartbeat_isolated (deviceId : String) (kind : WatchdogKind) :
    s.Isolated principal reading.checkedAt (heartbeat s reading deviceId kind) := by
  have hsame : SameArms reading.checkedAt s.supervisor
      (s.supervisor.heartbeat deviceId kind reading.monotonic) := .of_eq rfl
  exact (s.steady_supervisor hsame).silent rfl

theorem stop_isolated (deviceId reason : String) :
    s.Isolated principal reading.checkedAt (stop s principal reading deviceId reason) := by
  unfold stop
  split
  · exact raised_isolated _
  · exact (s.steady_discard ..).silent rfl

theorem steady_intent (session : ClassroomSession) (deviceId capability action : String)
    (arguments : JsonObject) (source : Source) (ttl : Duration) (inputConfidence : Option ℚ)
    (commandId idempotencyKey : String) :
    Steady reading.checkedAt s (s.intent reading session deviceId capability action arguments
      source ttl inputConfidence commandId idempotencyKey).2 :=
  s.steady_supervisor (SameArms.armState _ _ _)

theorem submitted_isolated {checked : Classroom} (hchecked : Steady reading.checkedAt s checked)
    (rules : ClassroomRules) (command : DeviceCommandIntent) (form : CommandForm)
    (error : HttpError) :
    s.Isolated principal reading.checkedAt
      (if rules.validCommand command then checked.submit reading command form
        else checked.raised error) := by
  split
  · obtain ⟨hsteady, hsilent⟩ := steady_submit checked reading.checkedAt reading command form
    exact (hchecked.trans hsteady).silent hsilent
  · exact hchecked.silent rfl

theorem submitCommand_isolated (rules : ClassroomRules) (request : SimpleCommandRequest) :
    s.Isolated principal reading.checkedAt
      (submitCommand rules s principal reading request) := by
  unfold submitCommand
  split
  · exact raised_isolated _
  · rename_i session source _
    exact submitted_isolated (steady_intent session request.deviceId request.capability
      request.action request.arguments source.source request.ttl request.inputConfidence
      request.commandId request.idempotencyKey) rules _ _ _

/-- `source` of a command call. -/
def authoredSource : AuthoringMode → Source
  | .python => .studentPython
  | .blocks => .studentBlocks

theorem callDevice_isolated (rules : ClassroomRules) (request : StudentRpcRequest)
    (session : ClassroomSession) (device : ClassroomDevice) (call : DeviceCall) :
    s.Isolated principal reading.checkedAt
        (callDevice rules s reading request session device call) ↔
      ∀ sensor event, call = .readSensor sensor →
        lastReading s device.deviceId sensor = some event → ¬s.IsForeignEvent principal event := by
  cases call with
  | command capability action arguments commandId idempotencyKey =>
    refine iff_of_true ?_ (by simp)
    exact submitted_isolated (steady_intent session device.deviceId capability action arguments
      (authoredSource session.authoringMode) (seconds 5) request.inputConfidence commandId idempotencyKey) rules _ _ _
  | readSensor sensor =>
    simp only [callDevice]
    cases hfound : lastReading s device.deviceId sensor with
    | none =>
      refine iff_of_true (answer_isolated.mpr (by simp)) ?_
      intro sensor' event hsensor hevent
      cases hsensor
      cases hfound.symm.trans hevent
    | some event =>
      rw [answer_isolated]
      constructor
      · intro h sensor' event' hsensor hevent
        cases hsensor
        obtain rfl := Option.some.inj (hfound.symm.trans hevent)
        exact h (.event event) (List.mem_singleton_self _)
      · intro h record hrecord
        obtain rfl := List.mem_singleton.mp hrecord
        exact h sensor event rfl hfound
  | deviceInfo =>
    refine iff_of_true ?_ (by simp)
    have hdescribed := s.steady_supervisor (SameArms.armState s.supervisor device.deviceId
      reading.checkedAt)
    refine hdescribed.isolated.mpr ?_
    intro record hrecord
    obtain rfl := List.mem_singleton.mp hrecord
    exact id

theorem studentRpc_isolated (rules : ClassroomRules) (request : StudentRpcRequest) :
    s.Isolated principal reading.checkedAt (studentRpc rules s principal reading request) ↔
      s.ReadsOwnEvent principal request := by
  unfold studentRpc ReadsOwnEvent
  cases hsession : s.getOwnSession principal request.sessionId with
  | error error => exact iff_of_true (raised_isolated _) (by simp)
  | ok session =>
    cases hcall : request.call with
    | device deviceRef call =>
      cases hdevice : resolve s request.aliases deviceRef with
      | error error =>
        simp only [hdevice]
        refine iff_of_true (raised_isolated _) ?_
        intro _ deviceRef' _ _ _ _ hcall' hdevice'
        cases hcall'
        cases hdevice.symm.trans hdevice'
      | ok device =>
        simp only [hdevice]
        refine (callDevice_isolated rules request session device call).trans ?_
        constructor
        · intro h _ deviceRef' sensor device' event _ hcall' hdevice'
          cases hcall'
          obtain rfl := Except.ok.inj (hdevice.symm.trans hdevice')
          exact h sensor event rfl
        · intro h sensor event hread
          subst hread
          exact h session deviceRef sensor device event rfl rfl hdevice
    | log message => exact iff_of_true (answer_isolated.mpr (by simp)) (by simp)
    | sleep duration => exact iff_of_true (answer_isolated.mpr (by simp)) (by simp)
    | malformed => exact iff_of_true (raised_isolated _) (by simp)

theorem audit_isolated (hstudent : principal.role = .student) :
    s.Isolated principal at_ (audit s principal) := by
  refine answer_isolated.mpr ?_
  intro record hrecord hforeign
  obtain ⟨entry, hentry, rfl⟩ := List.mem_map.mp hrecord
  obtain ⟨hactor, hsessions⟩ := hforeign
  have hkept := (List.mem_filter.mp hentry).2
  rw [isInstructor_student hstudent, Bool.false_or, Bool.or_eq_true, decide_eq_true_eq] at hkept
  obtain hown | hsession := hkept
  · exact hactor hown
  · obtain ⟨sessionId, hmem, howned⟩ := Option.any_eq_true _ _ |>.mp hsession
    exact hsessions sessionId hmem (mem_ownedSessions.mp (of_decide_eq_true howned))

theorem recentEvents_isolated (deviceId : Option String) :
    s.Isolated principal at_ (recentEvents s principal deviceId) ↔
      s.SeesOwnEvents principal deviceId := by
  rw [recentEvents, answer_isolated]
  constructor
  · intro h event hmem hasked hvisible
    refine h (.event event) (List.mem_map.mpr ⟨event, List.mem_filter.mpr ⟨hmem, ?_⟩, rfl⟩)
    rw [hasked, hvisible]
    rfl
  · intro h record hrecord
    obtain ⟨event, hevent, rfl⟩ := List.mem_map.mp hrecord
    obtain ⟨hmem, hkept⟩ := List.mem_filter.mp hevent
    obtain ⟨hasked, hvisible⟩ := (Bool.and_eq_true _ _).mp hkept
    exact h event hmem hasked hvisible

/-- What the stream of a student carries. -/
theorem pump_isolated : (∀ record ∈ pump s principal, ¬s.IsForeign principal record) ↔
    s.StreamsOwnEvents principal := by
  simp only [pump, List.mem_map, List.mem_filter, Option.mem_toList, StreamsOwnEvents]
  constructor
  · intro h event hhead hvisible
    exact h (.event event) ⟨event, ⟨hhead, hvisible⟩, rfl⟩
  · intro h record hrecord
    obtain ⟨event, ⟨hhead, hvisible⟩, rfl⟩ := hrecord
    exact h event hhead hvisible

theorem listRecordings_isolated : s.Isolated principal at_ (listRecordings s) ↔
    ∀ recording ∈ s.store.stored, s.Owns principal recording.sessionId := by
  rw [listRecordings, answer_isolated]
  constructor
  · intro h recording hmem
    exact not_not.mp (h (.recording recording)
      (List.mem_map.mpr ⟨recording, RecordingStore.mem_listed.mpr hmem, rfl⟩))
  · intro h record hrecord
    obtain ⟨recording, hlisted, rfl⟩ := List.mem_map.mp hrecord
    exact not_not.mpr (h recording (RecordingStore.mem_listed.mp hlisted))

theorem startRecording_isolated (sessionId recordingId : String) :
    s.Isolated principal reading.checkedAt
      (startRecording s principal reading sessionId recordingId) := by
  unfold startRecording
  split
  · exact raised_isolated _
  · exact ((s.steady_router ..).trans (steady_record ..)).silent rfl

theorem stopRecording_spec (recorder : Recording) (actorId : String) (now : Instant)
    (diskFails : Bool) :
    let after := s.stopRecording recorder actorId now diskFails
    after.sessions = s.sessions ∧ after.devices = s.devices ∧ after.supervisor = s.supervisor ∧
      after.projects = s.projects ∧ after.finished = s.finished.upsert recorder ∧
      after.store.stored = (if diskFails then s.store
        else ((s.store.save recorder now).prune now).1).stored := by
  cases diskFails with
  | true => exact ⟨rfl, rfl, rfl, rfl, rfl, rfl⟩
  | false =>
    have hpruned := RecordingStore.prune_save s.store recorder now
    simp only [Classroom.stopRecording, Bool.false_eq_true, if_false, hpruned, if_true]
    exact ⟨rfl, rfl, rfl, rfl, rfl, rfl⟩

theorem stopRecording_isolated (recordingId : String) (diskFails : Bool) :
    s.Isolated principal reading.checkedAt
        (stopRecording s principal reading recordingId diskFails) ↔
      s.StopsOwnRecording principal reading.now recordingId diskFails := by
  unfold stopRecording StopsOwnRecording
  cases hfound : s.router.recorders.get? recordingId with
  | none => exact iff_of_true (raised_isolated _) (by simp)
  | some recorder =>
    obtain ⟨-, hid⟩ := Table.get?_some hfound
    obtain ⟨hsessions, hdevices, hsupervisor, hprojects, hfinished, hstored⟩ :=
      stopRecording_spec (s := s) recorder principal.actorId reading.now diskFails
    have howns (sessionId : String) :
        (s.stopRecording recorder principal.actorId reading.now diskFails).Owns principal
          sessionId ↔ s.Owns principal sessionId := by
      unfold Owns
      rw [hsessions]
    constructor
    · intro h found hsame
      obtain rfl := Option.some.inj hsame
      have hrecorder : s.Owns principal recorder.sessionId :=
        (howns _).mp (not_not.mp (h.records (.recording recorder) (List.mem_singleton_self _)))
      refine ⟨hrecorder, ?_, ?_⟩
      · intro recording hmem hsameId
        by_contra hother
        have hkept := h.undisturbed.finished recording hmem hother
        rw [show ((s.stopRecording recorder principal.actorId reading.now diskFails).answer
          _).1.finished = _ from hfinished, Table.mem_upsert] at hkept
        obtain rfl | hkept := hkept
        · exact hother hrecorder
        · exact hkept.2 (hsameId.trans hid.symm)
      · intro hdisk recording hmem hgone
        by_contra hother
        have hkept := h.undisturbed.stored recording hmem hother
        rw [show ((s.stopRecording recorder principal.actorId reading.now diskFails).answer
          _).1.store.stored = _ from hstored, hdisk, if_neg Bool.false_ne_true,
          RecordingStore.mem_save_prune] at hkept
        obtain ⟨hkept, hretained⟩ := hkept
        obtain hsameId | hdoomed := hgone
        · obtain rfl | hkept := hkept
          · exact hother hrecorder
          · exact hkept.2 (hsameId.trans hid.symm)
        · exact hretained hdoomed
    · intro h
      obtain ⟨hrecorder, hmemory, hdisk⟩ := h recorder rfl
      refine ⟨⟨?_, ?_, ?_, ?_, ?_, ?_⟩, ?_⟩
      · intro session hmem _
        exact hsessions ▸ hmem
      · intro device hmem _
        exact ⟨device, hdevices ▸ hmem, rfl, rfl⟩
      · intro arm _ _
        exact hsupervisor ▸ Iff.rfl
      · intro project hmem _
        exact hprojects ▸ hmem
      · intro recording hmem hother
        change recording ∈ (s.stopRecording recorder principal.actorId reading.now
          diskFails).store.stored
        rw [hstored]
        cases diskFails with
        | true => exact hmem
        | false =>
          rw [if_neg Bool.false_ne_true, RecordingStore.mem_save_prune]
          refine ⟨.inr ⟨hmem, ?_⟩, ?_⟩
          · intro hsameId
            exact hother (hdisk rfl recording hmem (.inl (hsameId.trans hid)))
          · intro hdoomed
            exact hother (hdisk rfl recording hmem (.inr hdoomed))
      · intro recording hmem hother
        change recording ∈ (s.stopRecording recorder principal.actorId reading.now
          diskFails).finished
        rw [hfinished, Table.mem_upsert]
        refine .inr ⟨hmem, ?_⟩
        intro hsameId
        exact hother (hmemory recording hmem (hsameId.trans hid))
      · intro record hrecord
        obtain rfl := List.mem_singleton.mp hrecord
        exact not_not.mpr ((howns _).mpr hrecorder)

theorem replay_isolated (recordingId : String) :
    s.Isolated principal reading.checkedAt (replay s principal reading recordingId) := by
  unfold replay
  split
  · exact raised_isolated _
  · exact ((s.steady_router ..).trans (steady_record ..)).silent rfl

theorem isUnbound_session? {entry : AuditEntry} (h : entry.isUnbound = true) :
    entry.session? = none := by
  unfold AuditEntry.isUnbound at h
  unfold AuditEntry.session?
  split at h
  · rename_i hlookup
    rw [hlookup]
    rfl
  · rename_i hlookup
    rw [hlookup]
    rfl
  · cases h

theorem exportRecording_isolated (recordingId : String) :
    s.Isolated principal reading.checkedAt (exportRecording s principal reading recordingId) ↔
      s.ExportsOwnRecording principal recordingId := by
  unfold exportRecording ExportsOwnRecording
  cases hfound : s.getRecording recordingId with
  | error error => exact iff_of_true (raised_isolated _) (by simp)
  | ok recording =>
    have hrecorded := s.steady_record reading.checkedAt .recordingExported
      principal.actorId reading.now [("recordingId", .str recordingId)]
    refine hrecorded.isolated.trans ?_
    constructor
    · intro h found hsame
      obtain rfl := Except.ok.inj hsame
      refine ⟨not_not.mp (h (.recording recording) ?_), ?_, ?_⟩
      · exact List.mem_append_left _ List.mem_cons_self
      · intro recorded hmem
        refine h (.event recorded.event) (List.mem_append_left _ (List.mem_cons_of_mem _ ?_))
        exact List.mem_map.mpr ⟨recorded, hmem, rfl⟩
      · intro entry hmem hunbound
        by_contra hother
        refine h (.auditEntry entry) (List.mem_append_right _ (List.mem_map.mpr
          ⟨entry, List.mem_filter.mpr ⟨List.mem_append_left _ hmem, ?_⟩, rfl⟩)) ⟨hother, ?_⟩
        · rw [hunbound, Bool.true_or]
        · intro sessionId hsession
          cases (isUnbound_session? hunbound).symm.trans hsession
    · intro h record hrecord
      obtain ⟨howns, hevents, hentries⟩ := h recording rfl
      obtain hrecord | hrecord := List.mem_append.mp hrecord
      · obtain rfl | hrecord := List.mem_cons.mp hrecord
        · exact not_not.mpr howns
        · obtain ⟨recorded, hmem, rfl⟩ := List.mem_map.mp hrecord
          exact hevents recorded hmem
      · obtain ⟨entry, hentry, rfl⟩ := List.mem_map.mp hrecord
        intro hforeign
        obtain ⟨hactor, hsessions⟩ := hforeign
        obtain ⟨hmem, hrelevant⟩ := List.mem_filter.mp hentry
        obtain hmem | hmem := List.mem_append.mp hmem
        · obtain hunbound | hsession := (Bool.or_eq_true _ _).mp hrelevant
          · exact hactor (hentries entry hmem hunbound)
          · exact hsessions recording.sessionId (of_decide_eq_true hsession) howns
        · obtain rfl := List.mem_singleton.mp hmem
          exact hactor rfl

theorem deleteRecording_isolated (recordingId : String) :
    s.Isolated principal reading.checkedAt (deleteRecording s principal reading recordingId) ↔
      (RecordingStore.isRecordingId recordingId = true →
        ∀ recording ∈ s.store.stored, recording.recordingId = recordingId →
          s.Owns principal recording.sessionId) := by
  unfold deleteRecording
  split
  · rename_i hnames
    simp only [hnames, true_implies]
    constructor
    · intro h recording hmem hid
      by_contra hother
      have hkept := h.undisturbed.stored recording hmem hother
      exact of_decide_eq_true ((Table.mem_filterRows _).mp hkept).2 hid
    · intro h
      refine ⟨⟨fun _ hmem _ => hmem, fun device hmem _ => ⟨device, hmem, rfl, rfl⟩,
        fun _ _ _ => Iff.rfl, fun _ hmem _ => hmem, ?_, fun _ hmem _ => hmem⟩,
        fun _ hrecord => absurd hrecord List.not_mem_nil⟩
      intro recording hmem hother
      refine (Table.mem_filterRows _).mpr ⟨hmem, decide_eq_true ?_⟩
      intro hid
      exact hother (h recording hmem hid)
  · rename_i hnames
    exact iff_of_true (raised_isolated _) fun hnames' => absurd hnames' hnames

theorem listProjects_isolated (hstudent : principal.role = .student)
    (rules : ClassroomRules) : s.Isolated principal at_ (listProjects rules s principal) := by
  refine answer_isolated.mpr ?_
  intro record hrecord hforeign
  obtain ⟨project, hproject, rfl⟩ := List.mem_map.mp hrecord
  obtain ⟨owner, howner, hother⟩ := hforeign
  have hkept := (List.mem_filter.mp ((List.mem_insertionSort _).mp hproject)).2
  rw [isInstructor_student hstudent, if_neg Bool.false_ne_true, howner] at hkept
  simp only [Option.isNone_some, Bool.false_or, Bool.and_eq_true, beq_iff_eq,
    Option.some.injEq] at hkept
  exact hother hkept.2

theorem checkOwner_ok (hstudent : principal.role = .student) {projectId : String}
    (h : checkOwner s principal projectId = .ok ()) {project : StoredProject}
    (hmem : project ∈ s.projects) (hid : project.projectId = projectId) :
    ¬s.IsForeign principal (.project project) := by
  intro hforeign
  obtain ⟨owner, howner, hother⟩ := hforeign
  rw [checkOwner, Table.get?_eq_some.mpr ⟨hmem, hid⟩, Option.bind_some, howner] at h
  exact hother (requireSessionOwner_ok hstudent h).symm

theorem undisturbed_projects {projects : Table StoredProject.projectId}
    (h : ∀ project ∈ s.projects, s.IsForeign principal (.project project) →
      project ∈ projects) :
    s.Undisturbed principal at_ { s with projects := projects } where
  sessions _ hmem _ := hmem
  bindings device hmem _ := ⟨device, hmem, rfl, rfl⟩
  arms _ _ _ := Iff.rfl
  projects := h
  stored _ hmem _ := hmem
  finished _ hmem _ := hmem

theorem readProject_isolated (hstudent : principal.role = .student)
    (rules : ClassroomRules) (projectId : String) :
    s.Isolated principal at_ (readProject rules s principal projectId) := by
  unfold readProject
  split
  · exact raised_isolated _
  · rename_i project hproject
    split
    · split
      · exact raised_isolated _
      · rename_i hchecked
        refine answer_isolated.mpr ?_
        intro record hrecord
        obtain rfl := List.mem_singleton.mp hrecord
        split at hproject
        · obtain ⟨hmem, hid⟩ := Table.get?_some hproject
          exact checkOwner_ok hstudent hchecked hmem hid
        · cases hproject
    · exact raised_isolated _

theorem stamped_owner {projectId : String} {document : JsonObject} {project : StoredProject}
    (h : stamped s principal reading projectId document = some project) :
    project.owner =
      ((s.projects.get? projectId).bind StoredProject.owner).or (some principal.actorId) := by
  simp only [stamped] at h
  split at h
  · exact congrArg StoredProject.owner (Option.some.inj h).symm
  · cases h

theorem saveProject_isolated (hstudent : principal.role = .student) (rules : ClassroomRules)
    (projectId : String) (document : JsonObject) (diskFails : Bool) :
    s.Isolated principal reading.checkedAt
      (saveProject rules s principal reading projectId document diskFails) := by
  unfold saveProject
  split
  · exact raised_isolated _
  · rename_i project hproject
    obtain ⟨hstamped, hnamed⟩ := Option.filter_eq_some_iff.mp hproject
    have hid := of_decide_eq_true hnamed
    split
    · split
      · exact raised_isolated _
      · rename_i hchecked
        split
        · exact raised_isolated _
        · split
          · exact raised_isolated _
          · refine ⟨(undisturbed_projects ?_).steady (steady_record ..), ?_⟩
            · intro other hmem hforeign
              refine Table.mem_upsert.mpr (.inr ⟨hmem, ?_⟩)
              intro hsame
              exact checkOwner_ok hstudent hchecked hmem (hsame.trans hid) hforeign
            · intro record hrecord hforeign
              obtain rfl := List.mem_singleton.mp hrecord
              obtain ⟨owner, howner, hother⟩ := hforeign
              rw [stamped_owner hstamped, Option.or_eq_some_iff] at howner
              obtain hkept | hnew := howner
              · obtain ⟨old, hold, hkept⟩ := Option.bind_eq_some_iff.mp hkept
                obtain ⟨hmem, hid'⟩ := Table.get?_some hold
                exact checkOwner_ok hstudent hchecked hmem hid' ⟨owner, hkept, hother⟩
              · exact hother (Option.some.inj hnew.2).symm
    · exact raised_isolated _

theorem deleteProject_isolated (hstudent : principal.role = .student) (projectId : String) :
    s.Isolated principal reading.checkedAt (deleteProject s principal reading projectId) := by
  unfold deleteProject
  split
  · split
    · exact raised_isolated _
    · rename_i hchecked
      refine ⟨(undisturbed_projects ?_).steady (steady_record ..),
        fun _ hrecord => absurd hrecord List.not_mem_nil⟩
      intro project hmem hforeign
      refine (Table.mem_filterRows _).mpr ⟨hmem, decide_eq_true ?_⟩
      intro hid
      exact checkOwner_ok hstudent hchecked hmem hid hforeign
  · exact raised_isolated _

end ClassroomApi
end CitPhysicalXR.Runtime
