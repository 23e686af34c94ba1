import CitPhysicalXR.Runtime.StudentRoutes

/-! Isolation in a classroom: which requests of a student, in which states, neither touch what
belongs to another actor nor tell of it. -/
namespace CitPhysicalXR.Runtime
open Foundation Classroom
namespace ClassroomApi
variable {s : Classroom} {principal : Principal} {reading : Reading}

theorem handle_resolved {rules : ClassroomRules} {token : Option String} {request : Request}
    (h : (s.authority.principal rules.digest token reading.now).1 = .ok principal) :
    handle rules s reading token request = serve rules s principal reading request := by
  rw [handle, Authority.principal_ok h]

/-- Route by route. -/
theorem serve_isolated (hstudent : principal.role = .student) (rules : ClassroomRules)
    (request : Request) :
    s.Isolated principal reading.checkedAt (serve rules s principal reading request) ↔
      s.KeepsToOwn principal reading.now request := by
  have hsilent (reply : Reply) (hreply : reply.records = []) :
      s.Isolated principal reading.checkedAt (s.answer reply) :=
    (Steady.refl s).silent hreply
  cases request with
  | whoami => exact iff_of_true (hsilent _ rfl) trivial
  | listDevices => exact iff_of_true listDevices_isolated trivial
  | listSessions => exact iff_of_true (listSessions_isolated hstudent) trivial
  | createSession request => exact iff_of_true (createSession_isolated hstudent request) trivial
  | bindDevices sessionId deviceIds =>
    exact iff_of_true (bindDevices_isolated hstudent sessionId deviceIds) trivial
  | transition sessionId state reason =>
    exact iff_of_true (transition_isolated hstudent sessionId state reason) trivial
  | validate sessionId => exact iff_of_true (validate_isolated hstudent sessionId) trivial
  | heartbeat deviceId kind =>
    exact iff_of_true (heartbeat_isolated deviceId kind) trivial
  | stop deviceId reason => exact iff_of_true (stop_isolated deviceId reason) trivial
  | readInputs => exact iff_of_true (hsilent _ rfl) trivial
  | submitCommand request => exact iff_of_true (submitCommand_isolated rules request) trivial
  | studentRpc request => exact studentRpc_isolated rules request
  | audit => exact iff_of_true (audit_isolated hstudent) trivial
  | recentEvents deviceId => exact recentEvents_isolated deviceId
  | listRecordings => exact listRecordings_isolated
  | startRecording sessionId recordingId =>
    exact iff_of_true (startRecording_isolated sessionId recordingId) trivial
  | stopRecording recordingId diskFails => exact stopRecording_isolated recordingId diskFails
  | replay recordingId => exact iff_of_true (replay_isolated recordingId) trivial
  | exportRecording recordingId => exact exportRecording_isolated recordingId
  | deleteRecording recordingId => exact deleteRecording_isolated recordingId
  | readRetention => exact iff_of_true (hsilent _ rfl) trivial
  | listProjects => exact iff_of_true (listProjects_isolated hstudent rules) trivial
  | readProject projectId =>
    exact iff_of_true (readProject_isolated hstudent rules projectId) trivial
  | saveProject projectId document diskFails =>
    exact iff_of_true (saveProject_isolated hstudent rules projectId document diskFails) trivial
  | deleteProject projectId =>
    exact iff_of_true (deleteProject_isolated hstudent projectId) trivial
  | privileged action effect =>
    exact iff_of_true (privileged_isolated hstudent action effect) trivial

theorem stopped_isolated (deviceId reason actorId : String) (cleared : ℕ)
    (events : List ReceivedEvent) (now : Instant) {after : Classroom} {progress : Progress}
    {at_ : Instant}
    (hafter : Steady at_ (s.stopped deviceId reason actorId cleared events now) after)
    (hsilent : progress.records = []) :
    s.Isolated principal at_ (after, progress) ↔
      ∀ arm ∈ s.supervisor.arms, arm.deviceId = deviceId → arm.isActive at_ = true →
        ¬s.Withheld principal deviceId := by
  have harms (arm : ArmState) (hactive : arm.isActive at_ = true) :
      arm ∈ after.supervisor.arms ↔ arm ∈ s.supervisor.arms ∧ arm.deviceId ≠ deviceId := by
    refine (hafter.arms arm hactive).trans ?_
    simp [stopped, record, SafetySupervisor.disarm]
  constructor
  · intro h arm hmem hid hactive hwithheld
    have hkept := (h.undisturbed.arms arm (hid ▸ hwithheld) hactive).mpr hmem
    exact ((harms arm hactive).mp hkept).2 hid
  · intro h
    refine ⟨⟨?_, ?_, ?_, ?_, ?_, ?_⟩, ?_⟩
    · intro session hmem _
      exact hafter.sessions ▸ hmem
    · intro device hmem _
      exact ⟨device, hafter.devices ▸ hmem, rfl, rfl⟩
    · intro arm hwithheld hactive
      refine (harms arm hactive).trans (and_iff_left_of_imp ?_)
      intro hmem hid
      exact h arm hmem hid hactive (hid ▸ hwithheld)
    · intro project hmem _
      exact hafter.projects ▸ hmem
    · intro recording hmem _
      exact hafter.stored ▸ hmem
    · intro recording hmem _
      exact hafter.finished ▸ hmem
    · intro record hrecord
      rw [hsilent] at hrecord
      cases hrecord

theorem resume_isolated (task : Suspended) (reply : AdapterReply) :
    s.Isolated principal reading.checkedAt (s.resume reading task reply) ↔
      s.GoesOnWithOwn principal reading.checkedAt task reply := by
  cases task with
  | queued item form =>
    obtain ⟨hsteady, hsilent⟩ := s.steady_dispatch reading item form
    exact iff_of_true (hsteady.silent hsilent) trivial
  | executing run =>
    cases reply with
    | raised => exact iff_of_true (raised_isolated _) trivial
    | returned result events =>
      obtain ⟨hsteady, hsilent⟩ := s.steady_executed reading.checkedAt run result events
      exact iff_of_true (hsteady.silent hsilent) trivial
  | stoppingGroup run result deviceId cleared rest stopped =>
    cases reply with
    | raised => exact iff_of_true (raised_isolated _) trivial
    | returned _ events =>
      obtain ⟨hsteady, hsilent⟩ := steady_stopGroup
        (s.stopped deviceId (failureReason run) "system" cleared events reading.now)
        reading.checkedAt run result
        rest (stopped ++ [deviceId])
      exact stopped_isolated _ _ _ _ _ _ hsteady hsilent
  | stoppingDevice deviceId reason actorId cleared =>
    cases reply with
    | raised => exact iff_of_true (raised_isolated _) trivial
    | returned _ events => exact stopped_isolated _ _ _ _ _ _ (.refl _) rfl

/-- A student's request, from await to await, and a student's stream keep to what is theirs
exactly under the conditions of their routes. -/
theorem student_isolated {principal : Principal} (hstudent : principal.role = .student) :
    (∀ rules (s : Classroom) token request reading,
      (s.authority.principal rules.digest token reading.now).1 = .ok principal →
      (s.Isolated principal reading.checkedAt (handle rules s reading token request) ↔
        s.KeepsToOwn principal reading.now request)) ∧
    (∀ (s : Classroom) task reply reading,
      s.Isolated principal reading.checkedAt (s.resume reading task reply) ↔
        s.GoesOnWithOwn principal reading.checkedAt task reply) ∧
    ∀ s : Classroom, (∀ record ∈ pump s principal, ¬s.IsForeign principal record) ↔
      s.StreamsOwnEvents principal := by
  refine ⟨?_, fun s task reply reading => resume_isolated task reply, fun s => pump_isolated⟩
  intro rules s token request reading hresolved
  rw [handle_resolved hresolved]
  exact serve_isolated hstudent rules request

section Lesson

def participant (actorId : String) : Principal := ⟨actorId, .student, actorId, 0, hours 12⟩

/-- Two students, and a recording of the session of the first. -/
def lesson : Classroom where
  authority := {
    instructorPasscode := "3f9a1c20"
    principals := (Table.empty.upsert
      ⟨"5a2b6c6e04d79bb0abe0b18849c019ff31c53188f2b1e2029b29adfb2b4b470b",
        participant "student-1"⟩).upsert
      ⟨"49de26d87df5ce1d9648c7c5653d5a2ce0de040ca97fffcfb6637bad1848f5f8",
        participant "student-2"⟩ }
  sessions := Table.empty.upsert {
    sessionId := "session-1"
    userId := "student-1"
    executionMode := .simulation
    state := .running
    deviceBindings := ["fake-s1-main"]
    projectId := "project-1"
    authoringMode := .blocks
    safetyPolicyId := "simulation-only"
    startedAt := 0
    lastActivityAt := 0 }
  store := { stored := Table.empty.upsert ⟨"recording-1", "session-1", 0, []⟩ }

/-- The digests of the two tokens. -/
def lessonRules : ClassroomRules where
  digest token :=
    if token = "q3Zs0w0m2Yq5nRjT8xkP4vLb7hCdEfAuI1oN6yWtKs0" then
      "5a2b6c6e04d79bb0abe0b18849c019ff31c53188f2b1e2029b29adfb2b4b470b"
    else if token = "b7hCdEfAuI1oN6yWtKs0q3Zs0w0m2Yq5nRjT8xkP4vL" then
      "49de26d87df5ce1d9648c7c5653d5a2ce0de040ca97fffcfb6637bad1848f5f8"
    else ""
  validProject _ := false
  validCommand _ := false

def lessonReading : Reading := ⟨seconds 60, seconds 60, 60⟩

/-- The first student may delete the recording. -/
theorem student_isolated_owner :
    lesson.Isolated (participant "student-1") lessonReading.checkedAt
      (handle lessonRules lesson lessonReading
        (some "q3Zs0w0m2Yq5nRjT8xkP4vLb7hCdEfAuI1oN6yWtKs0") (.deleteRecording "recording-1")) := by
  refine ((student_isolated rfl).1 lessonRules lesson _ _ lessonReading ?_).mpr ?_
  · decide
  · intro _ recording hmem _
    obtain rfl := List.mem_singleton.mp hmem
    decide

/-- The second student may as well. -/
theorem recording_of_another_deleted :
    (lesson.authority.principal lessonRules.digest
        (some "b7hCdEfAuI1oN6yWtKs0q3Zs0w0m2Yq5nRjT8xkP4vL") lessonReading.now).1 =
      .ok (participant "student-2") ∧
    ¬lesson.Isolated (participant "student-2") lessonReading.checkedAt
      (handle lessonRules lesson lessonReading
        (some "b7hCdEfAuI1oN6yWtKs0q3Zs0w0m2Yq5nRjT8xkP4vL") (.deleteRecording "recording-1")) := by
  have hresolved : (lesson.authority.principal lessonRules.digest
      (some "b7hCdEfAuI1oN6yWtKs0q3Zs0w0m2Yq5nRjT8xkP4vL") lessonReading.now).1 =
        .ok (participant "student-2") := by
    decide
  refine ⟨hresolved, ?_⟩
  rw [handle_resolved hresolved]
  intro h
  have hkeeps := (serve_isolated rfl lessonRules _).mp h
  have howns := hkeeps (by decide) ⟨"recording-1", "session-1", 0, []⟩
    (List.mem_singleton_self _) rfl
  exact absurd howns (by decide)

end Lesson
end ClassroomApi
end CitPhysicalXR.Runtime
