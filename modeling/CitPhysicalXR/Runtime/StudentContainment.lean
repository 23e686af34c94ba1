import CitPhysicalXR.Runtime.FailurePolicy
import CitPhysicalXR.Runtime.Isolation
import CitPhysicalXR.Runtime.StudentBridge

/-! What leaves a call of a student program: an answer or a readable refusal, exactly when its
payload can be read and no adapter raises. -/
namespace CitPhysicalXR.Runtime
open Foundation

/-- A computation of the bridge that raises nothing but `StudentBridgeError`. -/
def Refuses {α : Type} (x : Except CallError α) : Prop :=
  ∀ error, x = .error error → ∃ message, error = .studentBridge message

namespace Refuses
variable {α β : Type}

@[simp] theorem ok (a : α) : Refuses (.ok a) := by
  intro error h
  cases h

@[simp] theorem pure (a : α) : Refuses (Pure.pure a) := ok a

theorem error_iff {error : CallError} :
    Refuses (.error error : Except CallError α) ↔ ∃ message, error = .studentBridge message := by
  constructor
  · intro h
    exact h error rfl
  · rintro h _ ⟨⟩
    exact h

/-- A computation refuses when each of its steps does that is reached. -/
theorem bind_iff {x : Except CallError α} {f : α → Except CallError β} :
    Refuses (x >>= f) ↔ Refuses x ∧ ∀ a, x = .ok a → Refuses (f a) := by
  cases x with
  | ok a =>
    constructor
    · intro h
      refine ⟨ok a, ?_⟩
      rintro _ ⟨⟩
      exact h
    · rintro ⟨_, h⟩
      exact h a rfl
  | error error =>
    constructor
    · intro h
      refine ⟨error_iff.mpr (h error rfl), ?_⟩
      rintro _ ⟨⟩
    · rintro ⟨h, _⟩
      exact error_iff.mpr (h error rfl)

theorem mapError_iff {x : Except PyException α} :
    Refuses (x.mapError CallError.python) ↔ ∃ a, x = .ok a := by
  cases x with
  | ok a => exact iff_of_true (ok a) ⟨a, rfl⟩
  | error e =>
    refine iff_of_false ?_ ?_
    · intro h
      obtain ⟨_, heq⟩ := h (.python e) rfl
      cases heq
    · rintro ⟨_, h⟩
      cases h

theorem bind_returned {x : Except CallError α} {f : α → Except CallError β} {P : Prop}
    (hx : Refuses x → ∃ a, x = .ok a) (hf : ∀ a, Refuses (f a) ↔ P) :
    Refuses (x >>= f) ↔ Refuses x ∧ P := by
  rw [bind_iff]
  simp only [hf]
  constructor
  · rintro ⟨hrefuses, hrest⟩
    obtain ⟨a, ha⟩ := hx hrefuses
    exact ⟨hrefuses, hrest a ha⟩
  · rintro ⟨hrefuses, hP⟩
    exact ⟨hrefuses, fun _ _ => hP⟩

end Refuses

namespace StudentBridge
variable (bridge : StudentBridge) (s : Classroom) (payload : JsonObject)

/-- The payload has a device of the room, by an alias or its exact id. -/
def Resolves : Prop :=
  ∃ value device, payload.get? "device_id" = some value ∧
    s.devices.get? ((bridge.aliases.lookup value.pyStr).getD value.pyStr) = some device

/-- The keys that a call reads are there, the ones behind the device when it resolves; the
arguments and the seconds can be converted; and the session exists where it is looked up. -/
def Readable (method : String) (payload : JsonObject) : Prop :=
  match method with
  | "command" => (payload.get? "device_id").isSome = true ∧ (bridge.Resolves s payload →
      (payload.get? "capability").isSome = true ∧ (payload.get? "action").isSome = true ∧
      (∀ value, payload.get? "arguments" = some value → value.truthy = true → value.IsMapping) ∧
      (s.sessions.get? bridge.sessionId).isSome = true)
  | "read_sensor" => (payload.get? "device_id").isSome = true ∧
      (bridge.Resolves s payload → (payload.get? "sensor").isSome = true)
  | "device_info" => (payload.get? "device_id").isSome = true ∧
      (bridge.Resolves s payload → (s.sessions.get? bridge.sessionId).isSome = true)
  | "sleep" => ∀ value, payload.get? "seconds" = some value → value.IsNumeric
  | _ => True

variable {bridge s payload}

theorem refuses_text {name : String} :
    Refuses (text payload name) ↔ (payload.get? name).isSome = true := by
  unfold text
  cases payload.get? name with
  | none => simp [Refuses.error_iff]
  | some value => simp

theorem refuses_resolve (deviceRef : String) : Refuses (bridge.resolve s deviceRef) := by
  unfold resolve
  cases ClassroomApi.resolve s bridge.aliases deviceRef with
  | ok device => exact .ok device
  | error error => exact Refuses.error_iff.mpr ⟨error.detail, rfl⟩

theorem refuses_session :
    Refuses (bridge.session s) ↔ (s.sessions.get? bridge.sessionId).isSome = true := by
  unfold session
  cases s.sessions.get? bridge.sessionId with
  | none => simp [Refuses.error_iff]
  | some found => simp

theorem refuses_arguments : Refuses (arguments payload) ↔
    ∀ value, payload.get? "arguments" = some value → value.truthy = true → value.IsMapping := by
  unfold arguments
  cases payload.get? "arguments" with
  | none => simp
  | some value =>
    cases htruthy : value.truthy with
    | false => simp [Option.filter, htruthy]
    | true => simp [Option.filter, htruthy, Refuses.mapError_iff, JsonValue.toDict_eq_ok]

theorem refuses_device :
    Refuses (bridge.device s payload) ↔ (payload.get? "device_id").isSome = true := by
  unfold device
  rw [Refuses.bind_iff, refuses_text]
  constructor
  · intro h
    exact h.1
  · intro h
    exact ⟨h, fun _ _ => refuses_resolve _⟩

theorem resolve_eq_ok {deviceRef : String} {device : ClassroomDevice} :
    bridge.resolve s deviceRef = .ok device ↔
      s.devices.get? ((bridge.aliases.lookup deviceRef).getD deviceRef) = some device := by
  unfold resolve ClassroomApi.resolve
  cases s.devices.get? ((bridge.aliases.lookup deviceRef).getD deviceRef) with
  | none => simp [Except.mapError]
  | some found => simp [Except.mapError]

theorem device_eq_ok : (∃ device, bridge.device s payload = .ok device) ↔
    bridge.Resolves s payload := by
  unfold device Resolves text
  cases payload.get? "device_id" with
  | none => simp [bind, Except.bind]
  | some value => simp [bind, Except.bind, resolve_eq_ok]

theorem refuses_behind_device {α : Type} {f : ClassroomDevice → Except CallError α} {P : Prop}
    (hf : ∀ device, Refuses (f device) ↔ P) :
    Refuses (bridge.device s payload >>= f) ↔
      (payload.get? "device_id").isSome = true ∧ (bridge.Resolves s payload → P) := by
  rw [Refuses.bind_iff, refuses_device, ← device_eq_ok]
  simp only [hf, forall_exists_index]

theorem text_returned {name : String} (h : Refuses (text payload name)) :
    ∃ value, text payload name = .ok value := by
  obtain ⟨value, hvalue⟩ := Option.isSome_iff_exists.mp (refuses_text.mp h)
  exact ⟨value.pyStr, by simp only [text, hvalue]⟩

theorem arguments_returned (h : Refuses (arguments payload)) :
    ∃ read, arguments payload = .ok read := by
  unfold arguments at h ⊢
  split at h
  · obtain ⟨read, hread⟩ := Refuses.mapError_iff.mp h
    exact ⟨read, by rw [hread]; rfl⟩
  · exact ⟨[], rfl⟩

theorem refuses_readCommand :
    Refuses (bridge.readCommand s payload) ↔ bridge.Readable s "command" payload := by
  refine refuses_behind_device fun device => ?_
  rw [← @refuses_text payload "capability", ← @refuses_text payload "action",
    ← refuses_arguments, ← refuses_session]
  refine Refuses.bind_returned text_returned fun capability => ?_
  refine Refuses.bind_returned text_returned fun action => ?_
  refine Refuses.bind_returned arguments_returned fun arguments => ?_
  rw [Refuses.bind_iff]
  exact and_iff_left fun _ _ => .pure _

theorem refuses_readSensor :
    Refuses (bridge.readSensor s payload) ↔ bridge.Readable s "read_sensor" payload := by
  refine refuses_behind_device fun device => ?_
  rw [← refuses_text, Refuses.bind_iff]
  refine and_iff_left ?_
  intro sensor _
  split <;> exact .pure _

theorem refuses_readDeviceInfo :
    Refuses (bridge.readDeviceInfo s payload) ↔ bridge.Readable s "device_info" payload := by
  refine refuses_behind_device fun device => ?_
  rw [← refuses_session, Refuses.bind_iff]
  exact and_iff_left fun _ _ => .pure _

theorem refuses_sleep : Refuses (sleep payload) ↔ bridge.Readable s "sleep" payload := by
  unfold sleep Readable
  rw [Refuses.bind_iff, Refuses.mapError_iff, JsonValue.toFloat_eq_ok]
  rw [and_iff_left fun _ _ => .pure _]
  cases payload.get? "seconds" with
  | none => simp [JsonValue.IsNumeric]
  | some value => simp

end StudentBridge

/-- What a call raises at once is a refusal. -/
def Called.Refuses (called : Called) : Prop :=
  ∀ error, called = .raised error → ∃ message, error = .studentBridge message

namespace Called

theorem refuses_raised {α : Type} {error : CallError} :
    (Called.raised error).Refuses ↔ Runtime.Refuses (.error error : Except CallError α) := by
  rw [Refuses.error_iff]
  constructor
  · intro h
    exact h error rfl
  · rintro h _ ⟨⟩
    exact h

theorem refuses_answerOf {x : Except CallError Reply} :
    (StudentBridge.answerOf x).Refuses ↔ Runtime.Refuses x := by
  cases x with
  | ok reply =>
    refine iff_of_true ?_ (.ok reply)
    rintro _ ⟨⟩
  | error error => exact refuses_raised

end Called

namespace StudentBridge
variable {bridge : StudentBridge} {rules : ClassroomRules} {s : Classroom} {reading : Reading}
  {payload : JsonObject} {commandId idempotencyKey : String}

theorem command_refuses :
    (bridge.command rules s reading payload commandId idempotencyKey).2.Refuses ↔
      bridge.Readable s "command" payload := by
  rw [← refuses_readCommand]
  unfold command
  cases bridge.readCommand s payload with
  | error error => exact Called.refuses_raised
  | ok read =>
    refine iff_of_true ?_ (.ok read)
    simp only
    split
    · rintro _ ⟨⟩
      exact ⟨_, rfl⟩
    · rintro _ ⟨⟩

theorem deviceInfo_refuses : (bridge.deviceInfo s reading payload).2.Refuses ↔
    bridge.Readable s "device_info" payload := by
  rw [← refuses_readDeviceInfo]
  unfold deviceInfo
  cases bridge.readDeviceInfo s payload with
  | error error => exact Called.refuses_raised
  | ok found =>
    refine iff_of_true ?_ (.ok found)
    rintro _ ⟨⟩

theorem call_refuses (method : String) :
    (bridge.call rules s reading method payload commandId idempotencyKey).2.Refuses ↔
      bridge.Readable s method payload := by
  unfold call
  split
  · exact command_refuses
  · rw [Called.refuses_answerOf, refuses_readSensor]
  · refine iff_of_true ?_ trivial
    rintro _ ⟨⟩
  · exact deviceInfo_refuses
  · rw [Called.refuses_answerOf, refuses_sleep]
  · rename_i hcommand hsensor hlog hinfo hsleep
    refine iff_of_true ?_ ?_
    · rintro _ ⟨⟩
      exact ⟨_, rfl⟩
    · unfold Readable
      split <;> first | contradiction | trivial

theorem call_unsubmitted {method : String} {error : CallError}
    (h : (bridge.call rules s reading method payload commandId idempotencyKey).2 =
      .raised error) :
    (bridge.call rules s reading method payload commandId idempotencyKey).1.queue = s.queue ∧
      (bridge.call rules s reading method payload commandId idempotencyKey).1.nextTicket =
        s.nextTicket := by
  revert h
  unfold call
  split
  · unfold command
    split
    · exact fun _ => ⟨rfl, rfl⟩
    · simp only
      split
      · exact fun _ => ⟨rfl, rfl⟩
      · rintro ⟨⟩
  · exact fun _ => ⟨rfl, rfl⟩
  · exact fun _ => ⟨rfl, rfl⟩
  · unfold deviceInfo
    split
    · exact fun _ => ⟨rfl, rfl⟩
    · rintro ⟨⟩
  · exact fun _ => ⟨rfl, rfl⟩
  · exact fun _ => ⟨rfl, rfl⟩

end StudentBridge

def Progress.Answers (progress : Progress) : Prop :=
  ∀ reply, progress = .done reply → reply.status = 200

namespace Progress

theorem answers_waits (task : Suspended) : (Progress.waits task).Answers := by
  rintro _ ⟨⟩

theorem answers_done {reply : Reply} (h : reply.status = 200) : (Progress.done reply).Answers := by
  rintro _ ⟨⟩
  exact h

end Progress

namespace Classroom
variable {s : Classroom}

theorem executedReply_status (run : CommandRun) (result : CommandResult) :
    (executedReply run result).status = 200 := by
  unfold executedReply
  cases run.form with
  | console => rfl
  | program =>
    simp only
    split <;> rfl

theorem answers_submit (reading : Reading) (command : DeviceCommandIntent) (form : CommandForm) :
    (s.submit reading command form).2.Answers := by
  unfold submit
  split
  · exact Progress.answers_waits _
  · exact Progress.answers_done rfl

theorem answers_dispatch (reading : Reading) (item : QueueItem) (form : CommandForm) :
    (s.dispatch reading item form).2.Answers := by
  rcases (dispatch_course (s := s) reading item form).2 with ⟨denial, hdone, _⟩ | ⟨run, hwaits, _⟩
  · rw [hdone]
    exact Progress.answers_done rfl
  · rw [hwaits]
    exact Progress.answers_waits _

theorem answers_accept (run : CommandRun) (result : CommandResult) :
    (s.accept run result).2.Answers :=
  Progress.answers_done (executedReply_status run result)

theorem answers_stopGroup (run : CommandRun) (result : CommandResult)
    (rest stopped : List String) : (stopGroup run result rest stopped s).2.Answers := by
  induction rest generalizing s with
  | nil => exact answers_accept run result
  | cons deviceId rest ih =>
    unfold stopGroup
    split
    · exact Progress.answers_waits _
    · exact ih

theorem answers_resume (reading : Reading) (task : Suspended) (result : CommandResult)
    (events : List ReceivedEvent) :
    (s.resume reading task (.returned result events)).2.Answers := by
  cases task with
  | queued item form => exact answers_dispatch reading item form
  | executing run =>
    simp only [resume, executed]
    split
    · exact answers_accept run result
    · exact answers_stopGroup run result _ _
  | stoppingGroup run first deviceId cleared rest stopped =>
    exact answers_stopGroup run first _ _
  | stoppingDevice deviceId reason actorId cleared => exact Progress.answers_done rfl

end Classroom

namespace Suspended
variable {task : Suspended} {wake : Wake} {progress : Progress}

theorem answers_wake (hwake : task.wake wake = some progress) (hraises : wake.raises = false) :
    progress.Answers := by
  unfold Suspended.wake at hwake
  split at hwake
  · cases hwake
    exact Classroom.answers_dispatch _ _ _
  · cases hwake
  · cases hwake
  · rename_i room reading reply _
    cases hwake
    cases reply with
    | raised => cases hraises
    | returned result events => exact Classroom.answers_resume _ _ _ _

/-- The exception of an adapter ends the submission. -/
theorem wake_raised (hwake : task.wake wake = some progress) (hraises : wake.raises = true) :
    progress = .done HttpError.unhandled.reply := by
  unfold Suspended.wake at hwake
  split at hwake
  · cases hraises
  · cases hwake
  · cases hwake
  · rename_i room reading reply hqueued
    cases hwake
    cases reply with
    | returned result events => cases hraises
    | raised =>
      cases task with
      | queued item form => exact absurd rfl (hqueued item form)
      | executing run => rfl
      | stoppingGroup => rfl
      | stoppingDevice => rfl

end Suspended

/-- A submission that can only end in an answer ends in one exactly when no adapter raises. -/
theorem Progress.ending_returned {progress : Progress} {wakes : List Wake} {ending : CallEnd}
    (hanswers : progress.Answers) (hending : progress.ending wakes = some ending) :
    (∃ reply, ending = .returned reply) ↔ ∀ wake ∈ wakes, wake.raises = false := by
  induction wakes generalizing progress with
  | nil =>
    cases progress with
    | waits task => cases hending
    | done reply =>
      cases hending
      refine iff_of_true ⟨reply, ?_⟩ (by simp)
      rw [CallEnd.ofReply, if_pos (hanswers reply rfl)]
  | cons wake wakes ih =>
    cases progress with
    | done reply => cases hending
    | waits task =>
      obtain ⟨progress, hwake, hrest⟩ := Option.bind_eq_some_iff.mp hending
      rw [List.forall_mem_cons]
      cases hraises : wake.raises with
      | false =>
        rw [ih (Suspended.answers_wake hwake hraises) hrest]
        simp
      | true =>
        rw [Suspended.wake_raised hwake hraises] at hrest
        refine iff_of_false ?_ (by simp)
        rintro ⟨reply, rfl⟩
        cases wakes with
        | nil => cases hrest
        | cons => cases hrest

theorem Progress.ending_raised {progress : Progress} {wakes : List Wake} {error : CallError}
    (hending : progress.ending wakes = some (.raised error)) : error = .adapter := by
  induction wakes generalizing progress with
  | nil =>
    cases progress with
    | waits task => cases hending
    | done reply =>
      have hreply : CallEnd.ofReply reply = .raised error := Option.some.inj hending
      unfold CallEnd.ofReply at hreply
      split at hreply <;> cases hreply
      rfl
  | cons wake wakes ih =>
    cases progress with
    | done reply => cases hending
    | waits task =>
      obtain ⟨progress, _, hrest⟩ := Option.bind_eq_some_iff.mp hending
      exact ih hrest

theorem StudentBridge.call_answers {bridge : StudentBridge} {rules : ClassroomRules}
    {s : Classroom} {reading : Reading} {method : String} {payload : JsonObject}
    {commandId idempotencyKey : String} {progress : Progress}
    (h : (bridge.call rules s reading method payload commandId idempotencyKey).2 =
      .submitted progress) : progress.Answers := by
  revert h
  unfold call
  split
  · unfold command
    split
    · rintro ⟨⟩
    · simp only
      split
      · rintro ⟨⟩
      · rintro ⟨⟩
        exact Classroom.answers_submit _ _ _
  · cases bridge.readSensor s payload <;> rintro ⟨⟩
  · rintro ⟨⟩
  · unfold deviceInfo
    split <;> rintro ⟨⟩
  · cases sleep payload <;> rintro ⟨⟩
  · rintro ⟨⟩

def CallEnd.Contained (before after : Classroom) (ending : CallEnd) : Prop :=
  ∀ error, ending = .raised error → (∃ message, error = .studentBridge message) ∧
    after.queue = before.queue ∧ after.nextTicket = before.nextTicket

/-- A call of a student program is contained exactly when its payload can be read and no adapter
raises on its command. -/
theorem call_contained {bridge : StudentBridge} {rules : ClassroomRules} {s after : Classroom}
    {reading : Reading} {method : String} {payload : JsonObject}
    {commandId idempotencyKey : String} {called : Called} {wakes : List Wake} {ending : CallEnd}
    (hcall : bridge.call rules s reading method payload commandId idempotencyKey =
      (after, called))
    (hending : called.ending wakes = some ending) :
    ending.Contained s after ↔
      bridge.Readable s method payload ∧ ∀ wake ∈ wakes, wake.raises = false := by
  have hrefuses : called.Refuses ↔ bridge.Readable s method payload := by
    have h := @StudentBridge.call_refuses bridge rules s reading payload commandId idempotencyKey
      method
    rwa [hcall] at h
  rw [← hrefuses]
  cases called with
  | raised error =>
    cases wakes with
    | cons => cases hending
    | nil =>
      cases hending
      have hqueue := StudentBridge.call_unsubmitted (congrArg Prod.snd hcall)
      rw [hcall] at hqueue
      constructor
      · intro h
        refine ⟨?_, by simp⟩
        rintro _ ⟨⟩
        exact (h error rfl).1
      · rintro ⟨h, _⟩ _ ⟨⟩
        exact ⟨h error rfl, hqueue⟩
  | answered reply =>
    cases wakes with
    | cons => cases hending
    | nil =>
      cases hending
      refine iff_of_true ?_ ⟨?_, by simp⟩
      · rintro _ ⟨⟩
      · rintro _ ⟨⟩
  | submitted progress =>
    have hanswers := StudentBridge.call_answers (congrArg Prod.snd hcall)
    rw [← Progress.ending_returned hanswers hending]
    constructor
    · intro h
      refine ⟨?_, ?_⟩
      · rintro _ ⟨⟩
      · cases ending with
        | returned reply => exact ⟨reply, rfl⟩
        | raised error =>
          obtain ⟨⟨_, hmessage⟩, _⟩ := h error rfl
          cases (Progress.ending_raised hending).symm.trans hmessage
    · rintro ⟨_, reply, rfl⟩ _ ⟨⟩

section Lesson

def drivingRoom : Classroom :=
  { ClassroomApi.lesson with
    devices := Table.empty.upsert {
      deviceId := "fake-s1-main"
      physical := false
      state := .connected
      displayName := "Fake S1"
      deviceType := "robot"
      model := "S1"
      capabilities := ["drive.velocity"] } }

def drivingBridge : StudentBridge where
  sessionId := "session-1"
  aliases := [("s1", "fake-s1-main")]

def drivingRules : ClassroomRules := { ClassroomApi.lessonRules with validCommand := fun _ => true }

/-- What `s1.drive.velocity(...)` produces. -/
def drivingPayload : JsonObject :=
  (((JsonObject.empty.set "device_id" (.str "s1")).set "capability" (.str "drive.velocity")).set
    "action" (.str "set")).set "arguments" (.obj [("speed", .float (.finite (1 / 5)))])

def drivingCall : Classroom × Called :=
  drivingBridge.call drivingRules drivingRoom ClassroomApi.lessonReading "command" drivingPayload
    "2b0e4d0e-6f0c-4c4e-9f0c-1f2a3b4c5d6e" "key-1"

def drivingWakes : List Wake :=
  [Wake.turn drivingCall.1 ClassroomApi.lessonReading,
    .back drivingCall.1 ClassroomApi.lessonReading (.returned { status := "completed" } [])]

/-- The alias resolves, the command is driven to its end, and the call returns. -/
theorem call_contained_drive : ∃ ending, drivingCall.2.ending drivingWakes = some ending ∧
    ending.Contained drivingRoom drivingCall.1 := by
  have hsome : (drivingCall.2.ending drivingWakes).isSome = true := by decide +kernel
  obtain ⟨ending, hending⟩ := Option.isSome_iff_exists.mp hsome
  have hcall : drivingBridge.call drivingRules drivingRoom ClassroomApi.lessonReading "command"
      drivingPayload "2b0e4d0e-6f0c-4c4e-9f0c-1f2a3b4c5d6e" "key-1" =
        (drivingCall.1, drivingCall.2) := rfl
  refine ⟨ending, hending, (call_contained hcall hending).mpr ⟨⟨by decide, ?_⟩, ?_⟩⟩
  · intro _
    refine ⟨by decide, by decide, ?_, by decide⟩
    rintro value hvalue _
    obtain rfl : JsonValue.obj [("speed", .float (.finite (1 / 5)))] = value :=
      Option.some.inj hvalue
    trivial
  · intro wake hwake
    simp only [drivingWakes, List.mem_cons, List.not_mem_nil, or_false] at hwake
    rcases hwake with rfl | rfl <;> rfl

/-- A command without a device is a `KeyError`, and no refusal. -/
theorem missing_device_escapes :
    drivingBridge.call drivingRules drivingRoom ClassroomApi.lessonReading "command" .empty
        "2b0e4d0e-6f0c-4c4e-9f0c-1f2a3b4c5d6e" "key-1" =
      (drivingRoom, .raised (.python (.keyError "device_id"))) ∧
    ¬CallEnd.Contained drivingRoom drivingRoom (.raised (.python (.keyError "device_id"))) := by
  refine ⟨rfl, ?_⟩
  intro h
  obtain ⟨⟨_, hmessage⟩, _⟩ := h _ rfl
  cases hmessage

end Lesson

namespace ClassroomApi
variable {rules : ClassroomRules} {s : Classroom} {principal : Principal} {reading : Reading}

theorem getOwnSession_found {sessionId : String} {session : ClassroomSession}
    (h : s.getOwnSession principal sessionId = .ok session) :
    s.sessions.get? sessionId = some session := by
  obtain ⟨found, hfound, hrest⟩ := bind_eq_ok.mp h
  obtain ⟨_, hsession⟩ := seq_eq_ok.mp hrest
  cases hsession
  unfold Classroom.getSession at hfound
  split at hfound
  · cases hfound
    assumption
  · cases hfound

theorem resolve_status {aliases : List (String × String)} {deviceRef : String}
    {error : HttpError} (h : resolve s aliases deviceRef = .error error) :
    error = ⟨400, error.detail⟩ := by
  unfold resolve at h
  split at h <;> cases h
  rfl

section Calls
variable {body : StudentRpcBody} {session : ClassroomSession} {deviceRef : JsonValue}
  {commandId idempotencyKey : String}

theorem device_eq (href : body.payload.get? "device_id" = some deviceRef) :
    (bridgeOf body session).device s body.payload =
      (resolve s body.aliases deviceRef.pyStr).mapError fun error =>
        .studentBridge error.detail := by
  unfold StudentBridge.device StudentBridge.text
  rw [href]
  rfl

theorem session_eq (hsession : s.sessions.get? body.sessionId = some session) :
    (bridgeOf body session).session s = .ok session := by
  have hid : (bridgeOf body session).sessionId = body.sessionId := rfl
  unfold StudentBridge.session
  rw [hid, hsession]

theorem text_eq {payload : JsonObject} {name : String} {value : JsonValue}
    (h : payload.get? name = some value) : StudentBridge.text payload name = .ok value.pyStr := by
  unfold StudentBridge.text
  rw [h]

theorem relay_command (hsession : s.sessions.get? body.sessionId = some session)
    (href : body.payload.get? "device_id" = some deviceRef) {capability action : JsonValue}
    (hcapability : body.payload.get? "capability" = some capability)
    (haction : body.payload.get? "action" = some action)
    {entries : List (JsonValue × JsonValue)}
    (hentries : StudentBridge.arguments body.payload = .ok entries) {arguments : JsonObject}
    (harguments : JsonValue.stringKeyed entries = some arguments) {call : StudentCall} :
    relay ((bridgeOf body session).command rules s reading body.payload commandId
      idempotencyKey) =
      match resolve s body.aliases deviceRef.pyStr with
      | .error error => s.raised error
      | .ok device => callDevice rules s reading
          ⟨body.sessionId, call, body.aliases, body.inputConfidence⟩ session device
          (.command capability.pyStr action.pyStr arguments commandId idempotencyKey) := by
  unfold StudentBridge.command StudentBridge.readCommand
  rw [device_eq href, text_eq hcapability, text_eq haction, hentries, session_eq hsession]
  cases hresolve : resolve s body.aliases deviceRef.pyStr with
  | error error =>
    rw [resolve_status hresolve]
    rfl
  | ok device =>
    simp only [Except.mapError, bind, Except.bind, pure, Except.pure, StudentBridge.intent,
      harguments, callDevice, Option.map_some, Option.filter]
    by_cases hvalid : rules.validCommand (s.intent reading session device.deviceId
      capability.pyStr action.pyStr arguments (bridgeOf body session).source
      (bridgeOf body session).commandTtl (bridgeOf body session).inputConfidence commandId
      idempotencyKey).1 = true
    · rw [if_pos hvalid]
      exact (if_pos hvalid).symm
    · rw [if_neg hvalid]
      exact (if_neg hvalid).symm

theorem relay_readSensor (href : body.payload.get? "device_id" = some deviceRef)
    {sensor : JsonValue} (hsensor : body.payload.get? "sensor" = some sensor)
    {call : StudentCall} :
    relay (s, StudentBridge.answerOf ((bridgeOf body session).readSensor s body.payload)) =
      match resolve s body.aliases deviceRef.pyStr with
      | .error error => s.raised error
      | .ok device => callDevice rules s reading
          ⟨body.sessionId, call, body.aliases, body.inputConfidence⟩ session device
          (.readSensor sensor.pyStr) := by
  unfold StudentBridge.readSensor
  rw [device_eq href, text_eq hsensor]
  cases hresolve : resolve s body.aliases deviceRef.pyStr with
  | error error =>
    rw [resolve_status hresolve]
    rfl
  | ok device =>
    simp only [Except.mapError, bind, Except.bind, callDevice]
    cases lastReading s device.deviceId sensor.pyStr <;> rfl

theorem relay_deviceInfo (hsession : s.sessions.get? body.sessionId = some session)
    (href : body.payload.get? "device_id" = some deviceRef) {call : StudentCall} :
    relay ((bridgeOf body session).deviceInfo s reading body.payload) =
      match resolve s body.aliases deviceRef.pyStr with
      | .error error => s.raised error
      | .ok device => callDevice rules s reading
          ⟨body.sessionId, call, body.aliases, body.inputConfidence⟩ session device
          .deviceInfo := by
  unfold StudentBridge.deviceInfo StudentBridge.readDeviceInfo
  rw [device_eq href, session_eq hsession]
  cases hresolve : resolve s body.aliases deviceRef.pyStr with
  | error error =>
    rw [resolve_status hresolve]
    rfl
  | ok device => rfl

theorem toOption_eq_some {α ε : Type} {x : Except ε α} {a : α} (h : x.toOption = some a) :
    x = .ok a := by
  cases x with
  | ok b =>
    cases h
    rfl
  | error e => cases h

/-- The route answers a payload that spells a call as the call is answered. -/
theorem relayRpc_of_readCall {call : StudentCall}
    (h : StudentBridge.readCall body.method body.payload commandId idempotencyKey = some call) :
    relayRpc rules s principal reading body commandId idempotencyKey =
      studentRpc rules s principal reading
        ⟨body.sessionId, call, body.aliases, body.inputConfidence⟩ := by
  unfold relayRpc studentRpc
  cases hown : s.getOwnSession principal body.sessionId with
  | error error => rfl
  | ok session =>
    have hsession := getOwnSession_found hown
    unfold StudentBridge.readCall at h
    dsimp only
    split at h
    · rename_i hmethod
      obtain ⟨deviceRef, href, h⟩ := Option.bind_eq_some_iff.mp h
      obtain ⟨capability, hcapability, h⟩ := Option.bind_eq_some_iff.mp h
      obtain ⟨action, haction, h⟩ := Option.bind_eq_some_iff.mp h
      obtain ⟨entries, hentries, h⟩ := Option.bind_eq_some_iff.mp h
      obtain ⟨arguments, harguments, h⟩ := Option.bind_eq_some_iff.mp h
      cases h
      rw [hmethod]
      exact relay_command hsession href hcapability haction (toOption_eq_some hentries) harguments
    · rename_i hmethod
      obtain ⟨deviceRef, href, h⟩ := Option.bind_eq_some_iff.mp h
      obtain ⟨sensor, hsensor, h⟩ := Option.bind_eq_some_iff.mp h
      cases h
      rw [hmethod]
      exact relay_readSensor href hsensor
    · rename_i hmethod
      cases h
      rw [hmethod]
      rfl
    · rename_i hmethod
      obtain ⟨deviceRef, href, h⟩ := Option.map_eq_some_iff.mp h
      cases h
      rw [hmethod]
      exact relay_deviceInfo hsession href
    · rename_i hmethod
      obtain ⟨duration, hduration, rfl⟩ := Option.map_eq_some_iff.mp h
      rw [hmethod]
      simp only [StudentBridge.call, StudentBridge.sleep, toOption_eq_some hduration]
      rfl
    · cases h

end Calls

theorem relayRpc_of_readCall_drive : ∃ call,
    StudentBridge.readCall "command" drivingPayload "command-1" "key-1" = some call ∧
    relayRpc drivingRules drivingRoom (participant "ana") lessonReading
        ⟨"session-1", "command", drivingPayload, [("s1", "fake-s1-main")], none⟩ "command-1" "key-1" =
      studentRpc drivingRules drivingRoom (participant "ana") lessonReading
        ⟨"session-1", call, [("s1", "fake-s1-main")], none⟩ :=
  ⟨_, rfl, relayRpc_of_readCall rfl⟩

end ClassroomApi
end CitPhysicalXR.Runtime
