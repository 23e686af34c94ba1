import CitPhysicalXR.Runtime.People
import CitPhysicalXR.Runtime.StopFanOut

/-! The classroom: its sessions and devices, the audit, the events with their recordings, the
projects, and what the runtime does to them between two awaits. -/
namespace CitPhysicalXR.Runtime
open Foundation

def RequestedSource.source : RequestedSource → Source
  | .studentBlocks => .studentBlocks
  | .studentPython => .studentPython
  | .instructor => .instructor

inductive AuthoringMode where
  | blocks
  | python
  deriving DecidableEq

/-- `keepGoing` is `CONTINUE`. -/
inductive FailurePolicy where
  | stopCoordinated
  | keepGoing
  deriving DecidableEq

def FailurePolicy.value : FailurePolicy → String
  | stopCoordinated => "stop_coordinated"
  | keepGoing => "continue"

def ErrorCode.value : ErrorCode → String
  | .deviceNotFound => "DEVICE_NOT_FOUND"
  | .deviceOffline => "DEVICE_OFFLINE"
  | .deviceNotAssigned => "DEVICE_NOT_ASSIGNED"
  | .deviceLeaseConflict => "DEVICE_LEASE_CONFLICT"
  | .deviceNotArmed => "DEVICE_NOT_ARMED"
  | .deviceCapabilityUnsupported => "DEVICE_CAPABILITY_UNSUPPORTED"
  | .commandExpired => "COMMAND_EXPIRED"
  | .commandDuplicate => "COMMAND_DUPLICATE"
  | .safetyPolicyDenied => "SAFETY_POLICY_DENIED"

def ExecutionMode.value : ExecutionMode → String
  | simulation => "simulation"
  | physical => "physical"

namespace SessionState

/-- `_PROGRESS_TRANSITIONS`. -/
def progress : SessionState → List SessionState
  | created => [validating]
  | validating => [waitingForDevices, ready]
  | waitingForDevices => [waitingForArm, ready]
  | waitingForArm => [ready]
  | ready => [running, waitingForArm]
  | running => [paused, stopping]
  | paused => [running, stopping]
  | stopping => [stopped, completed]
  | disconnected => [waitingForDevices]
  | stopped | completed | failed | emergencyStopped => []

/-- Every state that is reachable in one step. -/
def allowedTransitions (state : SessionState) : List SessionState :=
  if state.isTerminal then []
  else state.progress ++ [emergencyStopped, failed, stopping, disconnected]

end SessionState

structure ClassroomSession extends ProgramSession where
  projectId : String
  authoringMode : AuthoringMode
  safetyPolicyId : String
  startedAt : Instant
  lastActivityAt : Instant
  instructorId : Option String := none
  endedAt : Option Instant := none
  failureReason : Option String := none
  failurePolicy : FailurePolicy := .stopCoordinated

namespace ClassroomSession

/-- Another state, or the refusal of the transition. -/
def transition (session : ClassroomSession) (requested : SessionState) (at_ : Instant)
    (reason : Option String) : Except HttpError ClassroomSession :=
  if requested ∈ session.state.allowedTransitions then
    .ok { session with
      state := requested
      lastActivityAt := at_
      endedAt := if requested.isTerminal then some at_ else none
      failureReason := reason <|> session.failureReason }
  else
    .error (.conflict (s!"Session {PyString.repr session.sessionId} cannot move from " ++
      s!"{PyString.repr session.state.value} to {PyString.repr requested.value}"))

/-- The devices of a session; what this raises, no route catches. -/
def bindDevices (session : ClassroomSession) (deviceIds : List String) (at_ : Instant) :
    Except HttpError ClassroomSession :=
  if session.state.isTerminal ∨ ¬deviceIds.Nodup then .error .unhandled
  else .ok { session with deviceBindings := deviceIds, lastActivityAt := at_ }

end ClassroomSession

structure ClassroomDevice extends RegisteredDevice where
  displayName : String
  deviceType : String
  model : String
  capabilities : List String
  assignedSessionId : Option String := none
  failureReason : Option String := none

inductive AuditAction where
  | sessionCreated
  | sessionStateChanged
  | deviceAssigned
  | deviceReleased
  | deviceConnected
  | deviceDisconnected
  | deviceArmed
  | deviceDisarmed
  | commandAccepted
  | commandDenied
  | commandClamped
  | emergencyStop
  | stopAll
  | watchdogFired
  | queueCleared
  | leaseRevoked
  | inputSourceChanged
  | failurePolicyApplied
  | replayStarted
  | recordingStarted
  | recordingStopped
  | recordingDeleted
  | recordingExported
  | retentionPruned
  | principalJoined
  | authorizationDenied
  | projectSaved
  | projectDeleted
  deriving DecidableEq

abbrev AuditContext := List (String × JsonValue)

def allowedContextKeys : List String :=
  ["action", "actorId", "adapterId", "capability", "clampedFields", "code", "commandId", "count",
    "deviceId", "durationMs", "elapsedSeconds", "eventId", "executionMode", "failurePolicy",
    "kind", "policyId", "priority", "projectId", "reason", "recordingId", "result", "role",
    "sequence", "sessionId", "source", "state", "watchdog"]

def forbiddenSubstrings : List String :=
  ["audio", "biometric", "credential", "frame", "passcode", "handmesh", "image", "password",
    "secret", "token", "video"]

/-- Drop unknown keys and replace anything that names sensitive material. -/
def redact (context : AuditContext) : AuditContext :=
  context.filterMap fun (key, value) =>
    if forbiddenSubstrings.any fun text => text.toList <:+: (key.toList.map Char.toLower) then
      some (key, .str "[redacted]")
    else if key ∈ allowedContextKeys then some (key, value)
    else none

structure AuditEntry where
  sequence : ℕ
  recordedAt : Instant
  action : AuditAction
  actorId : String
  context : AuditContext

namespace AuditEntry

/-- `entry.context.get("sessionId")`, when it is a session. -/
def session? (entry : AuditEntry) : Option String :=
  (entry.context.lookup "sessionId").bind JsonValue.str?

/-- The entry names no session. -/
def isUnbound (entry : AuditEntry) : Bool :=
  match entry.context.lookup "sessionId" with
  | none | some .null => true
  | some _ => false

end AuditEntry

inductive EventCategory where
  | connection
  | input
  | telemetry
  | motion
  | sensor
  | safety
  | program
  | diagnostic
  deriving DecidableEq

structure DeviceEvent where
  eventId : String
  deviceId : String
  category : EventCategory
  name : String
  values : JsonObject
  receivedAt : Instant
  historical : Bool := false

/-- An event, and the session that its device was bound to when it was received; the runtime
itself does not keep the latter. -/
structure ReceivedEvent extends DeviceEvent where
  heldBy : Option String

structure RecordedEvent where
  offset : Duration
  event : ReceivedEvent

structure Recording where
  recordingId : String
  sessionId : String
  startedAt : Instant
  events : List RecordedEvent := []

namespace Recording

def duration (recording : Recording) : Duration :=
  (recording.events.getLast?.map RecordedEvent.offset).getD 0

def capture (recording : Recording) (event : ReceivedEvent) : Recording :=
  { recording with
    events := recording.events ++ [⟨max (event.receivedAt - recording.startedAt) 0, event⟩] }

def fileName (recording : Recording) : String := recording.recordingId ++ ".json"

/-- The newest first, as the files sort. -/
def listsBefore (first second : Recording) : Prop :=
  second.startedAt < first.startedAt ∨
    second.startedAt = first.startedAt ∧ first.fileName ≤ second.fileName

instance : DecidableRel listsBefore := by
  unfold listsBefore
  infer_instance

def replayed (recording : Recording) : List ReceivedEvent :=
  recording.events.map fun recorded => { recorded.event with historical := true }

end Recording

/-- The subscribers: the status projection, the broadcaster with its queue, and the recorders. -/
structure EventRouter where
  seen : List String := []
  history : List ReceivedEvent := []
  broadcast : List ReceivedEvent := []
  recorders : Table Recording.recordingId := .empty

namespace EventRouter
variable (router : EventRouter)

def dedupeWindow : ℕ := 4096
def historyLimit : ℕ := 512
def broadcastLimit : ℕ := 1024

def lastOf {α : Type*} (limit : ℕ) (items : List α) : List α := items.drop (items.length - limit)

/-- Deliver to every subscriber; a retry of an event is dropped. -/
def publish (event : ReceivedEvent) : EventRouter × ℕ :=
  if event.historical = false ∧ event.eventId ∈ router.seen then (router, 0)
  else
    ({ seen := if event.historical then router.seen
        else lastOf dedupeWindow (router.seen ++ [event.eventId])
       history := lastOf historyLimit (router.history ++ [event])
       broadcast := if router.broadcast.length < broadcastLimit then router.broadcast ++ [event]
        else router.broadcast
       recorders := router.recorders.mapRows (·.capture event) fun _ => rfl },
      2 + router.recorders.rows.length)

def publishAll (events : List ReceivedEvent) : EventRouter × ℕ :=
  events.foldl (fun current event =>
    let (published, delivered) := current.1.publish event
    (published, current.2 + delivered)) (router, 0)

end EventRouter

structure RetentionPolicy where
  maxRecordings : ℕ := 50
  retentionDays : ℕ := 30

def RetentionPolicy.maxAge (policy : RetentionPolicy) : Duration :=
  hours (24 * policy.retentionDays)

structure RecordingStore where
  stored : Table Recording.recordingId := .empty
  policy : RetentionPolicy := {}

namespace RecordingStore
variable (store : RecordingStore)

/-- `_path`: the ids that name a file. -/
def isRecordingId (recordingId : String) : Bool :=
  !(recordingId.toList.any fun c => c = '/' ∨ c = '\\') && !PyString.startsWith recordingId "."

def listed : List Recording := store.stored.rows.insertionSort Recording.listsBefore

/-- Past the age limit. -/
def isStale (now : Instant) (recording : Recording) : Bool :=
  decide (recording.startedAt < now - store.policy.maxAge)

/-- The recordings past the age limit, then those past the count limit. -/
def doomed (now : Instant) : List Recording :=
  store.listed.filter (store.isStale now) ++
    (store.listed.filter fun recording => !store.isStale now recording).drop
      store.policy.maxRecordings

def prune (now : Instant) : RecordingStore × List String :=
  let removed := (store.doomed now).map Recording.recordingId
  ({ store with
      stored := store.stored.filterRows fun recording =>
        !removed.contains recording.recordingId }, removed)

def save (recording : Recording) (now : Instant) : RecordingStore :=
  ({ store with stored := store.stored.upsert recording }.prune now).1

/-- Whether there was a file, and the store without it. -/
def delete (recordingId : String) : Bool × RecordingStore :=
  ((store.stored.get? recordingId).isSome,
    { store with
      stored := store.stored.filterRows fun recording =>
        decide (recording.recordingId ≠ recordingId) })

end RecordingStore

structure StoredProject where
  projectId : String
  document : JsonObject
  owner : Option String
  named : document.get? "projectId" = some (.str projectId)

namespace StoredProject

/-- A field of a document that is a text in every valid one. -/
def text (project : StoredProject) (name : String) : String :=
  ((project.document.get? name).bind JsonValue.str?).getD ""

/-- The newest first, as the files sort. -/
def listsBefore (first second : StoredProject) : Prop :=
  second.text "updatedAt" < first.text "updatedAt" ∨
    second.text "updatedAt" = first.text "updatedAt" ∧ first.projectId ≤ second.projectId

instance : DecidableRel listsBefore := by
  unfold listsBefore
  infer_instance

end StoredProject

/-- `_PROJECT_ID`: groups of 8, 4, 4, 4 and 12 hexadecimal digits; `$` also matches before a line
break at the end. -/
def isProjectId (projectId : String) : Bool :=
  let text := if projectId.toList.getLast? = some '\n' then projectId.toList.dropLast
    else projectId.toList
  let isHex (c : Char) : Bool := c.isDigit || ('a' ≤ c && c ≤ 'f') || ('A' ≤ c && c ≤ 'F')
  decide (text.length = 36) && text.zipIdx.all fun (c, i) =>
    if i ∈ [8, 13, 18, 23] then c == '-' else isHex c

/-- What the runtime gets from elsewhere: the digest of tokens, the schema of projects, and the
validation of commands. -/
structure ClassroomRules where
  digest : String → String
  validProject : JsonObject → Bool
  validCommand : DeviceCommandIntent → Bool

structure Classroom where
  physicalEnabled : Bool := false
  authority : Authority
  sessions : Table (fun session : ClassroomSession => session.sessionId) := .empty
  devices : Table (fun device : ClassroomDevice => device.deviceId) := .empty
  supervisor : SafetySupervisor := .new
  ledger : CommandLedger := .empty
  leases : List DeviceLease := []
  queue : List QueueItem := []
  nextTicket : ℕ := 0
  audit : List AuditEntry := []
  router : EventRouter := {}
  finished : Table Recording.recordingId := .empty
  store : RecordingStore := {}
  projects : Table StoredProject.projectId := .empty

structure DeviceDescription where
  device : ClassroomDevice
  arm : Option ArmState

namespace Classroom
variable (s : Classroom)

def record (action : AuditAction) (actorId : String) (at_ : Instant) (context : AuditContext) :
    Classroom :=
  { s with audit := s.audit ++ [⟨s.audit.length + 1, at_, action, actorId, redact context⟩] }

/-- `sessions.get`; the text of a `KeyError` is quoted. -/
def getSession (sessionId : String) : Except HttpError ClassroomSession :=
  match s.sessions.get? sessionId with
  | some session => .ok session
  | none => .error (.notFound (PyString.repr s!"Unknown session {PyString.repr sessionId}"))

def getDevice (deviceId : String) : Except HttpError ClassroomDevice :=
  match s.devices.get? deviceId with
  | some device => .ok device
  | none => .error (.notFound (PyString.repr s!"Unknown device {PyString.repr deviceId}"))

def getOwnSession (principal : Principal) (sessionId : String) :
    Except HttpError ClassroomSession := do
  let session ← s.getSession sessionId
  requireSessionOwner principal session.userId
  return session

def ownedSessions (principal : Principal) : List String :=
  (s.sessions.rows.filter fun session => decide (session.userId = principal.actorId)).map
    (·.sessionId)

/-- `_visible_device_ids`: an unassigned device is visible to everyone. -/
def isVisible (principal : Principal) (deviceId : String) : Bool :=
  principal.isInstructor || (s.devices.get? deviceId).any fun device =>
    device.assignedSessionId.all fun sessionId => sessionId ∈ s.ownedSessions principal

def listedDevices : List ClassroomDevice :=
  s.devices.rows.insertionSort fun first second => first.deviceId ≤ second.deviceId

/-- `_describe_device`, which drops an arm that has expired. -/
def describeDevice (device : ClassroomDevice) (now : Instant) : Classroom × DeviceDescription :=
  let (arm, supervisor) := s.supervisor.armState device.deviceId now
  ({ s with supervisor := supervisor }, ⟨device, arm⟩)

/-- `create_session`, under the id that the generator draws. -/
def createSession (session : ClassroomSession) (now : Instant) : Except HttpError Classroom :=
  if session.executionMode = .physical ∧ s.physicalEnabled = false then
    .error (.authorization
      "This runtime is configured for simulation only; physical mode is disabled")
  else
    match s.sessions.insert? session with
    | none => .error .unhandled
    | some sessions =>
      .ok ({ s with sessions := sessions }.record .sessionCreated session.userId now
        [("sessionId", .str session.sessionId),
          ("executionMode", .str session.executionMode.value),
          ("policyId", .str session.safetyPolicyId)])

/-- `registry.assign`: one session at a time. -/
def assign (deviceId sessionId : String) : Except HttpError Classroom := do
  let device ← s.getDevice deviceId
  match device.assignedSessionId with
  | some holder =>
    raiseIf (holder ≠ sessionId) (.conflict
      (s!"Device {PyString.repr deviceId} is already assigned to session " ++
        PyString.repr holder))
  | none => pure ()
  return { s with
    devices := s.devices.upsert { device with assignedSessionId := some sessionId } }

/-- The devices are assigned one after the other, up to the first that is refused. -/
def assignEach (session : ClassroomSession) (now : Instant) :
    List String → Classroom → Classroom × Except HttpError Unit
  | [], s => (s, .ok ())
  | deviceId :: deviceIds, s =>
    match s.assign deviceId session.sessionId with
    | .error error => (s, .error error)
    | .ok assigned =>
      assignEach session now deviceIds (assigned.record .deviceAssigned session.userId now
        [("deviceId", .str deviceId), ("sessionId", .str session.sessionId)])

/-- `bind_devices`, for a session that has been looked up. -/
def bindDevices (session : ClassroomSession) (deviceIds : List String) (now : Instant) :
    Classroom × Except HttpError Unit :=
  match assignEach session now deviceIds s with
  | (assigned, .error error) => (assigned, .error error)
  | (assigned, .ok ()) =>
    match session.bindDevices deviceIds now with
    | .error error => (assigned, .error error)
    | .ok bound => ({ assigned with sessions := assigned.sessions.upsert bound }, .ok ())

/-- A finished session hands its devices back. -/
def release (session : ClassroomSession) (now : Instant) : Classroom :=
  let released := (s.listedDevices.filter fun device =>
    decide (device.assignedSessionId = some session.sessionId)).map (·.deviceId)
  let freed : Classroom := { s with
    devices := s.devices.mapRows (fun device =>
      if device.assignedSessionId = some session.sessionId then
        { device with assignedSessionId := none }
      else device) fun device => by split <;> rfl }
  released.foldl (fun current deviceId =>
    { current with supervisor := current.supervisor.disarm deviceId }.record .deviceReleased
      session.userId now [("deviceId", .str deviceId), ("sessionId", .str session.sessionId)])
    freed

/-- `transition`, for a session that has been looked up. -/
def transition (session : ClassroomSession) (state : SessionState) (reason : Option String)
    (now : Instant) : Except HttpError (ClassroomSession × Classroom) := do
  let moved ← session.transition state now reason
  let recorded := s.record .sessionStateChanged moved.userId now
    [("sessionId", .str moved.sessionId), ("state", .str state.value),
      ("reason", (reason.map JsonValue.str).getD .null)]
  let saved : Classroom := { recorded with sessions := recorded.sessions.upsert moved }
  return (moved, if moved.state.isTerminal then saved.release moved now else saved)

def actorFor (command : DeviceCommandIntent) : String :=
  ((s.sessions.get? command.sessionId).map fun session => session.userId).getD
    command.source.value

def reject (command : DeviceCommandIntent) (denial : Denial) (now : Instant) : Classroom :=
  s.record .commandDenied (s.actorFor command) now
    [("commandId", .str command.commandId), ("deviceId", .str command.deviceId),
      ("sessionId", .str command.sessionId), ("source", .str command.source.value),
      ("code", .str (denial.code.value)), ("reason", .str denial.reason),
      ("capability", .str command.capability)]

/-- The part of the classroom that commands go through. -/
def pipeline : CommandPipeline where
  sessions := s.sessions.project ClassroomSession.toProgramSession fun _ => rfl
  devices := s.devices.project ClassroomDevice.toRegisteredDevice fun _ => rfl
  supervisor := s.supervisor
  ledger := s.ledger
  leases := s.leases
  queue := s.queue

def withPipeline (p : CommandPipeline) : Classroom :=
  { s with supervisor := p.supervisor, ledger := p.ledger, leases := p.leases, queue := p.queue }

/-- `_discard`: queued commands are dropped, and each is recorded as denied. -/
def discard (deviceId reason : String) (now : Instant) : Classroom × ℕ :=
  let (dropped, answers) := s.pipeline.discard (some deviceId) reason
  (answers.foldl (fun current answer =>
    match answer with
    | .discarded item denial => current.reject item.command denial now
    | _ => current) (s.withPipeline dropped), answers.length)

/-- What `stop_device` does once the adapter has stopped. -/
def stopped (deviceId reason actorId : String) (cleared : ℕ) (events : List ReceivedEvent)
    (now : Instant) : Classroom :=
  { s with
    router := (s.router.publishAll events).1
    supervisor := s.supervisor.disarm deviceId }.record .emergencyStop actorId now
      [("deviceId", .str deviceId), ("reason", .str reason), ("result", .str (toString cleared))]

/-- `start_recording`, under the id that the generator draws. -/
def startRecording (recordingId sessionId actorId : String) (now : Instant) : Classroom :=
  let recorders := s.router.recorders.upsert ⟨recordingId, sessionId, now, []⟩
  { s with router := { s.router with recorders := recorders } }.record .recordingStarted actorId now
      [("recordingId", .str recordingId), ("sessionId", .str sessionId)]

/-- `stop_recording`, for a recorder that has been found. -/
def stopRecording (recording : Recording) (actorId : String) (now : Instant)
    (diskFails : Bool) : Classroom :=
  let detached : Classroom := { s with
    router := { s.router with
      recorders := s.router.recorders.filterRows fun other =>
        decide (other.recordingId ≠ recording.recordingId) }
    finished := s.finished.upsert recording }
  let (store, pruned) :=
    if diskFails then (detached.store, []) else (detached.store.save recording now).prune now
  let stopped := { detached with store := store }.record .recordingStopped actorId now
    [("recordingId", .str recording.recordingId), ("sessionId", .str recording.sessionId),
      ("count", .int recording.events.length)]
  if pruned = [] then stopped
  else stopped.record .retentionPruned "system" now
    [("count", .int pruned.length), ("result", .str (String.intercalate "," pruned))]

/-- `recording`: in memory first, then on disk. -/
def getRecording (recordingId : String) : Except HttpError Recording :=
  match s.finished.get? recordingId with
  | some recording => .ok recording
  | none =>
    if RecordingStore.isRecordingId recordingId then
      match s.store.stored.get? recordingId with
      | some recording => .ok recording
      | none =>
        .error (.notFound (PyString.repr s!"Unknown recording {PyString.repr recordingId}"))
    else .error .unhandled

/-- The audit that a replay package takes along. -/
def relevantEntries (recording : Recording) : List AuditEntry :=
  s.audit.filter fun entry =>
    entry.isUnbound || decide (entry.session? = some recording.sessionId)

/-- `projects.list`, for an owner or for all. -/
def listProjects (rules : ClassroomRules) (owner : Option String) : List StoredProject :=
  (s.projects.rows.filter fun project => rules.validProject project.document &&
    (owner.isNone || project.owner.isNone || project.owner == owner)).insertionSort
      StoredProject.listsBefore

end Classroom
end CitPhysicalXR.Runtime
