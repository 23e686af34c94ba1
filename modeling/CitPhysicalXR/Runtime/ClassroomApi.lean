import CitPhysicalXR.Runtime.Classroom

/-! The routes of the classroom, from one await to the next: what a request does before the first,
and what it does when it goes on. -/
namespace CitPhysicalXR.Runtime
open Foundation

inductive Record where
  | device (description : DeviceDescription)
  | session (session : ClassroomSession)
  | auditEntry (entry : AuditEntry)
  | event (event : ReceivedEvent)
  /-- The summary of a recording. -/
  | recording (recording : Recording)
  /-- The summary of a project, or its document. -/
  | project (project : StoredProject)

structure Reply where
  status : ℕ := 200
  fields : AuditContext := []
  records : List Record := []

def HttpError.reply (error : HttpError) : Reply where
  status := error.status
  fields := [("detail", .str error.detail)]

structure SimpleCommandRequest where
  sessionId : String
  deviceId : String
  capability : String
  action : String
  arguments : JsonObject := .empty
  source : Option RequestedSource := none
  inputConfidence : Option ℚ := none
  ttl : Duration := seconds 5
  commandId : String
  idempotencyKey : String

inductive DeviceCall where
  | command (capability action : String) (arguments : JsonObject)
      (commandId idempotencyKey : String)
  | readSensor (sensor : String)
  | deviceInfo

/-- The calls of a student program; `malformed` stands for a payload that its handler cannot
read. -/
inductive StudentCall where
  | device (deviceRef : String) (call : DeviceCall)
  | log (message : String)
  | sleep (duration : PyFloat)
  | malformed

structure StudentRpcRequest where
  sessionId : String
  call : StudentCall
  aliases : List (String × String) := []
  inputConfidence : Option ℚ := none

structure CreateSessionRequest where
  projectId : String
  authoringMode : AuthoringMode := .blocks
  executionMode : ExecutionMode := .simulation
  instructorId : Option String := none
  safetyPolicyId : String := "simulation-only"
  sessionId : String

inductive OpenRequest where
  | join (request : JoinRequest)
  | leave
  | health

inductive CommandForm where
  | console
  | program

structure CommandRun where
  session : ClassroomSession
  command : DeviceCommandIntent
  clampedFields : List String
  form : CommandForm
  now : Instant

structure CommandResult where
  status : String
  message : Option String := none
  /-- `details["code"]`. -/
  code : Option String := none

def CommandResult.accepted (result : CommandResult) : Bool :=
  result.status ∈ ["accepted", "completed"]

/-- A request at an await. -/
inductive Suspended where
  | queued (item : QueueItem) (form : CommandForm)
  | executing (run : CommandRun)
  /-- The failure policy waits for the adapter of a device. -/
  | stoppingGroup (run : CommandRun) (result : CommandResult) (deviceId : String) (cleared : ℕ)
      (rest stopped : List String)
  | stoppingDevice (deviceId reason actorId : String) (cleared : ℕ)

/-- What an adapter comes back with; `result` belongs to an execution. -/
inductive AdapterReply where
  | raised
  | returned (result : CommandResult) (events : List ReceivedEvent)

/-- What a request has done at its next await, or at its end. -/
inductive Progress where
  | done (reply : Reply)
  | waits (task : Suspended)

/-- The requests of a principal, with what the generator draws for them. A `privileged` route
does nothing before it has authorized its action. -/
inductive Request where
  | whoami
  | listDevices
  | listSessions
  | createSession (request : CreateSessionRequest)
  | bindDevices (sessionId : String) (deviceIds : List String)
  | transition (sessionId : String) (state : SessionState) (reason : Option String)
  | validate (sessionId : String)
  | heartbeat (deviceId : String) (kind : WatchdogKind)
  | stop (deviceId reason : String)
  | readInputs
  | submitCommand (request : SimpleCommandRequest)
  | studentRpc (request : StudentRpcRequest)
  | audit
  | recentEvents (deviceId : Option String)
  | listRecordings
  | startRecording (sessionId recordingId : String)
  | stopRecording (recordingId : String) (diskFails : Bool)
  | replay (recordingId : String)
  | exportRecording (recordingId : String)
  | deleteRecording (recordingId : String)
  | readRetention
  | listProjects
  | readProject (projectId : String)
  | saveProject (projectId : String) (document : JsonObject) (diskFails : Bool)
  | deleteProject (projectId : String)
  | privileged (action : Action) (effect : Classroom → Classroom × Progress)

def Progress.records : Progress → List Record
  | .done reply => reply.records
  | .waits _ => []

namespace Classroom
variable (rules : ClassroomRules) (s : Classroom) (principal : Principal) (reading : Reading)

/-- A handler that raises answers with the error and leaves what it has done. -/
def raised (error : HttpError) : Classroom × Progress := (s, .done error.reply)

def answer (reply : Reply) : Classroom × Progress := (s, .done reply)

/-- The answer to a command that was refused or discarded. -/
def deniedReply (form : CommandForm) (deviceId : String) (denial : Denial) : Reply where
  fields := [("accepted", .bool false), ("code", .str denial.code.value),
    ("message", .str denial.reason), ("recovery", .str denial.recovery)] ++
      match form with
      | .console => []
      | .program => [("deviceId", .str deviceId)]

/-- The answer to a command that its adapter has executed. -/
def executedReply (run : CommandRun) (result : CommandResult) : Reply :=
  let code : JsonValue := .str (result.code.getD "DEVICE_CAPABILITY_UNSUPPORTED")
  let clamped : JsonValue := .arr (run.clampedFields.map JsonValue.str)
  match run.form with
  | .console =>
    { fields := [("accepted", .bool result.accepted), ("status", .str result.status),
        ("commandId", .str run.command.commandId), ("clampedFields", clamped)] ++
          (if result.accepted then [] else [("code", code)]) ++
          (match result.accepted, result.message with
            | false, some message => [("message", .str message)]
            | _, _ => []) }
  | .program =>
    if result.accepted then
      { fields := [("accepted", .bool true), ("status", .str result.status),
          ("clampedFields", clamped), ("deviceId", .str run.command.deviceId)] }
    else
      { fields := [("accepted", .bool false), ("status", .str result.status), ("code", code),
          ("message", .str (result.message.getD
            s!"The device refused this command ({result.status}).")),
          ("recovery", .str
            "Fix what the device named above, then run the program again."),
          ("deviceId", .str run.command.deviceId)] }

/-- `submit`, up to its turn on the lane of the device. -/
def submit (command : DeviceCommandIntent) (form : CommandForm) : Classroom × Progress :=
  if s.queue.length < CommandQueue.maxDepth then
    let item : QueueItem :=
      ⟨(classifyPriority command).rank, s.nextTicket, command, s.nextTicket⟩
    ({ s with queue := s.queue ++ [item], nextTicket := s.nextTicket + 1 },
      .waits (.queued item form))
  else
    let denial : Denial := {
      code := .safetyPolicyDenied
      reason := "The command queue is full and the runtime is shedding load"
      recovery := "Wait for the class to catch up, then send this again." }
    (s.reject command denial reading.now, .done (deniedReply form command.deviceId denial))

def intent (session : ClassroomSession) (deviceId capability action : String)
    (arguments : JsonObject) (source : Source) (ttl : Duration)
    (inputConfidence : Option ℚ) (commandId idempotencyKey : String) :
    DeviceCommandIntent × Classroom :=
  let (arm, supervisor) := s.supervisor.armState deviceId reading.checkedAt
  ({ commandId := commandId
     sessionId := session.sessionId
     deviceId := deviceId
     capability := capability
     action := action
     arguments := arguments
     source := source
     issuedAt := reading.now
     expiresAt := reading.now + ttl
     idempotencyKey := idempotencyKey
     safetyContext := {
       policyId := session.safetyPolicyId
       armed := arm.isSome
       deadmanActive := some (supervisor.deadmanAttested deviceId reading.monotonic)
       inputConfidence := inputConfidence } },
    { s with supervisor := supervisor })

def recordDispatch (run : CommandRun) : List DispatchReport → Classroom → Classroom
  | [], s => s
  | .denied command denial :: reports, s =>
    recordDispatch run reports (s.reject command denial run.now)
  | .clamped command clampedFields :: reports, s =>
    recordDispatch run reports (s.record .commandClamped run.session.userId run.now
      [("commandId", .str command.commandId), ("deviceId", .str command.deviceId),
        ("clampedFields", .arr (clampedFields.map JsonValue.str)),
        ("capability", .str command.capability)])
  | .executed _ :: reports, s => recordDispatch run reports s

/-- What a dispatch came to. -/
def outcome (form : CommandForm) (run : CommandRun) : List DispatchReport → Progress
  | [] => .done HttpError.unhandled.reply
  | .denied command denial :: _ => .done (deniedReply form command.deviceId denial)
  | .clamped _ clampedFields :: reports => outcome form { run with clampedFields } reports
  | .executed _ :: _ => .waits (.executing run)

/-- The turn of a queued command: `_dispatch`, up to its adapter. -/
def dispatch (item : QueueItem) (form : CommandForm) : Classroom × Progress :=
  let popped := { s.pipeline with
    queue := s.queue.filter fun other => decide (other.tiebreak ≠ item.tiebreak) }
  let (dispatched, reports) := popped.dispatch item.command reading
  let after := s.withPipeline dispatched
  match s.sessions.get? item.command.sessionId, reports with
  | some session, reports =>
    let run : CommandRun := ⟨session, item.command, [], form, reading.now⟩
    (after.recordDispatch run reports, outcome form run reports)
  | none, .denied command denial :: _ =>
    (after.reject command denial reading.now,
      .done (deniedReply form command.deviceId denial))
  | none, _ => after.raised .unhandled

/-- The execution is recorded, and the caller gets its answer. -/
def accept (run : CommandRun) (result : CommandResult) : Classroom × Progress :=
  (s.record .commandAccepted run.session.userId run.now
    [("commandId", .str run.command.commandId), ("deviceId", .str run.command.deviceId),
      ("sessionId", .str run.command.sessionId), ("capability", .str run.command.capability),
      ("action", .str run.command.action), ("source", .str run.command.source.value),
      ("priority", .int (classifyPriority run.command).rank), ("result", .str result.status),
      ("executionMode", .str run.session.executionMode.value)],
    .done (executedReply run result))

def failureReason (run : CommandRun) : String :=
  s!"failure policy: {run.command.deviceId} failed"

def stopGroup (run : CommandRun) (result : CommandResult) :
    List String → List String → Classroom → Classroom × Progress
  | [], stopped, s =>
    (s.record .failurePolicyApplied "system" run.now
      [("sessionId", .str run.session.sessionId), ("deviceId", .str run.command.deviceId),
        ("failurePolicy", .str run.session.failurePolicy.value),
        ("result", .str (String.intercalate "," stopped))]).accept run result
  | deviceId :: rest, stopped, s =>
    if deviceId ≠ run.command.deviceId ∧
        (s.devices.get? deviceId).any (·.physical) = true then
      let (discarded, cleared) := s.discard deviceId (failureReason run) run.now
      (discarded, .waits (.stoppingGroup run result deviceId cleared rest stopped))
    else stopGroup run result rest stopped s

/-- What follows the adapter's result: only a physical session coordinates a failure. -/
def executed (run : CommandRun) (result : CommandResult) (events : List ReceivedEvent) :
    Classroom × Progress :=
  let published : Classroom := { s with router := (s.router.publishAll events).1 }
  if result.accepted = true ∨ run.session.executionMode ≠ .physical ∨
      run.session.failurePolicy ≠ .stopCoordinated then published.accept run result
  else stopGroup run result run.session.deviceBindings [] published

/-- A request that waits goes on. -/
def resume : Suspended → AdapterReply → Classroom × Progress
  | .queued item form, _ => s.dispatch reading item form
  | _, .raised => s.raised .unhandled
  | .executing run, .returned result events => s.executed run result events
  | .stoppingGroup run result deviceId cleared rest stopped, .returned _ events =>
    stopGroup run result rest (stopped ++ [deviceId])
      (s.stopped deviceId (failureReason run) "system" cleared events reading.now)
  | .stoppingDevice deviceId reason actorId cleared, .returned _ events =>
    (s.stopped deviceId reason actorId cleared events reading.now).answer {
      fields := [("stopped", .arr [.str deviceId]), ("scope", .str "device"),
        ("clearedCommands", .int cleared)] }

end Classroom

namespace ClassroomApi
variable (rules : ClassroomRules) (s : Classroom) (principal : Principal) (reading : Reading)

/-- `_instructor` records what it refuses. -/
def denyAction (action : Action) (error : HttpError) : Classroom × Progress :=
  (s.record .authorizationDenied principal.actorId reading.now
    [("action", .str action.value), ("role", .str principal.role.value)]).raised error

/-- A route that an instructor alone may take. -/
def privileged (action : Action) (effect : Classroom → Classroom × Progress) :
    Classroom × Progress :=
  match authorize principal action with
  | .error error => denyAction s principal reading action error
  | .ok () => effect s

def listDevices : Classroom × Progress :=
  let visible := s.listedDevices.filter fun device => s.isVisible principal device.deviceId
  let (after, records) := visible.foldl (fun current device =>
    let (described, description) := current.1.describeDevice device reading.checkedAt
    (described, current.2 ++ [Record.device description])) (s, [])
  after.answer { records := records }

def listSessions : Classroom × Progress :=
  s.answer {
    records := (s.sessions.rows.filter fun session =>
      principal.isInstructor || decide (session.userId = principal.actorId)).map Record.session }

/-- `_describe_session`, after what a route has done. -/
def describeSession (sessionId : String) : Classroom × Progress :=
  match s.getSession sessionId with
  | .error error => s.raised error
  | .ok session => s.answer { records := [.session session] }

/-- The owner is who is signed in, never who the body names. -/
def newSession (request : CreateSessionRequest) : ClassroomSession where
  sessionId := request.sessionId
  userId := principal.actorId
  executionMode := request.executionMode
  state := .created
  deviceBindings := []
  projectId := request.projectId
  authoringMode := request.authoringMode
  safetyPolicyId := request.safetyPolicyId
  startedAt := reading.now
  lastActivityAt := reading.now
  instructorId := request.instructorId

def createSession (request : CreateSessionRequest) : Classroom × Progress :=
  let create (s : Classroom) : Classroom × Progress :=
    match s.createSession (newSession principal reading request) reading.now with
    | .error error => s.raised error
    | .ok created => describeSession created request.sessionId
  match request.executionMode with
  | .physical => privileged s principal reading .createPhysicalSession create
  | .simulation => create s

def bindDevices (sessionId : String) (deviceIds : List String) : Classroom × Progress :=
  match s.getOwnSession principal sessionId with
  | .error error => s.raised error
  | .ok session =>
    match s.bindDevices session deviceIds reading.now with
    | (bound, .error error) => bound.raised error
    | (bound, .ok ()) => describeSession bound sessionId

def transition (sessionId : String) (state : SessionState) (reason : Option String) :
    Classroom × Progress :=
  match s.getOwnSession principal sessionId with
  | .error error => s.raised error
  | .ok session =>
    match s.transition session state reason reading.now with
    | .error error => s.raised error
    | .ok (_, moved) => describeSession moved sessionId

/-- `advance_to_ready`: the first of its two transitions stays when the second is refused. -/
def validate (sessionId : String) : Classroom × Progress :=
  match s.getOwnSession principal sessionId with
  | .error error => s.raised error
  | .ok session =>
    match s.transition session .validating none reading.now with
    | .error error => s.raised error
    | .ok (validating, moved) =>
      match moved.transition validating .ready none reading.now with
      | .error error => moved.raised error
      | .ok (_, ready) => describeSession ready sessionId

def heartbeat (deviceId : String) (kind : WatchdogKind) : Classroom × Progress :=
  ({ s with supervisor := s.supervisor.heartbeat deviceId kind reading.monotonic } :
    Classroom).answer { fields := [("deviceId", .str deviceId), ("kind", .str kind.value)] }

def checkDevice (deviceId : String) : Except HttpError Unit := do
  let device ← s.getDevice deviceId
  match device.assignedSessionId with
  | none => return ()
  | some sessionId =>
    let _ ← s.getOwnSession principal sessionId
    return ()

/-- A student may stop their own device, or one that nobody has. -/
def stop (deviceId reason : String) : Classroom × Progress :=
  match checkDevice s principal deviceId with
  | .error error => s.raised error
  | .ok () =>
    let (discarded, cleared) := s.discard deviceId reason reading.now
    (discarded, .waits (.stoppingDevice deviceId reason principal.actorId cleared))

def readInputs : Classroom × Progress :=
  s.answer { fields := [("disabledSources",
    .arr ((s.supervisor.disabledSources.insertionSort (· ≤ ·)).map JsonValue.str))] }

def checkCommand (request : SimpleCommandRequest) :
    Except HttpError (ClassroomSession × RequestedSource) := do
  let session ← s.getOwnSession principal request.sessionId
  let source ← resolveSource principal request.source
  match source with
  | .instructor => authorize principal .issueInstructorCommand
  | _ => pure ()
  return (session, source)

def submitCommand (request : SimpleCommandRequest) : Classroom × Progress :=
  match checkCommand s principal request with
  | .error error => s.raised error
  | .ok (session, source) =>
    let (command, checked) := s.intent reading session request.deviceId request.capability
      request.action request.arguments source.source request.ttl request.inputConfidence
      request.commandId request.idempotencyKey
    if rules.validCommand command then checked.submit reading command .console
    else checked.raised .unhandled

/-- `resolve`: an alias or an exact id. -/
def resolve (aliases : List (String × String)) (deviceRef : String) :
    Except HttpError ClassroomDevice :=
  match s.devices.get? ((aliases.lookup deviceRef).getD deviceRef) with
  | some device => .ok device
  | none =>
    let known := PyString.joinComma ((aliases.map Prod.fst).insertionSort (· ≤ ·))
    let available := if known = "" then "none" else known
    .error ⟨400, s!"There is no device called {PyString.repr deviceRef}. Bound names " ++
      s!"in this project: {available}."⟩

def lastReading (deviceId sensor : String) : Option ReceivedEvent :=
  s.router.history.reverse.find? fun event => event.deviceId == deviceId &&
    (event.name == sensor || PyString.endsWith event.name ("." ++ sensor))

def callDevice (request : StudentRpcRequest) (session : ClassroomSession)
    (device : ClassroomDevice) : DeviceCall → Classroom × Progress
  | .command capability action arguments commandId idempotencyKey =>
    let source := match session.authoringMode with
      | .python => Source.studentPython
      | .blocks => Source.studentBlocks
    let (command, checked) := s.intent reading session device.deviceId capability action
      arguments source (seconds 5) request.inputConfidence commandId idempotencyKey
    if rules.validCommand command then checked.submit reading command .program
    else checked.raised ⟨400, PyString.repr capability ++
      " is not a valid capability and action pair. A capability looks like 'drive.velocity'."⟩
  | .readSensor sensor =>
    match lastReading s device.deviceId sensor with
    | some event =>
      s.answer { fields := [("accepted", .bool true)], records := [.event event] }
    | none => s.answer { fields := [("accepted", .bool true), ("values", .obj []),
        ("message", .str s!"No reading from {PyString.repr sensor} yet.")] }
  | .deviceInfo =>
    let (described, description) := s.describeDevice device reading.checkedAt
    described.answer {
      fields := [("accepted", .bool true), ("executionMode", .str session.executionMode.value)]
      records := [.device description] }

def studentRpc (request : StudentRpcRequest) : Classroom × Progress :=
  match s.getOwnSession principal request.sessionId with
  | .error error => s.raised error
  | .ok session =>
    match request.call with
    | .device deviceRef call =>
      match resolve s request.aliases deviceRef with
      | .error error => s.raised error
      | .ok device => callDevice rules s reading request session device call
    | .log _ => s.answer { fields := [("accepted", .bool true)] }
    | .sleep duration =>
      s.answer { fields := [("accepted", .bool true), ("seconds", .float duration)] }
    | .malformed => s.raised .unhandled

def audit : Classroom × Progress :=
  s.answer {
    records := (s.audit.filter fun entry => principal.isInstructor ||
      decide (entry.actorId = principal.actorId) ||
      entry.session?.any fun sessionId => decide (sessionId ∈ s.ownedSessions principal)).map
        Record.auditEntry }

def recentEvents (deviceId : Option String) : Classroom × Progress :=
  s.answer {
    records := (s.router.history.filter fun event =>
      deviceId.all (fun device => event.deviceId == device) &&
        s.isVisible principal event.deviceId).map Record.event }

def listRecordings : Classroom × Progress :=
  s.answer {
    fields := [("maxRecordings", .int s.store.policy.maxRecordings),
      ("retentionDays", .int s.store.policy.retentionDays)]
    records := s.store.listed.map Record.recording }

def startRecording (sessionId recordingId : String) : Classroom × Progress :=
  match s.getOwnSession principal sessionId with
  | .error error => s.raised error
  | .ok _ => (s.startRecording recordingId sessionId principal.actorId reading.now).answer {
      fields := [("recordingId", .str recordingId), ("sessionId", .str sessionId)] }

/-- The recorder of anyone is stopped. -/
def stopRecording (recordingId : String) (diskFails : Bool) : Classroom × Progress :=
  match s.router.recorders.get? recordingId with
  | none => s.raised (.notFound (PyString.repr recordingId))
  | some recording =>
    (s.stopRecording recording principal.actorId reading.now diskFails).answer {
      records := [.recording recording] }

def replay (recordingId : String) : Classroom × Progress :=
  match s.getRecording recordingId with
  | .error error => s.raised error
  | .ok recording =>
    let (router, delivered) := s.router.publishAll recording.replayed
    (({ s with router := router } : Classroom).record .replayStarted principal.actorId reading.now
      [("recordingId", .str recordingId), ("count", .int delivered)]).answer {
        fields := [("recordingId", .str recordingId), ("delivered", .int delivered),
          ("physicalOutput", .bool false)] }

/-- `replay_package`. -/
def exportRecording (recordingId : String) : Classroom × Progress :=
  match s.getRecording recordingId with
  | .error error => s.raised error
  | .ok recording =>
    let recorded := s.record .recordingExported principal.actorId reading.now
      [("recordingId", .str recordingId)]
    recorded.answer {
      records := .recording recording :: recording.events.map (fun event => .event event.event) ++
        (recorded.relevantEntries recording).map .auditEntry }

def deleteRecording (recordingId : String) : Classroom × Progress :=
  if RecordingStore.isRecordingId recordingId then
    let (deleted, store) := s.store.delete recordingId
    (({ s with store := store } : Classroom).record .recordingDeleted principal.actorId reading.now
      [("recordingId", .str recordingId),
        ("result", .str (if deleted then "True" else "False"))]).answer {
        fields := [("recordingId", .str recordingId), ("deleted", .bool deleted)] }
  else s.raised .unhandled

def readRetention : Classroom × Progress :=
  s.answer {
    fields := [("maxRecordings", .int s.store.policy.maxRecordings),
      ("retentionDays", .int s.store.policy.retentionDays)] }

def checkOwner (projectId : String) : Except HttpError Unit :=
  match (s.projects.get? projectId).bind StoredProject.owner with
  | none => .ok ()
  | some owner => requireSessionOwner principal owner

def listProjects : Classroom × Progress :=
  let owner := if principal.isInstructor then none else some principal.actorId
  s.answer { records := (s.listProjects rules owner).map Record.project }

def readProject (projectId : String) : Classroom × Progress :=
  match (if isProjectId projectId then s.projects.get? projectId else none) with
  | none => s.raised (.notFound
      s!"No project stored at {projectId}.json Open a project from the list, or create a new one.")
  | some project =>
    if rules.validProject project.document then
      match checkOwner s principal projectId with
      | .error error => s.raised error
      | .ok () => s.answer { records := [.project project] }
    else s.raised (.notFound s!"{projectId}.json is not a valid project")

/-- What a save stores, when its document names the project: `updatedAt` is stamped, and the
owner is whoever first saved it. -/
def stamped (projectId : String) (document : JsonObject) : Option StoredProject :=
  let stored := document.set "updatedAt" (.str (reading.now.isoText "+00:00"))
  match hnamed : stored.get? "projectId" with
  | some (.str name) => some {
      projectId := name
      document := stored
      owner := ((s.projects.get? projectId).bind StoredProject.owner).or (some principal.actorId)
      named := hnamed }
  | _ => none

def saveProject (projectId : String) (document : JsonObject) (diskFails : Bool) :
    Classroom × Progress :=
  match (stamped s principal reading projectId document).filter
      (fun project => decide (project.projectId = projectId)) with
  | none => s.raised ⟨400, "The project id in the body must match the one in the path."⟩
  | some project =>
    if isProjectId projectId then
      match checkOwner s principal projectId with
      | .error error => s.raised error
      | .ok () =>
        if rules.validProject project.document = false then
          s.raised ⟨422, "this project is not a valid project"⟩
        else if diskFails then s.raised ⟨507, "No space left on device"⟩
        else
          (({ s with projects := s.projects.upsert project } : Classroom).record .projectSaved
            principal.actorId reading.now [("projectId", .str projectId)]).answer {
              records := [.project project] }
    else s.raised .unhandled

def deleteProject (projectId : String) : Classroom × Progress :=
  if isProjectId projectId then
    match checkOwner s principal projectId with
    | .error error => s.raised error
    | .ok () =>
      let deleted := (s.projects.get? projectId).isSome
      let kept := s.projects.filterRows fun project => decide (project.projectId ≠ projectId)
      (({ s with projects := kept } : Classroom).record .projectDeleted principal.actorId
        reading.now [("projectId", .str projectId)]).answer {
          fields := [("projectId", .str projectId), ("deleted", .bool deleted)] }
  else s.raised .unhandled

def serve : Request → Classroom × Progress
  | .whoami => s.answer { fields := [("actorId", .str principal.actorId),
      ("role", .str principal.role.value), ("displayName", .str principal.displayName),
      ("expiresAt", .str (principal.expiresAt.isoText "+00:00"))] }
  | .listDevices => listDevices s principal reading
  | .listSessions => listSessions s principal
  | .createSession request => createSession s principal reading request
  | .bindDevices sessionId deviceIds => bindDevices s principal reading sessionId deviceIds
  | .transition sessionId state reason => transition s principal reading sessionId state reason
  | .validate sessionId => validate s principal reading sessionId
  | .heartbeat deviceId kind => heartbeat s reading deviceId kind
  | .stop deviceId reason => stop s principal reading deviceId reason
  | .readInputs => readInputs s
  | .submitCommand request => submitCommand rules s principal reading request
  | .studentRpc request => studentRpc rules s principal reading request
  | .audit => audit s principal
  | .recentEvents deviceId => recentEvents s principal deviceId
  | .listRecordings => listRecordings s
  | .startRecording sessionId recordingId =>
    startRecording s principal reading sessionId recordingId
  | .stopRecording recordingId diskFails =>
    stopRecording s principal reading recordingId diskFails
  | .replay recordingId => replay s principal reading recordingId
  | .exportRecording recordingId => exportRecording s principal reading recordingId
  | .deleteRecording recordingId => deleteRecording s principal reading recordingId
  | .readRetention => readRetention s
  | .listProjects => listProjects rules s principal
  | .readProject projectId => readProject rules s principal projectId
  | .saveProject projectId document diskFails =>
    saveProject rules s principal reading projectId document diskFails
  | .deleteProject projectId => deleteProject s principal reading projectId
  | .privileged action effect => privileged s principal reading action effect

/-- The routes that ask for no principal. -/
def serveOpen (token : Option String) : OpenRequest → Classroom × Progress
  | .join request =>
    match s.authority.join rules.digest request reading.now with
    | .error error => s.raised error
    | .ok (joined, authority) =>
      (({ s with authority := authority } : Classroom).record .principalJoined joined.actorId
        reading.now [("role", .str joined.role.value)]).answer {
          fields := [("token", .str request.token), ("actorId", .str joined.actorId),
            ("role", .str joined.role.value), ("displayName", .str joined.displayName),
            ("expiresAt", .str (joined.expiresAt.isoText "+00:00"))] }
  | .leave =>
    match token with
    | none | some "" => s.answer { fields := [("released", .bool false)] }
    | some token =>
      let (released, authority) := s.authority.revoke rules.digest token
      ({ s with authority := authority } : Classroom).answer {
        fields := [("released", .bool released)] }
  | .health => s.answer { fields := [("status", .str "ok"),
      ("physicalEnabled", .bool s.physicalEnabled),
      ("joinRequiresPasscode", .bool s.authority.joinPasscode.isSome)] }

def handle (token : Option String) (request : Request) : Classroom × Progress :=
  let (resolved, authority) := s.authority.principal rules.digest token reading.now
  let identified : Classroom := { s with authority := authority }
  match resolved with
  | .error error => identified.raised error
  | .ok principal => serve rules identified principal reading request

/-- `pump`, for one socket: the next event, when its principal may see the device now. -/
def pump : List Record :=
  (s.router.broadcast.head?.toList.filter fun event => s.isVisible principal event.deviceId).map
    Record.event

end ClassroomApi
end CitPhysicalXR.Runtime
