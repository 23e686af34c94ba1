import CitPhysicalXR.Fabric.Protocol
import CitPhysicalXR.Foundation.Effect
import CitPhysicalXR.Foundation.Execution
import Mathlib.Logic.Function.Basic

/-! The service of the classroom printer: uploads, the confirmations of a print start, and the
operation lock under which requests that change the printer are sent. -/
namespace CitPhysicalXR.Printer
open Foundation Fabric

inductive PrinterState where
  | current_print_locked | unconfigured | standby | printing | paused | error | complete
  | cancelled | starting | offline | unknown
  deriving DecidableEq

def PrinterState.value : PrinterState → String
  | .current_print_locked => "current_print_locked"
  | .unconfigured => "unconfigured"
  | .standby => "standby"
  | .printing => "printing"
  | .paused => "paused"
  | .error => "error"
  | .complete => "complete"
  | .cancelled => "cancelled"
  | .starting => "starting"
  | .offline => "offline"
  | .unknown => "unknown"

/-- What a call raises. -/
inductive PrinterError where
  | printer (code message : String) (statusCode : ℕ)
  /-- `PrinterOutcomeUnknownError`: the start must not be retried. -/
  | outcomeUnknown (code message : String) (statusCode : ℕ)
  /-- An exception that is no `PrinterError`. -/
  | other

/-- How an HTTP request ends. -/
inductive HttpResult where
  /-- `OSError`, `TimeoutError` or `URLError`. -/
  | unavailable
  | raised
  /-- The body is absent if it is no JSON. -/
  | answered (status : ℤ) (body : Option JsonValue)

def isSafeRemoteName (name : String) : Bool :=
  match name.toList with
  | [] => false
  | first :: rest =>
    let body := rest.take (rest.length - 6)
    first.isAlphanum && decide (rest.drop (rest.length - 6) = ".gcode".toList) &&
      decide (body.length ≤ 159) && body.all fun c => c.isAlphanum || c ∈ ['.', '_', ' ', '-']

namespace MoonrakerTransport

def json : HttpResult → Except PrinterError (List (String × JsonValue))
  | .unavailable => .error (.printer "PRINTER_NETWORK_UNAVAILABLE"
      "The documented printer service is unavailable" 502)
  | .raised => .error .other
  | .answered status body =>
    if ¬(200 ≤ status ∧ status < 300) then
      .error (.printer "PRINTER_SERVICE_REJECTED"
        s!"The printer service rejected the request with HTTP {status}" 502)
    else
      match body with
      | some (.obj fields) =>
        if (fields.lookup "error").isSome then
          .error (.printer "PRINTER_SERVICE_REJECTED"
            "The printer service rejected the request" 502)
        else .ok fields
      | _ => .error (.printer "PRINTER_RESPONSE_INVALID"
          "The printer returned an invalid response" 502)

def remoteNameError : PrinterError :=
  .printer "PRINTER_REMOTE_NAME_INVALID" "Remote print filename is invalid" 409

def mapping (value : Option JsonValue) (label : String) :
    Except PrinterError (List (String × JsonValue)) :=
  match value with
  | some (.obj fields) => .ok fields
  | _ => .error (.printer "PRINTER_RESPONSE_INVALID" (label ++ " is invalid") 502)

/-- `upload` from its answer on. -/
def uploaded (remoteName : String) (answer : HttpResult) : Except PrinterError String := do
  let response ← json answer
  let result ← mapping (response.lookup "result") "Moonraker upload response"
  raiseIf (¬result.lookup "print_started" matches some (.bool false))
    (.printer "PRINTER_UPLOAD_STARTED_UNEXPECTEDLY"
      "The printer reported an unexpected print start; do not retry" 409)
  let item ← mapping (result.lookup "item") "Moonraker uploaded item"
  raiseIf (¬(item.lookup "path").any (·.pyEq (.str remoteName)))
    (.printer "PRINTER_UPLOAD_IDENTITY_MISMATCH"
      "The printer did not confirm the exact uploaded filename" 409)
  return remoteName

/-- `start` from its answer on. -/
def started (answer : HttpResult) : Except PrinterError Unit :=
  match json answer with
  | .error .other => .error .other
  | .error _ => .error (.outcomeUnknown "PRINTER_START_OUTCOME_UNKNOWN"
      "The start result is unknown. Check printer status and do not retry." 502)
  | .ok response =>
    raiseIf (¬(response.lookup "result").any (·.pyEq (.str "ok")))
      (.outcomeUnknown "PRINTER_START_OUTCOME_UNKNOWN"
        "The printer did not confirm the start. Check status and do not retry." 502)

end MoonrakerTransport

structure PrinterConfiguration where
  networkMonitoringEnabled : Bool
  remoteWritesEnabled : Bool
  hasTransport : Bool
  /-- `hashlib.sha256(text.encode()).hexdigest()`. -/
  sha256 : String → String

structure PrinterGcodeArtifact where
  artifactId : String
  fileName : String
  sha256 : String
  profileId : String
  remoteFileName : Option String
  uploadedAt : Option Instant
  startAttemptedAt : Option Instant

/-- A confirmation of a start; `serial` is its number among all confirmations. -/
structure StartIntentRecord where
  serial : ℕ
  tokenHash : String
  artifactId : String
  actorId : String
  expiresAt : Instant
  deriving DecidableEq

structure PrinterStartIntent where
  artifactId : String
  confirmationToken : String
  expiresAt : Instant
  remoteFileName : String
  sha256 : String
  profileId : String

def startIntentTtl : Duration := seconds 120

def isArtifactId (value : String) : Bool :=
  decide (value.length = 32) &&
    value.toList.all fun c => ('a' ≤ c && c ≤ 'f') || ('0' ≤ c && c ≤ '9')

/-- `Path(name).stem`. -/
def pathStem (name : String) : String :=
  let behind := name.toList.reverse.takeWhile (· ≠ '.')
  let before := name.length - behind.length - 1
  if behind = [] ∨ before = 0 then name else String.ofList (name.toList.take before)

def remoteName (artifact : PrinterGcodeArtifact) : Except PrinterError String :=
  let stem := String.ofList (((pathStem artifact.fileName).toList.map fun c =>
    if c.isAlphanum || c ∈ ['.', '_', ' ', '-'] then c else '-').take 80)
  let value := "cit-" ++ String.ofList (artifact.artifactId.toList.take 12) ++ "-" ++
    (if stem = "" then "model" else stem) ++ ".gcode"
  if isSafeRemoteName value then .ok value else .error MoonrakerTransport.remoteNameError

def hashStartToken (config : PrinterConfiguration) (token : String) : String :=
  if ¬(32 ≤ token.length ∧ token.length ≤ 128) then "invalid"
  else config.sha256 ("cit-printer-start-v1\x00" ++ token)

inductive PrinterRequest where
  | verifyIdle
  | uploadArtifact (artifactId : String)
  | prepareStart (artifactId actorId : String)
  | startArtifact (artifactId actorId confirmationToken : String)

/-- A call under way, with what it has read. -/
inductive PrinterCall where
  | verifyIdle
  | upload (artifactId : String)
  | prepare (artifactId actorId : String)
  | start (artifactId actorId : String) (intent : StartIntentRecord) (remoteName : String)

/-- What a call waits for: the operation lock, the status, or the answer to its own request. -/
inductive CallPhase where
  | waiting | observing | requesting
  deriving DecidableEq

structure PrinterTask where
  call : PrinterCall
  phase : CallPhase

/-- The service; `confirmations` counts the confirmations that it has issued. -/
structure CrealityPrinterService where
  currentPrintLocked : Bool
  gcode : String → Option PrinterGcodeArtifact
  startIntents : String → Option StartIntentRecord
  confirmations : ℕ
  operationLock : Option ℕ
  tasks : ℕ → Option PrinterTask

structure StartRequest where
  artifactId : String
  actorId : String
  intent : StartIntentRecord
  remoteName : String
  at_ : Instant

inductive PrinterReport where
  | raised (error : PrinterError)
  /-- A start was sent, and its call raises. -/
  | startFailed (artifactId : String) (error : PrinterError)
  | accepted (message : String)
  | confirmed (record : StartIntentRecord)
  | issued (intent : PrinterStartIntent)
  | uploadSent (remoteName checksum : String)
  | startSent (request : StartRequest)

inductive PrinterEvent where
  /-- A slicing ends with a new artifact. -/
  | sliced (artifact : PrinterGcodeArtifact)
  | call (task : ℕ) (request : PrinterRequest) (now : Instant)
  | acquire (task : ℕ)
  /-- The answer to the status request; `token` is drawn by `secrets`. -/
  | observed (task : ℕ) (status : Except PrinterError PrinterState) (token : String)
      (clock : ℕ → Instant)
  | answered (task : ℕ) (answer : HttpResult) (now : Instant)

namespace CrealityPrinterService

/-- The service after its start. -/
def initial (currentPrintLocked : Bool) : CrealityPrinterService where
  currentPrintLocked := currentPrintLocked
  gcode := fun _ => none
  startIntents := fun _ => none
  confirmations := 0
  operationLock := none
  tasks := fun _ => none

variable (config : PrinterConfiguration) (s : CrealityPrinterService)

def gcodeRecord (artifactId : String) : Except PrinterError PrinterGcodeArtifact :=
  if !isArtifactId artifactId then
    .error (.printer "PRINTER_ARTIFACT_ID_INVALID" "Printer artifact identifier is invalid" 409)
  else
    match s.gcode artifactId with
    | none => .error (.printer "PRINTER_ARTIFACT_NOT_FOUND"
        "The G-code artifact was not found" 404)
    | some artifact => .ok artifact

def requireRemoteWrites : Except PrinterError Unit :=
  if s.currentPrintLocked then
    .error (.printer "PRINTER_CURRENT_PRINT_LOCKED"
      "The current print is protected; remote operations are locked" 409)
  else if !config.remoteWritesEnabled || !config.networkMonitoringEnabled ||
      !config.hasTransport then
    .error (.printer "PRINTER_REMOTE_WRITES_DISABLED"
      "Printer upload and start are disabled until the documented transport is verified" 409)
  else .ok ()

/-- A call goes on with another wait. -/
def proceed (task : ℕ) (call : PrinterCall) (phase : CallPhase) : CrealityPrinterService :=
  { s with tasks := Function.update s.tasks task (some ⟨call, phase⟩) }

/-- A call returns or raises, and releases the operation lock if it holds it. -/
def finish (task : ℕ) : CrealityPrinterService :=
  { s with
    tasks := Function.update s.tasks task none
    operationLock := if s.operationLock = some task then none else s.operationLock }

def setGcode (artifact : PrinterGcodeArtifact) : CrealityPrinterService :=
  { s with gcode := Function.update s.gcode artifact.artifactId (some artifact) }

def verifyIdle (task : ℕ) : CrealityPrinterService × List PrinterReport :=
  if !config.networkMonitoringEnabled || !config.hasTransport then
    (s, [.raised (.printer "PRINTER_MONITORING_NOT_CONFIGURED"
      "A documented Moonraker endpoint must be configured before checking the printer" 409)])
  else (s.proceed task .verifyIdle .observing, [])

def uploadArtifact (task : ℕ) (artifactId : String) :
    CrealityPrinterService × List PrinterReport :=
  match (do let _ ← s.gcodeRecord artifactId; s.requireRemoteWrites config) with
  | .error error => (s, [.raised error])
  | .ok _ => (s.proceed task (.upload artifactId) .waiting, [])

def prepareStart (task : ℕ) (artifactId actorId : String) :
    CrealityPrinterService × List PrinterReport :=
  let checked : Except PrinterError Unit := do
    let artifact ← s.gcodeRecord artifactId
    s.requireRemoteWrites config
    raiseIf (artifact.remoteFileName = none ∨ artifact.uploadedAt = none)
      (.printer "PRINTER_ARTIFACT_NOT_UPLOADED"
        "Upload this exact G-code artifact before starting it" 409)
  match checked with
  | .error error => (s, [.raised error])
  | .ok _ => (s.proceed task (.prepare artifactId actorId) .observing, [])

/-- The token is used up, whether it is valid or not. -/
def startArtifact (task : ℕ) (artifactId actorId confirmationToken : String) (now : Instant) :
    CrealityPrinterService × List PrinterReport :=
  let checked : Except PrinterError PrinterGcodeArtifact := do
    let artifact ← s.gcodeRecord artifactId
    s.requireRemoteWrites config
    return artifact
  match checked with
  | .error error => (s, [.raised error])
  | .ok artifact =>
    let tokenHash := hashStartToken config confirmationToken
    let popped := { s with startIntents := Function.update s.startIntents tokenHash none }
    match (s.startIntents tokenHash).filter fun intent => intent.artifactId = artifactId &&
        intent.actorId = actorId && !decide (intent.expiresAt ≤ now) with
    | none => (popped, [.raised (.printer "PRINTER_START_CONFIRMATION_INVALID"
        "The print confirmation expired or does not match this artifact" 409)])
    | some intent =>
      match artifact.remoteFileName with
      | none => (popped, [.raised (.printer "PRINTER_ARTIFACT_NOT_UPLOADED"
          "The G-code is not uploaded" 409)])
      | some remoteName =>
        (popped.proceed task (.start artifactId actorId intent remoteName) .waiting, [])

def receive (task : ℕ) (now : Instant) : PrinterRequest → CrealityPrinterService × List PrinterReport
  | .verifyIdle => s.verifyIdle config task
  | .uploadArtifact artifactId => s.uploadArtifact config task artifactId
  | .prepareStart artifactId actorId => s.prepareStart config task artifactId actorId
  | .startArtifact artifactId actorId confirmationToken =>
    s.startArtifact config task artifactId actorId confirmationToken now

def notIdle (call : PrinterCall) (state : PrinterState) : PrinterError :=
  let rest := match call with
    | .verifyIdle => "; the current-print lock remains active"
    | _ => "; no write was sent"
  .printer "PRINTER_NOT_IDLE" ("The printer reported " ++ state.value ++ rest) 409

/-- `prepare_start` behind the status: `_expire_start_intents`, and a new confirmation. -/
def issueConfirmation (task : ℕ) (artifactId actorId token : String) (clock : ℕ → Instant) :
    CrealityPrinterService × List PrinterReport :=
  let fresh : StartIntentRecord :=
    { serial := s.confirmations
      tokenHash := hashStartToken config token
      artifactId, actorId
      expiresAt := clock 1 + startIntentTtl }
  let kept := fun tokenHash =>
    (s.startIntents tokenHash).filter fun intent => decide (clock 0 < intent.expiresAt)
  let issued := { s with
    startIntents := Function.update kept fresh.tokenHash (some fresh)
    confirmations := s.confirmations + 1 }
  let answer : PrinterReport := match s.gcode artifactId with
    | some { remoteFileName := some remoteFileName, sha256, profileId, .. } =>
      .issued ⟨artifactId, token, fresh.expiresAt, remoteFileName, sha256, profileId⟩
    | _ => .raised .other
  (issued.finish task, [.confirmed fresh, answer])

/-- `upload_artifact` behind the status. -/
def sendUpload (task : ℕ) (artifactId : String) : CrealityPrinterService × List PrinterReport :=
  match s.gcode artifactId with
  | none => (s.finish task, [.raised .other])
  | some artifact =>
    match remoteName artifact with
    | .error error => (s.finish task, [.raised error])
    | .ok name =>
      (s.proceed task (.upload artifactId) .requesting, [.uploadSent name artifact.sha256])

/-- `start_artifact` behind the status. -/
def sendStart (task : ℕ) (artifactId actorId : String) (intent : StartIntentRecord)
    (remoteName : String) (now : Instant) : CrealityPrinterService × List PrinterReport :=
  match s.gcode artifactId with
  | none => (s.finish task, [.raised .other])
  | some artifact =>
    let attempted := s.setGcode { artifact with startAttemptedAt := some now }
    if !isSafeRemoteName remoteName then
      (attempted.finish task, [.raised MoonrakerTransport.remoteNameError])
    else
      (attempted.proceed task (.start artifactId actorId intent remoteName) .requesting,
        [.startSent ⟨artifactId, actorId, intent, remoteName, now⟩])

def observe (task : ℕ) (call : PrinterCall) (status : Except PrinterError PrinterState)
    (token : String) (clock : ℕ → Instant) : CrealityPrinterService × List PrinterReport :=
  match status with
  | .error error => (s.finish task, [.raised error])
  | .ok state =>
    if state ≠ .standby then (s.finish task, [.raised (notIdle call state)])
    else
      match call with
      | .verifyIdle => ({ s with currentPrintLocked := false }.finish task,
          [.accepted "The printer reported standby; staged operations are now available."])
      | .prepare artifactId actorId => s.issueConfirmation config task artifactId actorId token clock
      | .upload artifactId => s.sendUpload task artifactId
      | .start artifactId actorId intent remoteName =>
        s.sendStart task artifactId actorId intent remoteName (clock 0)

def finishUpload (task : ℕ) (artifactId : String) (answer : HttpResult) (now : Instant) :
    CrealityPrinterService × List PrinterReport :=
  match s.gcode artifactId with
  | none => (s.finish task, [.raised .other])
  | some artifact =>
    match (do let name ← remoteName artifact; MoonrakerTransport.uploaded name answer) with
    | .error error => (s.finish task, [.raised error])
    | .ok name =>
      ((s.setGcode { artifact with remoteFileName := some name, uploadedAt := some now }).finish
        task, [.accepted "G-code was uploaded without starting a print."])

def finishStart (task : ℕ) (artifactId : String) (answer : HttpResult) :
    CrealityPrinterService × List PrinterReport :=
  match MoonrakerTransport.started answer with
  | .error error => (s.finish task, [.startFailed artifactId error])
  | .ok _ => (s.finish task, [.accepted "The printer confirmed the print start."])

/-- One step of the service. A call gets a new number, an artifact a new id. -/
def step : PrinterEvent → Option (CrealityPrinterService × List PrinterReport)
  | .sliced artifact => if s.gcode artifact.artifactId = none then some (s.setGcode artifact, [])
    else none
  | .call task request now => if (s.tasks task).isNone then some (s.receive config task now request)
    else none
  | .acquire task =>
    match s.operationLock, s.tasks task with
    | none, some ⟨call, .waiting⟩ =>
      some ({ s with operationLock := some task }.proceed task call .observing, [])
    | _, _ => none
  | .observed task status token clock =>
    match s.tasks task with
    | some ⟨call, .observing⟩ => some (s.observe config task call status token clock)
    | _ => none
  | .answered task answer now =>
    match s.tasks task with
    | some ⟨.upload artifactId, .requesting⟩ =>
      some (s.finishUpload task artifactId answer now)
    | some ⟨.start artifactId _ _ _, .requesting⟩ => some (s.finishStart task artifactId answer)
    | _ => none

end CrealityPrinterService

/-- The service over any order of calls, lock grants and answers of the printer. -/
def printerService (config : PrinterConfiguration) :
    Machine CrealityPrinterService PrinterEvent PrinterReport where
  Initial s := ∃ currentPrintLocked, s = .initial currentPrintLocked
  Step s e s' out := s.step config e = some (s', out)

end CitPhysicalXR.Printer
