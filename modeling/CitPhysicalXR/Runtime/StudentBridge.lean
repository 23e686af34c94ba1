import CitPhysicalXR.Foundation.PyConversions
import CitPhysicalXR.Runtime.ClassroomApi

/-! The runtime end of the student RPC bridge: the five calls of a student program, from the JSON
that it sends to an answer, an exception, or a command that the pipeline has. -/
namespace CitPhysicalXR.Runtime
open Foundation

/-- What a call raises: `StudentBridgeError`, a built-in exception, or what leaves an adapter. -/
inductive CallError where
  | studentBridge (message : String)
  | python (exception : PyException)
  | adapter

/-- What a call has come to when it first returns or waits. -/
inductive Called where
  | raised (error : CallError)
  | answered (reply : Reply)
  /-- `submit` has the command of the call. -/
  | submitted (progress : Progress)

structure StudentBridge where
  sessionId : String
  source : Source := .studentPython
  aliases : List (String × String) := []
  commandTtl : Duration := seconds 5
  inputConfidence : Option ℚ := none
  student : source = .studentBlocks ∨ source = .studentPython := by decide

/-- `_command` once its payload is read. -/
structure StudentCommand where
  session : ClassroomSession
  device : ClassroomDevice
  capability : String
  action : String
  arguments : List (JsonValue × JsonValue)

namespace StudentBridge
variable (bridge : StudentBridge) (rules : ClassroomRules) (s : Classroom) (reading : Reading)

/-- Alias or exact id; any other reference is a `StudentBridgeError`. -/
def resolve (deviceRef : String) : Except CallError ClassroomDevice :=
  (ClassroomApi.resolve s bridge.aliases deviceRef).mapError fun error =>
    .studentBridge error.detail

/-- `str(payload[name])`. -/
def text (payload : JsonObject) (name : String) : Except CallError String :=
  match payload.get? name with
  | some value => .ok value.pyStr
  | none => .error (.python (.keyError name))

/-- `sessions.get`. -/
def session : Except CallError ClassroomSession :=
  match s.sessions.get? bridge.sessionId with
  | some session => .ok session
  | none => .error (.python (.keyError s!"Unknown session {PyString.repr bridge.sessionId}"))

/-- `dict(payload.get("arguments") or {})`. -/
def arguments (payload : JsonObject) : Except CallError (List (JsonValue × JsonValue)) :=
  match (payload.get? "arguments").filter JsonValue.truthy with
  | some value => value.toDict.mapError .python
  | none => .ok []

def device (payload : JsonObject) : Except CallError ClassroomDevice := do
  bridge.resolve s (← text payload "device_id")

def readCommand (payload : JsonObject) : Except CallError StudentCommand := do
  let device ← bridge.device s payload
  let capability ← text payload "capability"
  let action ← text payload "action"
  let arguments ← arguments payload
  let session ← bridge.session s
  return ⟨session, device, capability, action, arguments⟩

/-- The refusal of a command that is no `DeviceCommandIntent`. -/
def invalid (capability : String) : CallError :=
  .studentBridge (PyString.repr capability ++
    " is not a valid capability and action pair. A capability looks like 'drive.velocity'.")

/-- The intent of a command, unless a key of its arguments is no string; building it drops an
arm that has expired. -/
def intent (read : StudentCommand) (commandId idempotencyKey : String) :
    Option DeviceCommandIntent × Classroom :=
  let build (arguments : JsonObject) : DeviceCommandIntent × Classroom :=
    s.intent reading read.session read.device.deviceId read.capability read.action arguments
      bridge.source bridge.commandTtl bridge.inputConfidence commandId idempotencyKey
  ((JsonValue.stringKeyed read.arguments).map fun arguments => (build arguments).1,
    (build .empty).2)

def command (payload : JsonObject) (commandId idempotencyKey : String) : Classroom × Called :=
  match bridge.readCommand s payload with
  | .error error => (s, .raised error)
  | .ok read =>
    let (intent, checked) := bridge.intent s reading read commandId idempotencyKey
    match intent.filter rules.validCommand with
    | none => (checked, .raised (invalid read.capability))
    | some intent =>
      let (after, progress) := checked.submit reading intent .program
      (after, .submitted progress)

def readSensor (payload : JsonObject) : Except CallError Reply := do
  let device ← bridge.device s payload
  let sensor ← text payload "sensor"
  match ClassroomApi.lastReading s device.deviceId sensor with
  | some event => return { fields := [("accepted", .bool true)], records := [.event event] }
  | none => return { fields := [("accepted", .bool true), ("values", .obj []),
      ("message", .str s!"No reading from {PyString.repr sensor} yet.")] }

/-- What is logged has no effect on the room. -/
def log : Reply where
  fields := [("accepted", .bool true)]

/-- The device and the session of `_device_info`. -/
def readDeviceInfo (payload : JsonObject) :
    Except CallError (ClassroomDevice × ClassroomSession) := do
  let device ← bridge.device s payload
  let session ← bridge.session s
  return (device, session)

/-- It describes the device, which drops an arm that has expired. -/
def deviceInfo (payload : JsonObject) : Classroom × Called :=
  match bridge.readDeviceInfo s payload with
  | .error error => (s, .raised error)
  | .ok (device, session) =>
    let (described, description) := s.describeDevice device reading.checkedAt
    (described, .answered {
      fields := [("accepted", .bool true), ("executionMode", .str session.executionMode.value)]
      records := [.device description] })

/-- `float(payload.get("seconds", 0.0))`. -/
def sleep (payload : JsonObject) : Except CallError Reply := do
  let duration ← (((payload.get? "seconds").getD (.float (.finite 0))).toFloat).mapError .python
  return { fields := [("accepted", .bool true), ("seconds", .float duration)] }

def answerOf : Except CallError Reply → Called
  | .ok reply => .answered reply
  | .error error => .raised error

/-- A call of a student program, under the ids that the generator draws for a command. -/
def call (method : String) (payload : JsonObject) (commandId idempotencyKey : String) :
    Classroom × Called :=
  match method with
  | "command" => bridge.command rules s reading payload commandId idempotencyKey
  | "read_sensor" => (s, answerOf (bridge.readSensor s payload))
  | "log" => (s, .answered log)
  | "device_info" => bridge.deviceInfo s reading payload
  | "sleep" => (s, answerOf (sleep payload))
  | method => (s, .raised (.studentBridge
      s!"{PyString.repr method} is not a permitted runtime call"))

/-- The call that a payload spells, when nothing in it is missing or malformed. -/
def readCall (method : String) (payload : JsonObject) (commandId idempotencyKey : String) :
    Option StudentCall :=
  match method with
  | "command" => do
    let deviceRef ← payload.get? "device_id"
    let capability ← payload.get? "capability"
    let action ← payload.get? "action"
    let entries ← (arguments payload).toOption
    let arguments ← JsonValue.stringKeyed entries
    return .device deviceRef.pyStr
      (.command capability.pyStr action.pyStr arguments commandId idempotencyKey)
  | "read_sensor" => do
    let deviceRef ← payload.get? "device_id"
    let sensor ← payload.get? "sensor"
    return .device deviceRef.pyStr (.readSensor sensor.pyStr)
  | "log" => some (.log ((payload.get? "message").getD (.str "")).pyStr)
  | "device_info" => (payload.get? "device_id").map fun deviceRef =>
    .device deviceRef.pyStr .deviceInfo
  | "sleep" =>
    ((payload.get? "seconds").getD (.float (.finite 0))).toFloat.toOption.map StudentCall.sleep
  | _ => none

end StudentBridge

structure StudentRpcBody where
  sessionId : String
  method : String
  payload : JsonObject := .empty
  aliases : List (String × String) := []
  inputConfidence : Option ℚ := none

namespace ClassroomApi
variable (rules : ClassroomRules) (s : Classroom) (principal : Principal) (reading : Reading)

def bridgeOf (body : StudentRpcBody) (session : ClassroomSession) : StudentBridge where
  sessionId := body.sessionId
  source := match session.authoringMode with
    | .python => .studentPython
    | .blocks => .studentBlocks
  aliases := body.aliases
  inputConfidence := body.inputConfidence
  student := by cases session.authoringMode <;> decide

/-- What the route makes of a call: a `StudentBridgeError` is a bad request. -/
def relay : Classroom × Called → Classroom × Progress
  | (after, .raised (.studentBridge message)) => after.raised ⟨400, message⟩
  | (after, .raised _) => after.raised .unhandled
  | (after, .answered reply) => after.answer reply
  | (after, .submitted progress) => (after, progress)

/-- `student_rpc` over the JSON of its body. -/
def relayRpc (body : StudentRpcBody) (commandId idempotencyKey : String) :
    Classroom × Progress :=
  match s.getOwnSession principal body.sessionId with
  | .error error => s.raised error
  | .ok session => relay ((bridgeOf body session).call rules s reading body.method body.payload
      commandId idempotencyKey)

end ClassroomApi

/-- A call that waits goes on, in whatever the room has become: its command has its turn on the
lane, or an adapter comes back. -/
inductive Wake where
  | turn (room : Classroom) (reading : Reading)
  | back (room : Classroom) (reading : Reading) (reply : AdapterReply)

/-- An exception leaves the adapter. -/
def Wake.raises : Wake → Bool
  | .back _ _ .raised => true
  | _ => false

def Suspended.wake : Suspended → Wake → Option Progress
  | .queued item form, .turn room reading => some (room.dispatch reading item form).2
  | .queued .., .back .. | _, .turn .. => none
  | task, .back room reading reply => some (room.resume reading task reply).2

inductive CallEnd where
  | raised (error : CallError)
  | returned (reply : Reply)

/-- A response that is no answer stands for the exception that leaves `submit`. -/
def CallEnd.ofReply (reply : Reply) : CallEnd :=
  if reply.status = 200 then .returned reply else .raised .adapter

/-- The end of a submission that is woken up so often. -/
def Progress.ending : Progress → List Wake → Option CallEnd
  | .done reply, [] => some (.ofReply reply)
  | .waits task, wake :: wakes => (task.wake wake).bind fun progress => progress.ending wakes
  | _, _ => none

def Called.ending : Called → List Wake → Option CallEnd
  | .raised error, [] => some (.raised error)
  | .answered reply, [] => some (.returned reply)
  | .submitted progress, wakes => progress.ending wakes
  | _, _ => none

end CitPhysicalXR.Runtime
