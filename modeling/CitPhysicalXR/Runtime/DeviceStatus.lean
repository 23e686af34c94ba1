import CitPhysicalXR.Runtime.Classroom

/-! The observed half of a device card: what a device has last reported, and the last command
that went to it. -/
namespace CitPhysicalXR.Runtime
open Foundation

def truth : JsonValue → Bool
  | .null => false
  | .bool b => b
  | .int n => n ≠ 0
  | .float x => x ≠ .finite 0
  | .str s => s ≠ ""
  | .arr items => !items.isEmpty
  | .obj fields => !fields.isEmpty

structure DeviceStatus where
  deviceId : String
  batteryPercent : Option PyFloat := none
  batteryReportedAt : Option Instant := none
  firmware : Option String := none
  lastCommandCapability : Option String := none
  lastCommandAction : Option String := none
  lastCommandAt : Option Instant := none
  lastCommandResult : Option String := none
  lastTelemetryName : Option String := none
  lastTelemetryAt : Option Instant := none

namespace DeviceStatus

def batteryEventSuffixes : List String := ["battery", "battery_warning"]
def firmwareEventNames : List String := ["diagnostic.firmware", "diagnostic.version"]

/-- `_percent`: the first of its fields that is a number. -/
def percent (values : JsonObject) : Option PyFloat :=
  ["percent", "batteryPercent", "level"].findSome? fun key =>
    match values.get? key with
    | some (.int n) => some (.ofRat n)
    | some (.float x) => some x
    | _ => none

/-- `values.get("version") or values.get("firmware")`, when it is a text. -/
def reportedFirmware (values : JsonObject) : Option String :=
  let reported := match values.get? "version" with
    | some version => if truth version then some version else values.get? "firmware"
    | none => values.get? "firmware"
  match reported with
  | some (.str text) => if text = "" then none else some text
  | _ => none

def withTelemetry (status : DeviceStatus) (event : DeviceEvent) : DeviceStatus :=
  if event.category = .telemetry then
    { status with
      lastTelemetryName := some event.name
      lastTelemetryAt := some event.receivedAt }
  else status

def withReport (status : DeviceStatus) (event : DeviceEvent) : DeviceStatus :=
  if batteryEventSuffixes.any (PyString.endsWith event.name) then
    match percent event.values with
    | some level => { status with
        batteryPercent := some level
        batteryReportedAt := some event.receivedAt }
    | none => status
  else if event.name ∈ firmwareEventNames then
    match reportedFirmware event.values with
    | some firmware => { status with firmware := some firmware }
    | none => status
  else status

end DeviceStatus

structure DeviceStatusProjection where
  status : Table DeviceStatus.deviceId := .empty

namespace DeviceStatusProjection
variable (projection : DeviceStatusProjection)

/-- `_current`; a device that has reported nothing has a blank status. -/
def get (deviceId : String) : DeviceStatus :=
  (projection.status.get? deviceId).getD { deviceId := deviceId }

/-- `observe`: a historical event is ignored. -/
def observe (event : DeviceEvent) : DeviceStatusProjection :=
  if event.historical then projection
  else ⟨projection.status.upsert
    (((projection.get event.deviceId).withTelemetry event).withReport event)⟩

def noteCommand (deviceId capability action result : String) (at_ : Instant) :
    DeviceStatusProjection :=
  ⟨projection.status.upsert { projection.get deviceId with
    lastCommandCapability := some capability
    lastCommandAction := some action
    lastCommandAt := some at_
    lastCommandResult := some result }⟩

theorem observe_historical {event : DeviceEvent} (h : event.historical = true) :
    projection.observe event = projection := if_pos h

end DeviceStatusProjection
end CitPhysicalXR.Runtime
