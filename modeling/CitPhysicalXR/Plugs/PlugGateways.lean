import CitPhysicalXR.Plugs.PowerGroup
import CitPhysicalXR.Plugs.ReplayProtection

/-! The signed client of the plug gateways, and the gateways: each request may reach any of them
any number of times and in any order, its answer may be lost, and every process may restart. -/
namespace CitPhysicalXR.Plugs
open Foundation Fabric

structure GatewayConfiguration where
  siteId : String
  displayName : String
  origin : String
  deviceId : String
  secret : String
  device_ok : isDeviceId deviceId = true ∧ deviceId.startsWith "desktop-" = true

structure GatewayConfigurations where
  items : List GatewayConfiguration
  distinct : (items.map (·.siteId)).Nodup
  bound : items.length ≤ 8

structure GatewayCall where
  id : ℕ
  siteId : String
  request : SignedRequest

/-- `sequences` is the table of the counters, which is durable. -/
structure PlugGatewayService where
  sequences : String → ℕ := fun _ => 0
  calls : List GatewayCall := []
  nextCall : ℕ := 0

inductive GatewayError where
  /-- `PLUG_GATEWAY_NOT_FOUND` -/
  | notFound
  /-- The counter could not be committed. -/
  | sequenceFailed
  /-- `PLUG_GATEWAY_RESULT_UNKNOWN` -/
  | resultUnknown
  deriving DecidableEq

inductive GatewayReport where
  | sent (call : ℕ) (request : SignedRequest)
  | reported (call : ℕ) (event : RemotePlugPowerRequest) (result : RemotePlugPowerResult)
  | raised (error : GatewayError)
  deriving DecidableEq

namespace PlugGatewayService
variable (configurations : GatewayConfigurations) (s : PlugGatewayService)

def isLocked (siteId : String) : Bool := s.calls.any fun call => call.siteId == siteId

/-- `_sequence`: the counter is committed before anything is sent. -/
def countSequence (deviceId : String) : PlugGatewayService :=
  { s with
    sequences := fun other =>
      if other = deviceId then s.sequences deviceId + 1 else s.sequences other }

def send (siteId : String) (request : SignedRequest) : PlugGatewayService × List GatewayReport :=
  ({ s with calls := s.calls ++ [⟨s.nextCall, siteId, request⟩], nextCall := s.nextCall + 1 },
    [.sent s.nextCall request])

/-- The request of the next sequence number, unless a field is out of range. -/
def nextEvent (configuration : GatewayConfiguration) (eventId : Uuid) (nowMs : ℕ) :
    Option UnlockEventRequest :=
  let sequence := s.sequences configuration.deviceId + 1
  if h : sequence ≤ maxInt64 ∧ nowMs ≤ maxInt64 then
    some ⟨configuration.deviceId, eventId, sequence, nowMs, configuration.device_ok.1,
      ⟨Nat.succ_pos _, h.1⟩, h.2⟩
  else none

/-- `_power` until it waits for the transport. -/
def power (siteId : String) (on : Bool) (selected : Option NodeSelection) (eventId : Uuid)
    (nowMs : ℕ) (commits : Bool) : Option (PlugGatewayService × List GatewayReport) :=
  match configurations.items.find? fun item => item.siteId == siteId with
  | none => some (s, [.raised .notFound])
  | some configuration =>
    if s.isLocked siteId then none
    else if commits = false then some (s, [.raised .sequenceFailed])
    else
      let counted := s.countSequence configuration.deviceId
      match s.nextEvent configuration eventId nowMs with
      | none => some (counted, [.raised .resultUnknown])
      | some event => some (counted.send siteId (.remotePower ⟨event, on, selected⟩))

/-- `_state` with a cache that is not fresh, until it waits for the transport. -/
def readState (siteId : String) (eventId : Uuid) (nowMs : ℕ) (commits : Bool) :
    Option (PlugGatewayService × List GatewayReport) :=
  match configurations.items.find? fun item => item.siteId == siteId with
  | none => some (s, [.raised .notFound])
  | some configuration =>
    if s.isLocked siteId then none
    else if commits = false then some (s, [.raised .sequenceFailed])
    else
      let counted := s.countSequence configuration.deviceId
      match s.nextEvent configuration eventId nowMs with
      | none => some (counted, [])
      | some event => some (counted.send siteId (.remoteState event))

/-- The transport returns a result, or fails, and the call is over. -/
def answered (call : GatewayCall) (result : Option RemotePlugPowerResult) :
    PlugGatewayService × List GatewayReport :=
  let rest := { s with calls := s.calls.filter fun other => other.id != call.id }
  match call.request, result with
  | .remotePower _, none => (rest, [.raised .resultUnknown])
  | .remotePower event, some result =>
    if result.siteId ≠ call.siteId ∨ result.on ≠ event.on then (rest, [.raised .resultUnknown])
    else (rest, [.reported call.id event result])
  | _, _ => (rest, [])

end PlugGatewayService

structure PlugSystem (G : Type) where
  service : PlugGatewayService := {}
  gateways : G → UnlockAutomation
  answers : List (RemotePlugPowerRequest × RemotePlugPowerResult) := []
  /-- The device ids that `token_hex` has drawn. -/
  drawn : List String := []

inductive PlugEvent (G : Type) where
  | power (siteId : String) (on : Bool) (selected : Option NodeSelection) (eventId : Uuid)
      (nowMs : ℕ) (commits : Bool)
  | readState (siteId : String) (eventId : Uuid) (nowMs : ℕ) (commits : Bool)
  | answered (call : ℕ) (result : Option RemotePlugPowerResult)
  | restart
  /-- A gateway takes a step of its own: it receives a request, of the client or of anyone. -/
  | gateway (g : G) (event : UnlockEvent)
  /-- The command runner of a gateway is done. -/
  | ran (g : G) (fabric : PlugFabric) (outcome : SaveOutcome)

inductive PlugReport (G : Type) where
  | service (report : GatewayReport)
  | gateway (g : G) (report : UnlockReport)
  /-- The command runner of a gateway has submitted a command to its Fabric. -/
  | submitted (g : G) (request : SignedRequest) (command : PlugCommand)
  deriving DecidableEq

/-- The value that a request has its command runner set. -/
def SignedRequest.requestedOn : SignedRequest → Option Bool
  | .unlock _ => some true
  | .remotePower event => some event.on
  | .toggle _ | .remoteState _ => none

namespace PlugSystem
variable {G : Type} [DecidableEq G]
variable (configurations : GatewayConfigurations) (config : G → UnlockAutomationConfig)
variable (hmac : String → String → String) (s : PlugSystem G)

def withService (step : PlugGatewayService × List GatewayReport) :
    PlugSystem G × List (PlugReport G) :=
  ({ s with service := step.1 }, step.2.map .service)

/-- A gateway has stepped; the answers that it gives are on their way. -/
def withGateway (g : G) (step : UnlockAutomation × List UnlockReport) :
    PlugSystem G × List (PlugReport G) :=
  ({ s with
    gateways := Function.update s.gateways g step.1
    answers := s.answers ++ step.2.filterMap fun report =>
      match report with
      | .powered event result => some (event, result)
      | _ => none },
    step.2.map (.gateway g))

/-- The transport fails, or returns an answer to the very request of the call. -/
def mayAnswer (call : GatewayCall) : Option RemotePlugPowerResult → Bool
  | none => true
  | some result =>
    match call.request with
    | .remotePower event => decide ((event, result) ∈ s.answers)
    | _ => false

def stepGateway (g : G) (event : UnlockEvent) : Option (PlugSystem G × List (PlugReport G)) :=
  ((s.gateways g).step (config g) hmac event).map (s.withGateway g)

/-- One step; a pairing draws a new device id. -/
def step : PlugEvent G → Option (PlugSystem G × List (PlugReport G))
  | .power siteId on selected eventId nowMs commits =>
    (s.service.power configurations siteId on selected eventId nowMs commits).map s.withService
  | .readState siteId eventId nowMs commits =>
    (s.service.readState configurations siteId eventId nowMs commits).map s.withService
  | .answered id result =>
    match s.service.calls.find? fun call => call.id == id with
    | none => none
    | some call =>
      if s.mayAnswer call result then
        some (s.withService (s.service.answered call result))
      else none
  | .restart => some ({ s with service := { s.service with calls := [] } }, [])
  | .gateway _ (.commandRan ..) => none
  | .gateway g (.commitPairing candidate outcome) =>
    if candidate.deviceId ∈ s.drawn then none
    else
      stepGateway config hmac { s with drawn := s.drawn ++ [candidate.deviceId] } g
        (.commitPairing candidate outcome)
  | .gateway g event => s.stepGateway config hmac g event
  | .ran g fabric outcome =>
    match (s.gateways g).running with
    | none => none
    | some running =>
      let (power, submitted) := fabric.setConfiguredSmartPlugs running.selectedNodeIds
        running.request.requestedOn
      (s.stepGateway config hmac g (.commandRan power outcome)).map fun next =>
        (next.1, submitted.map (.submitted g running.request) ++ next.2)

end PlugSystem

/-- The client and its gateways, from empty stores. -/
def plugGateways {G : Type} [DecidableEq G] (configurations : GatewayConfigurations)
    (config : G → UnlockAutomationConfig) (hmac : String → String → String) :
    Machine (PlugSystem G) (PlugEvent G) (PlugReport G) where
  Initial s := s = { gateways := fun _ => { store := .load {} } }
  Step s e s' out := s.step configurations config hmac e = some (s', out)

end CitPhysicalXR.Plugs
