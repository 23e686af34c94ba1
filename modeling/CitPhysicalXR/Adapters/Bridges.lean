import CitPhysicalXR.Adapters.GroundHandlers

/-! `_handle_command` of the eight adapter bridges: what a bridge reports to the fabric while a
command runs, and which exceptions it turns into a report. -/
namespace CitPhysicalXR.Adapters
open Foundation Fabric

variable {ρ : Type} (client : FabricAdapterClient) (command : FabricResolvedCommand)

/-- `self._last_error = str(error)[:500]`. -/
def noteError (error : AdapterError) : AdapterM ρ Unit :=
  Effect.update fun s => { s with lastError := some error.reported }

def reportError (stage : FabricCommandLifecycleStage) (code : Identifier) (error : AdapterError) :
    AdapterM ρ Unit := do
  noteError error
  client.publishLifecycle command stage { code := some code.text, message := some error.reported }

/-- The part under `try`: the command is accepted, runs and succeeds. -/
def attempt (execute : CommandReplayCache ρ →
      Except AdapterError (JsonObject × CommandReplayCache ρ))
    (afterwards : Except AdapterError Unit) : AdapterM ρ Unit := do
  client.publishLifecycle command .accepted {}
  client.publishLifecycle command .running {}
  let details ← Effect.commit fun s => (execute s.executions).map fun result =>
    ({ s with executions := result.2, lastError := none }, result.1)
  client.publishLifecycle command .succeeded { details := some details }
  Effect.read fun _ => afterwards

/-- The parts in which these bridges differ. `afterwards` are the events that follow a success,
and `recover` the call between a caught exception and its report. -/
structure CheckedParts (ρ : Type) where
  hasSeen : CommandReplayCache ρ → Bool
  check : Except AdapterError Unit
  execute : CommandReplayCache ρ → Except AdapterError (JsonObject × CommandReplayCache ρ)
  afterwards : Except AdapterError Unit
  catches : ErrorKind → Bool
  recover : Except AdapterError Unit
  failedCode : Identifier

def reportFailure (parts : CheckedParts ρ) (error : AdapterError) : AdapterM ρ Unit :=
  if parts.catches error.kind then do
    noteError error
    Effect.read fun _ => parts.recover
    client.publishLifecycle command .failed
      { code := some parts.failedCode.text, message := some error.reported }
  else throw error

def parameterRejected : Identifier := ⟨"ADAPTER_PARAMETER_REJECTED", by decide⟩

def handleChecked (parts : CheckedParts ρ) : AdapterM ρ Unit := do
  let seen ← Effect.read fun s => .ok (parts.hasSeen s.executions)
  if seen then pure ()
  else
    match parts.check with
    | .ok () =>
      Effect.rescue (attempt client command parts.execute parts.afterwards)
        (reportFailure client command parts)
    | .error error =>
      if error.kind = .valueError then
        reportError client command .rejected parameterRejected error
      else throw error

structure FabricTelloBridge where
  nodeId : Identifier
  backend : TelloBackend
  /-- The readings of the clock at the checks of a command. -/
  clock : ℕ → Instant

def FabricTelloBridge.parts (bridge : FabricTelloBridge) : CheckedParts JsonObject where
  hasSeen executions := executions.contains command.commandId.text
  check := TelloCommandHandler.validate bridge.nodeId.text (bridge.clock 0) command
  execute := TelloCommandHandler.execute bridge.nodeId.text bridge.backend (bridge.clock 1) command
  afterwards := .ok ()
  catches kind := kind = .telloBackendError ∨ kind = .osError
  recover := .ok ()
  failedCode := ⟨"TELLO_OPERATION_FAILED", by decide⟩

structure FabricFleetSequenceBridge where
  nodeId : Identifier
  backend : FleetSequenceBackend
  clock : ℕ → Instant

def FabricFleetSequenceBridge.parts (bridge : FabricFleetSequenceBridge) :
    CheckedParts JsonObject where
  hasSeen executions := executions.contains command.commandId.text
  check := FleetSequenceCommandHandler.validate bridge.nodeId.text (bridge.clock 0) command
  execute := FleetSequenceCommandHandler.execute bridge.nodeId.text bridge.backend
    (bridge.clock 1) command
  afterwards := .ok ()
  catches kind := kind = .fleetSequenceBackendError ∨ kind = .valueError ∨ kind = .osError
  recover := .ok ()
  failedCode := ⟨"FLEET_SEQUENCE_OPERATION_FAILED", by decide⟩

structure FabricRoboMasterBridge where
  nodeId : Identifier
  robot : RobotBackend
  clock : ℕ → Instant

def FabricRoboMasterBridge.parts (bridge : FabricRoboMasterBridge) :
    CheckedParts JsonObject where
  hasSeen executions := executions.contains command.commandId.text
  check := RobotCommandHandler.validate bridge.nodeId.text (bridge.clock 0) command
  execute := RobotCommandHandler.execute bridge.nodeId.text bridge.robot (bridge.clock 1) command
  afterwards :=
    if command.action.text = groundVelocity then
      client.publishEvent "telemetry.motion.commanded" bridge.nodeId
    else .ok ()
  catches kind := kind = .vendorProcessError ∨ kind = .osError
  recover := bridge.robot.stop "vendor_process_failure"
  failedCode := ⟨"VENDOR_PROCESS_FAILED", by decide⟩

structure ElectricalMeasurements where
  activePowerWatts : Option PyFloat
  voltageVolts : Option PyFloat
  activeCurrentAmperes : Option PyFloat
  cumulativeEnergyKilowattHours : Option PyFloat
  frequencyHertz : Option PyFloat
  powerFactorRatio : Option PyFloat
  deriving DecidableEq

structure FabricMatterBridge where
  nodeId : Identifier
  setPower : Bool → Except AdapterError Bool
  clock : ℕ → Instant
  electricalTelemetryAvailable : Bool
  lastElectrical : Option ElectricalMeasurements
  readElectricalMeasurements : Except AdapterError ElectricalMeasurements

/-- `_publish_current_electrical`; a plug without the measurements publishes none. -/
def FabricMatterBridge.publishCurrentElectrical (bridge : FabricMatterBridge) :
    Except AdapterError Unit :=
  if bridge.electricalTelemetryAvailable = false then .ok ()
  else
    match bridge.readElectricalMeasurements with
    | .error error => if error.kind = .smartPlugError then .ok () else .error error
    | .ok measurements =>
      if bridge.lastElectrical = some measurements then .ok ()
      else client.publishEvent "telemetry.power.electrical" bridge.nodeId

def FabricMatterBridge.parts (bridge : FabricMatterBridge) : CheckedParts Bool where
  hasSeen executions := executions.contains command.commandId.text
  check := do
    let _ ← MatterCommandHandler.validate bridge.nodeId.text (bridge.clock 0) command
  execute := MatterCommandHandler.execute bridge.nodeId.text bridge.setPower (bridge.clock 1)
    command
  afterwards := do
    client.publishEvent "power.switch.state" bridge.nodeId
    bridge.publishCurrentElectrical client
  catches kind := kind = .smartPlugError ∨ kind = .osError
  recover := .ok ()
  failedCode := ⟨"MATTER_SMART_PLUG_OPERATION_FAILED", by decide⟩

structure FabricLegoBridge where
  hub : LegoHub
  clock : ℕ → Instant

def FabricLegoBridge.parts (bridge : FabricLegoBridge) : CheckedParts Unit where
  hasSeen _ := false
  check := LegoCommandHandler.validate bridge.hub (bridge.clock 0) command
  execute executions :=
    (LegoCommandHandler.execute bridge.hub (fun reading => bridge.clock (reading + 1))
      command).map fun details => (details, executions)
  afterwards := .ok ()
  catches kind := kind = .valueError ∨ kind = .hubTransportError ∨ kind = .osError
  recover := bridge.hub.stop "command_failure"
  failedCode := ⟨"LEGO_OPERATION_FAILED", by decide⟩

structure EagerParts where
  handler : GroundHandler
  now : Instant
  safeStop : Except AdapterError Unit
  rejectedCode : Identifier
  failedCode : Identifier

def settle (parts : EagerParts) (error : AdapterError) : AdapterM JsonObject Unit :=
  if error.kind = .valueError then
    reportError client command .rejected parts.rejectedCode error
  else if error.kind = .osError ∨ error.kind.isRuntimeError then
    Effect.ensuring
      (do
        noteError error
        Effect.read fun _ => parts.safeStop)
      (client.publishLifecycle command .failed
        { code := some parts.failedCode.text, message := some error.reported })
  else throw error

def handleEager (parts : EagerParts) : AdapterM JsonObject Unit :=
  Effect.rescue (attempt client command (parts.handler.execute parts.now command) (.ok ()))
    (settle client command parts)

structure FabricWonderBridge where
  nodeId : Identifier
  model : WonderRobotModel
  transport : WonderTransport
  demonstration : DemonstrationCalls
  now : Instant

def FabricWonderBridge.parts (bridge : FabricWonderBridge) : EagerParts where
  handler := WonderCommandHandler.handler bridge.nodeId.text bridge.model bridge.transport
    bridge.demonstration
  now := bridge.now
  safeStop := bridge.demonstration.safeStop
  rejectedCode := ⟨"WONDER_COMMAND_REJECTED", by decide⟩
  failedCode := ⟨"WONDER_OPERATION_FAILED", by decide⟩

structure FabricSpheroBridge where
  nodeId : Identifier
  transport : RollTransport
  demonstration : DemonstrationCalls
  now : Instant

def FabricSpheroBridge.parts (bridge : FabricSpheroBridge) : EagerParts where
  handler := SpheroCommandHandler.handler bridge.nodeId.text bridge.transport
    bridge.demonstration
  now := bridge.now
  safeStop := bridge.demonstration.safeStop
  rejectedCode := ⟨"SPHERO_COMMAND_REJECTED", by decide⟩
  failedCode := ⟨"SPHERO_OPERATION_FAILED", by decide⟩

structure FabricOllieBridge where
  nodeId : Identifier
  transport : RollTransport
  demonstration : DemonstrationCalls
  now : Instant

def FabricOllieBridge.parts (bridge : FabricOllieBridge) : EagerParts where
  handler := OllieCommandHandler.handler bridge.nodeId.text bridge.transport
    bridge.demonstration
  now := bridge.now
  safeStop := bridge.demonstration.safeStop
  rejectedCode := ⟨"SPHERO_OLLIE_COMMAND_REJECTED", by decide⟩
  failedCode := ⟨"SPHERO_OLLIE_OPERATION_FAILED", by decide⟩

inductive AdapterBridge where
  | tello (bridge : FabricTelloBridge) (executions : CommandReplayCache JsonObject)
  | fleet (bridge : FabricFleetSequenceBridge) (executions : CommandReplayCache JsonObject)
  | roboMaster (bridge : FabricRoboMasterBridge) (executions : CommandReplayCache JsonObject)
  | matter (bridge : FabricMatterBridge) (executions : CommandReplayCache Bool)
  | lego (bridge : FabricLegoBridge)
  | wonder (bridge : FabricWonderBridge) (executions : CommandReplayCache JsonObject)
  | sphero (bridge : FabricSpheroBridge) (executions : CommandReplayCache JsonObject)
  | ollie (bridge : FabricOllieBridge) (executions : CommandReplayCache JsonObject)

/-- The lifecycle records that the connection takes while a command is handled. -/
def recordsOf (handle : AdapterM ρ Unit) (executions : CommandReplayCache ρ) :
    List FabricCommandLifecycleEvent :=
  (Effect.final (handle { executions := executions })).published

def AdapterBridge.published : AdapterBridge → List FabricCommandLifecycleEvent
  | .tello bridge executions =>
    recordsOf (handleChecked client command (bridge.parts command)) executions
  | .fleet bridge executions =>
    recordsOf (handleChecked client command (bridge.parts command)) executions
  | .roboMaster bridge executions =>
    recordsOf (handleChecked client command (bridge.parts client command)) executions
  | .matter bridge executions =>
    recordsOf (handleChecked client command (bridge.parts client command)) executions
  | .lego bridge => recordsOf (handleChecked client command (bridge.parts command)) {}
  | .wonder bridge executions =>
    recordsOf (handleEager client command bridge.parts) executions
  | .sphero bridge executions =>
    recordsOf (handleEager client command bridge.parts) executions
  | .ollie bridge executions =>
    recordsOf (handleEager client command bridge.parts) executions

end CitPhysicalXR.Adapters
