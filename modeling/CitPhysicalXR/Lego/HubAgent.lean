import CitPhysicalXR.Lego.Protocol
import CitPhysicalXR.Foundation.Transition

/-! The hub agent: the firmware's own codec, its handlers and its watchdog. The firmware keeps
its tables by name, and answers from a state that outlives an exception of a handler. -/
namespace CitPhysicalXR.Lego
open Foundation

namespace Hub

def arity : List (String × ℕ × ℕ) :=
  [("HELLO", 2, 4), ("HEARTBEAT", 1, 1), ("ACK", 1, 2), ("ERROR", 2, 2), ("MOTOR_RUN", 3, 3),
    ("MOTOR_RUN_ANGLE", 3, 3), ("MOTOR_RUN_TARGET", 3, 3), ("MOTOR_STOP", 1, 1), ("DRIVE", 3, 3),
    ("DRIVE_STRAIGHT", 2, 2), ("TURN", 2, 2), ("SENSOR_READ", 2, 2), ("SENSOR_SUBSCRIBE", 3, 3),
    ("DISPLAY", 1, 1), ("SOUND", 2, 2), ("STOP_ALL", 1, 1), ("TELEMETRY", 2, 3)]

def portCodes : List (String × String) :=
  [("empty", "-"), ("motor", "m"), ("distance", "d"), ("color", "c"), ("force", "f")]

def watchdogMilliseconds : ℤ := 500
def maxMotorPercent : ℤ := 100
def maxCommandMilliseconds : ℤ := 5000
def maxMotorDegreesPerSecond : ℤ := 1000

def checkArgument (text : String) : Except CodecError Unit := do
  raiseIf (maxArgumentChars < text.length) (.frame "argument too long")
  raiseIf (text.toList.any fun c => c ∉ allowedArgumentChars) (.frame "forbidden character")

/-- Build one wire line; the sequence number is taken modulo its range. -/
def encodeFrame (sequence : ℤ) (operation : String) (arguments : List String) :
    Except CodecError String := do
  match arity.lookup operation with
  | none => .error (.frame "unknown operation")
  | some (low, high) =>
    raiseIf (arguments.length < low ∨ high < arguments.length) (.frame "wrong argument count")
    arguments.forM checkArgument
    let line := PyString.join '|'
      (protocolTag :: toString (sequence % sequenceModulus) :: operation :: arguments)
    raiseIf (maxFrameChars < line.length) (.frame "frame too long")
    return line

/-- Parse one wire line into its sequence number, operation and arguments. -/
def decodeFrame (rules : TextRules) (line : String) :
    Except CodecError (ℤ × String × List String) := do
  let text := rules.strip line
  raiseIf (text = "") (.frame "empty frame")
  raiseIf (maxFrameChars < text.length) (.frame "frame too long")
  match PyString.split text '|' with
  | tag :: rawSequence :: operation :: arguments =>
    raiseIf (tag ≠ protocolTag) (.frame "bad tag")
    raiseIf (!rules.isDigits rawSequence) (.frame "bad sequence")
    match rules.toInt? rawSequence with
    | none => .error (.value "invalid syntax for integer with base 10")
    | some sequence =>
      raiseIf (sequenceModulus ≤ sequence) (.frame "bad sequence")
      match arity.lookup operation with
      | none => .error (.frame "unknown operation")
      | some (low, high) =>
        raiseIf (maxArguments < arguments.length) (.frame "too many arguments")
        raiseIf (arguments.length < low ∨ high < arguments.length) (.frame "wrong argument count")
        arguments.forM checkArgument
        return (sequence, operation, arguments)
  | _ => .error (.frame "short frame")

def clamp (value low high : ℤ) : ℤ :=
  if value < low then low else if high < value then high else value

def percentToSpeed (percent : ℤ) : ℤ :=
  (clamp percent (-maxMotorPercent) maxMotorPercent * maxMotorDegreesPerSecond).tdiv 100

/-- What is plugged in: the kind of device at each port, in port order. -/
structure HubMachine where
  modelId : String
  ports : List (String × String)
  nodup : (ports.map Prod.fst).Nodup

namespace HubMachine
variable (machine : HubMachine)

def isMotor (port : String) : Bool := machine.ports.lookup port = some "motor"

def motors : List String := (machine.ports.map Prod.fst).filter machine.isMotor

def driveBase : List String := if 2 ≤ machine.motors.length then machine.motors.take 2 else []

def hasDriveBase : Bool := machine.driveBase ≠ []

def portReport : String :=
  String.join (machine.ports.map fun port => (portCodes.lookup port.2).getD "-")

end HubMachine

/-- What the hardware reads when a line arrives or a poll runs. -/
structure HubReadings where
  battery : ℤ
  sensorRead : String → String → Option ℤ
  buttonPressed : Option String

/-- The calls that the agent makes on its machine. -/
inductive MachineCall where
  | motorRun (port : String) (speed milliseconds : ℤ)
  | motorRunAngle (port : String) (speed angle : ℤ)
  | motorRunTarget (port : String) (speed angle : ℤ)
  | motorStop (port : String)
  | drive (speed turn milliseconds : ℤ)
  | driveStraight (millimetres : ℤ)
  | turn (angle : ℤ)
  | stopAll
  | display (text : String)
  | sound (frequency milliseconds : ℤ)
  deriving DecidableEq

structure Subscription where
  port : String
  kind : String
  interval : ℤ
  last : ℤ

end Hub

structure HubAgent where
  watchdogMilliseconds : ℤ
  sequence : ℤ
  lastFrameAt : ℤ
  motorsRunning : Bool
  subscriptions : List Hub.Subscription
  calls : List Hub.MachineCall

def HubAgent.initial (watchdogMilliseconds : ℤ) : HubAgent where
  watchdogMilliseconds := watchdogMilliseconds
  sequence := 0
  lastFrameAt := 0
  motorsRunning := false
  subscriptions := []
  calls := []

abbrev HubM := Effect HubAgent CodecError

namespace Hub

def emit (operation : String) (arguments : List String) : HubM String := do
  Effect.update fun agent => { agent with sequence := (agent.sequence + 1) % sequenceModulus }
  Effect.read fun agent => encodeFrame agent.sequence operation arguments

def ack (sequence : ℤ) : HubM String := emit "ACK" [toString sequence]

def error (sequence : ℤ) (code : String) : HubM String := emit "ERROR" [toString sequence, code]

def call (request : MachineCall) : HubM Unit :=
  Effect.update fun agent => { agent with calls := agent.calls ++ [request] }

def setMotorsRunning (running : Bool) : HubM Unit :=
  Effect.update fun agent => { agent with motorsRunning := running }

def stopAll : HubM Unit := do
  call .stopAll
  setMotorsRunning false

def argument (arguments : List String) (i : ℕ) : HubM String :=
  Effect.read fun _ => match arguments[i]? with
    | some text => .ok text
    | none => .error (.index "list index out of range")

def toInt (rules : TextRules) (text : String) : HubM ℤ :=
  Effect.read fun _ => match rules.toInt? text with
    | some n => .ok n
    | none => .error (.frame "not a number")

def intArgument (rules : TextRules) (arguments : List String) (i : ℕ) : HubM ℤ := do
  toInt rules (← argument arguments i)

section Handlers
variable (rules : TextRules) (machine : HubMachine) (readings : HubReadings)

/-- The motion that a drive operation asks of the machine. -/
def driveCall (operation : String) (arguments : List String) : HubM Unit := do
  match operation with
  | "DRIVE" =>
    let percent ← intArgument rules arguments 0
    let turn ← intArgument rules arguments 1
    let milliseconds ← intArgument rules arguments 2
    call (.drive (percentToSpeed (clamp percent (-maxMotorPercent) maxMotorPercent))
      (clamp turn (-maxMotorPercent) maxMotorPercent) (clamp milliseconds 1 maxCommandMilliseconds))
  | "DRIVE_STRAIGHT" =>
    let millimetres ← intArgument rules arguments 0
    call (.driveStraight (clamp millimetres (-2000) 2000))
  | _ =>
    let angle ← intArgument rules arguments 0
    call (.turn (clamp angle (-720) 720))

def driveHandler (sequence : ℤ) (operation : String) (arguments : List String) :
    HubM (List String) := do
  driveCall rules operation arguments
  setMotorsRunning true
  return [← ack sequence]

def dispatch (sequence : ℤ) (operation : String) (arguments : List String) :
    HubM (List String) := do
  match operation with
  | "HELLO" =>
    return [← emit "HELLO"
      [toString protocolVersion, machine.modelId, toString readings.battery, machine.portReport]]
  | "HEARTBEAT" => return [← ack sequence]
  | "STOP_ALL" =>
    stopAll
    return [← ack sequence]
  | "MOTOR_STOP" =>
    let port ← argument arguments 0
    if port = "ALL" then
      stopAll
      return [← ack sequence]
    else if machine.isMotor port then
      call (.motorStop port)
      setMotorsRunning false
      return [← ack sequence]
    else return [← error sequence "BAD_PORT"]
  | "MOTOR_RUN" =>
    let port ← argument arguments 0
    if machine.isMotor port then
      let percent ← intArgument rules arguments 1
      let milliseconds ← intArgument rules arguments 2
      call (.motorRun port (percentToSpeed (clamp percent (-maxMotorPercent) maxMotorPercent))
        (clamp milliseconds 1 maxCommandMilliseconds))
      setMotorsRunning true
      return [← ack sequence]
    else return [← error sequence "BAD_PORT"]
  | "MOTOR_RUN_ANGLE" | "MOTOR_RUN_TARGET" =>
    let port ← argument arguments 0
    if machine.isMotor port then
      let angle ← intArgument rules arguments 1
      let percent ← intArgument rules arguments 2
      let speed := percentToSpeed (clamp percent (-maxMotorPercent) maxMotorPercent)
      call (if operation = "MOTOR_RUN_ANGLE" then
        .motorRunAngle port speed (clamp angle (-3600) 3600)
      else .motorRunTarget port speed (clamp angle (-3600) 3600))
      setMotorsRunning true
      return [← ack sequence]
    else return [← error sequence "BAD_PORT"]
  | "DRIVE" | "DRIVE_STRAIGHT" | "TURN" =>
    if machine.hasDriveBase then driveHandler rules sequence operation arguments
    else return [← error sequence "UNSUPPORTED"]
  | "SENSOR_READ" =>
    let port ← argument arguments 0
    let kind ← argument arguments 1
    match readings.sensorRead port kind with
    | none => return [← error sequence "BAD_PORT"]
    | some value => return [← ack sequence, ← emit "TELEMETRY" [kind, toString value]]
  | "SENSOR_SUBSCRIBE" =>
    let port ← argument arguments 0
    let kind ← argument arguments 1
    let interval ← intArgument rules arguments 2
    match readings.sensorRead port kind with
    | none => return [← error sequence "BAD_PORT"]
    | some _ =>
      Effect.update fun agent => { agent with
        subscriptions := agent.subscriptions ++ [⟨port, kind, clamp interval 50 5000, 0⟩] }
      return [← ack sequence]
  | "DISPLAY" =>
    call (.display (← argument arguments 0))
    return [← ack sequence]
  | "SOUND" =>
    let frequency ← intArgument rules arguments 0
    let milliseconds ← intArgument rules arguments 1
    call (.sound (clamp frequency 50 10000) (clamp milliseconds 1 maxCommandMilliseconds))
    return [← ack sequence]
  | _ => return [← error sequence "UNSUPPORTED"]

/-- Act on one received line and return the lines to send back. -/
def handleLine (line : String) (now : ℤ) : HubM (List String) :=
  match decodeFrame rules line with
  | .error (.frame _) => do return [← error 0 "BAD_FRAME"]
  | .error e => throw e
  | .ok (sequence, operation, arguments) => do
    Effect.update fun agent => { agent with lastFrameAt := now }
    Effect.rescue (dispatch rules machine readings sequence operation arguments) fun
      | .frame _ => do return [← error sequence "BAD_ARGUMENT"]
      | e => throw e

end Handlers

/-- The loop over the subscriptions; `sent` are those already served. -/
def pollSubscriptions (readings : HubReadings) (now : ℤ) (sent : List Subscription) :
    List Subscription → HubM (List String)
  | [] => pure []
  | subscription :: rest =>
    if now - subscription.last < subscription.interval then
      pollSubscriptions readings now (sent ++ [subscription]) rest
    else do
      let served := { subscription with last := now }
      Effect.update fun agent => { agent with subscriptions := sent ++ served :: rest }
      match readings.sensorRead subscription.port subscription.kind with
      | none => pollSubscriptions readings now (sent ++ [served]) rest
      | some value =>
        let line ← emit "TELEMETRY" [subscription.kind, toString value]
        let others ← pollSubscriptions readings now (sent ++ [served]) rest
        return line :: others

def pollButton (readings : HubReadings) : HubM (List String) :=
  match readings.buttonPressed with
  | none => pure []
  | some button =>
    if button = "" then pure []
    else do
      stopAll
      return [← emit "TELEMETRY" ["button", button]]

def pollWatchdog (now : ℤ) : HubM (List String) := do
  let late ← Effect.read fun agent => .ok
    (agent.motorsRunning && agent.watchdogMilliseconds < now - agent.lastFrameAt)
  if late then
    stopAll
    return [← error 0 "WATCHDOG"]
  else return []

/-- Run the hub's own controls, the watchdog and the subscriptions. -/
def poll (readings : HubReadings) (now : ℤ) : HubM (List String) := do
  let pressed ← pollButton readings
  let expired ← pollWatchdog now
  let subscriptions ← Effect.read fun agent => .ok agent.subscriptions
  let telemetry ← pollSubscriptions readings now [] subscriptions
  return pressed ++ expired ++ telemetry

inductive HubEvent where
  | line (text : String) (now : ℤ) (readings : HubReadings)
  | poll (now : ℤ) (readings : HubReadings)

/-- The agent after an event; an exception that no handler catches keeps what was done. -/
def after (rules : TextRules) (machine : HubMachine) (agent : HubAgent) : HubEvent → HubAgent
  | .line text now readings => Effect.final (handleLine rules machine readings text now agent)
  | .poll now readings => Effect.final (poll readings now agent)

end Hub

/-- An agent on a machine; the calls that an event makes on the machine are its outputs. -/
def hubAgent (rules : TextRules) (machine : Hub.HubMachine) (watchdogMilliseconds : ℤ) :
    Machine HubAgent Hub.HubEvent Hub.MachineCall where
  Initial agent := agent = HubAgent.initial watchdogMilliseconds
  Step agent event agent' out := agent' = Hub.after rules machine agent event ∧
    out = agent'.calls.drop agent.calls.length

theorem hubAgent_runs (rules : TextRules) (machine : Hub.HubMachine) (watchdogMilliseconds : ℤ)
    (events : List Hub.HubEvent) : ∃ trace, trace.map Prod.fst = events ∧
      (hubAgent rules machine watchdogMilliseconds).Run trace
        (events.foldl (Hub.after rules machine) (HubAgent.initial watchdogMilliseconds)) := by
  induction events using List.reverseRecOn with
  | nil => exact ⟨[], rfl, _, rfl, .nil⟩
  | append_singleton events event ih =>
    obtain ⟨trace, rfl, initial, hinitial, hsteps⟩ := ih
    rw [List.foldl_append]
    have hlast := hsteps.snoc (e := event) ⟨rfl, rfl⟩
    exact ⟨_, by simp, initial, hinitial, hlast⟩

end CitPhysicalXR.Lego
