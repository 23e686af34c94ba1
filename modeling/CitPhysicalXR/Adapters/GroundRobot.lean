import CitPhysicalXR.Adapters.GroundHandlers
import CitPhysicalXR.Foundation.Transition

/-! A ground robot under its bridge as a system of three tasks: the receive loop, the bounded
demonstration and the deadman tick. The tasks suspend at their awaits, share one lock for the
calls of the transport, and the demonstration can be cancelled at any of its awaits. -/
namespace CitPhysicalXR.Adapters
open Foundation Fabric

/-- A velocity as the robot takes it: of the wheels, or the speed of a roll. -/
inductive DriveCommand where
  | wheels (forward right clockwise : PyFloat)
  | roll (speedValue : ℤ)
  deriving DecidableEq

namespace DriveCommand

def isZero : DriveCommand → Bool
  | .wheels forward right clockwise =>
    decide (forward = .finite 0 ∧ right = .finite 0 ∧ clockwise = .finite 0)
  | .roll speedValue => decide (speedValue = 0)

/-- What a handler takes for motion: `abs(x) > 1e-9` of the wheels, `speed_value > 0` of a
roll. -/
def registers : DriveCommand → Bool
  | .wheels forward _ clockwise =>
    WonderCommandHandler.moves forward || WonderCommandHandler.moves clockwise
  | .roll speedValue => decide (0 < speedValue)

end DriveCommand

inductive MotionCall where
  | stop
  | drive (forward right clockwise : PyFloat)
  | aim

/-- The motion call of a command; lights, cues and the head do not move the robot. -/
def GroundCall.motion? : GroundCall → Option MotionCall
  | .stop | .nudgeStop => some .stop
  | .velocity forward right clockwise | .nudge _ forward right clockwise =>
    some (.drive forward right clockwise)
  | .resetAim => some .aim
  | .color _ _ _ | .cue _ | .head _ _ => none

inductive Task where
  | receive | demonstration | tick
  deriving DecidableEq

/-- How a call of the transport ends. `swallowed` is a stop that returns although it did not
reach the robot; `recovers` tells whether the bridge recovers from the class of the exception. -/
inductive Outcome where
  | returned
  | raised (reached recovers : Bool)
  | swallowed
  deriving DecidableEq

inductive CancelledCall where
  | dropped
  | reached
  /-- The call was left to a thread, which may still carry it out. -/
  | detached
  deriving DecidableEq

/-- In what the bridges differ. -/
structure GroundProfile where
  supersedes : List String
  plan : String → JsonObject → Except AdapterError GroundCall
  demonstration : JsonObject → Except AdapterError PyFloat
  /-- A command is checked before it cancels a demonstration. -/
  checksFirst : Bool
  /-- A repeated idempotency key is answered from the replay cache. -/
  answersReplay : Bool
  driveOf : PyFloat → PyFloat → PyFloat → ℤ → DriveCommand
  pulseSpeed : ℚ
  /-- `_demo_stop` calls the transport, given whether it is connected. -/
  callsStop : Bool → Bool
  /-- A stop frame and a recovery go to the robot and leave the demonstration alone. -/
  stopsDirectly : Bool
  swallowsStop : Bool
  recordsVelocity : Bool
  deadmanSeconds : ℚ
  /-- A command that does not supersede a demonstration does not move the robot. -/
  quiet : ∀ action parameters call, action ∉ supersedes → plan action parameters = .ok call →
    call.motion? = none

/-- The bounds that `BoundedGroundDemonstration.start` puts on a distance. -/
def startDistance (distance : PyFloat) : Except AdapterError PyFloat :=
  if floatWithin distance (5 / 100) (10 / 100) then .ok distance
  else .error (valueError "Demonstration distance must be from 0.05 through 0.1 metres")

def groundDistance (parameters : JsonObject) : Except AdapterError PyFloat := do
  expectKeys parameters ["distanceMeters"]
  let distance ← number (parameters.get? "distanceMeters") "distanceMeters must be numeric"
  startDistance distance

private theorem lightCall_quiet {parameters : JsonObject} {call : GroundCall}
    (h : lightCall parameters = .ok call) : call.motion? = none := by
  obtain ⟨_, _, h⟩ := bind_eq_ok.mp h
  obtain ⟨red, _, h⟩ := bind_eq_ok.mp h
  obtain ⟨green, _, h⟩ := bind_eq_ok.mp h
  obtain ⟨blue, _, h⟩ := bind_eq_ok.mp h
  cases h
  rfl

private theorem wonder_quiet {model : WonderRobotModel} {action : String}
    {parameters : JsonObject} {call : GroundCall}
    (haction : action ∉ [groundStop, groundVelocity, groundNudge])
    (h : WonderCommandHandler.plan model action parameters = .ok call) : call.motion? = none := by
  simp only [List.mem_cons, List.not_mem_nil, or_false, not_or] at haction
  obtain ⟨hstop, hvelocity, hnudge⟩ := haction
  unfold WonderCommandHandler.plan at h
  rw [if_neg hstop, if_neg hvelocity, if_neg hnudge] at h
  split_ifs at h
  · exact lightCall_quiet h
  · obtain ⟨_, _, h⟩ := bind_eq_ok.mp h
    obtain ⟨cue, _, h⟩ := bind_eq_ok.mp h
    cases h
    rfl
  · obtain ⟨_, _, h⟩ := bind_eq_ok.mp h
    obtain ⟨_, _, h⟩ := bind_eq_ok.mp h
    obtain ⟨pan, _, h⟩ := bind_eq_ok.mp h
    obtain ⟨tilt, _, h⟩ := bind_eq_ok.mp h
    cases h
    rfl

private theorem roll_quiet {name : String} {nudgeSpeed : ℚ} {action : String}
    {parameters : JsonObject} {call : GroundCall}
    (haction : action ∉ [groundStop, groundVelocity, groundNudge, aimReset])
    (h : rollPlan name nudgeSpeed action parameters = .ok call) : call.motion? = none := by
  simp only [List.mem_cons, List.not_mem_nil, or_false, not_or] at haction
  obtain ⟨hstop, hvelocity, hnudge, haim⟩ := haction
  unfold rollPlan at h
  rw [if_neg hstop, if_neg hvelocity, if_neg hnudge] at h
  split_ifs at h
  exact lightCall_quiet h

def RobotCommandHandler.plan (action : String) (parameters : JsonObject) :
    Except AdapterError GroundCall :=
  if action = groundStop then do
    raiseIf (parameters.fields ≠ []) (valueError "Ground-robot stop does not accept parameters")
    return .stop
  else if action = groundVelocity then do
    let velocity ← velocityParameters parameters
    return .velocity velocity.1 velocity.2.1 velocity.2.2
  else if action = groundNudge then do
    let velocity ← nudgeVelocity parameters
    if parameters.get? "direction" matches some (.str "stop") then .ok .nudgeStop
    else .ok (.nudge (textOf (parameters.get? "direction")) velocity.1 velocity.2.1 velocity.2.2)
  else if action = robotLight then do
    let color ← lightColor parameters
    return .color color.1 color.2.1 color.2.2
  else .error (valueError ("Unsupported RoboMaster action " ++ PyString.repr action))

private theorem roboMaster_quiet {action : String} {parameters : JsonObject} {call : GroundCall}
    (haction : action ∉ [groundStop, groundVelocity, groundNudge])
    (h : RobotCommandHandler.plan action parameters = .ok call) : call.motion? = none := by
  simp only [List.mem_cons, List.not_mem_nil, or_false, not_or] at haction
  obtain ⟨hstop, hvelocity, hnudge⟩ := haction
  unfold RobotCommandHandler.plan at h
  rw [if_neg hstop, if_neg hvelocity, if_neg hnudge] at h
  split_ifs at h
  obtain ⟨color, _, h⟩ := bind_eq_ok.mp h
  cases h
  rfl

def wonderProfile (model : WonderRobotModel) : GroundProfile where
  supersedes := [groundStop, groundVelocity, groundNudge]
  plan := WonderCommandHandler.plan model
  demonstration parameters := do
    WonderCommandHandler.requireDash model "drive demonstration"
    groundDistance parameters
  checksFirst := false
  answersReplay := true
  driveOf forward right clockwise _ := .wheels forward right clockwise
  pulseSpeed := 12 / 100
  callsStop connected := connected && decide (model = .dash)
  stopsDirectly := false
  swallowsStop := false
  recordsVelocity := true
  deadmanSeconds := 350 / 1000
  quiet _ _ _ := wonder_quiet

def spheroProfile : GroundProfile where
  supersedes := [groundStop, groundVelocity, groundNudge, aimReset]
  plan := SpheroCommandHandler.plan
  demonstration := groundDistance
  checksFirst := false
  answersReplay := true
  driveOf _ _ _ speedValue := .roll speedValue
  pulseSpeed := 12 / 100
  callsStop connected := connected
  stopsDirectly := false
  swallowsStop := false
  recordsVelocity := true
  deadmanSeconds := 750 / 1000
  quiet _ _ _ := roll_quiet

def ollieProfile : GroundProfile where
  supersedes := [groundStop, groundVelocity, groundNudge, aimReset]
  plan := OllieCommandHandler.plan
  demonstration := groundDistance
  checksFirst := false
  answersReplay := true
  driveOf _ _ _ speedValue := .roll speedValue
  pulseSpeed := 8 / 100
  callsStop connected := connected
  stopsDirectly := false
  swallowsStop := false
  recordsVelocity := true
  deadmanSeconds := 750 / 1000
  quiet _ _ _ := roll_quiet

/-- The stop of the vendor process swallows its error, and a process that has ended is not
asked. The bridge has no deadman of its own. -/
def roboMasterProfile : GroundProfile where
  supersedes := [groundStop, groundVelocity, groundNudge]
  plan := RobotCommandHandler.plan
  demonstration := RobotCommandHandler.demonstrationDistance
  checksFirst := true
  answersReplay := false
  driveOf forward right clockwise _ := .wheels forward right clockwise
  pulseSpeed := 12 / 100
  callsStop _ := true
  stopsDirectly := true
  swallowsStop := true
  recordsVelocity := false
  deadmanSeconds := 0
  quiet _ _ _ := roboMaster_quiet

/-- What the receive loop does once a demonstration is out of the way. -/
inductive AfterCancel where
  | execute (action : String) (parameters : JsonObject)
  | start
  /-- The safe stop is complete; `handled` for the one of a stop frame. -/
  | finish (handled : Bool)

inductive ReceivePhase where
  | idle
  | joining (next : AfterCancel)
  | stopping (next : AfterCancel)
  | moving (call : MotionCall)
  | aiming
  | quiet
  | direct (handled : Bool)

/-- Where the demonstration is suspended; `last` pulses lead on to the stop. -/
inductive DemoPhase where
  | created
  | pulse (forward : Bool)
  | resting (forward : Bool)
  | halting
  | pausing
  | finishing
  deriving DecidableEq

/-- A motion call that has reached the robot. -/
inductive Motion where
  | stop
  | drive (command : DriveCommand) (at_ : ℚ)
  deriving DecidableEq

/-- The handler and its robot. `motion` is the last motion call that reached the robot, and
`halted` tells that a stop has been handled and no motion accepted since. -/
structure GroundState where
  velocityActive : Bool := false
  lastVelocityAt : Option ℚ := none
  /-- `_demonstration._task is not None`. -/
  registered : Bool := false
  demo : Option DemoPhase := none
  cancelling : Bool := false
  receive : ReceivePhase := .idle
  ticking : Bool := false
  lock : Option Task := none
  motion : Option Motion := none
  detached : Option DriveCommand := none
  halted : Bool := false

namespace GroundState
variable (profile : GroundProfile) (s : GroundState)

def clearVelocity : GroundState := { s with velocityActive := false, lastVelocityAt := none }

def recordVelocity (command : DriveCommand) (now : ℚ) : GroundState :=
  if profile.recordsVelocity then
    { s with
      velocityActive := command.registers
      lastVelocityAt := if command.registers then some now else none }
  else s

/-- The receive loop after the cancellation of a demonstration. -/
def proceed : AfterCancel → GroundState
  | .execute action parameters =>
    match profile.plan action parameters with
    | .error _ => { s with receive := .idle }
    | .ok call =>
      match call.motion? with
      | some motion => { s with receive := .moving motion }
      | none => { s with receive := .quiet }
  | .start =>
    { s with receive := .idle, demo := some .created, registered := true, halted := false }
  | .finish handled => { s with receive := .idle, halted := s.halted || handled }

/-- `BoundedGroundDemonstration.cancel`: a registered task is cancelled and joined. -/
def beginCancel (force : Bool) (next : AfterCancel) : GroundState :=
  if s.registered then { s with registered := false, cancelling := true, receive := .joining next }
  else if force then { s with receive := .stopping next }
  else s.proceed profile next

/-- The handling of an exception in the receive loop. -/
def recover (recovers : Bool) : GroundState :=
  if recovers then
    if profile.stopsDirectly then { s with receive := .direct false }
    else s.beginCancel profile true (.finish false)
  else { s with receive := .idle }

/-- An exception of a safe stop ends the receive loop's handling. -/
def abandon (next : AfterCancel) (recovers : Bool) : GroundState :=
  match next with
  | .finish _ => { s with receive := .idle }
  | .execute _ _ | .start => s.recover profile recovers

/-- The velocity of a task's call in flight, given the speed that the transport answers. -/
def driving (speed : ℤ) : Task → Option DriveCommand
  | .receive =>
    match s.receive with
    | .moving (.drive forward right clockwise) =>
      some (profile.driveOf forward right clockwise speed)
    | _ => none
  | .demonstration =>
    match s.demo with
    | some (.pulse forward) =>
      some (profile.driveOf (.ofRat (if forward then profile.pulseSpeed else -profile.pulseSpeed))
        (.finite 0) (.finite 0) speed)
    | _ => none
  | .tick => none

end GroundState

inductive GroundEvent where
  | stopFrame
  /-- A command that passed the checks of its target and expiry. -/
  | command (action : String) (parameters : JsonObject) (replayed : Bool)
  /-- The receive loop finds the cancelled demonstration done. -/
  | joined
  /-- A task takes the lock and makes its call. -/
  | call (task : Task)
  /-- A task enters `_demo_stop`. -/
  | demoStop (task : Task) (connected : Bool)
  /-- The call of a task ends: the reading of its clock, the roll of its answer, and whether a
  pulse was the last of its direction. -/
  | finish (task : Task) (outcome : Outcome) (now : ℚ) (speed : ℤ) (last : Bool)
  /-- The demonstration starts, or wakes from a sleep. -/
  | wake
  /-- `CancelledError` is raised in the demonstration. -/
  | cancelled (call : CancelledCall) (now : ℚ) (speed : ℤ)
  /-- A detached call reaches the robot. -/
  | landed (now : ℚ)
  | tick (now : ℚ)

namespace GroundState
variable (profile : GroundProfile) (s : GroundState)

def takeStopFrame : GroundState :=
  if profile.stopsDirectly then { s with receive := .direct true }
  else s.beginCancel profile true (.finish true)

def takeCommand (action : String) (parameters : JsonObject) (replayed : Bool) : GroundState :=
  if replayed then
    if profile.answersReplay then
      { s with halted := s.halted || decide (action = groundStop) }
    else s
  else if action = groundDemonstration then
    match profile.demonstration parameters with
    | .error _ => s
    | .ok _ => s.beginCancel profile false .start
  else if profile.checksFirst && !(profile.plan action parameters).toBool then s
  else if action ∈ profile.supersedes then
    s.beginCancel profile false (.execute action parameters)
  else s.proceed profile (.execute action parameters)

/-- The task stands before a call of the transport other than `_demo_stop`. -/
def wantsCall : Task → Bool
  | .receive =>
    match s.receive with
    | .moving _ | .quiet | .direct _ => true
    | _ => false
  | .demonstration => (s.demo matches some (.pulse _)) && !s.cancelling
  | .tick => s.ticking

/-- A velocity call of the receive loop is a motion that the bridge has accepted. -/
def takeLock (task : Task) : GroundState :=
  { s with
    lock := some task
    halted := s.halted &&
      !(decide (task = .receive) && (s.receive matches .moving (.drive _ _ _))) }

/-- The task stands before `_demo_stop`. -/
def wantsStop : Task → Bool
  | .receive => (s.receive matches .stopping _)
  | .demonstration => (s.demo matches some .halting | some .finishing) && !s.cancelling
  | .tick => false

/-- A task goes on after `_demo_stop` has returned. -/
def afterDemoStop (task : Task) : GroundState :=
  match task with
  | .receive =>
    match s.receive with
    | .stopping next => s.proceed profile next
    | _ => s
  | .demonstration =>
    match s.demo with
    | some .halting => { s with demo := some .pausing }
    | _ => { s with demo := none, registered := false }
  | .tick => s

/-- A task goes on after `_demo_stop` has raised. -/
def demoStopRaised (task : Task) (recovers : Bool) : GroundState :=
  match task with
  | .receive =>
    match s.receive with
    | .stopping next => s.abandon profile next recovers
    | _ => s
  | .demonstration =>
    match s.demo with
    | some .halting => { s with demo := some .finishing }
    | _ => { s with demo := none, registered := false }
  | .tick => s

/-- The lock is released and the call is known to have reached the robot or not. -/
def release (motion : Option Motion) : GroundState :=
  { s with lock := none, motion := motion.or s.motion }

/-- The end of a stop call of a task that stands before `_demo_stop`. -/
def finishDemoStop (task : Task) : Outcome → Option GroundState
  | .returned => some (((s.release (some .stop)).clearVelocity).afterDemoStop profile task)
  | .raised reached recovers =>
    some ((s.release (if reached then some .stop else none)).demoStopRaised profile task recovers)
  | .swallowed =>
    if profile.swallowsStop then
      some (((s.release none).clearVelocity).afterDemoStop profile task)
    else none

/-- The end of a call of the receive loop. -/
def finishReceive (outcome : Outcome) (now : ℚ) (speed : ℤ) : Option GroundState :=
  match s.receive, outcome with
  | .stopping _, outcome => s.finishDemoStop profile .receive outcome
  | .moving .stop, .returned =>
    some { ((s.release (some .stop)).clearVelocity) with receive := .idle, halted := true }
  | .moving .stop, .swallowed =>
    if profile.swallowsStop then
      some { ((s.release none).clearVelocity) with receive := .idle, halted := true }
    else none
  | .moving .stop, .raised reached recovers =>
    some ((s.release (if reached then some .stop else none)).recover profile recovers)
  | .moving (.drive forward right clockwise), .returned =>
    let command := profile.driveOf forward right clockwise speed
    some { ((s.release (some (.drive command now))).recordVelocity profile command now) with
      receive := .idle }
  | .moving (.drive forward right clockwise), .raised reached recovers =>
    let command := profile.driveOf forward right clockwise speed
    some ((s.release (if reached then some (.drive command now) else none)).recover profile
      recovers)
  | .moving .aim, .returned =>
    some { s with motion := some .stop, receive := .aiming }
  | .moving .aim, .raised reached recovers =>
    some ((s.release (if reached then some .stop else none)).recover profile recovers)
  | .aiming, .returned => some { ((s.release none).clearVelocity) with receive := .idle }
  | .aiming, .raised _ recovers => some ((s.release none).recover profile recovers)
  | .quiet, .returned => some { (s.release none) with receive := .idle }
  | .quiet, .raised _ recovers => some ((s.release none).recover profile recovers)
  | .direct handled, .returned =>
    some { (s.release (some .stop)) with receive := .idle, halted := s.halted || handled }
  | .direct handled, .swallowed =>
    if profile.swallowsStop then
      some { (s.release none) with receive := .idle, halted := s.halted || handled }
    else none
  | .direct _, .raised reached _ =>
    some { (s.release (if reached then some .stop else none)) with receive := .idle }
  | _, _ => none

/-- The end of a call of the demonstration; an exception leads to the final stop. -/
def finishDemonstration (outcome : Outcome) (now : ℚ) (speed : ℤ) (last : Bool) :
    Option GroundState :=
  match s.demo, outcome with
  | some (.pulse forward), .returned =>
    (s.driving profile speed .demonstration).map fun command =>
      { ((s.release (some (.drive command now))).recordVelocity profile command now) with
        demo := some (if last then (if forward then .halting else .finishing)
          else .resting forward) }
  | some (.pulse _), .raised reached _ =>
    (s.driving profile speed .demonstration).map fun command =>
      { (s.release (if reached then some (.drive command now) else none)) with
        demo := some .finishing }
  | some .halting, outcome | some .finishing, outcome =>
    s.finishDemoStop profile .demonstration outcome
  | _, _ => none

/-- The end of the stop of a deadman tick. -/
def finishTick : Outcome → Option GroundState
  | .returned => some { ((s.release (some .stop)).clearVelocity) with ticking := false }
  | .raised reached _ =>
    some { (s.release (if reached then some .stop else none)) with ticking := false }
  | .swallowed => none

def finishCall (task : Task) (outcome : Outcome) (now : ℚ) (speed : ℤ) (last : Bool) :
    Option GroundState :=
  if s.lock = some task then
    match task with
    | .receive => s.finishReceive profile outcome now speed
    | .demonstration =>
      if s.cancelling then none else s.finishDemonstration profile outcome now speed last
    | .tick => s.finishTick outcome
  else none

def wakeDemonstration : Option GroundState :=
  if s.cancelling then none
  else
    match s.demo with
    | some .created => some { s with demo := some (.pulse true) }
    | some (.resting forward) => some { s with demo := some (.pulse forward) }
    | some .pausing => some { s with demo := some (.pulse false) }
    | _ => none

/-- Where a cancelled demonstration goes on: a task that never ran is done, one in its final
stop too, and any other runs its final stop. -/
def cancelledPhase : DemoPhase → Option DemoPhase
  | .created | .finishing => none
  | .pulse _ | .resting _ | .halting | .pausing => some .finishing

def cancelCall (call : CancelledCall) (now : ℚ) (speed : ℤ) : GroundState :=
  if s.lock ≠ some .demonstration then s
  else
    match s.driving profile speed .demonstration, call with
    | _, .dropped => s.release none
    | some command, .reached => s.release (some (.drive command now))
    | some command, .detached => { (s.release none) with detached := some command }
    | none, .reached => s.release (some .stop)
    | none, .detached => s.release none

def cancelDemonstration (call : CancelledCall) (now : ℚ) (speed : ℤ) : Option GroundState :=
  match s.cancelling, s.demo with
  | true, some phase =>
    some { s.cancelCall profile call now speed with
      cancelling := false, demo := cancelledPhase phase }
  | _, _ => none

def land (now : ℚ) : Option GroundState :=
  s.detached.map fun command =>
    { s with motion := some (.drive command now), detached := none }

/-- `deadman_tick` up to its stop. -/
def deadmanTick (now : ℚ) : Option GroundState :=
  if s.ticking || !profile.recordsVelocity then none
  else
    some { s with ticking := s.velocityActive &&
      s.lastVelocityAt.any fun at_ => decide (profile.deadmanSeconds ≤ now - at_) }

def step : GroundEvent → Option GroundState
  | .stopFrame => if s.receive matches .idle then some (s.takeStopFrame profile) else none
  | .command action parameters replayed =>
    if s.receive matches .idle then some (s.takeCommand profile action parameters replayed)
    else none
  | .joined =>
    match s.receive, s.demo with
    | .joining next, none => some { s with receive := .stopping next }
    | _, _ => none
  | .call task =>
    if s.lock = none ∧ s.wantsCall task = true then some (s.takeLock task) else none
  | .demoStop task connected =>
    if s.lock = none ∧ s.wantsStop task = true then
      if profile.callsStop connected then some { s with lock := some task }
      else some (s.clearVelocity.afterDemoStop profile task)
    else none
  | .finish task outcome now speed last => s.finishCall profile task outcome now speed last
  | .wake => s.wakeDemonstration
  | .cancelled call now speed => s.cancelDemonstration profile call now speed
  | .landed now => s.land now
  | .tick now => s.deadmanTick profile now

end GroundState

/-- The robot from the start of its bridge, in every interleaving of its tasks. -/
def groundRobot (profile : GroundProfile) : Machine GroundState GroundEvent Unit where
  Initial s := s = {}
  Step s e s' out := s.step profile e = some s' ∧ out = []

end CitPhysicalXR.Adapters
