import CitPhysicalXR.Foundation.Transition
import Mathlib.Algebra.Order.Field.Rat
import Mathlib.Tactic.Linarith

/-! The import service of a camera: manual and automatic starts under one lock, the import task,
and the loop that paces the automatic starts by the last activity. -/
namespace CitPhysicalXR.Camera
open Foundation

/-- The periods of the automatic loop, as the constructor of the service checks them. -/
structure ImportSchedule where
  automaticInterval : ℚ
  automaticInitialDelay : ℚ := 15
  interval_pos : 0 < automaticInterval
  initialDelay_nonneg : 0 ≤ automaticInitialDelay

/-- The import task; it runs the hook `after_import` when its import has ended. -/
structure ImportTask where
  number : ℕ
  ended : Bool
  deriving DecidableEq

inductive LockHolder where
  | manualStart
  | automaticStart
  | snapshot
  deriving DecidableEq

/-- Where the automatic loop is suspended. -/
inductive LoopPhase where
  | stopped
  /-- It waits for the lock to announce its next run. -/
  | publishing (delay : ℚ) (marker : Option ℚ)
  | sleeping (wakeAt : ℚ) (marker : Option ℚ)
  /-- It waits for the lock to withdraw the announcement. -/
  | clearing (marker : Option ℚ)
  /-- Its `start_import` was called and waits for the lock. -/
  | starting (calledAt : ℚ)
  | probing
  | waiting (number : ℕ)
  deriving DecidableEq

/-- `lastActivity` is `none` for minus infinity. -/
structure CameraImports where
  now : ℚ
  lastActivity : Option ℚ := none
  task : Option ImportTask := none
  holder : Option LockHolder := none
  loop : LoopPhase := .stopped
  firstRun : Bool := true
  nextTask : ℕ := 0
  deriving DecidableEq

/-- How the probe of a start ends: the import is started, refused with a
`SonyCameraImportError`, or the probe raises something else. -/
inductive ProbeOutcome where
  | started
  | refused
  | crashed
  deriving DecidableEq

inductive CameraAction where
  | startLoop
  | stopLoop
  | publish
  | wake
  | clear
  /-- The automatic start gets the lock. -/
  | lock
  | probed (outcome : ProbeOutcome)
  /-- The loop sees the end of its own import. -/
  | idle
  | manualStart
  | manualProbed (outcome : ProbeOutcome)
  | importEnds
  | taskDone
  | snapshot
  | snapshotDone
  deriving DecidableEq

/-- An action, and the time that the clock shows. -/
structure CameraStep where
  now : ℚ
  action : CameraAction
  deriving DecidableEq

inductive CameraReport where
  /-- The loop calls `start_import`. -/
  | attempt (at_ : ℚ)
  | started (number : ℕ) (automatic : Bool)
  | ended (number : ℕ) (at_ : ℚ)
  deriving DecidableEq

namespace CameraImports
variable (schedule : ImportSchedule) (s : CameraImports)

/-- The delay that the loop computes when it begins a round. -/
def delay : ℚ :=
  if s.firstRun then schedule.automaticInitialDelay
  else match s.lastActivity with
    | none => 0
    | some last => max 0 (schedule.automaticInterval - (s.now - last))

def beginRound : CameraImports :=
  { s with loop := .publishing (s.delay schedule) s.lastActivity }

/-- The checks of `start_import` have passed. -/
def beginImport (automatic : Bool) : CameraImports × List CameraReport :=
  ({ s with
    task := some ⟨s.nextTask, false⟩
    holder := none
    nextTask := s.nextTask + 1
    loop := if automatic then .waiting s.nextTask else s.loop }, [.started s.nextTask automatic])

def act : CameraAction → Option (CameraImports × List CameraReport)
  | .startLoop =>
    if s.loop = .stopped ∧ s.holder = none then
      some ({ s with firstRun := true }.beginRound schedule, [])
    else none
  | .stopLoop =>
    some ({ s with
      loop := .stopped
      holder := if s.loop = .probing then none else s.holder }, [])
  | .publish =>
    match s.loop with
    | .publishing delay marker =>
      if s.holder = none then some ({ s with loop := .sleeping (s.now + delay) marker }, [])
      else none
    | _ => none
  | .wake =>
    match s.loop with
    | .sleeping wakeAt marker =>
      if wakeAt ≤ s.now then some ({ s with loop := .clearing marker }, []) else none
    | _ => none
  | .clear =>
    match s.loop with
    | .clearing marker =>
      if s.holder = none then
        if s.lastActivity ≠ marker then
          some ({ s with firstRun := false }.beginRound schedule, [])
        else some ({ s with firstRun := false, loop := .starting s.now }, [.attempt s.now])
      else none
    | _ => none
  | .lock =>
    match s.loop with
    | .starting _ =>
      if s.holder = none then
        -- a start while an import runs is refused, and leaves the last activity as it is
        if s.task.isSome then some (s.beginRound schedule, [])
        else some ({ s with
          lastActivity := some s.now
          holder := some .automaticStart
          loop := .probing }, [])
      else none
    | _ => none
  | .probed outcome =>
    if s.loop = .probing then
      match outcome with
      | .started => some (s.beginImport true)
      | .refused => some ({ s with holder := none }.beginRound schedule, [])
      | .crashed => some ({ s with holder := none, loop := .stopped }, [])
    else none
  | .idle =>
    match s.loop with
    | .waiting number =>
      if s.holder = none ∧ (s.task.all fun task => task.number ≠ number) then
        some (s.beginRound schedule, [])
      else none
    | _ => none
  | .manualStart =>
    if s.holder = none then
      if s.task.isSome then some (s, [])
      else some ({ s with lastActivity := some s.now, holder := some .manualStart }, [])
    else none
  | .manualProbed outcome =>
    if s.holder = some .manualStart then
      match outcome with
      | .started => some (s.beginImport false)
      | .refused | .crashed => some ({ s with holder := none }, [])
    else none
  | .importEnds =>
    match s.task with
    | some task =>
      if task.ended then none
      else some ({ s with
        lastActivity := some s.now
        task := some { task with ended := true } }, [.ended task.number s.now])
    | none => none
  | .taskDone =>
    match s.task with
    | some task => if task.ended then some ({ s with task := none }, []) else none
    | none => none
  | .snapshot => if s.holder = none then some ({ s with holder := some .snapshot }, []) else none
  | .snapshotDone =>
    if s.holder = some .snapshot then some ({ s with holder := none }, []) else none

/-- The clock never goes back. -/
def step (e : CameraStep) : Option (CameraImports × List CameraReport) :=
  if s.now ≤ e.now then { s with now := e.now }.act schedule e.action else none

end CameraImports

/-- The service under every interleaving of its calls with the loop and the import task. -/
def cameraImports (schedule : ImportSchedule) :
    Machine CameraImports CameraStep CameraReport where
  Initial s := ∃ now, s = { now := now }
  Step s e s' out := s.step schedule e = some (s', out)

end CitPhysicalXR.Camera
