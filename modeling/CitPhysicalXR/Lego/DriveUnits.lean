import CitPhysicalXR.Adapters.Client
import CitPhysicalXR.Foundation.PyRounding
import CitPhysicalXR.Lego.HubAdapter
import CitPhysicalXR.Lego.HubReplies
import CitPhysicalXR.Lego.Watchdog
import Mathlib.Analysis.Real.Pi.Bounds

/-! The units of a drive command, from the bridge to the drive base, in exact arithmetic. The
bridge takes the canonical bound for full scale, the hub takes 1000 mm/s for it. -/
namespace CitPhysicalXR.Lego
open Foundation Adapters

/-- A ground velocity or nudge of the canonical form, with its numbers. -/
inductive GroundMotion where
  | velocity (forward right clockwise : ℚ)
  | nudge (direction : String)
  deriving DecidableEq

structure DriveArguments where
  speed : ℚ
  turnRate : ℤ
  durationSeconds : ℚ
  deriving DecidableEq

inductive DriveIntent where
  | stop
  | run (arguments : DriveArguments)
  deriving DecidableEq

namespace GroundMotion

def maxForward : ℚ := 35 / 100
def maxClockwise : ℚ := 6108652382 / 10000000000

def velocityIntent (forward right clockwise : ℚ) : Except AdapterError DriveIntent := do
  raiseIf (1 / 1000000000 < |right|)
    (valueError "This differential-drive LEGO hub cannot strafe")
  raiseIf (maxForward < |forward| ∨ maxClockwise < |clockwise|)
    (valueError "LEGO velocity exceeds the canonical classroom bounds")
  return .run ⟨forward / (35 / 100), roundHalfEven (clockwise / maxClockwise * 100), 2 / 10⟩

def nudgeIntent (direction : String) : Except AdapterError DriveIntent :=
  match direction with
  | "stop" => .ok .stop
  | "forward" => .ok (.run ⟨12 / 100 / (35 / 100), 0, 2 / 10⟩)
  | "backward" => .ok (.run ⟨-(12 / 100) / (35 / 100), 0, 2 / 10⟩)
  | "left" => .ok (.run ⟨0, -66, 2 / 10⟩)
  | "right" => .ok (.run ⟨0, 66, 2 / 10⟩)
  | _ => .error (valueError "Ground nudge direction is invalid")

/-- The drive part of `LegoCommandHandler.translate`. -/
def translate : GroundMotion → Except AdapterError DriveIntent
  | .velocity forward right clockwise => velocityIntent forward right clockwise
  | .nudge direction => nudgeIntent direction

/-- The metres per second ahead that a motion commands. -/
def forward : GroundMotion → ℚ
  | .velocity forward _ _ => forward
  | .nudge "forward" => 12 / 100
  | .nudge "backward" => -(12 / 100)
  | .nudge _ => 0

/-- The radians per second clockwise that a motion commands; a nudge turns at 66 percent of the
bound. -/
def clockwise : GroundMotion → ℚ
  | .velocity _ _ clockwise => clockwise
  | .nudge "left" => -(66 / 100 * maxClockwise)
  | .nudge "right" => 66 / 100 * maxClockwise
  | .nudge _ => 0

/-- Every accepted motion is scaled to its bound, whichever way it is commanded. -/
theorem translate_run {motion : GroundMotion} {arguments : DriveArguments}
    (h : motion.translate = .ok (.run arguments)) :
    arguments = ⟨motion.forward / maxForward,
        roundHalfEven (motion.clockwise / maxClockwise * 100), 2 / 10⟩ ∧
      |motion.forward| ≤ maxForward ∧ |motion.clockwise| ≤ maxClockwise := by
  cases motion with
  | velocity ahead right around =>
    simp only [translate, velocityIntent, seq_eq_ok, raiseIf_eq_ok, not_or, not_lt] at h
    obtain ⟨-, ⟨hforward, hclockwise⟩, hrun⟩ := h
    cases hrun
    exact ⟨rfl, hforward, hclockwise⟩
  | nudge direction =>
    simp only [translate] at h
    unfold nudgeIntent at h
    split at h <;> cases h <;> decide +kernel

theorem translate_stop {motion : GroundMotion} (h : motion.translate = .ok .stop) :
    motion.forward = 0 ∧ motion.clockwise = 0 := by
  cases motion with
  | velocity ahead right around =>
    simp only [translate, velocityIntent, seq_eq_ok] at h
    obtain ⟨-, -, hrun⟩ := h
    cases hrun
  | nudge direction =>
    simp only [translate] at h
    unfold nudgeIntent at h
    split at h <;> cases h
    exact ⟨rfl, rfl⟩

end GroundMotion

/-- `HubSafetyLimits`, the bounds of a hub that its constructor checks. -/
structure HubSafetyLimits where
  maxMotorPercent : ℤ := 75
  maxCommandMilliseconds : ℤ := 2000
  percent_bounds : 5 ≤ maxMotorPercent ∧ maxMotorPercent ≤ 100 := by decide
  duration_bounds : 100 ≤ maxCommandMilliseconds ∧ maxCommandMilliseconds ≤ 5000 := by decide

namespace HubSafetyLimits
variable (limits : HubSafetyLimits)

/-- Normalized speed in, hub percent out, clamped to the hub ceiling. -/
def motorPercent (speed : ℚ) : ℤ :=
  let percent := roundHalfEven (max (-1) (min 1 speed) * 100)
  max (-limits.maxMotorPercent) (min limits.maxMotorPercent percent)

def durationMs (seconds : ℚ) : ℤ :=
  max 1 (min limits.maxCommandMilliseconds (roundHalfEven (|seconds| * 1000)))

def integer (raw low high : ℤ) : ℤ := max low (min high raw)

/-- `_drive_frame`, from the sequence number of the frame before. -/
def driveFrame (sequence : ℤ) : DriveIntent → Except CodecError Frame
  | .stop => Frame.create (nextSequence sequence) .motorStop ["ALL"]
  | .run arguments => Frame.create (nextSequence sequence) .drive
      [toString (limits.motorPercent arguments.speed),
        toString (integer arguments.turnRate (-100) 100),
        toString (limits.durationMs arguments.durationSeconds)]

theorem motorPercent_bounds (speed : ℚ) :
    |limits.motorPercent speed| ≤ limits.maxMotorPercent := by
  have := limits.percent_bounds
  unfold motorPercent
  dsimp only
  rw [abs_le]
  omega

theorem durationMs_bounds (seconds : ℚ) :
    1 ≤ limits.durationMs seconds ∧ limits.durationMs seconds ≤ 5000 := by
  have := limits.duration_bounds
  unfold durationMs
  omega

theorem integer_bounds (raw : ℤ) : |integer raw (-100) 100| ≤ 100 := by
  unfold integer
  rw [abs_le]
  omega

end HubSafetyLimits

theorem Frame.create_of_isWire {sequence : ℤ} {operation : Operation} {arguments : List String}
    (h : IsWireFrame sequence operation arguments) :
    ∃ frame : Frame, Frame.create sequence operation arguments = .ok frame ∧
      frame.operation = operation ∧ frame.arguments = arguments :=
  ⟨_, Frame.create_self ⟨sequence, operation, arguments, validateFrame_ok.mpr h⟩, rfl, rfl⟩

theorem nextSequence_bounds (sequence : ℤ) :
    0 ≤ nextSequence sequence ∧ nextSequence sequence < sequenceModulus := by
  have hmod : (0 : ℤ) < sequenceModulus := by decide
  exact ⟨Int.emod_nonneg _ hmod.ne', Int.emod_lt_of_pos _ hmod⟩

theorem isWireFrame_stop (sequence : ℤ) :
    IsWireFrame (nextSequence sequence) .motorStop ["ALL"] := by
  obtain ⟨hnonneg, hbounded⟩ := nextSequence_bounds sequence
  refine ⟨hnonneg, hbounded, ⟨le_rfl, le_rfl⟩, ?_, ?_⟩
  · intro argument hargument
    rw [List.mem_singleton.mp hargument]
    exact ⟨by decide, by decide⟩
  · have hsequence := Hub.length_number_le hnonneg hbounded
    have htag : protocolTag.length = 2 := by decide
    have hname : Operation.motorStop.value.length = 10 := by decide
    have hall : "ALL".length = 3 := by decide
    have hmax : 96 ≤ maxFrameChars := by decide
    simp only [encode_eq, wireParts, PyString.length_join_cons_cons, PyString.join_singleton]
    omega

theorem isWireFrame_drive (sequence : ℤ) {percent turn milliseconds : ℤ}
    (hpercent : |percent| < sequenceModulus) (hturn : |turn| < sequenceModulus)
    (hmilliseconds : |milliseconds| < sequenceModulus) :
    IsWireFrame (nextSequence sequence) .drive
      [toString percent, toString turn, toString milliseconds] := by
  obtain ⟨hnonneg, hbounded⟩ := nextSequence_bounds sequence
  refine ⟨hnonneg, hbounded, ⟨le_rfl, le_rfl⟩, ?_, ?_⟩
  · intro argument hargument
    simp only [List.mem_cons, List.not_mem_nil, or_false] at hargument
    rcases hargument with rfl | rfl | rfl
    · exact Hub.isWireArgument_integer hpercent
    · exact Hub.isWireArgument_integer hturn
    · exact Hub.isWireArgument_integer hmilliseconds
  · have hsequence := Hub.length_number_le hnonneg hbounded
    have hfirst := Hub.length_integer_le hpercent
    have hsecond := Hub.length_integer_le hturn
    have hthird := Hub.length_integer_le hmilliseconds
    have htag : protocolTag.length = 2 := by decide
    have hname : Operation.drive.value.length = 5 := by decide
    have hmax : 96 ≤ maxFrameChars := by decide
    simp only [encode_eq, wireParts, PyString.length_join_cons_cons, PyString.join_singleton]
    omega

namespace HubSafetyLimits
variable (limits : HubSafetyLimits)

theorem integer_eq {raw : ℤ} (h : |raw| ≤ 100) : integer raw (-100) 100 = raw := by
  rw [abs_le] at h
  unfold integer
  omega

theorem driveFrame_run (sequence : ℤ) (arguments : DriveArguments) :
    ∃ frame, limits.driveFrame sequence (.run arguments) = .ok frame ∧
      frame.operation = .drive ∧
      frame.arguments = [toString (limits.motorPercent arguments.speed),
        toString (integer arguments.turnRate (-100) 100),
        toString (limits.durationMs arguments.durationSeconds)] := by
  have hmodulus : (5000 : ℤ) < sequenceModulus := by decide
  have hceiling := limits.percent_bounds.2
  have hpercent := limits.motorPercent_bounds arguments.speed
  have hturn := integer_bounds arguments.turnRate
  obtain ⟨hpositive, hduration⟩ := limits.durationMs_bounds arguments.durationSeconds
  apply Frame.create_of_isWire
  apply isWireFrame_drive sequence
  · omega
  · omega
  · rw [abs_of_pos hpositive]
    omega

end HubSafetyLimits

namespace Hub

/-- A call of the agent adds these requests to its machine, whether it returns or raises. -/
abbrev Requests {α : Type} (calls : List MachineCall) (m : HubM α) (requests : List MachineCall) :
    Prop :=
  Effect.Triple (fun agent => agent.calls = calls) m
    (fun _ agent => agent.calls = calls ++ requests)
    (fun _ agent => agent.calls = calls ++ requests)

section Requests
variable {rules : TextRules} {machine : HubMachine} {readings : HubReadings}
  {calls : List MachineCall} {arguments : List String}

theorem emit_requests (operation : String) (arguments : List String) :
    Effect.Triple (fun agent => agent.calls = calls) (do return [← emit operation arguments])
      (fun _ agent => agent.calls = calls) (fun _ agent => agent.calls = calls) := by
  apply Effect.Triple.bind (Q := fun _ agent => agent.calls = calls)
  · apply Effect.Triple.bind (Q := fun _ agent => agent.calls = calls)
    · apply Effect.Triple.update
      exact fun _ h => h
    · intro _
      exact Effect.Triple.read (fun _ _ h _ => h) fun _ _ h _ => h
  · intro line
    exact Effect.Triple.pure fun _ h => h

theorem call_requests (request : MachineCall) : Requests calls (call request) [request] := by
  apply Effect.Triple.update
  intro agent h
  rw [h]

theorem start_requests {m : HubM Unit} {requests : List MachineCall} (sequence : ℤ)
    (running : Bool) (h : Requests calls m requests) : Requests calls (do
      m
      setMotorsRunning running
      return [← ack sequence]) requests := by
  apply Effect.Triple.bind h
  intro _
  apply Effect.Triple.bind (Q := fun _ agent => agent.calls = calls ++ requests)
  · apply Effect.Triple.update
    exact fun _ h => h
  · intro _
    exact emit_requests "ACK" [toString sequence]

theorem intArgument_reads {P : HubAgent → Prop} {E : CodecError → HubAgent → Prop} {i : ℕ} {n : ℤ}
    (h : arguments[i]? = some (toString n)) :
    Effect.Triple P (intArgument rules arguments i) (fun m agent => P agent ∧ m = n) E := by
  apply Effect.Triple.bind (Q := fun text agent => P agent ∧ text = toString n)
  · apply Effect.Triple.read
    · intro agent text hP htext
      rw [h] at htext
      cases htext
      exact ⟨hP, rfl⟩
    · intro agent e _ herror
      rw [h] at herror
      cases herror
  · intro text
    apply Effect.Triple.assume
    rintro rfl
    apply Effect.Triple.read
    · intro agent m hP hm
      rw [rules.toInt?_toString_int n] at hm
      cases hm
      exact ⟨hP, rfl⟩
    · intro agent e _ herror
      rw [rules.toInt?_toString_int n] at herror
      cases herror

def driveRequest (percent turn milliseconds : ℤ) : MachineCall :=
  .drive (percentToSpeed (clamp percent (-maxMotorPercent) maxMotorPercent))
    (clamp turn (-maxMotorPercent) maxMotorPercent) (clamp milliseconds 1 maxCommandMilliseconds)

theorem driveCall_requests (percent turn milliseconds : ℤ) :
    Requests calls (driveCall rules "DRIVE"
      [toString percent, toString turn, toString milliseconds])
      [driveRequest percent turn milliseconds] := by
  apply Effect.Triple.bind (intArgument_reads rfl)
  intro first
  apply Effect.Triple.assume
  rintro rfl
  apply Effect.Triple.bind (intArgument_reads rfl)
  intro second
  apply Effect.Triple.assume
  rintro rfl
  apply Effect.Triple.bind (intArgument_reads rfl)
  intro third
  apply Effect.Triple.assume
  rintro rfl
  exact call_requests _

theorem dispatch_drive_requests (sequence percent turn milliseconds : ℤ) :
    Requests calls (dispatch rules machine readings sequence "DRIVE"
      [toString percent, toString turn, toString milliseconds])
      (if machine.hasDriveBase then [driveRequest percent turn milliseconds] else []) := by
  unfold dispatch
  simp only
  split
  · exact start_requests sequence true (driveCall_requests percent turn milliseconds)
  · simp only [Requests, List.append_nil]
    exact emit_requests "ERROR" [toString sequence, "UNSUPPORTED"]

theorem dispatch_stop_requests (sequence : ℤ) :
    Requests calls (dispatch rules machine readings sequence "MOTOR_STOP" ["ALL"])
      [.stopAll] := by
  unfold dispatch
  apply Effect.Triple.bind (Q := fun port agent => agent.calls = calls ∧ port = "ALL")
  · apply Effect.Triple.read
    · intro agent port h hport
      cases hport
      exact ⟨h, rfl⟩
    · intro agent e _ herror
      cases herror
  · intro port
    apply Effect.Triple.assume
    rintro rfl
    exact start_requests sequence false (call_requests .stopAll)

theorem handleLine_requests {line operation : String} {sequence now : ℤ}
    {requests : List MachineCall} (hdecode : decodeFrame rules line =
      .ok (sequence, operation, arguments))
    (hdispatch : ∀ calls, Requests calls
      (dispatch rules machine readings sequence operation arguments) requests) :
    Requests calls (handleLine rules machine readings line now) requests := by
  unfold handleLine
  rw [hdecode]
  apply Effect.Triple.bind (Q := fun _ agent => agent.calls = calls)
  · apply Effect.Triple.update
    exact fun _ h => h
  · intro _
    apply Effect.Triple.rescue (hdispatch calls)
    intro e
    split
    · exact emit_requests "ERROR" [toString sequence, "BAD_ARGUMENT"]
    · exact Effect.Triple.throw fun _ h => h

end Requests
end Hub

/-- A value in whole units, up to one unit of rounding and a cap on the number of units. -/
def Reaches (unit cap : ℤ) (value : ℝ) (requested : ℤ) : Prop :=
  ∃ units : ℤ, |(unit * units : ℝ) - value| ≤ unit ∧
    requested = unit * Hub.clamp units (-cap) cap

/-- A request in millimetres and degrees per second is what the motion commands, one percent of
the hub's speed and one degree being the units, and keeps to the canonical bound. -/
structure GroundMotion.KeepsUnits (limits : HubSafetyLimits) (motion : GroundMotion)
    (speed turn : ℤ) : Prop where
  ahead : Reaches 10 limits.maxMotorPercent (1000 * motion.forward) speed
  around : Reaches 1 Hub.maxMotorPercent (motion.clockwise * (180 / Real.pi)) turn
  bounded : |speed| ≤ 350

/-- The motion hardly moves, or the ceiling of the hub happens to cut it down to what was
commanded; it hardly turns. -/
def GroundMotion.FitsScale (limits : HubSafetyLimits) (motion : GroundMotion) : Prop :=
  (|motion.forward| < 525 / 100000 ∨ (limits.maxMotorPercent ≤ 35 ∧
    limits.maxMotorPercent - 1 ≤ 100 * |motion.forward|)) ∧
  |motion.clockwise| < 9162978573 / 1000000000000

theorem exists_units_above {cap : ℤ} {x : ℝ} (h : cap - 1 ≤ x) :
    ∃ units : ℤ, cap ≤ units ∧ |(units : ℝ) - x| ≤ 1 := by
  have hfloor := Int.floor_le x
  have hnext := Int.lt_floor_add_one x
  rcases le_total cap ⌊x⌋ with hbelow | habove
  · refine ⟨⌊x⌋, hbelow, ?_⟩
    rw [abs_le]
    constructor <;> linarith
  · have habove' : (⌊x⌋ : ℝ) ≤ cap := by exact_mod_cast habove
    refine ⟨cap, le_rfl, ?_⟩
    rw [abs_le]
    constructor <;> linarith

theorem exists_units_below {cap : ℤ} {x : ℝ} (h : cap - 1 ≤ -x) :
    ∃ units : ℤ, units ≤ -cap ∧ |(units : ℝ) - x| ≤ 1 := by
  obtain ⟨units, hunits, hnear⟩ := exists_units_above h
  refine ⟨-units, by omega, ?_⟩
  rw [← abs_neg]
  push_cast
  convert hnear using 2
  ring

/-- A percentage is rescaled by 0.35 within one unit only near zero, or at a low ceiling. -/
theorem percent_reaches_iff {cap : ℤ} (hcap : 5 ≤ cap) (z : ℚ) :
    (∃ units : ℤ, |(units : ℝ) - 35 / 100 * z| ≤ 1 ∧
        Hub.clamp (roundHalfEven z) (-cap) cap = Hub.clamp units (-cap) cap) ∧
      |10 * Hub.clamp (roundHalfEven z) (-cap) cap| ≤ 350 ↔
    |z| < 3 / 2 ∨ (cap ≤ 35 ∧ (cap : ℚ) - 1 ≤ 35 / 100 * |z|) := by
  have hscale := @abs_roundHalfEven_sub_mul_le_one z (35 / 100) (by norm_num) (by norm_num)
  have hcapR : (5 : ℝ) ≤ cap := by exact_mod_cast hcap
  have hcapQ : (5 : ℚ) ≤ cap := by exact_mod_cast hcap
  constructor
  · rintro ⟨⟨units, hnear, hclamp⟩, hbound⟩
    rw [abs_le] at hbound
    by_cases hinside : -cap < roundHalfEven z ∧ roundHalfEven z < cap
    · -- nothing is cut, so the units are the rounded percentage
      left
      have hunits : units = roundHalfEven z := by
        unfold Hub.clamp at hclamp
        split_ifs at hclamp <;> omega
      rw [hunits] at hnear
      exact hscale.mp hnear
    · right
      have hcut : cap ≤ 35 ∧ (units ≤ -cap ∨ cap ≤ units) := by
        unfold Hub.clamp at hclamp hbound
        split_ifs at hclamp hbound <;> omega
      have hfar : (cap : ℝ) - 1 ≤ 35 / 100 * |(z : ℝ)| := by
        obtain ⟨hlow, hhigh⟩ := abs_le.mp hnear
        rcases hcut.2 with hunits | hunits
        · have hunitsR : (units : ℝ) ≤ -cap := by exact_mod_cast hunits
          have := neg_abs_le (z : ℝ)
          linarith
        · have hunitsR : (cap : ℝ) ≤ units := by exact_mod_cast hunits
          have := le_abs_self (z : ℝ)
          linarith
      refine ⟨hcut.1, ?_⟩
      have hfarQ : (((cap : ℚ) - 1 : ℚ) : ℝ) ≤ ((35 / 100 * |z| : ℚ) : ℝ) := by
        push_cast
        exact hfar
      exact_mod_cast hfarQ
  · rintro (hsmall | ⟨hlow, hfar⟩)
    · have hnear := hscale.mpr hsmall
      have hnearQ := abs_le.mp (abs_roundHalfEven_sub_le z)
      obtain ⟨hbelow, habove⟩ := abs_lt.mp hsmall
      have hone : -2 < roundHalfEven z ∧ roundHalfEven z < 2 := by
        have hrange : (-2 : ℚ) < roundHalfEven z ∧ (roundHalfEven z : ℚ) < 2 :=
          ⟨by linarith, by linarith⟩
        exact_mod_cast hrange
      have hself : Hub.clamp (roundHalfEven z) (-cap) cap = roundHalfEven z := by
        unfold Hub.clamp
        split_ifs <;> omega
      refine ⟨⟨_, hnear, rfl⟩, ?_⟩
      rw [hself, abs_le]
      omega
    · have hfarR : (cap : ℝ) - 1 ≤ 35 / 100 * |(z : ℝ)| := by
        have hcast : (((cap : ℚ) - 1 : ℚ) : ℝ) ≤ ((35 / 100 * |z| : ℚ) : ℝ) := by
          exact_mod_cast hfar
        push_cast at hcast
        exact hcast
      rcases le_total 0 z with hpositive | hnegative
      · have hpositiveR : (0 : ℝ) ≤ z := by exact_mod_cast hpositive
        rw [abs_of_nonneg hpositive] at hfar
        rw [abs_of_nonneg hpositiveR] at hfarR
        have hcut : cap ≤ roundHalfEven z := le_roundHalfEven (by linarith)
        obtain ⟨units, hunits, hnear⟩ := exists_units_above hfarR
        have hboth : Hub.clamp (roundHalfEven z) (-cap) cap = cap ∧
            Hub.clamp units (-cap) cap = cap := by
          unfold Hub.clamp
          split_ifs <;> omega
        refine ⟨⟨units, hnear, hboth.1.trans hboth.2.symm⟩, ?_⟩
        rw [hboth.1, abs_le]
        omega
      · have hnegativeR : (z : ℝ) ≤ 0 := by exact_mod_cast hnegative
        rw [abs_of_nonpos hnegative] at hfar
        rw [abs_of_nonpos hnegativeR, mul_neg] at hfarR
        have hcut : roundHalfEven z ≤ -cap := by
          apply roundHalfEven_le
          push_cast
          linarith
        obtain ⟨units, hunits, hnear⟩ := exists_units_below hfarR
        have hboth : Hub.clamp (roundHalfEven z) (-cap) cap = -cap ∧
            Hub.clamp units (-cap) cap = -cap := by
          unfold Hub.clamp
          split_ifs <;> omega
        refine ⟨⟨units, hnear, hboth.1.trans hboth.2.symm⟩, ?_⟩
        rw [hboth.1, abs_le]
        omega

/-- A turn in percent of the bound is read as degrees per second. -/
theorem turn_reaches_iff {clockwise : ℚ} (hbound : |clockwise| ≤ GroundMotion.maxClockwise) :
    Reaches 1 Hub.maxMotorPercent (clockwise * (180 / Real.pi))
        (roundHalfEven (clockwise / GroundMotion.maxClockwise * 100)) ↔
      |clockwise| < 9162978573 / 1000000000000 := by
  have hlower := Real.pi_gt_d2
  have hupper := Real.pi_lt_d2
  have hdegrees : 55 < 180 / Real.pi ∧ 180 / Real.pi < 60 := by
    constructor
    · rw [lt_div_iff₀ Real.pi_pos]
      linarith
    · rw [div_lt_iff₀ Real.pi_pos]
      linarith
  have hpos : (0 : ℝ) < 6108652382 / 1000000000000 * (180 / Real.pi) := by linarith [hdegrees.1]
  have hscale := @abs_roundHalfEven_sub_mul_le_one
    (clockwise / GroundMotion.maxClockwise * 100) _ hpos (by linarith [hdegrees.2])
  have hreading : 6108652382 / 1000000000000 * (180 / Real.pi) *
      ((clockwise / GroundMotion.maxClockwise * 100 : ℚ) : ℝ) = clockwise * (180 / Real.pi) := by
    unfold GroundMotion.maxClockwise
    push_cast
    ring
  have hsmall : |clockwise / GroundMotion.maxClockwise * 100| < 3 / 2 ↔
      |clockwise| < 9162978573 / 1000000000000 := by
    unfold GroundMotion.maxClockwise
    rw [abs_mul, abs_div, abs_of_pos (by norm_num : (0 : ℚ) < 100),
      abs_of_pos (by norm_num : (0 : ℚ) < 6108652382 / 10000000000)]
    constructor <;>
    · intro h
      linarith
  rw [hreading, hsmall] at hscale
  rw [← hscale]
  have hbelow : |clockwise * (180 / Real.pi)| ≤ 60 := by
    have hboundR : |(clockwise : ℝ)| ≤ 1 := by
      have hone : |clockwise| ≤ 1 := hbound.trans (by norm_num [GroundMotion.maxClockwise])
      exact_mod_cast hone
    rw [abs_mul, abs_of_pos (by linarith [hdegrees.1] : (0 : ℝ) < 180 / Real.pi)]
    nlinarith [abs_nonneg (clockwise : ℝ)]
  constructor
  · rintro ⟨units, hnear, hclamp⟩
    push_cast at hnear
    rw [one_mul] at hnear
    have hrange : -100 < units ∧ units < 100 := by
      obtain ⟨hlow, hhigh⟩ := abs_le.mp hnear
      obtain ⟨hleast, hmost⟩ := abs_le.mp hbelow
      have hrangeR : (-100 : ℝ) < units ∧ (units : ℝ) < 100 := ⟨by linarith, by linarith⟩
      exact_mod_cast hrangeR
    have hself : roundHalfEven (clockwise / GroundMotion.maxClockwise * 100) = units := by
      rw [hclamp]
      unfold Hub.clamp Hub.maxMotorPercent
      split_ifs <;> omega
    rw [hself]
    exact hnear
  · intro hnear
    refine ⟨roundHalfEven (clockwise / GroundMotion.maxClockwise * 100), ?_, ?_⟩
    · push_cast
      rw [one_mul]
      exact hnear
    · have hrange : -100 < roundHalfEven (clockwise / GroundMotion.maxClockwise * 100) ∧
          roundHalfEven (clockwise / GroundMotion.maxClockwise * 100) < 100 := by
        obtain ⟨hlow, hhigh⟩ := abs_le.mp hnear
        obtain ⟨hleast, hmost⟩ := abs_le.mp hbelow
        have hrangeR : (-100 : ℝ) < roundHalfEven (clockwise / GroundMotion.maxClockwise * 100) ∧
            (roundHalfEven (clockwise / GroundMotion.maxClockwise * 100) : ℝ) < 100 :=
          ⟨by linarith, by linarith⟩
        exact_mod_cast hrangeR
      unfold Hub.clamp Hub.maxMotorPercent
      split_ifs <;> omega

theorem rate_bounds {clockwise : ℚ} (hbound : |clockwise| ≤ GroundMotion.maxClockwise) :
    |roundHalfEven (clockwise / GroundMotion.maxClockwise * 100)| ≤ 100 := by
  have hpos : (0 : ℚ) < GroundMotion.maxClockwise := by norm_num [GroundMotion.maxClockwise]
  have hunit : |clockwise / GroundMotion.maxClockwise| ≤ 1 := by
    rwa [abs_div, abs_of_pos hpos, div_le_one hpos]
  obtain ⟨hlow, hhigh⟩ := abs_le.mp hunit
  rw [abs_le]
  constructor
  · apply le_roundHalfEven
    push_cast
    linarith
  · apply roundHalfEven_le
    push_cast
    linarith

theorem motorPercent_eq (limits : HubSafetyLimits) {forward : ℚ}
    (hbound : |forward| ≤ GroundMotion.maxForward) :
    limits.motorPercent (forward / GroundMotion.maxForward) =
      Hub.clamp (roundHalfEven (forward / GroundMotion.maxForward * 100))
        (-limits.maxMotorPercent) limits.maxMotorPercent := by
  have hcap := limits.percent_bounds
  have hpos : (0 : ℚ) < GroundMotion.maxForward := by norm_num [GroundMotion.maxForward]
  have hunit : |forward / GroundMotion.maxForward| ≤ 1 := by
    rwa [abs_div, abs_of_pos hpos, div_le_one hpos]
  obtain ⟨hlow, hhigh⟩ := abs_le.mp hunit
  unfold HubSafetyLimits.motorPercent Hub.clamp
  rw [min_eq_right hhigh, max_eq_right hlow]
  dsimp only
  split_ifs <;> omega

theorem Hub.driveRequest_eq {percent turn : ℤ} (hpercent : |percent| ≤ 100) (hturn : |turn| ≤ 100)
    (milliseconds : ℤ) : Hub.driveRequest percent turn milliseconds =
      .drive (10 * percent) turn (Hub.clamp milliseconds 1 Hub.maxCommandMilliseconds) := by
  have hself (n : ℤ) (hn : |n| ≤ 100) :
      Hub.clamp n (-Hub.maxMotorPercent) Hub.maxMotorPercent = n := by
    rw [abs_le] at hn
    unfold Hub.clamp Hub.maxMotorPercent
    split_ifs <;> omega
  have hscale : percent * Hub.maxMotorDegreesPerSecond = 10 * percent * 100 := by
    unfold Hub.maxMotorDegreesPerSecond
    ring
  have hspeed : Hub.percentToSpeed percent = 10 * percent := by
    rw [Hub.percentToSpeed, hself percent hpercent, hscale]
    exact Int.mul_tdiv_cancel _ (by decide)
  rw [Hub.driveRequest, hself percent hpercent, hself turn hturn, hspeed]

/-- The two numbers that an accepted motion becomes keep its units only when its scale fits. -/
theorem keepsUnits_iff (limits : HubSafetyLimits) {motion : GroundMotion}
    (hforward : |motion.forward| ≤ GroundMotion.maxForward)
    (hclockwise : |motion.clockwise| ≤ GroundMotion.maxClockwise) :
    motion.KeepsUnits limits (10 * limits.motorPercent (motion.forward / GroundMotion.maxForward))
        (roundHalfEven (motion.clockwise / GroundMotion.maxClockwise * 100)) ↔
      motion.FitsScale limits := by
  have hpercent := @percent_reaches_iff limits.maxMotorPercent limits.percent_bounds.1
    (motion.forward / GroundMotion.maxForward * 100)
  have hreading : 35 / 100 * ((motion.forward / GroundMotion.maxForward * 100 : ℚ) : ℝ) =
      100 * motion.forward := by
    unfold GroundMotion.maxForward
    push_cast
    ring
  have hmagnitude : |motion.forward / GroundMotion.maxForward * 100| =
      |motion.forward| / (35 / 100) * 100 := by
    unfold GroundMotion.maxForward
    rw [abs_mul, abs_div, abs_of_pos (by norm_num : (0 : ℚ) < 100),
      abs_of_pos (by norm_num : (0 : ℚ) < 35 / 100)]
  rw [hreading, hmagnitude] at hpercent
  rw [motorPercent_eq limits hforward]
  constructor
  · rintro ⟨⟨units, hnear, hunits⟩, haround, hbound⟩
    have hkeeps := hpercent.mp ⟨⟨units, ?_, mul_left_cancel₀ (by decide) hunits⟩, hbound⟩
    · refine ⟨?_, (turn_reaches_iff hclockwise).mp haround⟩
      rcases hkeeps with hsmall | ⟨hlow, hfar⟩
      · left
        linarith
      · right
        refine ⟨hlow, ?_⟩
        linarith
    · rw [abs_le] at hnear ⊢
      push_cast at hnear
      constructor <;> linarith
  · rintro ⟨hscale, hturn⟩
    have hkeeps := hpercent.mpr ?_
    · obtain ⟨⟨units, hnear, hunits⟩, hbound⟩ := hkeeps
      refine ⟨⟨units, ?_, by rw [hunits]⟩, (turn_reaches_iff hclockwise).mpr hturn, hbound⟩
      rw [abs_le] at hnear ⊢
      push_cast
      constructor <;> linarith
    · rcases hscale with hsmall | ⟨hlow, hfar⟩
      · left
        linarith
      · right
        refine ⟨hlow, ?_⟩
        linarith

theorem endsInBlank_iff {frame : Frame} {front : List String} {last : String}
    (h : frame.arguments = front ++ [last]) :
    frame.EndsInBlank ↔ last.toList.getLast? = some ' ' := by
  rw [Frame.EndsInBlank, h, List.getLast?_concat, Option.bind_some]

theorem not_endsInBlank_number {frame : Frame} {front : List String} {n : ℤ}
    (h : frame.arguments = front ++ [toString n]) : ¬ frame.EndsInBlank := by
  rw [endsInBlank_iff h]
  intro hblank
  rcases PyString.mem_toString_int (List.mem_of_getLast? hblank) with heq | ⟨d, hd, heq⟩
  · exact absurd heq (by decide)
  · have hvalue := congrArg Char.toNat heq
    rw [Nat.toNat_digitChar_of_lt_ten hd] at hvalue
    have hblankValue : ' '.toNat = 32 := rfl
    omega

theorem step_requests {rules : TextRules} {machine : Hub.HubMachine} {watchdogMilliseconds : ℤ}
    {agent agent' : HubAgent} {frame : Frame} {now : ℤ} {readings : Hub.HubReadings}
    {out requests : List Hub.MachineCall} (hends : ¬ frame.EndsInBlank)
    (hdispatch : ∀ calls, Hub.Requests calls (Hub.dispatch rules machine readings frame.sequence
      frame.operation.value frame.arguments) requests)
    (hstep : (hubAgent rules machine watchdogMilliseconds).Step agent
      (.line frame.encodeLine now readings) agent' out) : out = requests := by
  obtain ⟨rfl, rfl⟩ := hstep
  have hdecode := (decodeFrame_encodeLine rules frame).mpr hends
  have hhandled : Hub.Requests agent.calls
      (Hub.handleLine rules machine readings frame.encodeLine now) requests :=
    Hub.handleLine_requests hdecode hdispatch
  have hcalls := hhandled.final (s := agent) rfl
  simp only [Hub.after, hcalls, List.drop_left]

/-- An accepted motion becomes a frame, and what the hub requests of its drive base for that
frame keeps the units of the motion only when its scale happens to fit. -/
theorem drive_units (limits : HubSafetyLimits) (rules : TextRules) (machine : Hub.HubMachine)
    (watchdogMilliseconds sequence : ℤ) {motion : GroundMotion} {intent : DriveIntent}
    (haccepted : motion.translate = .ok intent) :
    ∃ frame, limits.driveFrame sequence intent = .ok frame ∧
      ∀ agent now readings agent' out, (hubAgent rules machine watchdogMilliseconds).Step agent
        (.line frame.encodeLine now readings) agent' out →
      ((∀ speed turn milliseconds, Hub.MachineCall.drive speed turn milliseconds ∈ out →
          motion.KeepsUnits limits speed turn) ↔
        (machine.hasDriveBase = true → motion.FitsScale limits)) := by
  cases intent with
  | stop =>
    obtain ⟨hforward, hclockwise⟩ := GroundMotion.translate_stop haccepted
    obtain ⟨frame, hcreate, hoperation, harguments⟩ :=
      Frame.create_of_isWire (isWireFrame_stop sequence)
    refine ⟨frame, hcreate, ?_⟩
    intro agent now readings agent' out hstep
    have hends : ¬ frame.EndsInBlank := by
      have hlast : frame.arguments = [] ++ ["ALL"] := harguments
      rw [endsInBlank_iff hlast]
      decide
    obtain rfl : out = [Hub.MachineCall.stopAll] := by
      apply step_requests hends _ hstep
      intro calls
      rw [hoperation, harguments]
      exact Hub.dispatch_stop_requests _
    constructor
    · intro _ _
      refine ⟨.inl ?_, ?_⟩
      · rw [hforward]
        norm_num
      · rw [hclockwise]
        norm_num
    · intro _ speed turn milliseconds hmem
      cases List.mem_singleton.mp hmem
  | run arguments =>
    obtain ⟨rfl, hforward, hclockwise⟩ := GroundMotion.translate_run haccepted
    have hkeeps := keepsUnits_iff limits hforward hclockwise
    have hkeeps := keepsUnits_iff limits hforward hclockwise
    have hrate := rate_bounds hclockwise
    obtain ⟨frame, hcreate, hoperation, harguments⟩ := limits.driveFrame_run sequence
      ⟨motion.forward / GroundMotion.maxForward,
        roundHalfEven (motion.clockwise / GroundMotion.maxClockwise * 100), 2 / 10⟩
    rw [HubSafetyLimits.integer_eq hrate] at harguments
    have hpercent := limits.motorPercent_bounds (motion.forward / GroundMotion.maxForward)
    have hrequest := Hub.driveRequest_eq (hpercent.trans limits.percent_bounds.2) hrate
      (limits.durationMs (2 / 10))
    refine ⟨frame, hcreate, ?_⟩
    intro agent now readings agent' out hstep
    have hends : ¬ frame.EndsInBlank := by
      have hlast : frame.arguments = [_, _] ++ [toString (limits.durationMs (2 / 10))] := harguments
      exact not_endsInBlank_number hlast
    have hout := step_requests hends (fun calls => by
      rw [hoperation, harguments]
      exact Hub.dispatch_drive_requests _ _ _ _) hstep
    rw [hrequest] at hout
    subst hout
    by_cases hbase : machine.hasDriveBase = true
    · rw [if_pos hbase, ← hkeeps]
      constructor
      · intro h _
        exact h _ _ _ (List.mem_singleton_self _)
      · intro h speed turn milliseconds hmem
        cases List.mem_singleton.mp hmem
        exact h hbase
    · rw [if_neg hbase]
      constructor
      · intro _ hpresent
        exact absurd hpresent hbase
      · intro _ speed turn milliseconds hmem
        cases hmem

/-- A nudge ahead on a hub whose ceiling is 12 percent, which is what it commands. -/
theorem drive_units_slow : ∃ frame,
    HubSafetyLimits.driveFrame { maxMotorPercent := 12 } 0
      (.run ⟨12 / 100 / (35 / 100), 0, 2 / 10⟩) = .ok frame ∧
    ∀ agent now readings agent' out, (hubAgent .micropython Hub.robot 500).Step agent
      (.line frame.encodeLine now readings) agent' out →
    ((∀ speed turn milliseconds, Hub.MachineCall.drive speed turn milliseconds ∈ out →
        (GroundMotion.nudge "forward").KeepsUnits { maxMotorPercent := 12 } speed turn) ↔
      (Hub.robot.hasDriveBase = true →
        (GroundMotion.nudge "forward").FitsScale { maxMotorPercent := 12 })) :=
  drive_units { maxMotorPercent := 12 } .micropython Hub.robot 500 0 rfl

/-- The greatest speed that the bridge accepts, 0.35 m/s, is driven at 750 mm/s with the default
limits of the adapter. -/
theorem drive_outruns_bound :
    (GroundMotion.velocity (35 / 100) 0 0).translate = .ok (.run ⟨1, 0, 2 / 10⟩) ∧
    ∃ frame, HubSafetyLimits.driveFrame {} 0 (.run ⟨1, 0, 2 / 10⟩) = .ok frame ∧
    ∃ agent', (hubAgent .micropython Hub.robot 500).Step (HubAgent.initial 500)
        (.line frame.encodeLine 0 Hub.idle) agent' [.drive 750 0 200] ∧
      ¬ (GroundMotion.velocity (35 / 100) 0 0).KeepsUnits {} 750 0 := by
  obtain ⟨frame, hcreate, hoperation, harguments⟩ := HubSafetyLimits.driveFrame_run {} 0
    ⟨1, 0, 2 / 10⟩
  have hnumbers : HubSafetyLimits.motorPercent {} 1 = 75 ∧
      HubSafetyLimits.integer 0 (-100) 100 = 0 ∧ HubSafetyLimits.durationMs {} (2 / 10) = 200 := by
    decide +kernel
  rw [hnumbers.1, hnumbers.2.1, hnumbers.2.2] at harguments
  have hends : ¬ frame.EndsInBlank := by
    have hlast : frame.arguments = [toString (75 : ℤ), toString (0 : ℤ)] ++ [toString (200 : ℤ)] :=
      harguments
    exact not_endsInBlank_number hlast
  have hrequest : (if Hub.robot.hasDriveBase then [Hub.driveRequest 75 0 200] else []) =
      [Hub.MachineCall.drive 750 0 200] := by decide
  have hdispatch : ∀ calls, Hub.Requests calls (Hub.dispatch .micropython Hub.robot Hub.idle
      frame.sequence frame.operation.value frame.arguments) [.drive 750 0 200] := by
    intro calls
    rw [hoperation, harguments, ← hrequest]
    exact Hub.dispatch_drive_requests frame.sequence 75 0 200
  refine ⟨?_, frame, hcreate, _, ⟨rfl, ?_⟩, ?_⟩
  · simp only [GroundMotion.translate, GroundMotion.velocityIntent, seq_eq_ok, raiseIf_eq_ok]
    refine ⟨by norm_num, by norm_num [GroundMotion.maxForward, GroundMotion.maxClockwise], ?_⟩
    have hnormal : (35 / 100 : ℚ) / (35 / 100) = 1 ∧
        roundHalfEven (0 / GroundMotion.maxClockwise * 100) = 0 := by decide +kernel
    rw [hnormal.1, hnormal.2]
    rfl
  · exact (@step_requests .micropython Hub.robot 500 (HubAgent.initial 500) _ frame 0 Hub.idle _ _
      hends hdispatch ⟨rfl, rfl⟩).symm
  · intro hkeeps
    exact absurd hkeeps.bounded (by decide)

end CitPhysicalXR.Lego
