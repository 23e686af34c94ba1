import Mathlib
import CitPhysicalXR.Foundation.Clamping
import CitPhysicalXR.Foundation.JsonEquality
import CitPhysicalXR.Runtime.Supervisor

/-! Which arguments of a movement are bounded by the clamps, whatever JSON they are. -/
namespace CitPhysicalXR.Runtime
open Foundation

namespace SafetySupervisor

/-- What a clamp makes of one argument. -/
def clampValue (ceiling : PyFloat) (value : JsonValue) : JsonValue :=
  match numeric? value with
  | none => value
  | some x => if ceiling.lt x.abs then .float (PyFloat.clampTo ceiling x) else value

theorem numeric?_clampValue (ceiling : PyFloat) (value : JsonValue) :
    numeric? (clampValue ceiling value) = (numeric? value).map (PyFloat.clampTo ceiling) := by
  unfold clampValue
  cases hnumber : numeric? value with
  | none => exact hnumber
  | some x =>
    dsimp only
    split
    · rfl
    · rename_i hover
      rw [hnumber, Option.map_some, PyFloat.clampTo, if_neg hover]

theorem clamp_get? (bounded : Bounded) (name other : String) (ceiling : PyFloat) :
    (clamp bounded name ceiling).arguments.get? other =
      if other = name then (bounded.arguments.get? other).map (clampValue ceiling)
      else bounded.arguments.get? other := by
  unfold clamp
  by_cases hother : other = name
  · subst hother
    rw [if_pos rfl]
    cases hvalue : bounded.arguments.get? other with
    | none => exact hvalue
    | some value =>
      rw [Option.bind_some, Option.map_some, clampValue]
      cases hnumber : numeric? value with
      | none => exact hvalue
      | some x =>
        dsimp only
        by_cases hover : ceiling.lt x.abs = true
        · rw [if_pos hover, if_pos hover, PyFloat.clampTo, if_pos hover]
          exact (JsonObject.get?_set ..).trans (if_pos rfl)
        · rw [if_neg hover, if_neg hover]
          exact hvalue
  · rw [if_neg hother]
    split
    · rfl
    · split
      · exact (JsonObject.get?_set ..).trans (if_neg hother)
      · rfl

/-- The arguments after the three clamps, before a missing duration is filled in. -/
def clamped (command : DeviceCommandIntent) (bounds : MotionBounds) : Bounded :=
  let sped := clamp ⟨command.arguments, []⟩ "speed" bounds.maxSpeed
  let accelerated := match bounds.maxAcceleration with
    | none => sped
    | some ceiling => clamp sped "acceleration" ceiling
  clamp accelerated "durationSeconds" bounds.maxDurationSeconds

theorem clamped_speed (command : DeviceCommandIntent) (bounds : MotionBounds) :
    (clamped command bounds).arguments.get? "speed" =
      (command.arguments.get? "speed").map (clampValue bounds.maxSpeed) := by
  unfold clamped
  rw [clamp_get?, if_neg (by decide)]
  cases bounds.maxAcceleration with
  | none => exact (clamp_get? ..).trans (if_pos rfl)
  | some ceiling =>
    dsimp only
    rw [clamp_get?, if_neg (by decide)]
    exact (clamp_get? ..).trans (if_pos rfl)

theorem clamped_duration (command : DeviceCommandIntent) (bounds : MotionBounds) :
    (clamped command bounds).arguments.get? "durationSeconds" =
      (command.arguments.get? "durationSeconds").map
        (clampValue bounds.maxDurationSeconds) := by
  unfold clamped
  rw [clamp_get?, if_pos rfl]
  congr 1
  cases bounds.maxAcceleration with
  | none => exact (clamp_get? ..).trans (if_neg (by decide))
  | some ceiling =>
    dsimp only
    rw [clamp_get?, if_neg (by decide)]
    exact (clamp_get? ..).trans (if_neg (by decide))

theorem boundArguments_get? {command : DeviceCommandIntent} (policy : SafetyPolicy)
    (hmove : isMovement command.capability = true) (name : String) :
    (boundArguments command policy).arguments.get? name =
      if name = "durationSeconds" ∧ command.arguments.get? name = none then
        some (.float policy.bounds.maxDurationSeconds)
      else (clamped command policy.bounds).arguments.get? name := by
  have hkey : "durationSeconds" ∈ (clamped command policy.bounds).arguments.keys ↔
      (command.arguments.get? "durationSeconds").isSome = true := by
    rw [← JsonObject.get?_isSome, clamped_duration, Option.isSome_map]
  unfold boundArguments
  rw [if_pos hmove]
  show (if "durationSeconds" ∈ (clamped command policy.bounds).arguments.keys then _ else _ :
    Bounded).arguments.get? name = _
  split
  · rename_i hmem
    rw [if_neg]
    · rfl
    · rintro ⟨rfl, hnone⟩
      have hsome := hkey.mp hmem
      rw [hnone] at hsome
      cases hsome
  · rename_i hmem
    rw [hkey, Bool.not_eq_true, Option.isSome_eq_false_iff, Option.isNone_iff_eq_none] at hmem
    refine (JsonObject.get?_set ..).trans ?_
    by_cases hname : name = "durationSeconds"
    · rw [if_pos hname, hname, if_pos ⟨rfl, hmem⟩]
    · rw [if_neg hname, if_neg fun h => hname h.1]
      rfl

/-- What the adapter is promised: the duration is a number from zero to the maximum, and a speed
is a number up to the maximum. -/
structure IsBounded (policy : SafetyPolicy) (arguments : JsonObject) : Prop where
  duration : ∃ value x, arguments.get? "durationSeconds" = some value ∧
    numeric? value = some x ∧ x.isFinite = true ∧ (PyFloat.finite 0).le x = true ∧
    x.le policy.bounds.maxDurationSeconds = true
  speed : ∀ value, arguments.get? "speed" = some value → ∃ x, numeric? value = some x ∧
    x.isFinite = true ∧ x.abs.le policy.bounds.maxSpeed = true

/-- The raw arguments that can be bounded: what is there is a number that fits, and the duration
is not negative. -/
structure IsBoundable (policy : SafetyPolicy) (arguments : JsonObject) : Prop where
  default : arguments.get? "durationSeconds" = none →
    policy.bounds.maxDurationSeconds.isFinite = true
  duration : ∀ value, arguments.get? "durationSeconds" = some value → ∃ x,
    numeric? value = some x ∧ (PyFloat.finite 0).le x = true ∧
    policy.bounds.maxDurationSeconds.Fits x
  speed : ∀ value, arguments.get? "speed" = some value → ∃ x, numeric? value = some x ∧
    policy.bounds.maxSpeed.Fits x

theorem permission_policy {s : SafetySupervisor} {command : DeviceCommandIntent}
    {sessionDeviceIds : List String} {physical : Bool} {policy : SafetyPolicy}
    (h : s.permission command sessionDeviceIds physical = .ok policy) :
    s.policies.get? command.safetyContext.policyId = some policy := by
  obtain ⟨_, h⟩ := seq_eq_ok.mp h
  obtain ⟨_, h⟩ := seq_eq_ok.mp h
  simp only at h
  split at h
  · rename_i found hget
    obtain ⟨_, hfound, h⟩ := bind_eq_ok.mp h
    obtain rfl := Except.ok.inj hfound
    obtain ⟨_, h⟩ := seq_eq_ok.mp h
    obtain ⟨_, h⟩ := seq_eq_ok.mp h
    rw [hget]
    split at h
    · split at h
      · rw [Except.ok.inj h]
      · cases h
    · rw [Except.ok.inj h]
  · obtain ⟨_, hunknown, _⟩ := bind_eq_ok.mp h
    cases hunknown

theorem evaluate_bounds {s : SafetySupervisor} {command : DeviceCommandIntent}
    {sessionDeviceIds : List String} {physical : Bool} {reading : Reading} {bounded : Bounded}
    {policy : SafetyPolicy}
    (h : (s.evaluate command sessionDeviceIds physical reading).1 = .ok bounded)
    (hstop : command.action ∉ stopActions)
    (hpolicy : s.policies.get? command.safetyContext.policyId = some policy) :
    bounded = boundArguments command policy := by
  unfold evaluate at h
  rw [if_neg hstop] at h
  split at h
  · cases h
  · rename_i found hpermitted
    have hsame := (permission_policy hpermitted).symm.trans hpolicy
    obtain rfl := Option.some.inj hsame
    split at h
    · simp only at h
      split at h
      · cases h
      · exact (Except.ok.inj h).symm
    · exact (Except.ok.inj h).symm

theorem speed_bounded {ceiling : PyFloat} (hceiling : ceiling.le (.finite 0) = false)
    (value : JsonValue) :
    (∃ x, numeric? (clampValue ceiling value) = some x ∧ x.isFinite = true ∧
      x.abs.le ceiling = true) ↔ ∃ x, numeric? value = some x ∧ ceiling.Fits x := by
  rw [numeric?_clampValue]
  constructor
  · rintro ⟨x, hx, hfinite, hle⟩
    obtain ⟨raw, hraw, rfl⟩ := Option.map_eq_some_iff.mp hx
    exact ⟨raw, hraw, (PyFloat.clampTo_bounded hceiling raw).mp ⟨hfinite, hle⟩⟩
  · rintro ⟨raw, hraw, hfits⟩
    obtain ⟨hfinite, hle⟩ := (PyFloat.clampTo_bounded hceiling raw).mpr hfits
    exact ⟨PyFloat.clampTo ceiling raw, by rw [hraw, Option.map_some], hfinite, hle⟩

theorem duration_bounded {ceiling : PyFloat} (hceiling : ceiling.le (.finite 0) = false)
    (value : JsonValue) :
    (∃ x, numeric? (clampValue ceiling value) = some x ∧ x.isFinite = true ∧
      (PyFloat.finite 0).le x = true ∧ x.le ceiling = true) ↔
    ∃ x, numeric? value = some x ∧ (PyFloat.finite 0).le x = true ∧ ceiling.Fits x := by
  rw [numeric?_clampValue]
  constructor
  · rintro ⟨x, hx, hfinite, hnonneg, hle⟩
    obtain ⟨raw, hraw, rfl⟩ := Option.map_eq_some_iff.mp hx
    rw [← PyFloat.abs_eq_self hnonneg] at hle
    have hfits := (PyFloat.clampTo_bounded hceiling raw).mp ⟨hfinite, hle⟩
    rw [PyFloat.clampTo_nonneg hceiling hfits] at hnonneg
    exact ⟨raw, hraw, hnonneg, hfits⟩
  · rintro ⟨raw, hraw, hnonneg, hfits⟩
    obtain ⟨hfinite, hle⟩ := (PyFloat.clampTo_bounded hceiling raw).mpr hfits
    rw [← PyFloat.clampTo_nonneg hceiling hfits] at hnonneg
    rw [PyFloat.abs_eq_self hnonneg] at hle
    exact ⟨PyFloat.clampTo ceiling raw, by rw [hraw, Option.map_some], hfinite, hnonneg, hle⟩

end SafetySupervisor

/-- A movement that is allowed is bounded exactly when its raw arguments can be. -/
theorem movement_bounded_iff {s : SafetySupervisor} {command : DeviceCommandIntent}
    {sessionDeviceIds : List String} {physical : Bool} {reading : Reading} {bounded : Bounded}
    {policy : SafetyPolicy}
    (hallowed : (s.evaluate command sessionDeviceIds physical reading).1 = .ok bounded)
    (hmove : isMovement command.capability = true) (hstop : command.action ∉ stopActions)
    (hpolicy : s.policies.get? command.safetyContext.policyId = some policy) :
    SafetySupervisor.IsBounded policy bounded.arguments ↔
      SafetySupervisor.IsBoundable policy command.arguments := by
  obtain rfl := SafetySupervisor.evaluate_bounds hallowed hstop hpolicy
  have hspeed := SafetySupervisor.boundArguments_get? policy hmove "speed"
  rw [if_neg (fun h => absurd h.1 (by decide)), SafetySupervisor.clamped_speed] at hspeed
  have hduration := SafetySupervisor.boundArguments_get? policy hmove "durationSeconds"
  rw [SafetySupervisor.clamped_duration] at hduration
  have hmaximum := policy.bounds.duration_positive
  constructor
  · intro h
    refine ⟨fun hnone => ?_, fun value hvalue => ?_, fun value hvalue => ?_⟩
    · rw [if_pos ⟨rfl, hnone⟩] at hduration
      obtain ⟨bounded, x, hbounded, hx, hfinite, _⟩ := h.duration
      obtain rfl := Option.some.inj (hduration.symm.trans hbounded)
      obtain rfl := Option.some.inj hx
      exact hfinite
    · rw [if_neg (by rw [hvalue]; exact fun hnone => nomatch hnone.2), hvalue] at hduration
      obtain ⟨bounded, x, hbounded, hx⟩ := h.duration
      obtain rfl := Option.some.inj (hduration.symm.trans hbounded)
      exact (SafetySupervisor.duration_bounded hmaximum value).mp ⟨x, hx⟩
    · rw [hvalue] at hspeed
      exact (SafetySupervisor.speed_bounded policy.bounds.speed_positive value).mp
        (h.speed _ hspeed)
  · intro h
    refine ⟨?_, fun bounded hbounded => ?_⟩
    · cases hvalue : command.arguments.get? "durationSeconds" with
      | none =>
        rw [if_pos ⟨rfl, hvalue⟩] at hduration
        have hfinite := h.default hvalue
        refine ⟨_, _, hduration, rfl, hfinite, ?_⟩
        rcases PyFloat.ceiling_cases hmaximum with ⟨c, hc, hmaximum⟩ | hmaximum | hmaximum
        · rw [hmaximum, PyFloat.le_finite, PyFloat.le_finite]
          exact ⟨decide_eq_true hc.le, decide_eq_true le_rfl⟩
        · rw [hmaximum] at hfinite
          cases hfinite
        · rw [hmaximum] at hfinite
          cases hfinite
      | some value =>
        rw [if_neg (by rw [hvalue]; exact fun hnone => nomatch hnone.2), hvalue] at hduration
        obtain ⟨x, hx⟩ := (SafetySupervisor.duration_bounded hmaximum value).mpr
          (h.duration value hvalue)
        exact ⟨_, x, hduration, hx⟩
    · rw [hspeed] at hbounded
      obtain ⟨value, hvalue, rfl⟩ := Option.map_eq_some_iff.mp hbounded
      exact (SafetySupervisor.speed_bounded policy.bounds.speed_positive value).mpr
        (h.speed value hvalue)

def driveCommand (arguments : JsonObject) : DeviceCommandIntent where
  commandId := "command"
  sessionId := "lesson-1"
  deviceId := "robot"
  capability := "drive.velocity"
  action := "set"
  arguments := arguments
  source := .studentBlocks
  issuedAt := 0
  expiresAt := 10
  idempotencyKey := "key"
  safetyContext := ⟨"simulation-only", false, none, none⟩

/-- What the supervisor of a simulation lets a drive command go on with. -/
def driveArguments (arguments : JsonObject) : Option JsonObject :=
  (SafetySupervisor.new.evaluate (driveCommand arguments) ["robot"] false ⟨1, 1, 1⟩).1.toOption.map
    (·.arguments)

/-- A drive that is too fast and has no duration gets both bounds. -/
theorem movement_bounded_drive : ∃ arguments, driveArguments ⟨[("speed", .int (-3))], by simp⟩ =
    some arguments ∧ SafetySupervisor.IsBounded { policyId := "simulation-only" } arguments := by
  obtain ⟨bounded, hallowed⟩ : ∃ bounded, (SafetySupervisor.new.evaluate
      (driveCommand ⟨[("speed", .int (-3))], by simp⟩) ["robot"] false ⟨1, 1, 1⟩).1 =
        .ok bounded := ⟨_, rfl⟩
  have hpolicy : SafetySupervisor.new.policies.get? "simulation-only" =
      some { policyId := "simulation-only" } :=
    Table.get?_upsert_self (t := Table.empty) ({ policyId := "simulation-only" } : SafetyPolicy)
  refine ⟨bounded.arguments, by rw [driveArguments, hallowed]; rfl, ?_⟩
  refine (movement_bounded_iff hallowed (by decide) (by decide) hpolicy).mpr ⟨fun _ => rfl, ?_, ?_⟩
  · intro value hvalue
    cases hvalue
  · intro value hvalue
    obtain rfl := Option.some.inj hvalue
    exact ⟨_, rfl, by decide⟩

/-- A duration that is a text is handed to the adapter as it is. -/
theorem text_duration_unbounded : ∃ bounded, (SafetySupervisor.new.evaluate
      (driveCommand ⟨[("durationSeconds", .str "3600")], by simp⟩) ["robot"] false
        ⟨1, 1, 1⟩).1 = .ok bounded ∧
    bounded.arguments.get? "durationSeconds" = some (.str "3600") ∧
    ¬SafetySupervisor.IsBounded { policyId := "simulation-only" } bounded.arguments := by
  refine ⟨_, rfl, rfl, fun h => ?_⟩
  obtain ⟨value, x, hvalue, hx, _⟩ := h.duration
  obtain rfl := Option.some.inj hvalue
  cases hx

end CitPhysicalXR.Runtime
