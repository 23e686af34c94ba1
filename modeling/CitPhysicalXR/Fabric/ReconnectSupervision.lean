import CitPhysicalXR.Foundation.Effect
import CitPhysicalXR.Foundation.KeyedTable
import CitPhysicalXR.Foundation.PyConversions
import CitPhysicalXR.Foundation.PyDatetime

/-! The unattended reconnection of remembered adapters: passes of the supervisor over the
connections that are due, their back-off, and the transitions that are reported. -/
namespace CitPhysicalXR.Fabric
open Foundation

/-- The delay in seconds. `float(…)` refuses the powers of two from the 1024th on; the float
product is exact or infinite, and the minimum is taken of it. -/
def autoReconnectDelaySeconds (consecutiveFailures : ℤ) : Except PyException ℕ :=
  if consecutiveFailures ≤ 0 then .ok 20
  else if 1024 ≤ consecutiveFailures then
    .error (.overflowError "int too large to convert to float")
  else .ok (min (20 * 2 ^ consecutiveFailures.toNat) 300)

variable {n : ℤ} {actionId : String}

theorem delay_isDefined_iff : (∃ d, autoReconnectDelaySeconds n = .ok d) ↔ n ≤ 1023 := by
  unfold autoReconnectDelaySeconds
  split_ifs with hnone hmany
  · simp
    omega
  · simp
    omega
  · simp
    omega

theorem delay_bounds {d : ℕ} (h : autoReconnectDelaySeconds n = .ok d) :
    20 ≤ d ∧ d ≤ 300 := by
  unfold autoReconnectDelaySeconds at h
  split_ifs at h with hnone
  · cases h
    decide
  · cases h
    have hpow := Nat.one_le_two_pow (n := n.toNat)
    omega

theorem delay_mono {m : ℤ} {d e : ℕ} (hle : n ≤ m) (hd : autoReconnectDelaySeconds n = .ok d)
    (he : autoReconnectDelaySeconds m = .ok e) : d ≤ e := by
  by_cases hnone : n ≤ 0
  · rw [autoReconnectDelaySeconds, if_pos hnone] at hd
    cases hd
    exact (delay_bounds he).1
  · have hn := delay_isDefined_iff.mp ⟨d, hd⟩
    have hm := delay_isDefined_iff.mp ⟨e, he⟩
    rw [autoReconnectDelaySeconds, if_neg hnone, if_neg (by omega)] at hd
    rw [autoReconnectDelaySeconds, if_neg (by omega), if_neg (by omega)] at he
    cases hd
    cases he
    have hpow : 2 ^ n.toNat ≤ 2 ^ m.toNat := Nat.pow_le_pow_right (by decide) (by omega)
    omega

inductive RememberedStatus where
  | connected
  | alreadyConnected
  | skipped
  | failed
  deriving DecidableEq

def RememberedStatus.isUp (status : RememberedStatus) : Bool :=
  decide (status = .connected) || decide (status = .alreadyConnected)

/-- How `runner.perform` ends: `refused` by a `FabricDiscoveryError`, `raised` by any other. -/
inductive Performed where
  | returned
  | refused
  | raised
  deriving DecidableEq

/-- A remembered connection with what a reconnection finds. -/
structure RememberedConnection where
  actionId : String
  autoReconnect : Bool
  needsReconnect : Bool
  requiresGroundedConfirmation : Bool
  performed : Performed

/-- A connection in the loop of `reconnect_remembered`, without a confirmation; an error is the
exception that leaves the loop. -/
def RememberedConnection.reconnect (connection : RememberedConnection) :
    Except Unit RememberedStatus :=
  if !connection.needsReconnect then .ok .alreadyConnected
  else if connection.requiresGroundedConfirmation then .ok .skipped
  else match connection.performed with
    | .returned => .ok .connected
    | .refused => .ok .failed
    | .raised => .error ()

/-- The connections of one host, which are stored under their actions. -/
structure SupervisorPass where
  now : Instant
  connections : Table RememberedConnection.actionId

/-- An attempt, and whether its transition was reported. -/
structure ReconnectAttempt where
  actionId : String
  at_ : Instant
  status : RememberedStatus
  reported : Bool
  deriving DecidableEq

/-- `_auto_reconnect_state`: the failures of the streak, and when to try again. -/
abbrev ReconnectState := String → Option (ℕ × Instant)

structure Supervised where
  state : ReconnectState
  attempts : List ReconnectAttempt
  raised : Bool

def isDue (state : ReconnectState) (now : Instant) (connection : RememberedConnection) : Bool :=
  connection.autoReconnect && match state connection.actionId with
    | none => true
    | some (_, retryAt) => !decide (now < retryAt)

def streakLength (state : ReconnectState) (actionId : String) : ℕ :=
  ((state actionId).map Prod.fst).getD 0

/-- The loop over the outcomes: each pops the state of its action, and a failure puts it back. -/
def settleOutcomes (now : Instant) :
    ReconnectState → List (String × RememberedStatus) → Supervised
  | state, [] => ⟨state, [], false⟩
  | state, (actionId, status) :: outcomes =>
    let popped := Function.update state actionId none
    if status.isUp then
      let rest := settleOutcomes now popped outcomes
      { rest with
        attempts := ⟨actionId, now, status, (state actionId).isSome⟩ :: rest.attempts }
    else
      let failures := streakLength state actionId + 1
      match autoReconnectDelaySeconds failures with
      | .error _ => ⟨popped, [], true⟩
      | .ok delay =>
        let retryAt := now + seconds delay
        let rest := settleOutcomes now
          (Function.update popped actionId (some (failures, retryAt))) outcomes
        { rest with
          attempts := ⟨actionId, now, status, decide (failures = 1)⟩ :: rest.attempts }

/-- `supervise_remembered_reconnects`. -/
def supervise (state : ReconnectState) (pass : SupervisorPass) : Supervised :=
  let due := pass.connections.rows.filter (isDue state pass.now)
  match due.mapM fun connection => connection.reconnect.map (connection.actionId, ·) with
  | .error () => ⟨state, [], true⟩
  | .ok outcomes => settleOutcomes pass.now state outcomes

/-- The maintenance loop: a pass that raises is suppressed, and the next one follows. -/
def superviseAll : ReconnectState → List SupervisorPass → Supervised
  | state, [] => ⟨state, [], false⟩
  | state, pass :: passes =>
    let first := supervise state pass
    let rest := superviseAll first.state passes
    ⟨rest.state, first.attempts ++ rest.attempts, first.raised || rest.raised⟩

def streakStep (actionId : String) (streak : Option (ℕ × Instant)) (attempt : ReconnectAttempt) :
    Option (ℕ × Instant) :=
  if attempt.actionId = actionId then
    if attempt.status.isUp then none else some ((streak.map Prod.fst).getD 0 + 1, attempt.at_)
  else streak

/-- The streak of failures that the attempts end with, and its last instant. -/
def streak (actionId : String) (attempts : List ReconnectAttempt) : Option (ℕ × Instant) :=
  attempts.foldl (streakStep actionId) none

/-- An attempt waits for the delay of the streak before it, and reports that a streak begins or
ends. -/
structure IsPaced (before : List ReconnectAttempt) (attempt : ReconnectAttempt) : Prop where
  waits : ∀ failures last, streak attempt.actionId before = some (failures, last) →
    ∃ delay, autoReconnectDelaySeconds failures = .ok delay ∧
      last + seconds delay ≤ attempt.at_
  reports : attempt.reported = true ↔
    (attempt.status.isUp = false ∧ streak attempt.actionId before = none) ∨
      (attempt.status.isUp = true ∧ streak attempt.actionId before ≠ none)

inductive ArePaced : List ReconnectAttempt → Prop
  | nil : ArePaced []
  | snoc {before : List ReconnectAttempt} {attempt : ReconnectAttempt} :
      ArePaced before → IsPaced before attempt → ArePaced (before ++ [attempt])

/-- No due attempt ends with another exception, and none fails that follows 1023 failures. -/
def StaysInRange (state : ReconnectState) (pass : SupervisorPass) : Prop :=
  ∀ connection ∈ pass.connections, isDue state pass.now connection = true →
    ∃ status, connection.reconnect = .ok status ∧
      (status.isUp = false → streakLength state connection.actionId < 1023)

/-- Every pass of the run stays in range. -/
def RunsInRange : ReconnectState → List SupervisorPass → Prop
  | _, [] => True
  | state, pass :: passes =>
    StaysInRange state pass ∧ RunsInRange (supervise state pass).state passes

/-- The state of an action is the streak of its attempts with the delay that it leads to. -/
def Remembers (state : ReconnectState) (attempts : List ReconnectAttempt) : Prop :=
  ∀ actionId, match streak actionId attempts with
    | none => state actionId = none
    | some (failures, last) => ∃ delay, autoReconnectDelaySeconds failures = .ok delay ∧
        state actionId = some (failures, last + seconds delay)

variable {state : ReconnectState} {attempts : List ReconnectAttempt} {now : Instant}

theorem streak_snoc (actionId : String) (attempt : ReconnectAttempt) :
    streak actionId (attempts ++ [attempt]) =
      streakStep actionId (streak actionId attempts) attempt := by
  simp [streak]

theorem streak_pos {failures : ℕ} {last : Instant}
    (h : streak actionId attempts = some (failures, last)) : 1 ≤ failures := by
  induction attempts using List.reverseRecOn generalizing failures last with
  | nil => cases h
  | append_singleton before attempt ih =>
    rw [streak_snoc, streakStep] at h
    split_ifs at h
    · cases h
      omega
    · exact ih h

theorem Remembers.isSome (h : Remembers state attempts) (actionId : String) :
    (state actionId).isSome = (streak actionId attempts).isSome ∧
      streakLength state actionId = ((streak actionId attempts).map Prod.fst).getD 0 := by
  have hstate := h actionId
  unfold streakLength
  split at hstate
  · rename_i hnone
    simp [hnone, hstate]
  · rename_i hsome
    obtain ⟨delay, _, hstate⟩ := hstate
    simp [hsome, hstate]

theorem isDue_waits {connection : RememberedConnection} (h : isDue state now connection = true)
    (failures : ℕ) (retryAt : Instant)
    (hstate : state connection.actionId = some (failures, retryAt)) : retryAt ≤ now := by
  simp only [isDue, hstate, Bool.and_eq_true, Bool.not_eq_true', decide_eq_false_iff_not,
    not_lt] at h
  exact h.2

variable {status : RememberedStatus}

/-- What is due by the state has waited for the delay of its streak. -/
theorem Remembers.isPaced (h : Remembers state attempts)
    (hdue : ∀ failures retryAt, state actionId = some (failures, retryAt) → retryAt ≤ now)
    {reported : Bool}
    (hreported : reported = true ↔ status.isUp = (streak actionId attempts).isSome) :
    IsPaced attempts ⟨actionId, now, status, reported⟩ := by
  constructor
  · intro failures last hstreak
    have hstate := h actionId
    rw [show streak actionId attempts = some (failures, last) from hstreak] at hstate
    obtain ⟨delay, hdelay, hstate⟩ := hstate
    exact ⟨delay, hdelay, hdue failures _ hstate⟩
  · refine hreported.trans ?_
    cases status.isUp <;> cases streak actionId attempts <;> simp

theorem Remembers.succeed (h : Remembers state attempts)
    (hup : status.isUp = true) (reported : Bool) :
    Remembers (Function.update state actionId none)
      (attempts ++ [⟨actionId, now, status, reported⟩]) := by
  intro other
  rw [streak_snoc, streakStep]
  by_cases hsame : actionId = other
  · subst hsame
    simp [hup]
  · rw [if_neg hsame, Function.update_of_ne (Ne.symm hsame)]
    exact h other

theorem Remembers.fail (h : Remembers state attempts)
    (hdown : status.isUp = false) {delay : ℕ}
    (hdelay : autoReconnectDelaySeconds ((streakLength state actionId + 1 : ℕ) : ℤ) = .ok delay)
    (reported : Bool) :
    Remembers (Function.update state actionId
        (some (streakLength state actionId + 1, now + seconds delay)))
      (attempts ++ [⟨actionId, now, status, reported⟩]) := by
  intro other
  rw [streak_snoc, streakStep]
  by_cases hsame : actionId = other
  · subst hsame
    rw [if_pos rfl, hdown, ← (h.isSome actionId).2]
    exact ⟨delay, hdelay, Function.update_self ..⟩
  · rw [if_neg hsame, Function.update_of_ne (Ne.symm hsame)]
    exact h other

/-- The outcomes are of different actions, so that each finds the state of its action as it was
when the pass began. -/
theorem settleOutcomes_spec {outcomes : List (String × RememberedStatus)}
    (hunique : (outcomes.map Prod.fst).Nodup)
    (hdue : ∀ outcome ∈ outcomes, ∀ failures retryAt,
      state outcome.1 = some (failures, retryAt) → retryAt ≤ now)
    (hremembers : Remembers state attempts) (hpaced : ArePaced attempts) :
    ((settleOutcomes now state outcomes).raised = false ↔
      ∀ outcome ∈ outcomes, outcome.2.isUp = false → streakLength state outcome.1 < 1023) ∧
    ((settleOutcomes now state outcomes).raised = false →
      Remembers (settleOutcomes now state outcomes).state
          (attempts ++ (settleOutcomes now state outcomes).attempts) ∧
        ArePaced (attempts ++ (settleOutcomes now state outcomes).attempts)) := by
  induction outcomes generalizing state attempts with
  | nil => simpa [settleOutcomes] using ⟨hremembers, hpaced⟩
  | cons outcome outcomes ih =>
    obtain ⟨actionId, status⟩ := outcome
    rw [List.map_cons, List.nodup_cons] at hunique
    obtain ⟨hfresh, hunique⟩ := hunique
    have hother : ∀ outcome ∈ outcomes, outcome.1 ≠ actionId := by
      intro outcome houtcome hsame
      rw [← hsame] at hfresh
      exact hfresh (List.mem_map.mpr ⟨outcome, houtcome, rfl⟩)
    have hfirst := hdue _ List.mem_cons_self
    -- an update at the action of the head changes nothing for the other outcomes
    have hrest : ∀ value, (∀ outcome ∈ outcomes, ∀ failures retryAt,
        Function.update state actionId value outcome.1 = some (failures, retryAt) →
          retryAt ≤ now) ∧
        ((∀ outcome ∈ outcomes, outcome.2.isUp = false →
          streakLength (Function.update state actionId value) outcome.1 < 1023) ↔
          ∀ outcome ∈ outcomes, outcome.2.isUp = false → streakLength state outcome.1 < 1023) := by
      intro value
      constructor
      · intro outcome houtcome
        rw [Function.update_of_ne (hother outcome houtcome)]
        exact hdue outcome (List.mem_cons_of_mem _ houtcome)
      · refine forall₂_congr fun outcome houtcome => ?_
        rw [streakLength, streakLength, Function.update_of_ne (hother outcome houtcome)]
    obtain ⟨hsome, hlength⟩ := hremembers.isSome actionId
    rw [settleOutcomes]
    by_cases hup : status.isUp = true
    · have hattempt : IsPaced attempts ⟨actionId, now, status, (state actionId).isSome⟩ :=
        hremembers.isPaced hfirst (by rw [hup, hsome, eq_comm])
      obtain ⟨hraised, hkept⟩ := ih hunique (hrest none).1 (hremembers.succeed hup _)
        (hpaced.snoc hattempt)
      simp only [hup, if_true]
      simp only [List.append_assoc, List.singleton_append] at hkept
      rw [hraised, (hrest none).2, List.forall_mem_cons]
      exact ⟨by simp [hup], fun h => hkept (hraised.mpr ((hrest none).2.mpr h))⟩
    · have hdown : status.isUp = false := by simpa using hup
      simp only [hdown, Bool.false_eq_true, if_false]
      by_cases hrange : streakLength state actionId < 1023
      · obtain ⟨delay, hdelay⟩ : ∃ delay, autoReconnectDelaySeconds
            ((streakLength state actionId + 1 : ℕ) : ℤ) = .ok delay :=
          delay_isDefined_iff.mpr (by omega)
        have hattempt : IsPaced attempts
            ⟨actionId, now, status, decide (streakLength state actionId + 1 = 1)⟩ := by
          refine hremembers.isPaced hfirst ?_
          rw [decide_eq_true_iff, hdown, hlength]
          cases hstreak : streak actionId attempts with
          | none => simp
          | some last =>
            have hpositive := streak_pos hstreak
            simp
            omega
        have hupdate := hrest (some (streakLength state actionId + 1, now + seconds delay))
        obtain ⟨hraised, hkept⟩ := ih hunique hupdate.1 (hremembers.fail hdown hdelay _)
          (hpaced.snoc hattempt)
        simp only [hdelay, Function.update_idem]
        simp only [List.append_assoc, List.singleton_append] at hkept
        rw [hraised, hupdate.2, List.forall_mem_cons]
        exact ⟨by simp [hdown, hrange], fun h => hkept (hraised.mpr (hupdate.2.mpr h))⟩
      · have hundefined : autoReconnectDelaySeconds ((streakLength state actionId + 1 : ℕ) : ℤ) =
            .error (.overflowError "int too large to convert to float") := by
          rw [autoReconnectDelaySeconds, if_neg (by omega), if_pos (by omega)]
        simp only [hundefined]
        simp [hdown, hrange]

theorem reconnect_all {due : List RememberedConnection}
    (h : ∀ connection ∈ due, ∃ status, connection.reconnect = .ok status) :
    ∃ outcomes, (due.mapM fun connection => connection.reconnect.map (connection.actionId, ·)) =
      .ok outcomes := by
  induction due with
  | nil => exact ⟨[], rfl⟩
  | cons connection due ih =>
    obtain ⟨⟨status, hstatus⟩, hdue⟩ := List.forall_mem_cons.mp h
    obtain ⟨outcomes, houtcomes⟩ := ih hdue
    exact ⟨(connection.actionId, status) :: outcomes, by
      rw [List.mapM_cons, hstatus, houtcomes]
      rfl⟩

theorem reconnected {due : List RememberedConnection} {outcomes : List (String × RememberedStatus)}
    (h : (due.mapM fun connection => connection.reconnect.map (connection.actionId, ·)) =
      .ok outcomes) :
    outcomes.map Prod.fst = due.map (·.actionId) ∧
      ∀ P : String → RememberedStatus → Prop, (∀ outcome ∈ outcomes, P outcome.1 outcome.2) ↔
        ∀ connection ∈ due, ∃ status, connection.reconnect = .ok status ∧
          P connection.actionId status := by
  induction mapM_eq_ok.mp h with
  | nil => simp
  | @cons connection outcome due outcomes hpair _ ih =>
    obtain ⟨status, hstatus, rfl⟩ := map_eq_ok.mp hpair
    obtain ⟨hactions, hall⟩ := ih (mapM_eq_ok.mpr ‹_›)
    refine ⟨by rw [List.map_cons, List.map_cons, hactions], fun P => ?_⟩
    rw [List.forall_mem_cons, List.forall_mem_cons, hall P, hstatus]
    simp

theorem supervise_spec {pass : SupervisorPass} (hremembers : Remembers state attempts)
    (hpaced : ArePaced attempts) :
    ((supervise state pass).raised = false ↔ StaysInRange state pass) ∧
    ((supervise state pass).raised = false →
      Remembers (supervise state pass).state (attempts ++ (supervise state pass).attempts) ∧
        ArePaced (attempts ++ (supervise state pass).attempts)) := by
  have hrange : StaysInRange state pass ↔ ∀ connection ∈
      pass.connections.rows.filter (isDue state pass.now), ∃ status,
        connection.reconnect = .ok status ∧
          (status.isUp = false → streakLength state connection.actionId < 1023) := by
    simp only [List.mem_filter, and_imp]
    rfl
  rw [hrange, supervise]
  split
  · rename_i hraised
    refine ⟨⟨nofun, fun h => ?_⟩, nofun⟩
    obtain ⟨outcomes, houtcomes⟩ := reconnect_all fun connection hconnection =>
      (h connection hconnection).imp fun _ => And.left
    rw [houtcomes] at hraised
    cases hraised
  · rename_i outcomes houtcomes
    obtain ⟨hactions, hall⟩ := reconnected houtcomes
    have hunique : (outcomes.map Prod.fst).Nodup := by
      rw [hactions]
      exact pass.connections.unique.sublist (List.filter_sublist.map _)
    have hdue : ∀ outcome ∈ outcomes, ∀ failures retryAt,
        state outcome.1 = some (failures, retryAt) → retryAt ≤ pass.now := by
      refine (hall fun actionId _ => ∀ failures retryAt,
        state actionId = some (failures, retryAt) → retryAt ≤ pass.now).mpr ?_
      intro connection hconnection
      obtain ⟨status, hstatus, _⟩ := (hall fun _ _ => True).mp (fun _ _ => trivial) _ hconnection
      exact ⟨status, hstatus, isDue_waits (List.mem_filter.mp hconnection).2⟩
    rw [← hall fun actionId status => status.isUp = false → streakLength state actionId < 1023]
    exact settleOutcomes_spec hunique hdue hremembers hpaced

theorem superviseAll_spec {passes : List SupervisorPass} (hremembers : Remembers state attempts)
    (hpaced : ArePaced attempts) :
    ((superviseAll state passes).raised = false ↔ RunsInRange state passes) ∧
    ((superviseAll state passes).raised = false →
      ArePaced (attempts ++ (superviseAll state passes).attempts)) := by
  induction passes generalizing state attempts with
  | nil => simpa [superviseAll, RunsInRange] using hpaced
  | cons pass passes ih =>
    obtain ⟨hraised, hkept⟩ := @supervise_spec state attempts pass hremembers hpaced
    simp only [superviseAll, RunsInRange, Bool.or_eq_false_iff, ← hraised]
    by_cases hfirst : (supervise state pass).raised = false
    · obtain ⟨hremembers, hpaced⟩ := hkept hfirst
      obtain ⟨hrest, hlaw⟩ := ih hremembers hpaced
      rw [List.append_assoc] at hlaw
      simp only [hfirst, true_and]
      exact ⟨hrest, hlaw⟩
    · simp [hfirst]

def noFailures : ReconnectState := fun _ => none

/-- The delay is defined up to 1023 failures, and there it does not fall and stays between the
base and the maximum. A run raises nothing and paces its attempts exactly if every pass stays in
range. -/
theorem reconnects_supervised_iff (passes : List SupervisorPass) :
    ((∀ n, (∃ d, autoReconnectDelaySeconds n = .ok d) ↔ n ≤ 1023) ∧
      (∀ n m d e, n ≤ m → autoReconnectDelaySeconds n = .ok d →
        autoReconnectDelaySeconds m = .ok e → 20 ≤ d ∧ d ≤ e ∧ e ≤ 300)) ∧
    (((superviseAll noFailures passes).raised = false ∧
      ArePaced (superviseAll noFailures passes).attempts) ↔ RunsInRange noFailures passes) := by
  refine ⟨⟨fun _ => delay_isDefined_iff, fun n m d e hle hd he => ?_⟩, ?_⟩
  · exact ⟨(delay_bounds hd).1, delay_mono hle hd he, (delay_bounds he).2⟩
  · have hremembers : Remembers noFailures [] := fun _ => rfl
    obtain ⟨hraised, hpaced⟩ := @superviseAll_spec noFailures [] passes hremembers .nil
    rw [List.nil_append] at hpaced
    rw [← hraised]
    exact ⟨And.left, fun h => ⟨h, hpaced h⟩⟩

def absentHub (now : Instant) : SupervisorPass :=
  ⟨now, [⟨"cit.lego-pybricks.connect", true, true, false, .refused⟩], by simp⟩

/-- A pass every five minutes. -/
def absence (passes : ℕ) : List SupervisorPass :=
  (List.range passes).map fun n => absentHub (seconds (300 * n))

/-- The 1024th failure has no delay: its pass raises. -/
theorem supervision_raises : (superviseAll noFailures (absence 1024)).raised = true := by
  decide +kernel

end CitPhysicalXR.Fabric
