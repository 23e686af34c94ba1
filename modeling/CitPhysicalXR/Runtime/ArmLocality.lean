import CitPhysicalXR.Runtime.ArmAuthority

/-! Whether arming a device with a time to live of its own leaves the other arms, and the arms
that are made later, as they were. -/
namespace CitPhysicalXR.Runtime
open Foundation

structure ArmCall where
  sessionId : String
  deviceId : String
  instructorId : String
  ttl : Option Duration
  now : Instant

namespace Classroom
variable {s s' : Classroom}

def armCall (s : Classroom) (call : ArmCall) : Classroom :=
  s.armLeaves call.sessionId call.deviceId call.instructorId call.ttl call.now

/-- The room after calls of `arm`. -/
def afterArms (s : Classroom) (calls : List ArmCall) : Classroom := calls.foldl armCall s

/-- When the arm that a call makes expires; a call that is refused makes none. -/
def expiryOf (s : Classroom) (call : ArmCall) : Option Instant :=
  match s.arm call.sessionId call.deviceId call.instructorId call.ttl call.now with
  | .ok after => (after.supervisor.arms.get? call.deviceId).map (·.expiresAt)
  | .error _ => none

/-- The policy that a session is armed under once it has validated. -/
def armPolicy (s : Classroom) (sessionId : String) : Option SafetyPolicy :=
  match s.sessions.get? sessionId with
  | none => none
  | some session =>
    if session.state ∈ [SessionState.ready, .waitingForArm] then
      s.supervisor.policies.get? session.safetyPolicyId
    else none

/-- What arming a device may change: its arm and the audit. The arms that are made later, in any
order and for any device, expire as they would have. -/
structure ArmsLocally (s s' : Classroom) (deviceId : String) : Prop where
  room : { s' with supervisor := s.supervisor, audit := s.audit } = s
  heartbeats : s'.supervisor.heartbeats = s.supervisor.heartbeats
  sources : s'.supervisor.disabledSources = s.supervisor.disabledSources
  arms : ∀ other, other ≠ deviceId → s'.supervisor.arms.get? other = s.supervisor.arms.get? other
  policies : ∀ policyId,
    s'.supervisor.policies.get? policyId = s.supervisor.policies.get? policyId
  later : ∀ calls call, (s'.afterArms calls).expiryOf call = (s.afterArms calls).expiryOf call

/-- The supervisor once the policy is registered with an explicit time to live. -/
def registered (supervisor : SafetySupervisor) (policy : SafetyPolicy) :
    Option Duration → SafetySupervisor
  | none => supervisor
  | some ttl => { supervisor with
      policies := supervisor.policies.upsert { policy with armTtl := ttl } }

def armUnder (call : ArmCall) (policy : SafetyPolicy) : ArmState where
  deviceId := call.deviceId
  sessionId := call.sessionId
  armedBy := call.instructorId
  armedAt := call.now
  expiresAt := call.now + call.ttl.getD policy.armTtl

variable {supervisor : SafetySupervisor} {policy : SafetyPolicy}

theorem withTtl_eq {policyId : String}
    (h : supervisor.policies.get? policyId = some policy) (ttl : Option Duration) :
    supervisor.withTtl policyId ttl = .ok (registered supervisor policy ttl) := by
  cases ttl with
  | none => rfl
  | some ttl =>
    have hget : supervisor.getPolicy policyId = .ok policy := by
      rw [SafetySupervisor.getPolicy, h]
    rw [SafetySupervisor.withTtl, hget]
    rfl

theorem registered_getPolicy {policyId : String}
    (h : supervisor.policies.get? policyId = some policy)
    (ttl : Option Duration) : (registered supervisor policy ttl).getPolicy policyId =
      .ok { policy with armTtl := ttl.getD policy.armTtl } := by
  cases ttl with
  | none =>
    rw [SafetySupervisor.getPolicy, registered, h]
    rfl
  | some ttl =>
    have hid : policy.policyId = policyId := (Table.get?_some h).2
    have hself : (supervisor.policies.upsert { policy with armTtl := ttl }).get? policyId =
        some { policy with armTtl := ttl } := by
      rw [← hid]
      exact Table.get?_upsert_self _
    simp only [SafetySupervisor.getPolicy, registered, hself, Option.getD_some]

theorem armPolicy_some {sessionId : String}
    (h : s.armPolicy sessionId = some policy) : ∃ session, s.getSession sessionId = .ok session ∧
      session.state ∈ [SessionState.ready, .waitingForArm] ∧
      s.supervisor.policies.get? session.safetyPolicyId = some policy := by
  unfold armPolicy at h
  split at h
  · cases h
  · rename_i session hsession
    split at h
    · rename_i hready
      exact ⟨session, by rw [getSession, hsession], hready, h⟩
    · cases h

/-- A call under a policy registers the time to live, and arms unless nobody asks for it. -/
theorem arm_under {call : ArmCall}
    (hpolicy : s.armPolicy call.sessionId = some policy) (hinstructor : call.instructorId ≠ "") :
    s.arm call.sessionId call.deviceId call.instructorId call.ttl call.now =
      .ok (({ s with supervisor := { registered s.supervisor policy call.ttl with
        arms := (registered s.supervisor policy call.ttl).arms.upsert (armUnder call policy) } } :
        Classroom).record .deviceArmed call.instructorId call.now
          [("deviceId", .str call.deviceId), ("sessionId", .str call.sessionId)]) := by
  obtain ⟨session, hsession, hready, hget⟩ := armPolicy_some hpolicy
  have hstate : raiseIf (session.state ∉ [SessionState.ready, .waitingForArm])
      (HttpError.conflict (s!"Session {PyString.repr call.sessionId} must validate before arming " ++
        s!"(state {session.state.value})")) = .ok () :=
    raiseIf_eq_ok.mpr (not_not.mpr hready)
  have hasked : raiseIf (call.instructorId = "") HttpError.unhandled = .ok () :=
    raiseIf_eq_ok.mpr hinstructor
  simp only [arm, hsession, bind, Except.bind, hstate, withTtl_eq hget, SafetySupervisor.arm,
    hasked, registered_getPolicy hget]
  rfl

/-- A session that has not validated arms nothing, and neither does nobody. -/
theorem arm_refused {call : ArmCall}
    (h : s.armPolicy call.sessionId = none ∨ call.instructorId = "") : ∃ error,
      s.arm call.sessionId call.deviceId call.instructorId call.ttl call.now = .error error := by
  cases harm : s.arm call.sessionId call.deviceId call.instructorId call.ttl call.now with
  | error error => exact ⟨error, rfl⟩
  | ok after =>
    obtain ⟨session, hmem, hid, hready, hinstructor, hknown⟩ := arm_ready harm
    rcases h with hnone | hnobody
    · have hget : s.sessions.get? call.sessionId = some session :=
        Table.get?_eq_some.mpr ⟨hmem, hid⟩
      simp only [armPolicy, hget, if_pos hready] at hnone
      rw [hnone] at hknown
      cases hknown
    · exact absurd hnobody hinstructor

theorem ttlRegistered_under {sessionId : String}
    (h : s.armPolicy sessionId = some policy) (ttl : Option Duration) :
    s.ttlRegistered sessionId ttl = { s with supervisor := registered s.supervisor policy ttl } := by
  obtain ⟨session, hsession, hready, hget⟩ := armPolicy_some h
  simp only [ttlRegistered, hsession, if_pos hready, withTtl_eq hget]

theorem ttlRegistered_none {sessionId : String} (h : s.armPolicy sessionId = none)
    (ttl : Option Duration) : s.ttlRegistered sessionId ttl = s := by
  unfold ttlRegistered getSession
  unfold armPolicy at h
  cases hsession : s.sessions.get? sessionId with
  | none => rfl
  | some session =>
    simp only [hsession] at h ⊢
    split
    · rename_i hready
      rw [if_pos hready] at h
      cases ttl with
      | none => rfl
      | some ttl =>
        simp only [SafetySupervisor.withTtl, SafetySupervisor.getPolicy, h]
        rfl
    · rfl

theorem armCall_cases (s : Classroom) (call : ArmCall) :
    s.armPolicy call.sessionId = none ∧ s.armCall call = s ∧ s.expiryOf call = none ∨
    ∃ policy, s.armPolicy call.sessionId = some policy ∧
      (call.instructorId = "" ∧ s.expiryOf call = none ∧
        s.armCall call = { s with supervisor := registered s.supervisor policy call.ttl } ∨
      call.instructorId ≠ "" ∧ s.expiryOf call = some (call.now + call.ttl.getD policy.armTtl) ∧
        s.armCall call = ({ s with supervisor := { registered s.supervisor policy call.ttl with
          arms := (registered s.supervisor policy call.ttl).arms.upsert (armUnder call policy) } } :
          Classroom).record .deviceArmed call.instructorId call.now
            [("deviceId", .str call.deviceId), ("sessionId", .str call.sessionId)]) := by
  cases hpolicy : s.armPolicy call.sessionId with
  | none =>
    obtain ⟨error, harm⟩ := arm_refused (.inl hpolicy)
    refine .inl ⟨rfl, ?_, ?_⟩
    · simp only [armCall, armLeaves, harm, ttlRegistered_none hpolicy]
    · simp only [expiryOf, harm]
  | some policy =>
    refine .inr ⟨policy, rfl, ?_⟩
    by_cases hinstructor : call.instructorId = ""
    · obtain ⟨error, harm⟩ := arm_refused (s := s) (.inr hinstructor)
      refine .inl ⟨hinstructor, ?_, ?_⟩
      · simp only [expiryOf, harm]
      · simp only [armCall, armLeaves, harm, ttlRegistered_under hpolicy]
    · have harm := arm_under hpolicy hinstructor
      refine .inr ⟨hinstructor, ?_, ?_⟩
      · simp only [expiryOf, harm, record]
        have hself := Table.get?_upsert_self (t := (registered s.supervisor policy call.ttl).arms)
          (armUnder call policy)
        exact congrArg (Option.map (·.expiresAt)) hself
      · simp only [armCall, armLeaves, harm]

theorem expiryOf_eq (s : Classroom) (call : ArmCall) : s.expiryOf call =
    if call.instructorId = "" then none
    else (s.armPolicy call.sessionId).map fun policy => call.now + call.ttl.getD policy.armTtl := by
  rcases armCall_cases s call with ⟨hnone, _, hexpiry⟩ |
    ⟨policy, hpolicy, ⟨hnobody, hexpiry, _⟩ | ⟨hinstructor, hexpiry, _⟩⟩
  · rw [hexpiry, hnone]
    exact (ite_self none).symm
  · rw [hexpiry, if_pos hnobody]
  · rw [hexpiry, if_neg hinstructor, hpolicy]
    rfl

theorem armCall_sessions (s : Classroom) (call : ArmCall) :
    (s.armCall call).sessions = s.sessions := by
  rcases armCall_cases s call with ⟨_, hroom, _⟩ | ⟨policy, _, ⟨_, _, hroom⟩ | ⟨_, _, hroom⟩⟩
  · rw [hroom]
  · rw [hroom]
  · rw [hroom]
    rfl

theorem armCall_policies (s : Classroom) (call : ArmCall) :
    (s.armCall call).supervisor.policies = match s.armPolicy call.sessionId with
      | none => s.supervisor.policies
      | some policy => (registered s.supervisor policy call.ttl).policies := by
  rcases armCall_cases s call with ⟨hnone, hroom, _⟩ |
    ⟨policy, hpolicy, ⟨_, _, hroom⟩ | ⟨_, _, hroom⟩⟩
  · rw [hroom, hnone]
  · rw [hroom, hpolicy]
  · rw [hroom, hpolicy]
    rfl

structure ArmsAlike (s s' : Classroom) : Prop where
  sessions : s'.sessions = s.sessions
  policies : ∀ policyId,
    s'.supervisor.policies.get? policyId = s.supervisor.policies.get? policyId

theorem registered_get? (policy : SafetyPolicy) (ttl : Duration)
    (policyId : String) : (registered supervisor policy (some ttl)).policies.get? policyId =
      if policyId = policy.policyId then some { policy with armTtl := ttl }
      else supervisor.policies.get? policyId := by
  split
  · rename_i h
    rw [h]
    exact Table.get?_upsert_self _
  · rename_i h
    exact Table.get?_upsert_of_ne h

namespace ArmsAlike

theorem armPolicy (h : ArmsAlike s s') (sessionId : String) :
    s'.armPolicy sessionId = s.armPolicy sessionId := by
  unfold Classroom.armPolicy
  rw [h.sessions]
  split
  · rfl
  · split
    · exact h.policies _
    · rfl

theorem armCall (h : ArmsAlike s s') (call : ArmCall) :
    ArmsAlike (s.armCall call) (s'.armCall call) := by
  constructor
  · rw [armCall_sessions, armCall_sessions, h.sessions]
  · intro policyId
    rw [armCall_policies, armCall_policies, h.armPolicy]
    split
    · exact h.policies policyId
    · cases call.ttl with
      | none => exact h.policies policyId
      | some ttl => rw [registered_get?, registered_get?, h.policies]

theorem afterArms (h : ArmsAlike s s') (calls : List ArmCall) :
    ArmsAlike (s.afterArms calls) (s'.afterArms calls) := by
  induction calls generalizing s s' with
  | nil => exact h
  | cons call calls ih => exact ih (h.armCall call)

theorem later (h : ArmsAlike s s') (calls : List ArmCall) (call : ArmCall) :
    (s'.afterArms calls).expiryOf call = (s.afterArms calls).expiryOf call := by
  rw [expiryOf_eq, expiryOf_eq, (h.afterArms calls).armPolicy]

end ArmsAlike

/-- The policy that the call arms under has the time to live that is asked for. -/
def HasTtl (s : Classroom) (sessionId : String) (ttl : Duration) : Prop :=
  ∀ policy, s.armPolicy sessionId = some policy → policy.armTtl = ttl

theorem armCall_alike {call : ArmCall} {ttl : Duration} (hcall : call.ttl = some ttl)
    (h : s.HasTtl call.sessionId ttl) : ArmsAlike s (s.armCall call) := by
  refine ⟨armCall_sessions s call, fun policyId => ?_⟩
  rw [armCall_policies]
  split
  · rfl
  · rename_i policy hpolicy
    obtain ⟨session, _, _, hget⟩ := armPolicy_some hpolicy
    rw [hcall, registered_get?, ← h policy hpolicy]
    split
    · rename_i hid
      show some policy = s.supervisor.policies.get? policyId
      rw [hid, (Table.get?_some hget).2, hget]
    · rfl

theorem registered_fields (supervisor : SafetySupervisor) (policy : SafetyPolicy)
    (ttl : Option Duration) : (registered supervisor policy ttl).arms = supervisor.arms ∧
      (registered supervisor policy ttl).heartbeats = supervisor.heartbeats ∧
      (registered supervisor policy ttl).disabledSources = supervisor.disabledSources := by
  cases ttl with
  | none => exact ⟨rfl, rfl, rfl⟩
  | some ttl => exact ⟨rfl, rfl, rfl⟩

theorem armCall_frame (s : Classroom) (call : ArmCall) :
    { s.armCall call with supervisor := s.supervisor, audit := s.audit } = s ∧
    (s.armCall call).supervisor.heartbeats = s.supervisor.heartbeats ∧
    (s.armCall call).supervisor.disabledSources = s.supervisor.disabledSources ∧
    ∀ other, other ≠ call.deviceId →
      (s.armCall call).supervisor.arms.get? other = s.supervisor.arms.get? other := by
  rcases armCall_cases s call with ⟨_, hroom, _⟩ | ⟨policy, _, ⟨_, _, hroom⟩ | ⟨_, _, hroom⟩⟩
  · rw [hroom]
    exact ⟨rfl, rfl, rfl, fun _ _ => rfl⟩
  · obtain ⟨harms, hheartbeats, hsources⟩ := registered_fields s.supervisor policy call.ttl
    rw [hroom]
    exact ⟨rfl, hheartbeats, hsources, fun other _ => congrArg (·.get? other) harms⟩
  · obtain ⟨harms, hheartbeats, hsources⟩ := registered_fields s.supervisor policy call.ttl
    rw [hroom]
    refine ⟨rfl, hheartbeats, hsources, fun other hother => ?_⟩
    rw [← harms]
    exact Table.get?_upsert_of_ne hother

end Classroom

/-- Arming a device with a time to live of its own leaves every other arm alone, those to come
included, exactly when the session's policy already has this time to live. -/
theorem arms_locally_iff (s : Classroom) (sessionId deviceId instructorId : String)
    (ttl : Duration) (now : Instant) :
    s.ArmsLocally (s.armLeaves sessionId deviceId instructorId (some ttl) now) deviceId ↔
      s.HasTtl sessionId ttl := by
  let call : ArmCall := ⟨sessionId, deviceId, instructorId, some ttl, now⟩
  constructor
  · intro h policy hpolicy
    obtain ⟨session, _, _, hget⟩ := Classroom.armPolicy_some hpolicy
    have hafter : (s.armCall call).supervisor.policies.get? policy.policyId =
        some { policy with armTtl := ttl } := by
      have hpolicies := Classroom.armCall_policies s call
      rw [show s.armPolicy call.sessionId = some policy from hpolicy] at hpolicies
      rw [hpolicies]
      exact Table.get?_upsert_self _
    have hsame := h.policies policy.policyId
    rw [(Table.get?_some hget).2, hget, ← (Table.get?_some hget).2] at hsame
    have heq := Option.some.inj (hafter.symm.trans hsame)
    exact (congrArg SafetyPolicy.armTtl heq).symm
  · intro h
    have halike : Classroom.ArmsAlike s (s.armCall call) := Classroom.armCall_alike rfl h
    obtain ⟨hroom, hheartbeats, hsources, harms⟩ := Classroom.armCall_frame s call
    exact ⟨hroom, hheartbeats, hsources, harms, halike.policies, halike.later⟩

/-- A robot is armed for one minute; a drone that is armed after it gets one minute too. -/
theorem ttl_outlives_arm : ∃ trace p, classroomRuntime.Run trace p ∧
    ¬p.room.ArmsLocally
      (p.room.armLeaves "lesson-1" "robot" "instructor-1" (some (minutes 1)) 5) "robot" ∧
    p.room.expiryOf ⟨"lesson-1", "drone", "instructor-1", none, 6⟩ = some (6 + minutes 5) ∧
    (p.room.armLeaves "lesson-1" "robot" "instructor-1" (some (minutes 1)) 5).expiryOf
      ⟨"lesson-1", "drone", "instructor-1", none, 6⟩ = some (6 + minutes 1) := by
  have hexec : ((Machine.execute RuntimeState.step (fun _ _ => True) laboratory
      validatedLesson).any fun last =>
      decide (last.1.room.expiryOf ⟨"lesson-1", "drone", "instructor-1", none, 6⟩ =
          some (6 + minutes 5) ∧
        (last.1.room.armLeaves "lesson-1" "robot" "instructor-1" (some (minutes 1)) 5).expiryOf
          ⟨"lesson-1", "drone", "instructor-1", none, 6⟩ = some (6 + minutes 1))) = true := by
    decide
  obtain ⟨last, hlast, hend⟩ := (Option.any_eq_true ..).mp hexec
  have hrun := (Machine.run_of_execute (M := classroomRuntime) ⟨rfl, rfl, rfl, rfl⟩
    id hlast).of_restrict
  obtain ⟨hbefore, hafter⟩ := of_decide_eq_true hend
  refine ⟨_, _, hrun, fun hlocal => ?_, hbefore, hafter⟩
  have hsame := hlocal.later [] ⟨"lesson-1", "drone", "instructor-1", none, 6⟩
  have hminutes := Option.some.inj (hafter.symm.trans (hsame.trans hbefore))
  exact absurd hminutes (by decide)

end CitPhysicalXR.Runtime
