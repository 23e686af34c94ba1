import CitPhysicalXR.Runtime.DeviceBinding

/-! The authority of an arm: it ends with the session that it was given for, and with the binding
of its device to that session. -/
namespace CitPhysicalXR.Runtime
open Foundation

namespace Classroom
variable {s s' : Classroom}

/-- Every arm is for a live session that has its device. -/
def Authorized (s : Classroom) : Prop :=
  ∀ arm ∈ s.supervisor.arms, s.BoundTo arm.sessionId arm.deviceId

theorem Authorized.quiet (h : s.Authorized) (hquiet : Quiet s s') : s'.Authorized := by
  intro arm harm
  rw [hquiet.bound]
  exact h arm (hquiet.arms arm harm)

/-- Neither sessions nor arms change when devices are assigned. -/
theorem Authorized.takes {sessionId : String} (h : s.Authorized)
    (htakes : Takes sessionId s s') : s'.Authorized := by
  intro arm harm
  rw [htakes.supervisor] at harm
  rw [BoundTo, htakes.sessions]
  exact h arm harm

theorem Authorized.rebinds {session : ClassroomSession} {deviceIds : List String}
    (h : s.Authorized) (hrebinds : Rebinds session deviceIds s s')
    (harmed : ∀ arm ∈ s.supervisor.arms, arm.sessionId = session.sessionId →
      arm.deviceId ∈ deviceIds) : s'.Authorized := by
  intro arm harm
  rw [hrebinds.supervisor] at harm
  rw [hrebinds.bound]
  split
  · exact harmed arm harm ‹_›
  · exact h arm harm

theorem Authorized.moves {session : ClassroomSession} {state : SessionState}
    (h : s.Authorized) (hmoves : Moves session state s s')
    (hheld : state.isTerminal = true → ∀ arm ∈ s.supervisor.arms,
      arm.sessionId = session.sessionId →
        s.assignedTo arm.deviceId = some session.sessionId) : s'.Authorized := by
  intro arm harm
  obtain ⟨hbefore, hreleased⟩ := hmoves.arms arm harm
  rw [hmoves.bound]
  refine ⟨h arm hbefore, ?_⟩
  intro hsame
  cases hterminal : state.isTerminal with
  | false => rfl
  | true => exact absurd (hheld hterminal arm hbefore hsame) (hreleased hterminal)

/-- A record that is written back touches neither sessions nor arms. -/
theorem Authorized.setDevice {device : ClassroomDevice} (h : s.Authorized) :
    (s.setDevice device).Authorized := h

theorem revoked_spec {deviceId actorId : String} {cleared : ℕ} {events : List ReceivedEvent}
    {now : Instant} (h : s.revoked deviceId actorId cleared events now = .ok s') :
    s'.sessions = s.sessions ∧
      ∀ arm ∈ s'.supervisor.arms, arm ∈ s.supervisor.arms ∧ arm.deviceId ≠ deviceId := by
  obtain ⟨freed, hfreed, h⟩ := bind_eq_ok.mp h
  obtain rfl := Except.ok.inj h
  obtain ⟨device, _, hfreed⟩ := bind_eq_ok.mp hfreed
  obtain rfl := Except.ok.inj hfreed
  refine ⟨rfl, ?_⟩
  intro arm harm
  obtain ⟨hstopped, hother⟩ := (Table.mem_filterRows _).mp harm
  exact ⟨disarm_arms s.supervisor deviceId arm hstopped, of_decide_eq_true hother⟩

theorem Authorized.of_sessions (h : s.Authorized) (hsessions : s'.sessions = s.sessions)
    (harms : ∀ arm ∈ s'.supervisor.arms, arm ∈ s.supervisor.arms) : s'.Authorized := by
  intro arm harm
  rw [BoundTo, hsessions]
  exact h arm (harms arm harm)

/-- The session may be armed: it has validated, an instructor asks, and its policy is known. -/
def ReadyToArm (s : Classroom) (sessionId instructorId : String) : Prop :=
  ∃ session ∈ s.sessions, session.sessionId = sessionId ∧
    session.state ∈ [SessionState.ready, .waitingForArm] ∧ instructorId ≠ "" ∧
    (s.supervisor.policies.get? session.safetyPolicyId).isSome

theorem getPolicy_isSome {supervisor : SafetySupervisor} {policyId : String}
    {policy : SafetyPolicy} (h : supervisor.getPolicy policyId = .ok policy) :
    (supervisor.policies.get? policyId).isSome := by
  unfold SafetySupervisor.getPolicy at h
  split at h
  · rename_i hfound
    rw [hfound]
    rfl
  · cases h

theorem arm_ready {sessionId deviceId instructorId : String} {ttl : Option Duration}
    {now : Instant} (h : s.arm sessionId deviceId instructorId ttl now = .ok s') :
    s.ReadyToArm sessionId instructorId := by
  obtain ⟨session, hsession, h⟩ := bind_eq_ok.mp h
  obtain ⟨hready, h⟩ := seq_eq_ok.mp h
  obtain ⟨supervisor, hsupervisor, h⟩ := bind_eq_ok.mp h
  obtain ⟨armed, harmed, _⟩ := bind_eq_ok.mp h
  obtain ⟨hinstructor, harmed⟩ := seq_eq_ok.mp harmed
  obtain ⟨policy, hpolicy, _⟩ := bind_eq_ok.mp harmed
  obtain ⟨hmem, hid⟩ := getSession_mem hsession
  have hknown : (s.supervisor.policies.get? session.safetyPolicyId).isSome := by
    cases ttl with
    | none =>
      obtain rfl := Except.ok.inj hsupervisor
      exact getPolicy_isSome hpolicy
    | some ttl =>
      obtain ⟨before, hbefore, _⟩ := bind_eq_ok.mp hsupervisor
      exact getPolicy_isSome hbefore
  exact ⟨session, hmem, hid, not_not.mp (raiseIf_eq_ok.mp hready), raiseIf_eq_ok.mp hinstructor,
    hknown⟩

end Classroom

namespace RuntimeState
variable {p p' : RuntimeState} {event : RuntimeEvent} {out : List DispatchReport}

/-- What is asked of the steps: a session that may be armed is armed for a device of its own; a
session that is bound anew keeps the devices that are armed for it; and when a session ends, the
registry still has these devices assigned to it. -/
def KeepsArms (p : RuntimeState) : RuntimeEvent → Prop
  | .arm sessionId deviceId instructorId _ _ =>
    p.room.ReadyToArm sessionId instructorId → p.room.BoundTo sessionId deviceId
  | .bindDevices sessionId deviceIds _ =>
    ∀ arm ∈ p.room.supervisor.arms, arm.sessionId = sessionId → arm.deviceId ∈ deviceIds
  | .transition sessionId state _ _ =>
    state.isTerminal = true → ∀ arm ∈ p.room.supervisor.arms, arm.sessionId = sessionId →
      p.room.assignedTo arm.deviceId = some sessionId
  | _ => True

theorem authorized_step (h : p.room.Authorized) (hkeeps : p.KeepsArms event)
    (hstep : p.step event = some (p', out)) : p'.room.Authorized := by
  by_cases hquiet : event.IsQuiet
  · exact h.quiet (quiet_step hquiet hstep)
  · cases event with
    | bindDevices sessionId deviceIds now =>
      cases hstep
      unfold roomAfter
      dsimp only
      split
      · exact h
      · rename_i session hsession
        obtain ⟨_, rfl⟩ := Classroom.getSession_mem hsession
        rcases Classroom.bindDevices_spec (s := p.room) session deviceIds now with
          htakes | hrebinds
        · exact h.takes htakes
        · exact h.rebinds hrebinds hkeeps
    | transition sessionId state reason now =>
      cases hstep
      unfold roomAfter
      dsimp only
      split
      · exact h
      · rename_i session hsession
        obtain ⟨hmem, rfl⟩ := Classroom.getSession_mem hsession
        cases hmoved : p.room.transition session state reason now with
        | error error => exact h
        | ok after => exact h.moves (Classroom.transition_moves hmem hmoved) hkeeps
    | arm sessionId deviceId instructorId ttl now =>
      cases hstep
      apply Classroom.armLeaves_rule (P := Classroom.Authorized) h
      · intro supervisor harms
        exact h.of_sessions rfl fun arm harm => harms ▸ harm
      · intro after harmed
        obtain ⟨hsessions, _, harms⟩ := Classroom.arm_spec harmed
        intro arm harm
        rw [Classroom.BoundTo, hsessions]
        rcases harms arm harm with hbefore | ⟨hsession, hdevice⟩
        · exact h arm hbefore
        · rw [hsession, hdevice]
          exact hkeeps (Classroom.arm_ready harmed)
    | revoked deviceId actorId cleared events now =>
      cases hstep
      refine orUnchanged_rule (P := Classroom.Authorized) h ?_
      intro after hrevoked
      obtain ⟨hsessions, harms⟩ := Classroom.revoked_spec hrevoked
      exact h.of_sessions hsessions fun arm harm => (harms arm harm).1
    | connected link failure =>
      obtain ⟨device, _, hroom, _⟩ := connected_spec hstep
      rw [hroom]
      cases failure with
      | none => exact h.setDevice
      | some reason => exact h.setDevice
    | disconnected link now =>
      obtain ⟨device, reason, _, hroom, _⟩ := disconnected_spec hstep
      rw [hroom]
      refine orUnchanged_rule (P := Classroom.Authorized) h ?_
      intro after hunlinked
      have hwritten : (p.room.setDevice { device with state := .disconnected }).Authorized :=
        h.setDevice
      exact hwritten.quiet (Classroom.quiet_handleDisconnect hunlinked)
    | createSession => exact absurd trivial hquiet
    | setFailurePolicy => exact absurd trivial hquiet
    | disarm => exact absurd trivial hquiet
    | lookArm => exact absurd trivial hquiet
    | discard => exact absurd trivial hquiet
    | stopped => exact absurd trivial hquiet
    | allStopped => exact absurd trivial hquiet
    | watchdogDisarmed => exact absurd trivial hquiet
    | dispatch => exact absurd trivial hquiet
    | discovered => exact absurd trivial hquiet
    | connect => exact absurd trivial hquiet
    | disconnect => exact absurd trivial hquiet

end RuntimeState

theorem authorized_initial {p : RuntimeState} (h : classroomRuntime.Initial p) :
    p.room.Authorized := by
  obtain ⟨_, _, _, harms⟩ := h
  intro arm harm
  rw [harms] at harm
  exact absurd harm (Table.not_mem_empty _)

/-- In a run whose steps keep the arms, in every state that it reaches: every arm is for a live
session that has its device, a step that ends the session or takes the device from it leaves no
such arm, and a session is not armed for a device that it does not have. -/
theorem arms_authorized {trace : List (RuntimeEvent × List DispatchReport)} {p : RuntimeState}
    (hrun : (classroomRuntime.restrict RuntimeState.KeepsArms).Run trace p) :
    (∀ arm ∈ p.room.supervisor.arms, p.room.BoundTo arm.sessionId arm.deviceId) ∧
    (∀ event p' out, (classroomRuntime.restrict RuntimeState.KeepsArms).Step p event p' out →
      ∀ sessionId deviceId, ¬p'.room.BoundTo sessionId deviceId →
        ∀ arm ∈ p'.room.supervisor.arms, arm.sessionId = sessionId → arm.deviceId ≠ deviceId) ∧
    (∀ deviceId actorId cleared events now after,
      p.room.revoked deviceId actorId cleared events now = .ok after →
        ∀ arm ∈ after.supervisor.arms, arm.deviceId ≠ deviceId) ∧
    ∀ sessionId deviceId instructorId ttl now,
      p.KeepsArms (.arm sessionId deviceId instructorId ttl now) →
      ¬p.room.BoundTo sessionId deviceId →
        ∀ after, p.room.arm sessionId deviceId instructorId ttl now ≠ .ok after := by
  have hauthorized : p.room.Authorized :=
    Machine.Run.induct (M := classroomRuntime.restrict RuntimeState.KeepsArms)
      (P := fun _ p => p.room.Authorized) (fun _ hinit => authorized_initial hinit)
      (fun _ ih hstep => RuntimeState.authorized_step ih hstep.1 hstep.2) hrun
  refine ⟨hauthorized, ?_, ?_, ?_⟩
  · intro event p' out hstep sessionId deviceId hunbound arm harm hsession hdevice
    have hafter := RuntimeState.authorized_step hauthorized hstep.1 hstep.2
    apply hunbound
    rw [← hsession, ← hdevice]
    exact hafter arm harm
  · intro deviceId actorId cleared events now after hrevoked arm harm
    exact ((Classroom.revoked_spec hrevoked).2 arm harm).2
  · intro sessionId deviceId instructorId ttl now hkeeps hunbound after harmed
    exact hunbound (hkeeps (Classroom.arm_ready harmed))

def validatedLesson : List RuntimeEvent :=
  firstLesson ++ [RuntimeEvent.transition "lesson-1" .validating none 3, .transition "lesson-1" .ready none 4]

/-- Devices are bound and sessions end while nothing is armed, and arming is for a bound device. -/
def RuntimeState.armsLate (p : RuntimeState) : RuntimeEvent → Bool
  | .arm sessionId deviceId _ _ _ => decide (p.room.BoundTo sessionId deviceId)
  | .bindDevices .. | .transition .. => p.room.supervisor.arms.rows.isEmpty
  | _ => true

theorem RuntimeState.keepsArms_of_armsLate {p : RuntimeState} {event : RuntimeEvent}
    (h : p.armsLate event = true) : p.KeepsArms event := by
  have hnone (hempty : p.room.supervisor.arms.rows.isEmpty = true) (arm : ArmState)
      (harm : arm ∈ p.room.supervisor.arms) : False := by
    have harm : arm ∈ p.room.supervisor.arms.rows := harm
    rw [List.isEmpty_iff.mp hempty] at harm
    cases harm
  unfold KeepsArms
  split
  · exact fun _ => of_decide_eq_true h
  · exact fun arm harm => (hnone h arm harm).elim
  · exact fun _ arm harm => (hnone h arm harm).elim
  · trivial

/-- The robot is armed for the lesson that has it. -/
theorem arms_authorized_lesson : ∃ trace p,
    (classroomRuntime.restrict RuntimeState.KeepsArms).Run trace p ∧
    (∃ arm ∈ p.room.supervisor.arms, arm.sessionId = "lesson-1" ∧ arm.deviceId = "robot") ∧
    ((∀ arm ∈ p.room.supervisor.arms, p.room.BoundTo arm.sessionId arm.deviceId) ∧
    (∀ event p' out, (classroomRuntime.restrict RuntimeState.KeepsArms).Step p event p' out →
      ∀ sessionId deviceId, ¬p'.room.BoundTo sessionId deviceId →
        ∀ arm ∈ p'.room.supervisor.arms, arm.sessionId = sessionId → arm.deviceId ≠ deviceId) ∧
    (∀ deviceId actorId cleared events now after,
      p.room.revoked deviceId actorId cleared events now = .ok after →
        ∀ arm ∈ after.supervisor.arms, arm.deviceId ≠ deviceId) ∧
    ∀ sessionId deviceId instructorId ttl now,
      p.KeepsArms (.arm sessionId deviceId instructorId ttl now) →
      ¬p.room.BoundTo sessionId deviceId →
        ∀ after, p.room.arm sessionId deviceId instructorId ttl now ≠ .ok after) := by
  have hexec : ((Machine.execute RuntimeState.step (fun p event => p.armsLate event = true)
      laboratory (validatedLesson ++ [RuntimeEvent.arm "lesson-1" "robot" "instructor-1" none 5])).any
        fun last => decide (∃ arm ∈ last.1.room.supervisor.arms.rows,
          arm.sessionId = "lesson-1" ∧ arm.deviceId = "robot")) = true := by
    decide
  obtain ⟨last, hlast, hend⟩ := (Option.any_eq_true ..).mp hexec
  have hrun := (Machine.run_of_execute (M := classroomRuntime) ⟨rfl, rfl, rfl, rfl⟩ id hlast).mono
    RuntimeState.keepsArms_of_armsLate
  exact ⟨_, _, hrun, of_decide_eq_true hend, arms_authorized hrun⟩

/-- A lesson is armed for a device that it never had; it completes, and the arm stays. -/
theorem arm_outlives_session : ∃ trace p, classroomRuntime.Run trace p ∧
    (∃ session ∈ p.room.sessions, session.sessionId = "lesson-1" ∧
      session.state = .completed) ∧
    ∃ arm ∈ p.room.supervisor.arms, arm.sessionId = "lesson-1" ∧ arm.deviceId = "drone" ∧
      ¬p.room.BoundTo "lesson-1" "drone" := by
  have hexec : ((Machine.execute RuntimeState.step (fun _ _ => True) laboratory
      (validatedLesson ++ [RuntimeEvent.arm "lesson-1" "drone" "instructor-1" none 5,
        .transition "lesson-1" .stopping none 6,
        .transition "lesson-1" .completed none 7])).any fun last =>
      decide ((∃ session ∈ last.1.room.sessions.rows, session.sessionId = "lesson-1" ∧
          session.state = .completed) ∧
        ∃ arm ∈ last.1.room.supervisor.arms.rows, arm.sessionId = "lesson-1" ∧
          arm.deviceId = "drone" ∧ ¬last.1.room.BoundTo "lesson-1" "drone")) = true := by
    decide
  obtain ⟨last, hlast, hend⟩ := (Option.any_eq_true ..).mp hexec
  have hrun := (Machine.run_of_execute (M := classroomRuntime) ⟨rfl, rfl, rfl, rfl⟩
    id hlast).of_restrict
  exact ⟨_, _, hrun, of_decide_eq_true hend⟩

end CitPhysicalXR.Runtime
