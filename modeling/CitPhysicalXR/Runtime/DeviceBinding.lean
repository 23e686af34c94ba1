import CitPhysicalXR.Runtime.Bindings

/-! Exclusive bindings: a device is bound by one live session at most, and a command reaches it
only for the session that the registry has it assigned to. -/
namespace CitPhysicalXR.Runtime
open Foundation

namespace Classroom
variable {s s' : Classroom}

/-- The registry agrees with the bindings of the live sessions. -/
def Agrees (s : Classroom) : Prop :=
  ∀ sessionId deviceId, s.BoundTo sessionId deviceId → s.assignedTo deviceId = some sessionId

theorem Agrees.quiet (h : s.Agrees) (hquiet : Quiet s s') : s'.Agrees := by
  intro sessionId deviceId hbound
  rw [hquiet.assigned]
  exact h sessionId deviceId ((hquiet.bound sessionId deviceId).mp hbound)

theorem Agrees.of_eq (h : s.Agrees) (hsessions : s'.sessions = s.sessions)
    (hdevices : s'.devices = s.devices) : s'.Agrees := by
  intro sessionId deviceId hbound
  rw [BoundTo, hsessions] at hbound
  rw [assignedTo, hdevices]
  exact h sessionId deviceId hbound

theorem Agrees.takes {sessionId : String} (h : s.Agrees) (htakes : Takes sessionId s s') :
    s'.Agrees := by
  intro other deviceId hbound
  have hassigned : s.assignedTo deviceId = some other := by
    apply h
    unfold BoundTo at hbound ⊢
    rwa [htakes.sessions] at hbound
  rcases htakes.assigned deviceId with hsame | ⟨_, hfree⟩
  · rw [hsame, hassigned]
  · rw [hassigned] at hfree
    cases hfree

theorem Agrees.rebinds {session : ClassroomSession} {deviceIds : List String} (h : s.Agrees)
    (hrebinds : Rebinds session deviceIds s s') : s'.Agrees := by
  intro sessionId deviceId hbound
  rw [hrebinds.bound] at hbound
  split at hbound
  · rename_i hsame
    rw [hsame]
    exact hrebinds.own deviceId hbound
  · have hassigned := h sessionId deviceId hbound
    rcases hrebinds.assigned deviceId with hsame | ⟨_, hfree⟩
    · rw [hsame, hassigned]
    · rw [hassigned] at hfree
      cases hfree

theorem Agrees.moves {session : ClassroomSession} {state : SessionState} (h : s.Agrees)
    (hmoves : Moves session state s s') : s'.Agrees := by
  intro sessionId deviceId hbound
  obtain ⟨hbefore, hlive⟩ := (hmoves.bound sessionId deviceId).mp hbound
  have hassigned := h sessionId deviceId hbefore
  rw [hmoves.assigned, if_neg, hassigned]
  intro hreleased
  have hsame : sessionId = session.sessionId :=
    Option.some.inj (hassigned.symm.trans hreleased.2)
  rw [hlive hsame] at hreleased
  exact absurd hreleased.1 Bool.false_ne_true

/-- A record that gives the device to every live session that has it. -/
def Covers (s : Classroom) (device : ClassroomDevice) : Prop :=
  ∀ sessionId, s.BoundTo sessionId device.deviceId → device.assignedSessionId = some sessionId

theorem Agrees.setDevice {device : ClassroomDevice} (h : s.Agrees) (hcovers : s.Covers device) :
    (s.setDevice device).Agrees := by
  intro sessionId deviceId hbound
  rw [assignedTo_setDevice]
  split
  · rename_i hsame
    exact hcovers sessionId (hsame ▸ hbound)
  · exact h sessionId deviceId hbound

theorem Agrees.revoked {deviceId actorId : String} {cleared : ℕ} {events : List ReceivedEvent}
    {now : Instant} (h : s.Agrees) (hunbound : ∀ sessionId, ¬s.BoundTo sessionId deviceId)
    (hrevoked : s.revoked deviceId actorId cleared events now = .ok s') : s'.Agrees := by
  obtain ⟨freed, hfreed, hrevoked⟩ := bind_eq_ok.mp hrevoked
  obtain rfl := Except.ok.inj hrevoked
  obtain ⟨device, hdevice, hfreed⟩ := bind_eq_ok.mp hfreed
  obtain rfl := Except.ok.inj hfreed
  have hid := (Table.get?_some (getDevice_get? hdevice)).2
  have hstopped : (s.stopped deviceId "lease revoked" actorId cleared events now).Agrees :=
    h.quiet (quiet_stopped deviceId "lease revoked" actorId cleared events now)
  refine Agrees.setDevice hstopped ?_
  intro sessionId hbound
  exact absurd (hid ▸ hbound) (hunbound sessionId)

/-- A command that is no stop has passed the binding check of its session. -/
theorem permission_bound {supervisor : SafetySupervisor} {command : DeviceCommandIntent}
    {sessionDeviceIds : List String} {physical : Bool} {policy : SafetyPolicy}
    (h : supervisor.permission command sessionDeviceIds physical = .ok policy) :
    command.deviceId ∈ sessionDeviceIds := by
  obtain ⟨_, h⟩ := seq_eq_ok.mp h
  obtain ⟨hbound, _⟩ := seq_eq_ok.mp h
  exact not_not.mp (raiseIf_eq_ok.mp hbound)

theorem evaluate_bound {supervisor : SafetySupervisor} {command : DeviceCommandIntent}
    {sessionDeviceIds : List String} {physical : Bool} {reading : Reading} {bounds : Bounded}
    (h : (supervisor.evaluate command sessionDeviceIds physical reading).1 = .ok bounds)
    (hstop : command.action ∉ stopActions) : command.deviceId ∈ sessionDeviceIds := by
  unfold SafetySupervisor.evaluate at h
  rw [if_neg hstop] at h
  split at h
  · cases h
  · rename_i hpermitted
    exact permission_bound hpermitted

theorem authorize_bound {p : CommandPipeline} {session : ProgramSession}
    {device : RegisteredDevice} {command : DeviceCommandIntent} {reading : Reading}
    {execution : Execution}
    (h : .executed execution ∈ (p.authorize session device command reading).2)
    (hstop : execution.command.action ∉ stopActions) :
    execution.command = command ∧ command.deviceId ∈ session.deviceBindings := by
  unfold CommandPipeline.authorize at h
  simp only at h
  split at h
  · simp at h
  · rename_i bounds heq
    split at h
    · simp at h
    · have hcommand : execution.command = command := by
        rcases List.mem_append.mp h with hclamped | hexecuted
        · split at hclamped
          · simp at hclamped
          · simp at hclamped
        · obtain rfl := DispatchReport.executed.inj (List.mem_singleton.mp hexecuted)
          rfl
      rw [hcommand] at hstop
      exact ⟨hcommand, evaluate_bound heq hstop⟩

theorem resolve_spec {command : DeviceCommandIntent} {session : ProgramSession}
    {device : RegisteredDevice} (h : s.pipeline.resolve command = .ok (session, device)) :
    session.state.isTerminal = false ∧
      ∃ full ∈ s.sessions, full.sessionId = command.sessionId ∧
        full.toProgramSession = session := by
  unfold CommandPipeline.resolve at h
  split at h
  · cases h
  · rename_i found hfound
    split at h
    · cases h
    · rename_i hlive
      split at h
      · cases h
      · split at h
        · cases h
        · obtain ⟨rfl, _⟩ := Prod.mk.inj (Except.ok.inj h)
          obtain ⟨hmem, hid⟩ := Table.get?_some hfound
          obtain ⟨full, hfull, rfl⟩ := List.mem_map.mp hmem
          exact ⟨Bool.eq_false_iff.mpr hlive, full, hfull, hid, rfl⟩

theorem dispatch_bound {command : DeviceCommandIntent} {reading : Reading} {execution : Execution}
    (h : .executed execution ∈ (s.pipeline.dispatch command reading).2)
    (hstop : execution.command.action ∉ stopActions) :
    s.BoundTo execution.command.sessionId execution.command.deviceId := by
  unfold CommandPipeline.dispatch at h
  split at h
  · simp at h
  · rename_i session device hresolved
    simp only at h
    split at h
    · simp at h
    · obtain ⟨hcommand, hmem⟩ := authorize_bound h hstop
      obtain ⟨hlive, full, hfull, hid, rfl⟩ := resolve_spec hresolved
      rw [hcommand]
      exact ⟨full, hfull, hid, hlive, hmem⟩

end Classroom

namespace RuntimeState
variable {p p' : RuntimeState} {event : RuntimeEvent} {out : List DispatchReport}

/-- What is asked of the steps: a device is revoked when no live session has it, and the record
that a link writes back gives the device to the live session that has it. -/
def KeepsBinding (p : RuntimeState) : RuntimeEvent → Prop
  | .revoked deviceId _ _ _ _ => ∀ sessionId, ¬p.room.BoundTo sessionId deviceId
  | .connected link _ | .disconnected link _ =>
    ∀ task, p.links[link]? = some task → p.room.Covers task.device
  | _ => True

theorem agrees_step (h : p.room.Agrees) (hkeeps : p.KeepsBinding event)
    (hstep : p.step event = some (p', out)) : p'.room.Agrees := by
  by_cases hquiet : event.IsQuiet
  · exact h.quiet (quiet_step hquiet hstep)
  · cases event with
    | bindDevices sessionId deviceIds now =>
      cases hstep
      unfold roomAfter
      dsimp only
      split
      · exact h
      · rename_i session _
        rcases Classroom.bindDevices_spec (s := p.room) session deviceIds now with
          htakes | hrebinds
        · exact h.takes htakes
        · exact h.rebinds hrebinds
    | transition sessionId state reason now =>
      cases hstep
      unfold roomAfter
      dsimp only
      split
      · exact h
      · rename_i session hsession
        obtain ⟨hmem, _⟩ := Classroom.getSession_mem hsession
        cases hmoved : p.room.transition session state reason now with
        | error error => exact h
        | ok after => exact h.moves (Classroom.transition_moves hmem hmoved)
    | arm sessionId deviceId instructorId ttl now =>
      cases hstep
      apply Classroom.armLeaves_rule (P := Classroom.Agrees) h
      · exact fun supervisor _ => h.of_eq rfl rfl
      · intro after harmed
        obtain ⟨hsessions, hdevices, _⟩ := Classroom.arm_spec harmed
        exact h.of_eq hsessions hdevices
    | revoked deviceId actorId cleared events now =>
      cases hstep
      exact orUnchanged_rule (P := Classroom.Agrees) h fun _ hrevoked => h.revoked hkeeps hrevoked
    | connected link failure =>
      obtain ⟨device, htask, hroom, _⟩ := connected_spec hstep
      have hcovers := hkeeps _ htask
      rw [hroom]
      cases failure with
      | none => exact h.setDevice hcovers
      | some reason => exact h.setDevice hcovers
    | disconnected link now =>
      obtain ⟨device, reason, htask, hroom, _⟩ := disconnected_spec hstep
      have hcovers := hkeeps _ htask
      rw [hroom]
      refine orUnchanged_rule (P := Classroom.Agrees) h ?_
      intro after hunlinked
      have hwritten : (p.room.setDevice { device with state := .disconnected }).Agrees :=
        h.setDevice hcovers
      exact hwritten.quiet (Classroom.quiet_handleDisconnect hunlinked)
    | createSession => exact absurd trivial hquiet
    | setFailurePolicy => exact absurd trivial hquiet
    | disarm => exact absurd trivial hquiet
    | lookArm => exact absurd trivial hquiet
    | discard => exact absurd trivial hquiet
    | stopped => exact absurd trivial hquiet
    | allStopped => exact absurd trivial hquiet
    | watchdogDisarmed => exact absurd trivial hquiet
    | dispatch => exact absurd trivial hquiet
    | discovered => exact absurd trivial hquiet
    | connect => exact absurd trivial hquiet
    | disconnect => exact absurd trivial hquiet

theorem step_executed {execution : Execution} (hstep : p.step event = some (p', out))
    (hexecuted : .executed execution ∈ out) : ∃ command reading,
      event = .dispatch command reading ∧ out = (p.room.pipeline.dispatch command reading).2 := by
  cases event with
  | dispatch command reading =>
    cases hstep
    exact ⟨command, reading, rfl, rfl⟩
  | connected link failure =>
    obtain ⟨_, _, _, rfl⟩ := connected_spec hstep
    simp at hexecuted
  | disconnected link now =>
    obtain ⟨_, _, _, _, rfl⟩ := disconnected_spec hstep
    simp at hexecuted
  | connect deviceId =>
    simp only [step] at hstep
    split at hstep <;> cases hstep <;> simp at hexecuted
  | disconnect deviceId reason =>
    simp only [step] at hstep
    split at hstep <;> cases hstep <;> simp at hexecuted
  | _ =>
    cases hstep
    simp at hexecuted

end RuntimeState

theorem agrees_initial {p : RuntimeState} (h : classroomRuntime.Initial p) : p.room.Agrees := by
  obtain ⟨_, hsessions, _, _⟩ := h
  intro sessionId deviceId hbound
  obtain ⟨session, hmem, _⟩ := hbound
  rw [hsessions] at hmem
  exact absurd hmem (Table.not_mem_empty _)

/-- In a run whose revocations and links keep the binding, in every state that it reaches: a
device is bound by one live session at most, and a command that is no stop is handed over for the
session that the registry has its device assigned to. -/
theorem exclusive_binding {trace : List (RuntimeEvent × List DispatchReport)} {p : RuntimeState}
    (hrun : (classroomRuntime.restrict RuntimeState.KeepsBinding).Run trace p) :
    (∀ first second deviceId, p.room.BoundTo first deviceId → p.room.BoundTo second deviceId →
      first = second) ∧
    ∀ event p' out execution, classroomRuntime.Step p event p' out →
      .executed execution ∈ out → execution.command.action ∉ stopActions →
      p.room.assignedTo execution.command.deviceId = some execution.command.sessionId := by
  have hagrees : p.room.Agrees :=
    Machine.Run.induct (M := classroomRuntime.restrict RuntimeState.KeepsBinding)
      (P := fun _ p => p.room.Agrees) (fun _ hinit => agrees_initial hinit)
      (fun _ ih hstep => RuntimeState.agrees_step ih hstep.1 hstep.2) hrun
  refine ⟨?_, ?_⟩
  · intro first second deviceId hfirst hsecond
    exact Option.some.inj ((hagrees first deviceId hfirst).symm.trans
      (hagrees second deviceId hsecond))
  · intro event p' out execution hstep hexecuted hstop
    obtain ⟨command, reading, _, rfl⟩ := RuntimeState.step_executed hstep hexecuted
    exact hagrees _ _ (Classroom.dispatch_bound hexecuted hstop)

/-- A laboratory before its first lesson. -/
def laboratory : RuntimeState where
  room := { physicalEnabled := true, authority := { instructorPasscode := "3f9a1c20" } }
  links := []

def labRobot : ClassroomDevice where
  deviceId := "robot"
  physical := true
  state := .discovered
  displayName := "Robot"
  deviceType := "robot"
  model := "S1"
  capabilities := ["light.rgb"]

def labRequest (sessionId : String) : CreateSessionRequest where
  projectId := "project"
  executionMode := .physical
  sessionId := sessionId

/-- A lesson turns the light of the robot on. -/
def lightCommand (sessionId : String) : DeviceCommandIntent where
  commandId := "command"
  sessionId := sessionId
  deviceId := "robot"
  capability := "light.rgb"
  action := "set"
  arguments := .empty
  source := .studentBlocks
  issuedAt := 0
  expiresAt := 10
  idempotencyKey := "key"
  safetyContext := ⟨"simulation-only", false, none, none⟩

def firstLesson : List RuntimeEvent :=
  [.discovered labRobot, .connect "robot", .connected 0 none,
    .createSession (labRequest "lesson-1") "student-1" 1, .bindDevices "lesson-1" ["robot"] 2]

/-- No device is revoked, and no link comes back once there is a session. -/
def RuntimeState.isCalm (p : RuntimeState) : RuntimeEvent → Bool
  | .revoked .. => false
  | .connected .. | .disconnected .. => p.room.sessions.rows.isEmpty
  | _ => true

theorem RuntimeState.keepsBinding_of_isCalm {p : RuntimeState} {event : RuntimeEvent}
    (h : p.isCalm event = true) : p.KeepsBinding event := by
  have hcovers (hempty : p.room.sessions.rows.isEmpty = true) (device : ClassroomDevice) :
      p.room.Covers device := by
    intro sessionId hbound
    obtain ⟨session, hmem, _⟩ := hbound
    have hmem : session ∈ p.room.sessions.rows := hmem
    rw [List.isEmpty_iff.mp hempty] at hmem
    cases hmem
  unfold KeepsBinding
  split
  · cases h
  · exact fun task _ => hcovers h task.device
  · exact fun task _ => hcovers h task.device
  · trivial

/-- The first lesson has the robot alone, and its light is turned on. -/
theorem exclusive_binding_lesson : ∃ trace p,
    (classroomRuntime.restrict RuntimeState.KeepsBinding).Run trace p ∧
    p.room.BoundTo "lesson-1" "robot" ∧
    (Machine.outputs trace).length = 1 ∧
    ((∀ first second deviceId, p.room.BoundTo first deviceId → p.room.BoundTo second deviceId →
      first = second) ∧
    ∀ event p' out execution, classroomRuntime.Step p event p' out →
      .executed execution ∈ out → execution.command.action ∉ stopActions →
      p.room.assignedTo execution.command.deviceId = some execution.command.sessionId) := by
  have hexec : ((Machine.execute RuntimeState.step (fun p event => p.isCalm event = true)
      laboratory (firstLesson ++ [RuntimeEvent.dispatch (lightCommand "lesson-1") ⟨3, 3, 3⟩])).any fun last =>
        decide (last.1.room.BoundTo "lesson-1" "robot" ∧
          (Machine.outputs last.2).length = 1)) = true := by
    decide
  obtain ⟨last, hlast, hend⟩ := (Option.any_eq_true ..).mp hexec
  have hrun := (Machine.run_of_execute (M := classroomRuntime) ⟨rfl, rfl, rfl, rfl⟩ id hlast).mono
    RuntimeState.keepsBinding_of_isCalm
  obtain ⟨hbound, hlength⟩ := of_decide_eq_true hend
  exact ⟨_, _, hrun, hbound, hlength, exclusive_binding hrun⟩

def isFirstLight : DispatchReport → Bool
  | .executed execution => decide (execution.command.action ∉ stopActions ∧
      execution.command.deviceId = "robot" ∧ execution.command.sessionId = "lesson-1")
  | _ => false

/-- The robot is revoked and bound by a second lesson: the first one still has it and turns its
light on. -/
theorem revoked_device_shared : ∃ trace p, classroomRuntime.Run trace p ∧
    p.room.BoundTo "lesson-1" "robot" ∧ p.room.BoundTo "lesson-2" "robot" ∧
    p.room.assignedTo "robot" = some "lesson-2" ∧
    ∃ event p' out execution, classroomRuntime.Step p event p' out ∧
      .executed execution ∈ out ∧ execution.command.action ∉ stopActions ∧
      execution.command.deviceId = "robot" ∧ execution.command.sessionId = "lesson-1" := by
  have hexec : ((Machine.execute RuntimeState.step (fun _ _ => True) laboratory
      (firstLesson ++ [RuntimeEvent.revoked "robot" "instructor-1" 0 [] 3,
        .createSession (labRequest "lesson-2") "student-2" 4,
        .bindDevices "lesson-2" ["robot"] 5])).any fun last =>
      decide (last.1.room.BoundTo "lesson-1" "robot" ∧ last.1.room.BoundTo "lesson-2" "robot" ∧
        last.1.room.assignedTo "robot" = some "lesson-2" ∧
        ((last.1.room.pipeline.dispatch (lightCommand "lesson-1") ⟨6, 6, 6⟩).2.any
          isFirstLight) = true)) = true := by
    decide
  obtain ⟨last, hlast, hend⟩ := (Option.any_eq_true ..).mp hexec
  have hrun := (Machine.run_of_execute (M := classroomRuntime) ⟨rfl, rfl, rfl, rfl⟩
    id hlast).of_restrict
  obtain ⟨hfirst, hsecond, hassigned, hout⟩ := of_decide_eq_true hend
  obtain ⟨report, hreport, hholds⟩ := List.any_eq_true.mp hout
  cases report with
  | denied command denial => cases hholds
  | clamped command fields => cases hholds
  | executed execution =>
    exact ⟨_, _, hrun, hfirst, hsecond, hassigned, .dispatch (lightCommand "lesson-1") ⟨6, 6, 6⟩,
      _, _, execution, rfl, hreport, of_decide_eq_true hholds⟩

end CitPhysicalXR.Runtime
