import CitPhysicalXR.Runtime.ClassroomRuntime

/-! What each step of the runtime does to the bindings of the sessions, to the assignments of the
registry and to the arms. -/
namespace CitPhysicalXR.Runtime
open Foundation

namespace Classroom
variable {s s' : Classroom}

def assignedTo (s : Classroom) (deviceId : String) : Option String :=
  (s.devices.get? deviceId).bind (·.assignedSessionId)

/-- A session that has not ended has the device among its bindings. -/
def BoundTo (s : Classroom) (sessionId deviceId : String) : Prop :=
  ∃ session ∈ s.sessions, session.sessionId = sessionId ∧ session.state.isTerminal = false ∧
    deviceId ∈ session.deviceBindings

instance (s : Classroom) (sessionId deviceId : String) : Decidable (s.BoundTo sessionId deviceId) :=
  inferInstanceAs (Decidable (∃ session ∈ s.sessions.rows, session.sessionId = sessionId ∧
    session.state.isTerminal = false ∧ deviceId ∈ session.deviceBindings))

/-- A step that moves no binding and arms nothing. -/
structure Quiet (s s' : Classroom) : Prop where
  bound : ∀ sessionId deviceId, s'.BoundTo sessionId deviceId ↔ s.BoundTo sessionId deviceId
  assigned : ∀ deviceId, s'.assignedTo deviceId = s.assignedTo deviceId
  arms : ∀ arm ∈ s'.supervisor.arms, arm ∈ s.supervisor.arms

theorem Quiet.of_eq (hsessions : s'.sessions = s.sessions) (hdevices : s'.devices = s.devices)
    (harms : ∀ arm ∈ s'.supervisor.arms, arm ∈ s.supervisor.arms) : Quiet s s' where
  bound sessionId deviceId := by rw [BoundTo, BoundTo, hsessions]
  assigned deviceId := by rw [assignedTo, assignedTo, hdevices]
  arms := harms

theorem Quiet.refl (s : Classroom) : Quiet s s := .of_eq rfl rfl fun _ h => h

theorem Quiet.trans {middle after : Classroom} (h : Quiet s middle) (h' : Quiet middle after) :
    Quiet s after where
  bound sessionId deviceId := (h'.bound sessionId deviceId).trans (h.bound sessionId deviceId)
  assigned deviceId := (h'.assigned deviceId).trans (h.assigned deviceId)
  arms arm harm := h.arms arm (h'.arms arm harm)

theorem Quiet.record (h : Quiet s s') (action : AuditAction) (actorId : String) (at_ : Instant)
    (context : AuditContext) : Quiet s (s'.record action actorId at_ context) :=
  ⟨h.bound, h.assigned, h.arms⟩

theorem disarm_arms (supervisor : SafetySupervisor) (deviceId : String) :
    ∀ arm ∈ (supervisor.disarm deviceId).arms, arm ∈ supervisor.arms :=
  fun _ harm => (Table.mem_filterRows _ |>.mp harm).1

theorem armState_arms (supervisor : SafetySupervisor) (deviceId : String) (now : Instant) :
    ∀ arm ∈ (supervisor.armState deviceId now).2.arms, arm ∈ supervisor.arms := by
  intro arm harm
  unfold SafetySupervisor.armState at harm
  split at harm
  · exact harm
  · split at harm
    · exact harm
    · exact disarm_arms _ _ arm harm

theorem evaluate_arms (supervisor : SafetySupervisor) (command : DeviceCommandIntent)
    (sessionDeviceIds : List String) (physical : Bool) (reading : Reading) :
    ∀ arm ∈ (supervisor.evaluate command sessionDeviceIds physical reading).2.arms,
      arm ∈ supervisor.arms := by
  have hlooked := armState_arms supervisor command.deviceId reading.checkedAt
  simp only [SafetySupervisor.evaluate]
  split
  · exact fun _ h => h
  · split
    · exact fun _ h => h
    · split
      · split <;> exact hlooked
      · exact fun _ h => h

theorem dispatch_arms (p : CommandPipeline) (command : DeviceCommandIntent) (reading : Reading) :
    ∀ arm ∈ (p.dispatch command reading).1.supervisor.arms, arm ∈ p.supervisor.arms := by
  simp only [CommandPipeline.dispatch]
  split
  · exact fun _ h => h
  · rename_i session device _
    split
    · exact fun _ h => h
    · have hevaluated := evaluate_arms p.supervisor command session.deviceBindings
        (decide (session.executionMode = .physical) && device.physical) reading
      simp only [CommandPipeline.authorize]
      split
      · exact hevaluated
      · simp only [CommandPipeline.lease]
        split <;> exact hevaluated

theorem quiet_rejects (now : Instant) (answers : List StopReport) (current : Classroom)
    (h : Quiet s current) :
    Quiet s (answers.foldl (fun current answer =>
      match answer with
      | .discarded item denial => current.reject item.command denial now
      | _ => current) current) := by
  induction answers generalizing current with
  | nil => exact h
  | cons answer answers ih =>
    apply ih
    cases answer with
    | discarded item denial => exact h.record _ _ _ _
    | called deviceId reason returned => exact h
    | emergencyStop deviceId reason cleared => exact h
    | stopAll reason stopped => exact h
    | watchdogFired expiry => exact h
    | disarmed deviceId => exact h

theorem quiet_discard (deviceId reason : String) (now : Instant) :
    Quiet s (s.discard deviceId reason now).1 := by
  unfold discard
  exact quiet_rejects now _ _ (.of_eq rfl rfl fun _ h => h)

theorem quiet_stopped (deviceId reason actorId : String) (cleared : ℕ)
    (events : List ReceivedEvent) (now : Instant) :
    Quiet s (s.stopped deviceId reason actorId cleared events now) :=
  .of_eq rfl rfl (disarm_arms s.supervisor deviceId)

theorem assignedTo_setDevice (device : ClassroomDevice) (deviceId : String) :
    (s.setDevice device).assignedTo deviceId =
      if deviceId = device.deviceId then device.assignedSessionId else s.assignedTo deviceId := by
  split
  · rename_i hsame
    subst hsame
    have hfound := Table.get?_upsert_self (t := s.devices) device
    exact congrArg (fun found : Option ClassroomDevice => found.bind (·.assignedSessionId)) hfound
  · rename_i hother
    have hfound : (s.devices.upsert device).get? deviceId = s.devices.get? deviceId :=
      Table.get?_upsert_of_ne hother
    exact congrArg (fun found : Option ClassroomDevice => found.bind (·.assignedSessionId)) hfound

variable {deviceId : String} {now : Instant} {ttl : Option Duration}

theorem assignedTo_of_get? {device : ClassroomDevice}
    (h : s.devices.get? deviceId = some device) :
    s.assignedTo deviceId = device.assignedSessionId := by
  rw [assignedTo, h]
  rfl

theorem getDevice_get? {device : ClassroomDevice}
    (h : s.getDevice deviceId = .ok device) : s.devices.get? deviceId = some device :=
  Table.get?_eq_some.mpr (getDevice_ok h)

/-- A record that is written with the session it has changes no assignment. -/
theorem quiet_setDevice {device : ClassroomDevice}
    (h : s.assignedTo device.deviceId = device.assignedSessionId) :
    Quiet s (s.setDevice device) where
  bound _ _ := Iff.rfl
  assigned deviceId := by
    rw [assignedTo_setDevice]
    split
    · rename_i hsame
      rw [hsame, h]
    · rfl
  arms _ harm := harm

theorem quiet_discovered (found : ClassroomDevice) : Quiet s (s.discovered found) := by
  unfold discovered
  split
  · rename_i hnone
    apply quiet_setDevice
    show s.assignedTo found.deviceId = none
    rw [assignedTo, hnone]
    rfl
  · rename_i existing hexisting
    apply quiet_setDevice
    show s.assignedTo found.deviceId = existing.assignedSessionId
    exact assignedTo_of_get? hexisting

structure Takes (sessionId : String) (s s' : Classroom) : Prop where
  sessions : s'.sessions = s.sessions
  supervisor : s'.supervisor = s.supervisor
  assigned : ∀ deviceId, s'.assignedTo deviceId = s.assignedTo deviceId ∨
    (s'.assignedTo deviceId = some sessionId ∧ s.assignedTo deviceId = none)

theorem Takes.refl (sessionId : String) (s : Classroom) : Takes sessionId s s :=
  ⟨rfl, rfl, fun _ => .inl rfl⟩

theorem Takes.trans {sessionId : String} {middle after : Classroom} (h : Takes sessionId s middle)
    (h' : Takes sessionId middle after) : Takes sessionId s after where
  sessions := h'.sessions.trans h.sessions
  supervisor := h'.supervisor.trans h.supervisor
  assigned deviceId := by
    rcases h'.assigned deviceId with hsame | ⟨htaken, hfree⟩
    · rw [hsame]
      exact h.assigned deviceId
    · rcases h.assigned deviceId with hsame | ⟨htaken', _⟩
      · exact .inr ⟨htaken, hsame ▸ hfree⟩
      · rw [htaken'] at hfree
        cases hfree

theorem Takes.record {sessionId : String} (h : Takes sessionId s s') (action : AuditAction)
    (actorId : String) (at_ : Instant) (context : AuditContext) :
    Takes sessionId s (s'.record action actorId at_ context) :=
  ⟨h.sessions, h.supervisor, h.assigned⟩

/-- The device was free or the session's already, and is written anew. -/
theorem assign_spec {sessionId : String} (h : s.assign deviceId sessionId = .ok s') :
    ∃ device, s.devices.get? deviceId = some device ∧
      (device.assignedSessionId = none ∨ device.assignedSessionId = some sessionId) ∧
      s' = s.setDevice { device with assignedSessionId := some sessionId } := by
  obtain ⟨device, hdevice, hrest⟩ := bind_eq_ok.mp h
  refine ⟨device, getDevice_get? hdevice, ?_⟩
  split at hrest
  · rename_i holder hholder
    obtain ⟨hsame, hassigned⟩ := seq_eq_ok.mp hrest
    have hholder' : holder = sessionId := not_not.mp (raiseIf_eq_ok.mp hsame)
    exact ⟨.inr (hholder' ▸ hholder), (Except.ok.inj hassigned).symm⟩
  · exact ⟨.inl ‹_›, (Except.ok.inj hrest).symm⟩

theorem assign_takes {sessionId : String} (h : s.assign deviceId sessionId = .ok s') :
    Takes sessionId s s' ∧ s'.assignedTo deviceId = some sessionId := by
  obtain ⟨device, hget, hfree, rfl⟩ := assign_spec h
  have hid : device.deviceId = deviceId := (Table.get?_some hget).2
  have hassigned (other : String) :
      (s.setDevice { device with assignedSessionId := some sessionId }).assignedTo other =
        if other = deviceId then some sessionId else s.assignedTo other := by
    rw [assignedTo_setDevice]
    simp only [hid]
  refine ⟨⟨rfl, rfl, ?_⟩, ?_⟩
  · intro other
    rw [hassigned]
    split
    · rename_i hother
      have hbefore := assignedTo_of_get? hget
      rw [hother, hbefore]
      rcases hfree with hnone | hsome
      · exact .inr ⟨rfl, hnone⟩
      · exact .inl hsome.symm
    · exact .inl rfl
  · rw [hassigned, if_pos rfl]

theorem assignEach_takes (session : ClassroomSession) (now : Instant) (deviceIds : List String) :
    Takes session.sessionId s (assignEach session now deviceIds s).1 ∧
      ((assignEach session now deviceIds s).2 = .ok () → ∀ deviceId ∈ deviceIds,
        (assignEach session now deviceIds s).1.assignedTo deviceId = some session.sessionId) := by
  induction deviceIds generalizing s with
  | nil => exact ⟨.refl _ s, by simp⟩
  | cons deviceId deviceIds ih =>
    unfold assignEach
    split
    · exact ⟨.refl _ s, fun h => by cases h⟩
    · rename_i assigned hassigned
      obtain ⟨htakes, hown⟩ := assign_takes hassigned
      have hrecorded := htakes.record .deviceAssigned session.userId now
        [("deviceId", .str deviceId), ("sessionId", .str session.sessionId)]
      obtain ⟨hrest, hall⟩ := ih (s := assigned.record .deviceAssigned session.userId now
        [("deviceId", .str deviceId), ("sessionId", .str session.sessionId)])
      refine ⟨hrecorded.trans hrest, ?_⟩
      intro hok other hother
      rcases List.mem_cons.mp hother with rfl | hother
      · rcases hrest.assigned other with hsame | ⟨htaken, _⟩
        · exact hsame.trans hown
        · exact htaken
      · exact hall hok other hother

theorem getSession_mem {session : ClassroomSession} {sessionId : String}
    (h : s.getSession sessionId = .ok session) :
    session ∈ s.sessions ∧ session.sessionId = sessionId := by
  unfold getSession at h
  split at h
  · rename_i hfound
    cases h
    exact Table.get?_some hfound
  · cases h

/-- Sessions with the same ids and devices, each as live as it was. -/
theorem bound_mapRows {f : ClassroomSession → ClassroomSession}
    (hid : ∀ session, (f session).sessionId = session.sessionId)
    (hdevices : ∀ session, (f session).deviceBindings = session.deviceBindings)
    (hlive : ∀ session, (f session).state.isTerminal = session.state.isTerminal)
    (hsessions : s'.sessions = s.sessions.mapRows f hid) (sessionId deviceId : String) :
    s'.BoundTo sessionId deviceId ↔ s.BoundTo sessionId deviceId := by
  unfold BoundTo
  rw [hsessions]
  constructor
  · intro h
    obtain ⟨after, hafter, hsame, hterminal, hmem⟩ := h
    obtain ⟨session, hsession, rfl⟩ := (Table.mem_mapRows _).mp hafter
    rw [hid] at hsame
    rw [hlive] at hterminal
    rw [hdevices] at hmem
    exact ⟨session, hsession, hsame, hterminal, hmem⟩
  · intro h
    obtain ⟨session, hsession, hsame, hterminal, hmem⟩ := h
    refine ⟨f session, (Table.mem_mapRows _).mpr ⟨session, hsession, rfl⟩, ?_, ?_, ?_⟩
    · rw [hid, hsame]
    · rw [hlive, hterminal]
    · rwa [hdevices]

/-- A session that is written anew holds what it now says; the others hold what they held. -/
theorem bound_upsert {session : ClassroomSession}
    (hsessions : s'.sessions = s.sessions.upsert session) (sessionId deviceId : String) :
    s'.BoundTo sessionId deviceId ↔
      if sessionId = session.sessionId then
        session.state.isTerminal = false ∧ deviceId ∈ session.deviceBindings
      else s.BoundTo sessionId deviceId := by
  unfold BoundTo
  rw [hsessions]
  split
  · rename_i hsame
    constructor
    · intro h
      obtain ⟨after, hafter, hid, hholds⟩ := h
      rcases Table.mem_upsert.mp hafter with rfl | ⟨_, hother⟩
      · exact hholds
      · exact absurd (hid.trans hsame) hother
    · intro h
      exact ⟨session, Table.mem_upsert.mpr (.inl rfl), hsame.symm, h⟩
  · rename_i hother
    constructor
    · intro h
      obtain ⟨after, hafter, hid, hholds⟩ := h
      rcases Table.mem_upsert.mp hafter with rfl | ⟨hmem, _⟩
      · exact absurd hid.symm hother
      · exact ⟨after, hmem, hid, hholds⟩
    · intro h
      obtain ⟨before, hbefore, hid, hholds⟩ := h
      refine ⟨before, Table.mem_upsert.mpr (.inr ⟨hbefore, ?_⟩), hid, hholds⟩
      intro hsame
      exact hother (hid.symm.trans hsame)

theorem bound_of_mem {session : ClassroomSession} (hmem : session ∈ s.sessions)
    (deviceId : String) : s.BoundTo session.sessionId deviceId ↔
      session.state.isTerminal = false ∧ deviceId ∈ session.deviceBindings := by
  constructor
  · intro h
    obtain ⟨other, hother, hid, hholds⟩ := h
    rwa [Table.eq_of_key_eq hother hmem hid] at hholds
  · intro h
    exact ⟨session, hmem, rfl, h⟩

theorem quiet_createSession {request : CreateSessionRequest} {userId : String}
    (h : s.createSession (RuntimeState.sessionOf request userId now) now = .ok s') :
    Quiet s s' := by
  unfold createSession at h
  split at h
  · cases h
  · split at h
    · cases h
    · rename_i sessions hinsert
      cases h
      apply Quiet.record
      refine ⟨?_, fun _ => rfl, fun _ h => h⟩
      intro sessionId deviceId
      unfold BoundTo
      constructor
      · intro h
        obtain ⟨session, hsession, hid, hterminal, hmem⟩ := h
        rcases (Table.mem_insert? hinsert).mp hsession with hsession | rfl
        · exact ⟨session, hsession, hid, hterminal, hmem⟩
        · cases hmem
      · intro h
        obtain ⟨session, hsession, hholds⟩ := h
        exact ⟨session, (Table.mem_insert? hinsert).mpr (.inl hsession), hholds⟩

theorem quiet_setFailurePolicy {sessionId : String} {policy : FailurePolicy}
    (h : s.setFailurePolicy sessionId policy = .ok s') : Quiet s s' := by
  obtain ⟨session, hsession, h⟩ := bind_eq_ok.mp h
  cases h
  obtain ⟨hmem, _⟩ := getSession_mem hsession
  refine ⟨?_, fun _ => rfl, fun _ h => h⟩
  intro other deviceId
  rw [bound_upsert rfl]
  split
  · rename_i hsame
    rw [hsame]
    exact (bound_of_mem hmem deviceId).symm
  · rfl

/-- What `bind_devices` leaves when it binds: the devices are the session's, in both records. -/
structure Rebinds (session : ClassroomSession) (deviceIds : List String) (s s' : Classroom) :
    Prop where
  live : session.state.isTerminal = false
  bound : ∀ sessionId deviceId, s'.BoundTo sessionId deviceId ↔
    if sessionId = session.sessionId then deviceId ∈ deviceIds else s.BoundTo sessionId deviceId
  assigned : ∀ deviceId, s'.assignedTo deviceId = s.assignedTo deviceId ∨
    (s'.assignedTo deviceId = some session.sessionId ∧ s.assignedTo deviceId = none)
  own : ∀ deviceId ∈ deviceIds, s'.assignedTo deviceId = some session.sessionId
  supervisor : s'.supervisor = s.supervisor

theorem bindDevices_spec (session : ClassroomSession) (deviceIds : List String) (now : Instant) :
    Takes session.sessionId s (s.bindDevices session deviceIds now).1 ∨
      Rebinds session deviceIds s (s.bindDevices session deviceIds now).1 := by
  obtain ⟨htakes, hown⟩ := assignEach_takes (s := s) session now deviceIds
  unfold bindDevices
  split
  · rename_i heq
    rw [heq] at htakes
    exact .inl htakes
  · rename_i assigned heq
    rw [heq] at htakes hown
    split
    · exact .inl htakes
    · rename_i bound hbound
      unfold ClassroomSession.bindDevices at hbound
      split at hbound
      · cases hbound
      · rename_i hallowed
        cases hbound
        have hlive : session.state.isTerminal = false := by
          simpa using (not_or.mp hallowed).1
        refine .inr ⟨hlive, ?_, htakes.assigned, hown rfl, htakes.supervisor⟩
        intro sessionId deviceId
        rw [bound_upsert rfl]
        split
        · exact and_iff_right hlive
        · unfold BoundTo
          rw [htakes.sessions]

/-- What a transition leaves: a session that ends lets go of everything. -/
structure Moves (session : ClassroomSession) (state : SessionState) (s s' : Classroom) :
    Prop where
  bound : ∀ sessionId deviceId, s'.BoundTo sessionId deviceId ↔
    s.BoundTo sessionId deviceId ∧ (sessionId = session.sessionId → state.isTerminal = false)
  assigned : ∀ deviceId, s'.assignedTo deviceId =
    if state.isTerminal = true ∧ s.assignedTo deviceId = some session.sessionId then none
    else s.assignedTo deviceId
  arms : ∀ arm ∈ s'.supervisor.arms, arm ∈ s.supervisor.arms ∧
    (state.isTerminal = true → s.assignedTo arm.deviceId ≠ some session.sessionId)

theorem freed_assignedTo {sessionId : String}
    (hdevices : ∀ device, device ∈ s'.devices ↔
      ∃ before ∈ s.devices, (if before.assignedSessionId = some sessionId then
        { before with assignedSessionId := none } else before) = device) (deviceId : String) :
    s'.assignedTo deviceId =
      if s.assignedTo deviceId = some sessionId then none else s.assignedTo deviceId := by
  cases hget : s.devices.get? deviceId with
  | none =>
    have hnone : s'.devices.get? deviceId = none := by
      rw [Table.get?_eq_none]
      intro device hdevice hid
      obtain ⟨before, hbefore, hmapped⟩ := (hdevices device).mp hdevice
      apply Table.get?_eq_none.mp hget before hbefore
      rw [← hid, ← hmapped]
      split <;> rfl
    rw [assignedTo, assignedTo, hget, hnone]
    simp
  | some device =>
    obtain ⟨hmem, hid⟩ := Table.get?_some hget
    rw [assignedTo_of_get? hget]
    have hafter : s'.devices.get? deviceId =
        some (if device.assignedSessionId = some sessionId then
          { device with assignedSessionId := none } else device) := by
      rw [Table.get?_eq_some]
      refine ⟨(hdevices _).mpr ⟨device, hmem, rfl⟩, ?_⟩
      rw [← hid]
      split <;> rfl
    rw [assignedTo_of_get? hafter]
    split <;> rfl

theorem release_assignedTo (session : ClassroomSession) (now : Instant) (deviceId : String) :
    (s.release session now).assignedTo deviceId =
      if s.assignedTo deviceId = some session.sessionId then none else s.assignedTo deviceId := by
  obtain ⟨_, _, _, _, hdevices, _⟩ := release_spec (s := s) session now
  exact freed_assignedTo hdevices deviceId

theorem bound_moved {session moved : ClassroomSession} (hmem : session ∈ s.sessions)
    (hid : moved.sessionId = session.sessionId)
    (hbindings : moved.deviceBindings = session.deviceBindings)
    (hlive : session.state.isTerminal = false)
    (hsessions : s'.sessions = s.sessions.upsert moved) (sessionId deviceId : String) :
    s'.BoundTo sessionId deviceId ↔ s.BoundTo sessionId deviceId ∧
      (sessionId = session.sessionId → moved.state.isTerminal = false) := by
  rw [bound_upsert hsessions, hid, hbindings]
  split
  · rename_i hsame
    subst hsame
    rw [bound_of_mem hmem deviceId]
    constructor
    · intro h
      exact ⟨⟨hlive, h.2⟩, fun _ => h.1⟩
    · intro h
      exact ⟨h.2 rfl, h.1.2⟩
  · rename_i hother
    exact (and_iff_left fun hsame => absurd hsame hother).symm

theorem assignedTo_eq_iff {sessionId : String} :
    s.assignedTo deviceId = some sessionId ↔
      ∃ device ∈ s.devices, device.deviceId = deviceId ∧
        device.assignedSessionId = some sessionId := by
  constructor
  · intro h
    obtain ⟨device, hget, hassigned⟩ := Option.bind_eq_some_iff.mp h
    obtain ⟨hmem, hid⟩ := Table.get?_some hget
    exact ⟨device, hmem, hid, hassigned⟩
  · intro h
    obtain ⟨device, hmem, hid, hassigned⟩ := h
    rw [assignedTo_of_get? (Table.get?_eq_some.mpr ⟨hmem, hid⟩), hassigned]

theorem transition_moves {session moved : ClassroomSession} {state : SessionState}
    {reason : Option String} (hmem : session ∈ s.sessions)
    (h : s.transition session state reason now = .ok (moved, s')) : Moves session state s s' := by
  obtain ⟨moved', hmoved, h⟩ := bind_eq_ok.mp h
  obtain ⟨rfl, hafter⟩ := Prod.mk.inj (Except.ok.inj h)
  unfold ClassroomSession.transition at hmoved
  split at hmoved
  · rename_i hallowed
    have hmoved := Except.ok.inj hmoved
    have hid : moved'.sessionId = session.sessionId := by rw [← hmoved]
    have hbindings : moved'.deviceBindings = session.deviceBindings := by rw [← hmoved]
    have hstate : moved'.state = state := by rw [← hmoved]
    have hlive : session.state.isTerminal = false := by
      cases hterminal : session.state.isTerminal with
      | false => rfl
      | true => simp [SessionState.allowedTransitions, hterminal] at hallowed
    rw [hstate] at hafter
    split at hafter
    · rename_i hterminal
      subst hafter
      obtain ⟨hsessions, _, _, _, _, harms⟩ := release_spec
        (s := { s.record .sessionStateChanged moved'.userId now
          [("sessionId", .str moved'.sessionId), ("state", .str state.value),
            ("reason", (reason.map JsonValue.str).getD .null)] with
          sessions := s.sessions.upsert moved' }) moved' now
      refine ⟨?_, ?_, ?_⟩
      · intro sessionId deviceId
        have hbound := bound_moved hmem hid hbindings hlive hsessions sessionId deviceId
        rwa [hstate] at hbound
      · intro deviceId
        refine (release_assignedTo moved' now deviceId).trans ?_
        rw [hid]
        simp only [hterminal, true_and]
        rfl
      · intro arm harm
        obtain ⟨hbefore, hnone⟩ := (harms arm).mp harm
        refine ⟨hbefore, ?_⟩
        intro _ hassigned
        obtain ⟨device, hdevice, hsame, hheld⟩ := assignedTo_eq_iff.mp hassigned
        exact hnone device hdevice hsame (hid ▸ hheld)
    · rename_i hterminal
      subst hafter
      refine ⟨?_, ?_, ?_⟩
      · intro sessionId deviceId
        rw [bound_moved hmem hid hbindings hlive rfl sessionId deviceId, hstate]
      · intro deviceId
        rw [if_neg fun h => hterminal h.1]
        rfl
      · intro arm harm
        exact ⟨harm, fun h => absurd h hterminal⟩
  · cases hmoved

theorem disconnectSession_keeps (deviceId reason : String) (now : Instant)
    (session : ClassroomSession) :
    (disconnectSession deviceId reason now session).sessionId = session.sessionId ∧
      (disconnectSession deviceId reason now session).deviceBindings = session.deviceBindings := by
  unfold disconnectSession
  split <;> exact ⟨rfl, rfl⟩

theorem disconnectSession_live (deviceId reason : String) (now : Instant)
    (session : ClassroomSession) :
    (disconnectSession deviceId reason now session).state.isTerminal =
      session.state.isTerminal := by
  unfold disconnectSession
  split
  · rename_i hactive
    have hlive : session.state.isTerminal = false := by
      have hboth := hactive.1
      unfold isActiveFor at hboth
      simpa using (Bool.and_eq_true_iff.mp hboth).2
    rw [hlive]
    rfl
  · rfl

theorem quiet_handleDisconnect {reason : String}
    (h : s.handleDisconnect deviceId reason now = .ok s') : Quiet s s' := by
  obtain ⟨device, hdevice, h⟩ := bind_eq_ok.mp h
  obtain rfl := Except.ok.inj h
  have hget := getDevice_get? hdevice
  have hid := (Table.get?_some hget).2
  have hdiscarded := quiet_discard (s := s) deviceId ("device disconnected: " ++ reason) now
  let discarded := (s.discard deviceId ("device disconnected: " ++ reason) now).1
  let disarmed : Classroom := { discarded with supervisor := discarded.supervisor.disarm deviceId }
  have hdisarmed : Quiet s disarmed :=
    hdiscarded.trans (.of_eq rfl rfl (disarm_arms discarded.supervisor deviceId))
  have hfailed : Quiet disarmed
      (disarmed.setDevice { device with state := .failed, failureReason := some reason }) := by
    apply quiet_setDevice
    show disarmed.assignedTo device.deviceId = device.assignedSessionId
    rw [hid]
    exact assignedTo_of_get? hget
  apply Quiet.record
  refine (hdisarmed.trans hfailed).trans ⟨?_, fun _ => rfl, fun _ h => h⟩
  intro sessionId other
  exact bound_mapRows (fun session => (disconnectSession_keeps deviceId reason now session).1)
    (fun session => (disconnectSession_keeps deviceId reason now session).2)
    (disconnectSession_live deviceId reason now) rfl sessionId other

theorem withTtl_arms {supervisor supervisor' : SafetySupervisor} {policyId : String}
    (h : supervisor.withTtl policyId ttl = .ok supervisor') :
    supervisor'.arms = supervisor.arms := by
  cases ttl with
  | none =>
    obtain rfl := Except.ok.inj h
    rfl
  | some ttl =>
    obtain ⟨policy, _, h⟩ := bind_eq_ok.mp h
    obtain rfl := Except.ok.inj h
    rfl

theorem arm_spec {sessionId instructorId : String}
    (h : s.arm sessionId deviceId instructorId ttl now = .ok s') :
    s'.sessions = s.sessions ∧ s'.devices = s.devices ∧ ∀ arm ∈ s'.supervisor.arms,
      arm ∈ s.supervisor.arms ∨ arm.sessionId = sessionId ∧ arm.deviceId = deviceId := by
  obtain ⟨session, _, h⟩ := bind_eq_ok.mp h
  obtain ⟨_, h⟩ := seq_eq_ok.mp h
  obtain ⟨supervisor, hsupervisor, h⟩ := bind_eq_ok.mp h
  obtain ⟨armed, harmed, h⟩ := bind_eq_ok.mp h
  obtain rfl := Except.ok.inj h
  refine ⟨rfl, rfl, ?_⟩
  have hsame := withTtl_arms hsupervisor
  obtain ⟨_, harmed⟩ := seq_eq_ok.mp harmed
  obtain ⟨policy, _, harmed⟩ := bind_eq_ok.mp harmed
  obtain rfl := Except.ok.inj harmed
  intro arm harm
  rcases Table.mem_upsert.mp harm with rfl | ⟨hbefore, _⟩
  · exact .inr ⟨rfl, rfl⟩
  · exact .inl (hsame ▸ hbefore)

theorem ttlRegistered_rule {P : Classroom → Prop} {sessionId : String}
    (h : P s) (hregistered : ∀ supervisor : SafetySupervisor,
      supervisor.arms = s.supervisor.arms → P { s with supervisor := supervisor }) :
    P (s.ttlRegistered sessionId ttl) := by
  unfold ttlRegistered
  split
  · exact h
  · split
    · split
      · exact h
      · rename_i supervisor hsupervisor
        exact hregistered supervisor (withTtl_arms hsupervisor)
    · exact h

/-- The rule for a call of `arm`, whether it arms or is refused. -/
theorem armLeaves_rule {P : Classroom → Prop} {sessionId instructorId : String}
    (h : P s)
    (hregistered : ∀ supervisor : SafetySupervisor, supervisor.arms = s.supervisor.arms →
      P { s with supervisor := supervisor })
    (hok : ∀ after, s.arm sessionId deviceId instructorId ttl now = .ok after → P after) :
    P (s.armLeaves sessionId deviceId instructorId ttl now) := by
  unfold armLeaves
  split
  · rename_i after harmed
    exact hok after harmed
  · exact ttlRegistered_rule h hregistered

end Classroom

/-- The calls that move no binding and arm nothing. -/
def RuntimeEvent.IsQuiet : RuntimeEvent → Prop
  | .bindDevices .. | .transition .. | .arm .. | .revoked .. | .connected .. | .disconnected .. =>
    False
  | _ => True

namespace RuntimeState
variable {p p' : RuntimeState} {event : RuntimeEvent} {out : List DispatchReport}

/-- What holds before a call and after it when it returns holds after it anyway. -/
theorem orUnchanged_rule {P : Classroom → Prop} {s : Classroom}
    {result : Except HttpError Classroom} (h : P s) (hok : ∀ after, result = .ok after → P after) :
    P (orUnchanged s result) := by
  cases result with
  | ok after => exact hok after rfl
  | error error => exact h

theorem quiet_step (hquiet : event.IsQuiet) (hstep : p.step event = some (p', out)) :
    p.room.Quiet p'.room := by
  cases event with
  | createSession request userId now =>
    cases hstep
    exact orUnchanged_rule (.refl _) fun _ hcreated => Classroom.quiet_createSession hcreated
  | setFailurePolicy sessionId policy =>
    cases hstep
    exact orUnchanged_rule (.refl _) fun _ hset => Classroom.quiet_setFailurePolicy hset
  | disarm deviceId actorId now =>
    cases hstep
    cases deviceId with
    | none => exact .of_eq rfl rfl fun _ h => absurd h (Table.not_mem_empty _)
    | some deviceId => exact .of_eq rfl rfl (Classroom.disarm_arms p.room.supervisor deviceId)
  | lookArm deviceId now =>
    cases hstep
    exact .of_eq rfl rfl (Classroom.armState_arms p.room.supervisor deviceId now)
  | discard deviceId reason now =>
    cases hstep
    exact Classroom.quiet_discard deviceId reason now
  | stopped deviceId reason actorId cleared events now =>
    cases hstep
    exact Classroom.quiet_stopped deviceId reason actorId cleared events now
  | allStopped reason actorId stopped now =>
    cases hstep
    exact .of_eq rfl rfl fun _ h => absurd h (Table.not_mem_empty _)
  | watchdogDisarmed expiry now =>
    cases hstep
    exact .of_eq rfl rfl (Classroom.disarm_arms
      (p.room.supervisor.clearWatchdog expiry.deviceId expiry.kind) expiry.deviceId)
  | dispatch command reading =>
    cases hstep
    exact .of_eq rfl rfl (Classroom.dispatch_arms p.room.pipeline command reading)
  | discovered device =>
    cases hstep
    exact Classroom.quiet_discovered device
  | connect deviceId =>
    simp only [step] at hstep
    split at hstep
    · cases hstep
      exact .refl _
    · rename_i device hget
      cases hstep
      apply Classroom.quiet_setDevice
      show p.room.assignedTo device.deviceId = device.assignedSessionId
      rw [(Table.get?_some hget).2]
      exact Classroom.assignedTo_of_get? hget
  | disconnect deviceId reason =>
    simp only [step] at hstep
    split at hstep
    · cases hstep
      exact .refl _
    · cases hstep
      exact .refl _
  | bindDevices => exact hquiet.elim
  | transition => exact hquiet.elim
  | arm => exact hquiet.elim
  | revoked => exact hquiet.elim
  | connected => exact hquiet.elim
  | disconnected => exact hquiet.elim

/-- The room after a link has come back. -/
theorem connected_spec {link : ℕ} {failure : Option String}
    (h : p.step (.connected link failure) = some (p', out)) :
    ∃ device, p.links[link]? = some (.connecting device) ∧
      p'.room = p.room.linked device failure ∧ out = [] := by
  simp only [step] at h
  split at h
  · rename_i device htask
    cases h
    exact ⟨device, htask, rfl, rfl⟩
  · cases h

theorem disconnected_spec {link : ℕ} {now : Instant}
    (h : p.step (.disconnected link now) = some (p', out)) :
    ∃ device reason, p.links[link]? = some (.disconnecting device reason) ∧
      p'.room = orUnchanged p.room (p.room.unlinked device reason now) ∧ out = [] := by
  simp only [step] at h
  split at h
  · rename_i device reason htask
    cases h
    exact ⟨device, reason, htask, rfl, rfl⟩
  · cases h

end RuntimeState
end CitPhysicalXR.Runtime
