import CitPhysicalXR.Runtime.DeviceBinding

/-! What a call of `bind_devices` that raises leaves of the devices that it has assigned before. -/
namespace CitPhysicalXR.Runtime
open Foundation

namespace Classroom
variable {s s' : Classroom}

def bindDevicesById (s : Classroom) (sessionId : String) (deviceIds : List String)
    (now : Instant) : Classroom × Except HttpError Unit :=
  match s.getSession sessionId with
  | .error error => (s, .error error)
  | .ok session => s.bindDevices session deviceIds now

/-- The registry can assign the device to the session. -/
def isFree (s : Classroom) (sessionId deviceId : String) : Bool :=
  (s.devices.get? deviceId).any fun device =>
    device.assignedSessionId.all fun holder => decide (holder = sessionId)

theorem isFree_of_assign {deviceId sessionId : String} (h : s.assign deviceId sessionId = .ok s') :
    s.isFree sessionId deviceId = true := by
  obtain ⟨device, hget, hfree, _⟩ := assign_spec h
  unfold isFree
  rw [hget, Option.any_some]
  rcases hfree with hnone | hown
  · rw [hnone]
    rfl
  · rw [hown, Option.all_some]
    exact decide_eq_true rfl

theorem assign_of_isFree {deviceId sessionId : String} (h : s.isFree sessionId deviceId = true) :
    ∃ s', s.assign deviceId sessionId = .ok s' := by
  obtain ⟨device, hget, hholder⟩ := (Option.any_eq_true ..).mp h
  unfold assign getDevice
  rw [hget]
  cases hassigned : device.assignedSessionId with
  | none => exact ⟨_, by simp only [bind, Except.bind, hassigned]; rfl⟩
  | some holder =>
    rw [hassigned, Option.all_some, decide_eq_true_iff] at hholder
    subst hholder
    exact ⟨_, by simp only [bind, Except.bind, hassigned, raiseIf, ne_eq, not_true_eq_false,
      if_false]; rfl⟩

theorem assign_frame {deviceId sessionId : String} (h : s.assign deviceId sessionId = .ok s')
    (other : String) :
    (other ≠ deviceId → s'.assignedTo other = s.assignedTo other) ∧
      s'.isFree sessionId other = s.isFree sessionId other := by
  have hbefore := isFree_of_assign h
  obtain ⟨device, hget, _, rfl⟩ := assign_spec h
  have hid : device.deviceId = deviceId := (Table.get?_some hget).2
  subst hid
  refine ⟨?_, ?_⟩
  · intro hother
    rw [assignedTo_setDevice, if_neg hother]
  · by_cases hsame : other = device.deviceId
    · rw [hsame, hbefore]
      unfold isFree
      have hfound : (s.setDevice { device with assignedSessionId := some sessionId }).devices.get?
          device.deviceId = some { device with assignedSessionId := some sessionId } :=
        Table.get?_upsert_self _
      rw [hfound]
      simp
    · have hkept : (s.setDevice { device with assignedSessionId := some sessionId }).devices.get?
          other = s.devices.get? other :=
        Table.get?_upsert_of_ne hsame
      unfold isFree
      rw [hkept]

structure AssignsPrefix (session : ClassroomSession) (deviceIds : List String)
    (s s' : Classroom) : Prop where
  sessions : s'.sessions = s.sessions
  assigned : ∀ deviceId, s'.assignedTo deviceId =
    if deviceId ∈ deviceIds.takeWhile (s.isFree session.sessionId) then some session.sessionId
    else s.assignedTo deviceId

theorem assignEach_spec (session : ClassroomSession) (now : Instant) (deviceIds : List String) :
    AssignsPrefix session deviceIds s (assignEach session now deviceIds s).1 ∧
      ((assignEach session now deviceIds s).2 = .ok () ↔
        ∀ deviceId ∈ deviceIds, s.isFree session.sessionId deviceId = true) := by
  induction deviceIds generalizing s with
  | nil => exact ⟨⟨rfl, fun _ => rfl⟩, by simp [assignEach]⟩
  | cons deviceId deviceIds ih =>
    unfold assignEach
    cases hassign : s.assign deviceId session.sessionId with
    | error error =>
      have hrefused : ¬s.isFree session.sessionId deviceId = true := by
        intro hfree
        obtain ⟨s', h⟩ := assign_of_isFree hfree
        rw [hassign] at h
        cases h
      refine ⟨⟨rfl, ?_⟩, ?_⟩
      · intro other
        rw [List.takeWhile_cons_of_neg hrefused, if_neg List.not_mem_nil]
      · refine iff_of_false (by simp) ?_
        intro hall
        exact hrefused (hall deviceId List.mem_cons_self)
    | ok after =>
      have hfree : s.isFree session.sessionId deviceId = true :=
        isFree_of_assign hassign
      obtain ⟨htakes, hown⟩ := assign_takes hassign
      let recorded := after.record .deviceAssigned session.userId now
        [("deviceId", .str deviceId), ("sessionId", .str session.sessionId)]
      have hsame : recorded.isFree session.sessionId = s.isFree session.sessionId :=
        funext fun other => (assign_frame hassign other).2
      obtain ⟨hfront, hok⟩ := ih (s := recorded)
      rw [hsame] at hok
      refine ⟨⟨hfront.sessions.trans htakes.sessions, ?_⟩, ?_⟩
      · intro other
        rw [hfront.assigned other, hsame, List.takeWhile_cons_of_pos hfree]
        simp only [List.mem_cons]
        split
        · rw [if_pos (.inr ‹_›)]
        · rename_i hlater
          show after.assignedTo other = _
          by_cases hfirst : other = deviceId
          · rw [if_pos (.inl hfirst), hfirst, hown]
          · rw [if_neg (not_or.mpr ⟨hfirst, hlater⟩)]
            exact (assign_frame hassign other).1 hfirst
      · rw [hok, List.forall_mem_cons]
        exact (and_iff_right hfree).symm

/-- A call that raises has changed neither the bindings of a session nor an assignment. -/
def BindsAtomically (s : Classroom) (sessionId : String) (deviceIds : List String)
    (now : Instant) : Prop :=
  ∀ error, (s.bindDevicesById sessionId deviceIds now).2 = .error error →
    (∀ other, ((s.bindDevicesById sessionId deviceIds now).1.sessions.get? other).map
        (·.deviceBindings) = (s.sessions.get? other).map (·.deviceBindings)) ∧
      ∀ deviceId, (s.bindDevicesById sessionId deviceIds now).1.assignedTo deviceId =
        s.assignedTo deviceId

/-- Nothing is in the way of binding the devices. -/
def CanBind (s : Classroom) (session : ClassroomSession) (deviceIds : List String) : Prop :=
  session.state.isTerminal = false ∧ deviceIds.Nodup ∧
    ∀ deviceId ∈ deviceIds, s.isFree session.sessionId deviceId = true

theorem bindDevices_ok (session : ClassroomSession) (deviceIds : List String) (now : Instant) :
    (s.bindDevices session deviceIds now).2 = .ok () ↔ s.CanBind session deviceIds := by
  obtain ⟨_, hok⟩ := assignEach_spec (s := s) session now deviceIds
  unfold bindDevices CanBind
  split
  · rename_i heq
    rw [heq] at hok
    refine iff_of_false (by simp) ?_
    rintro ⟨_, _, hall⟩
    cases hok.mpr hall
  · rename_i heq
    rw [heq] at hok
    have hall := hok.mp rfl
    unfold ClassroomSession.bindDevices
    by_cases hrefused : session.state.isTerminal = true ∨ ¬deviceIds.Nodup
    · rw [if_pos hrefused]
      refine iff_of_false (by simp) ?_
      rintro ⟨hlive, hnodup, _⟩
      rcases hrefused with hended | htwice
      · rw [hlive] at hended
        cases hended
      · exact htwice hnodup
    · rw [if_neg hrefused]
      rw [not_or, Bool.not_eq_true, not_not] at hrefused
      exact iff_of_true rfl ⟨hrefused.1, hrefused.2, hall⟩

/-- What a call that raises has done. -/
theorem bindDevices_error {session : ClassroomSession} {deviceIds : List String} {now : Instant}
    {error : HttpError} (h : (s.bindDevices session deviceIds now).2 = .error error) :
    AssignsPrefix session deviceIds s (s.bindDevices session deviceIds now).1 := by
  obtain ⟨hfront, _⟩ := assignEach_spec (s := s) session now deviceIds
  unfold bindDevices at h ⊢
  split at h
  · rename_i heq
    rw [heq] at hfront
    exact hfront
  · rename_i heq
    rw [heq] at hfront
    cases hbound : session.bindDevices deviceIds now with
    | error refusal => exact hfront
    | ok bound =>
      rw [hbound] at h
      cases h

/-- A call is atomic exactly when nothing is in the way, or every device in front of the first that
is refused was the session's already. -/
theorem bind_devices_atomic (s : Classroom) (sessionId : String) (deviceIds : List String)
    (now : Instant) :
    s.BindsAtomically sessionId deviceIds now ↔
      ∀ session ∈ s.sessions, session.sessionId = sessionId →
        s.CanBind session deviceIds ∨
          ∀ deviceId ∈ deviceIds.takeWhile (s.isFree sessionId),
            s.assignedTo deviceId = some sessionId := by
  unfold BindsAtomically bindDevicesById
  cases hsession : s.getSession sessionId with
  | error error =>
    refine iff_of_true (fun _ _ => ⟨fun _ => rfl, fun _ => rfl⟩) ?_
    intro session hmem hid
    unfold getSession at hsession
    rw [Table.get?_eq_some.mpr ⟨hmem, hid⟩] at hsession
    cases hsession
  | ok session =>
    obtain ⟨hmem, rfl⟩ := getSession_mem hsession
    have hok := bindDevices_ok (s := s) session deviceIds now
    dsimp only
    constructor
    · intro hatomic other hother hid
      obtain rfl := Table.eq_of_key_eq hother hmem hid
      by_cases hcan : s.CanBind other deviceIds
      · exact .inl hcan
      · right
        cases hresult : (s.bindDevices other deviceIds now).2 with
        | ok result => exact absurd (hok.mp hresult) hcan
        | error error =>
          obtain ⟨_, hkept⟩ := hatomic error hresult
          intro deviceId hassigned
          rw [← hkept deviceId, (bindDevices_error hresult).assigned deviceId, if_pos hassigned]
    · intro hcondition error hresult
      have hfront := bindDevices_error hresult
      refine ⟨fun other => by rw [hfront.sessions], ?_⟩
      intro deviceId
      rcases hcondition session hmem rfl with hcan | hown
      · rw [hok.mpr hcan] at hresult
        cases hresult
      · rw [hfront.assigned deviceId]
        split
        · exact (hown deviceId ‹_›).symm
        · rfl

end Classroom

/-- The robot stays assigned to a lesson that is refused an unknown device. -/
theorem robot_stays_assigned : ∃ trace p, classroomRuntime.Run trace p ∧
    ¬p.room.BindsAtomically "lesson-1" ["robot", "drone"] 2 := by
  have hexec : ((Machine.execute RuntimeState.step (fun _ _ => True) laboratory
      [.discovered labRobot, .createSession (labRequest "lesson-1") "student-1" 1]).any
        fun last => decide (
          (last.1.room.bindDevicesById "lesson-1" ["robot", "drone"] 2).2.isOk = false ∧
          (last.1.room.bindDevicesById "lesson-1" ["robot", "drone"] 2).1.assignedTo "robot" =
            some "lesson-1" ∧ last.1.room.assignedTo "robot" = none)) = true := by
    decide
  obtain ⟨last, hlast, hend⟩ := (Option.any_eq_true ..).mp hexec
  have hrun := (Machine.run_of_execute (M := classroomRuntime) ⟨rfl, rfl, rfl, rfl⟩
    id hlast).of_restrict
  obtain ⟨hraises, hassigned, hbefore⟩ := of_decide_eq_true hend
  refine ⟨_, _, hrun, ?_⟩
  intro hatomic
  cases hresult : (last.1.room.bindDevicesById "lesson-1" ["robot", "drone"] 2).2 with
  | ok result =>
    rw [hresult] at hraises
    cases hraises
  | error error =>
    obtain ⟨_, hkept⟩ := hatomic error hresult
    have hsame := hkept "robot"
    rw [hassigned, hbefore] at hsame
    cases hsame

end CitPhysicalXR.Runtime
