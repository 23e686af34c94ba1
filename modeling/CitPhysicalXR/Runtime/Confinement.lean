import CitPhysicalXR.Runtime.Holdings

/-! Steps that change only what is the principal's own: they compose, and they disturb nobody
else. -/
namespace CitPhysicalXR.Runtime
open Foundation
namespace Classroom

/-- A device that is bound to a session of another actor. -/
def BindsOther (s : Classroom) (principal : Principal) (device : ClassroomDevice) : Prop :=
  ∃ sessionId, device.assignedSessionId = some sessionId ∧ ¬s.Owns principal sessionId

structure Confined (principal : Principal) (at_ : Instant) (before after : Classroom) : Prop where
  owns : ∀ sessionId, after.Owns principal sessionId ↔ before.Owns principal sessionId
  sessions : ∀ session : ClassroomSession, session.userId ≠ principal.actorId →
    (session ∈ after.sessions ↔ session ∈ before.sessions)
  devices : ∀ device, before.BindsOther principal device →
    (device ∈ after.devices ↔ device ∈ before.devices)
  arms : ∀ arm, before.Withheld principal arm.deviceId → arm.isActive at_ = true →
    (arm ∈ after.supervisor.arms ↔ arm ∈ before.supervisor.arms)
  projects : after.projects = before.projects
  stored : after.store.stored = before.store.stored
  finished : after.finished = before.finished

variable {s : Classroom} {principal : Principal} {at_ : Instant}

theorem withheld_iff {deviceId : String} : s.Withheld principal deviceId ↔
    ∃ device ∈ s.devices, device.deviceId = deviceId ∧ s.BindsOther principal device := Iff.rfl

theorem Owns.userId {session : ClassroomSession} (hmem : session ∈ s.sessions)
    (howns : s.Owns principal session.sessionId) : session.userId = principal.actorId := by
  obtain ⟨other, hother, hid, huser⟩ := howns
  rwa [Table.eq_of_key_eq (t := s.sessions) hmem hother hid.symm]

namespace Confined
variable {first second third : Classroom}

theorem bindsOther (h : Confined principal at_ first second) (device : ClassroomDevice) :
    second.BindsOther principal device ↔ first.BindsOther principal device := by
  simp only [BindsOther, h.owns]

theorem withheld (h : Confined principal at_ first second) (deviceId : String) :
    second.Withheld principal deviceId ↔ first.Withheld principal deviceId := by
  simp only [withheld_iff, h.bindsOther]
  constructor
  · intro hwithheld
    obtain ⟨device, hmem, hid, hbinds⟩ := hwithheld
    exact ⟨device, (h.devices device hbinds).mp hmem, hid, hbinds⟩
  · intro hwithheld
    obtain ⟨device, hmem, hid, hbinds⟩ := hwithheld
    exact ⟨device, (h.devices device hbinds).mpr hmem, hid, hbinds⟩

theorem trans (h : Confined principal at_ first second)
    (h' : Confined principal at_ second third) : Confined principal at_ first third where
  owns sessionId := (h'.owns sessionId).trans (h.owns sessionId)
  sessions session hother := (h'.sessions session hother).trans (h.sessions session hother)
  devices device hbinds :=
    (h'.devices device ((h.bindsOther device).mpr hbinds)).trans (h.devices device hbinds)
  arms arm hwithheld hactive :=
    (h'.arms arm ((h.withheld arm.deviceId).mpr hwithheld) hactive).trans
      (h.arms arm hwithheld hactive)
  projects := h'.projects.trans h.projects
  stored := h'.stored.trans h.stored
  finished := h'.finished.trans h.finished

theorem undisturbed (h : Confined principal at_ first second) :
    first.Undisturbed principal at_ second where
  sessions session hmem hother := (h.sessions session hother).mpr hmem
  bindings device hmem hwithheld := by
    obtain ⟨held, hheld, hid, hbinds⟩ := withheld_iff.mp hwithheld
    obtain rfl := Table.eq_of_key_eq (t := first.devices) hmem hheld hid.symm
    exact ⟨device, (h.devices device hbinds).mpr hmem, rfl, rfl⟩
  arms := h.arms
  projects project hmem _ := by rwa [h.projects]
  stored recording hmem _ := by rwa [h.stored]
  finished recording hmem _ := by rwa [h.finished]

end Confined

theorem Steady.confined {first second : Classroom} (h : Steady at_ first second) :
    Confined principal at_ first second where
  owns _ := h.owns
  sessions session _ := by rw [h.sessions]
  devices device _ := by rw [h.devices]
  arms arm _ hactive := h.arms arm hactive
  projects := h.projects
  stored := h.stored
  finished := h.finished

section Sessions
variable {session moved : ClassroomSession}

/-- A session of one's own is replaced by another version of it. -/
theorem confined_session (howner : session.userId = principal.actorId)
    (hmem : session ∈ s.sessions) (hid : moved.sessionId = session.sessionId)
    (huser : moved.userId = session.userId) :
    Confined principal at_ s { s with sessions := s.sessions.upsert moved } where
  owns sessionId := by
    simp only [Owns, Table.mem_upsert]
    constructor
    · intro h
      obtain ⟨other, hother | hother, hkey, huser'⟩ := h
      · rw [hother] at hkey
        exact ⟨session, hmem, hid.symm.trans hkey, howner⟩
      · exact ⟨other, hother.1, hkey, huser'⟩
    · intro h
      obtain ⟨other, hother, hkey, huser'⟩ := h
      by_cases hsame : other.sessionId = moved.sessionId
      · exact ⟨moved, .inl rfl, hsame.symm.trans hkey, huser.trans howner⟩
      · exact ⟨other, .inr ⟨hother, hsame⟩, hkey, huser'⟩
  sessions other hother := by
    simp only [Table.mem_upsert]
    constructor
    · intro h
      obtain rfl | h := h
      · exact absurd (huser.trans howner) hother
      · exact h.1
    · intro h
      refine .inr ⟨h, ?_⟩
      intro hsame
      rw [Table.eq_of_key_eq (t := s.sessions) h hmem (hsame.trans hid)] at hother
      exact hother howner
  devices _ _ := Iff.rfl
  arms _ _ _ := Iff.rfl
  projects := rfl
  stored := rfl
  finished := rfl

theorem undisturbed_sessions {sessions : Table (fun session : ClassroomSession => session.sessionId)}
    (h : ∀ session ∈ s.sessions, session ∈ sessions) :
    s.Undisturbed principal at_ { s with sessions := sessions } where
  sessions session hmem _ := h session hmem
  bindings device hmem _ := ⟨device, hmem, rfl, rfl⟩
  arms _ _ _ := Iff.rfl
  projects _ hmem _ := hmem
  stored _ hmem _ := hmem
  finished _ hmem _ := hmem

end Sessions

theorem getDevice_ok {deviceId : String} {device : ClassroomDevice}
    (h : s.getDevice deviceId = .ok device) : device ∈ s.devices ∧ device.deviceId = deviceId := by
  unfold getDevice at h
  split at h
  · rename_i hfound
    cases h
    exact Table.get?_some hfound
  · cases h

/-- A device is taken only when it is free or one's own. -/
theorem confined_assign {deviceId sessionId : String} {assigned : Classroom}
    (at_ : Instant) (howns : s.Owns principal sessionId)
    (h : s.assign deviceId sessionId = .ok assigned) : Confined principal at_ s assigned := by
  obtain ⟨device, hdevice, hrest⟩ := bind_eq_ok.mp h
  obtain ⟨hmem, -⟩ := getDevice_ok hdevice
  have hfree : ¬s.BindsOther principal device ∧
      { s with devices := s.devices.upsert { device with
        assignedSessionId := some sessionId } } = assigned := by
    split at hrest
    · rename_i holder hholder
      obtain ⟨hsame, hassigned⟩ := seq_eq_ok.mp hrest
      refine ⟨?_, Except.ok.inj hassigned⟩
      intro hbinds
      obtain ⟨other, hother, hforeign⟩ := hbinds
      obtain rfl := Option.some.inj (hholder.symm.trans hother)
      rw [not_not.mp (raiseIf_eq_ok.mp hsame)] at hforeign
      exact hforeign howns
    · rename_i hnone
      refine ⟨?_, Except.ok.inj hrest⟩
      intro hbinds
      obtain ⟨other, hother, -⟩ := hbinds
      cases hnone.symm.trans hother
  obtain ⟨hown, rfl⟩ := hfree
  refine ⟨fun _ => Iff.rfl, fun _ _ => Iff.rfl, ?_, fun _ _ _ => Iff.rfl, rfl, rfl, rfl⟩
  intro other hbinds
  simp only [Table.mem_upsert]
  constructor
  · intro hmem'
    obtain rfl | hmem' := hmem'
    · obtain ⟨id, hid, hforeign⟩ := hbinds
      obtain rfl := Option.some.inj hid
      exact absurd howns hforeign
    · exact hmem'.1
  · intro hmem'
    refine .inr ⟨hmem', ?_⟩
    intro hsame
    obtain rfl := Table.eq_of_key_eq (t := s.devices) hmem' hmem hsame
    exact hown hbinds

theorem confined_assignEach {session : ClassroomSession} (at_ now : Instant)
    (deviceIds : List String) (howns : s.Owns principal session.sessionId) :
    Confined principal at_ s (assignEach session now deviceIds s).1 := by
  induction deviceIds generalizing s with
  | nil => exact (Steady.refl s).confined
  | cons deviceId deviceIds ih =>
    unfold assignEach
    split
    · exact (Steady.refl s).confined
    · rename_i assigned hassigned
      have hstep := confined_assign at_ howns hassigned
      have hrecorded := hstep.trans (assigned.steady_record at_ .deviceAssigned session.userId now
        [("deviceId", .str deviceId), ("sessionId", .str session.sessionId)]).confined
      exact hrecorded.trans (ih ((hrecorded.owns _).mpr howns))

theorem assignEach_sessions (session : ClassroomSession) (now : Instant)
    (deviceIds : List String) :
    (assignEach session now deviceIds s).1.sessions = s.sessions := by
  induction deviceIds generalizing s with
  | nil => rfl
  | cons deviceId deviceIds ih =>
    unfold assignEach
    split
    · rfl
    · rename_i assigned hassigned
      rw [ih]
      obtain ⟨device, -, hrest⟩ := bind_eq_ok.mp hassigned
      split at hrest
      · obtain ⟨-, hrest⟩ := seq_eq_ok.mp hrest
        rw [← Except.ok.inj hrest]
        rfl
      · rw [← Except.ok.inj hrest]
        rfl

theorem confined_bindDevices {session : ClassroomSession} (at_ now : Instant)
    (deviceIds : List String) (hmem : session ∈ s.sessions)
    (howner : session.userId = principal.actorId) :
    Confined principal at_ s (s.bindDevices session deviceIds now).1 := by
  have howns : s.Owns principal session.sessionId := ⟨session, hmem, rfl, howner⟩
  have hassigned := confined_assignEach at_ now deviceIds howns
  have hsessions : (assignEach session now deviceIds s).1.sessions = s.sessions :=
    assignEach_sessions session now deviceIds
  unfold bindDevices
  split
  · rename_i heq
    rwa [heq] at hassigned
  · rename_i assigned heq
    rw [heq] at hassigned hsessions
    split
    · exact hassigned
    · rename_i bound hbound
      unfold ClassroomSession.bindDevices at hbound
      split at hbound
      · cases hbound
      · cases hbound
        refine hassigned.trans (confined_session howner ?_ rfl rfl)
        rw [hsessions]
        exact hmem

theorem disarmEach (context : String → AuditContext) (actorId : String) (now : Instant)
    (deviceIds : List String) :
    let after := deviceIds.foldl (fun current deviceId =>
      { current with supervisor := current.supervisor.disarm deviceId }.record .deviceReleased
        actorId now (context deviceId)) s
    after.sessions = s.sessions ∧ after.devices = s.devices ∧ after.projects = s.projects ∧
      after.store = s.store ∧ after.finished = s.finished ∧
      ∀ arm, arm ∈ after.supervisor.arms ↔
        arm ∈ s.supervisor.arms ∧ arm.deviceId ∉ deviceIds := by
  intro after
  induction deviceIds generalizing s with
  | nil => exact ⟨rfl, rfl, rfl, rfl, rfl, fun arm => by simp [after]⟩
  | cons deviceId deviceIds ih =>
    obtain ⟨hsessions, hdevices, hprojects, hstore, hfinished, harms⟩ :=
      @ih ({ s with supervisor := s.supervisor.disarm deviceId }.record .deviceReleased
        actorId now (context deviceId))
    refine ⟨hsessions, hdevices, hprojects, hstore, hfinished, ?_⟩
    intro arm
    refine (harms arm).trans ?_
    simp [record, SafetySupervisor.disarm, and_assoc]

/-- The devices of the session are free and without an arm; all else is the same. -/
theorem release_spec (session : ClassroomSession) (now : Instant) :
    (s.release session now).sessions = s.sessions ∧
      (s.release session now).projects = s.projects ∧
      (s.release session now).store = s.store ∧
      (s.release session now).finished = s.finished ∧
      (∀ device, device ∈ (s.release session now).devices ↔
        ∃ before ∈ s.devices, (if before.assignedSessionId = some session.sessionId then
          { before with assignedSessionId := none } else before) = device) ∧
      ∀ arm, arm ∈ (s.release session now).supervisor.arms ↔
        arm ∈ s.supervisor.arms ∧ ∀ device ∈ s.devices, device.deviceId = arm.deviceId →
          device.assignedSessionId ≠ some session.sessionId := by
  let released := (s.listedDevices.filter fun device : ClassroomDevice =>
    decide (device.assignedSessionId = some session.sessionId)).map (·.deviceId)
  let freed : Classroom := { s with
    devices := s.devices.mapRows (fun device : ClassroomDevice =>
      if device.assignedSessionId = some session.sessionId then
        { device with assignedSessionId := none }
      else device) fun device => by split <;> rfl }
  obtain ⟨hsessions, hdevices, hprojects, hstore, hfinished, harms⟩ := disarmEach (s := freed)
    (fun deviceId => [("deviceId", .str deviceId), ("sessionId", .str session.sessionId)])
    session.userId now released
  refine ⟨hsessions, hprojects, hstore, hfinished, ?_, ?_⟩
  · intro device
    rw [show (s.release session now).devices = freed.devices from hdevices, Table.mem_mapRows]
  · intro arm
    refine (harms arm).trans (and_congr_right' ?_)
    simp only [released, List.mem_map, List.mem_filter, decide_eq_true_eq, not_exists, not_and,
      listedDevices, List.mem_insertionSort]
    constructor
    · intro h device hmem hid hassigned
      exact h device ⟨hmem, hassigned⟩ hid
    · intro h device hdevice hid
      exact h device hdevice.1 hid hdevice.2

theorem confined_release {session : ClassroomSession} (at_ now : Instant)
    (howns : s.Owns principal session.sessionId) :
    Confined principal at_ s (s.release session now) := by
  obtain ⟨hsessions, hprojects, hstore, hfinished, hdevices, harms⟩ :=
    release_spec (s := s) session now
  refine ⟨?_, ?_, ?_, ?_, hprojects, congrArg RecordingStore.stored hstore, hfinished⟩
  · intro sessionId
    unfold Owns
    rw [hsessions]
  · intro other _
    rw [hsessions]
  · intro device hbinds
    obtain ⟨sessionId, hsession, hforeign⟩ := hbinds
    have hother : device.assignedSessionId ≠ some session.sessionId := by
      intro hsame
      obtain rfl := Option.some.inj (hsession.symm.trans hsame)
      exact hforeign howns
    rw [hdevices]
    constructor
    · intro h
      obtain ⟨before, hbefore, hmapped⟩ := h
      split at hmapped
      · rw [← hmapped] at hsession
        cases hsession
      · rwa [← hmapped]
    · intro hmem
      exact ⟨device, hmem, if_neg hother⟩
  · intro arm hwithheld _
    refine (harms arm).trans (and_iff_left ?_)
    intro device hmem hid hassigned
    obtain ⟨held, hheld, hid', sessionId, hsession, hforeign⟩ := hwithheld
    obtain rfl := Table.eq_of_key_eq (t := s.devices) hmem hheld (hid.trans hid'.symm)
    obtain rfl := Option.some.inj (hsession.symm.trans hassigned)
    exact hforeign howns

theorem confined_transition {session moved : ClassroomSession} {state : SessionState}
    {reason : Option String} {now : Instant} {after : Classroom} (at_ : Instant)
    (hmem : session ∈ s.sessions) (howner : session.userId = principal.actorId)
    (h : s.transition session state reason now = .ok (moved, after)) :
    Confined principal at_ s after ∧ moved ∈ after.sessions ∧
      moved.sessionId = session.sessionId ∧ moved.userId = principal.actorId := by
  obtain ⟨next, hnext, hrest⟩ := bind_eq_ok.mp h
  obtain ⟨rfl, rfl⟩ := Prod.mk.inj (Except.ok.inj hrest)
  have hsame : next.sessionId = session.sessionId ∧ next.userId = session.userId := by
    unfold ClassroomSession.transition at hnext
    split at hnext
    · cases hnext
      exact ⟨rfl, rfl⟩
    · cases hnext
  obtain ⟨hid, huser⟩ := hsame
  have hrecorded := (s.steady_record at_ .sessionStateChanged next.userId now
    [("sessionId", .str next.sessionId), ("state", .str state.value),
      ("reason", (reason.map JsonValue.str).getD .null)])
  have hsaved := hrecorded.confined.trans (confined_session howner hmem hid huser)
  have hthere : next ∈ s.sessions.upsert next := Table.mem_upsert.mpr (.inl rfl)
  split
  · have howns : Owns { s.record .sessionStateChanged next.userId now
        [("sessionId", .str next.sessionId), ("state", .str state.value),
          ("reason", (reason.map JsonValue.str).getD .null)] with
        sessions := s.sessions.upsert next } principal next.sessionId :=
      ⟨next, hthere, rfl, huser.trans howner⟩
    have hreleased := confined_release at_ now howns
    refine ⟨hsaved.trans hreleased, ?_, hid, huser.trans howner⟩
    rw [(release_spec next now).1]
    exact hthere
  · exact ⟨hsaved, hthere, hid, huser.trans howner⟩

end Classroom

namespace RecordingStore
variable {store : RecordingStore} {recording : Recording} {now : Instant}

@[simp] theorem mem_listed : recording ∈ store.listed ↔ recording ∈ store.stored :=
  List.mem_insertionSort _

theorem mem_doomed (h : recording ∈ store.doomed now) : recording ∈ store.stored := by
  obtain h | h := List.mem_append.mp h
  · exact mem_listed.mp (List.mem_filter.mp h).1
  · exact mem_listed.mp (List.mem_filter.mp (List.mem_of_mem_drop h)).1

theorem mem_prune : recording ∈ (store.prune now).1.stored ↔
    recording ∈ store.stored ∧ recording ∉ store.doomed now := by
  simp only [prune, Table.mem_filterRows]
  refine and_congr_right ?_
  intro hmem
  rw [Bool.not_eq_true', ← Bool.not_eq_true, not_iff_not, List.contains_iff_mem, List.mem_map]
  constructor
  · intro h
    obtain ⟨other, hother, hid⟩ := h
    rwa [← Table.eq_of_key_eq (t := store.stored) (mem_doomed hother) hmem hid]
  · intro h
    exact ⟨recording, h, rfl⟩

/-- A second look at the limits finds nothing. -/
theorem doomed_prune : (store.prune now).1.doomed now = [] := by
  have hfresh (other : Recording) (hother : other ∈ (store.prune now).1.stored) :
      other ∈ (store.listed.filter fun recording => !store.isStale now recording).take
        store.policy.maxRecordings := by
    obtain ⟨hmem, hkept⟩ := mem_prune.mp hother
    simp only [doomed, List.mem_append, List.mem_filter, mem_listed, not_or, not_and] at hkept
    have hmem' : other ∈ store.listed.filter fun recording => !store.isStale now recording := by
      simp [hmem, hkept.1 hmem]
    rw [← List.take_append_drop store.policy.maxRecordings
      (store.listed.filter fun recording => !store.isStale now recording)] at hmem'
    obtain h | h := List.mem_append.mp hmem'
    · exact h
    · exact absurd h hkept.2
  have hcount : (store.prune now).1.listed.length ≤ store.policy.maxRecordings := by
    have hnodup : (store.prune now).1.listed.Nodup :=
      (List.perm_insertionSort _ _).nodup_iff.mpr
        (List.Nodup.of_map _ (store.prune now).1.stored.unique)
    have hsub := hnodup.subperm fun other hother => hfresh other (mem_listed.mp hother)
    exact hsub.length_le.trans (List.length_take_le _ _)
  have hstale : ((store.prune now).1.listed.filter ((store.prune now).1.isStale now)) = [] := by
    rw [List.filter_eq_nil_iff]
    intro other hother
    have hkept := List.mem_of_mem_take (hfresh other (mem_listed.mp hother))
    simpa [isStale, prune] using (List.mem_filter.mp hkept).2
  have hover : ((store.prune now).1.listed.filter fun recording =>
      !(store.prune now).1.isStale now recording).drop
        (store.prune now).1.policy.maxRecordings = [] := by
    rw [List.drop_eq_nil_iff]
    exact (List.length_filter_le _ _).trans hcount
  rw [doomed, hstale, hover]
  rfl

theorem prune_save (store : RecordingStore) (recording : Recording) (now : Instant) :
    ((store.save recording now).prune now).2 = [] := by
  simp only [prune, save, List.map_eq_nil_iff]
  exact doomed_prune

/-- A save, and the prune that follows it: what another recording of the id or the retention does
not remove stays. -/
theorem mem_save_prune {other : Recording} :
    other ∈ ((store.save recording now).prune now).1.stored ↔
      (other = recording ∨ other ∈ store.stored ∧ other.recordingId ≠ recording.recordingId) ∧
        other ∉ ({ store with stored := store.stored.upsert recording } :
          RecordingStore).doomed now := by
  rw [mem_prune, save, doomed_prune, mem_prune, Table.mem_upsert]
  simp

end RecordingStore
end CitPhysicalXR.Runtime
