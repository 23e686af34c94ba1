import CitPhysicalXR.Fabric.ServiceRule

/-! The state machine of interaction sessions: what an armed session is, and that a terminal
session stays as it is. -/
namespace CitPhysicalXR.Fabric
open Foundation

structure SessionProperty (P : InteractionSession → Prop) : Prop where
  change : ∀ {session session'}, P session → SessionChange session session' → P session'
  arm : ∀ {session} actorId at_, P session → session.mode = .physical →
    session.state = .ready ∨ session.state = .paused → P (session.arm actorId at_)
  bind : ∀ {session} binding, P session →
    allowsRoleChange session.state = true ∨ session.state = .active ∧ session.armed = false →
    P (Repository.withBinding session binding)

namespace SessionProperty
variable {P : InteractionSession → Prop} (hP : SessionProperty P)
include hP

/-- A property that drafts have and no write destroys is one of all stored sessions. -/
theorem forAll (hdraft : ∀ request safetyProfile sessionId actorId at_,
      P (draftSession request safetyProfile sessionId actorId at_)) :
    StoreInvariant fun repo => ∀ session ∈ repo.sessions, P session where
  stable :=
    { coursePacks := fun h _ => h
      leases := fun h _ => h
      debounce := fun h _ => h
      create := by
        intro repo request safetyProfile sessionId actorId at_ sessions h _ hinsert other hother
        rcases (Table.mem_insert? hinsert).mp hother with hmem | rfl
        · exact h other hmem
        · exact hdraft request safetyProfile sessionId actorId at_
      change := by
        intro repo session session' sessions h hmem hchange hupdate other hother
        rcases (Table.mem_update? hupdate).mp hother with rfl | ⟨hold, _⟩
        · exact hP.change (h session hmem) hchange
        · exact h other hold
      event := fun h _ => h }
  node :=
    { plugins := fun h _ => h
      nodes := fun h _ _ => h }
  arm := by
    intro repo allowPhysical session actorId at_ sessions h hmem hcheck hupdate other hother
    obtain ⟨hmode, _, hstate, _⟩ := checkArm_ok hcheck
    rcases (Table.mem_update? hupdate).mp hother with rfl | ⟨hold, _⟩
    · exact hP.arm actorId at_ (h session hmem) hmode hstate
    · exact h other hold
  bind := by
    intro repo sessionId role nodeId actorId at_ assignment sessions h hcheck hupdate other hother
    obtain ⟨hmem, _, _, hstate⟩ := checkAssignment_ok hcheck
    rcases (Table.mem_update? hupdate).mp hother with rfl | ⟨hold, _⟩
    · exact hP.bind _ (h _ hmem) (hstate.imp id And.right)
    · exact h other hold
  command :=
    { claim := fun h _ => h
      lifecycle := fun h _ => h }

omit hP in
/-- Rewriting one row of a table keeps a row of every key. -/
private theorem exists_of_update {repo : Repository} {sessionId : Identifier}
    {session' : InteractionSession} {sessions : Table InteractionSession.sessionId}
    (h : ∃ session ∈ repo.sessions, session.sessionId = sessionId ∧ P session)
    (hupdate : repo.sessions.update? session' = some sessions)
    (hP' : ∀ session ∈ repo.sessions, session.sessionId = session'.sessionId → P session →
      P session') :
    ∃ session ∈ sessions, session.sessionId = sessionId ∧ P session := by
  obtain ⟨session, hmem, hid, hold⟩ := h
  by_cases heq : session.sessionId = session'.sessionId
  · exact ⟨session', (Table.mem_update? hupdate).mpr (.inl rfl), heq ▸ hid,
      hP' session hmem heq hold⟩
  · exact ⟨session, (Table.mem_update? hupdate).mpr (.inr ⟨hmem, heq⟩), hid, hold⟩

/-- A stored session keeps such a property for good. -/
theorem persists (sessionId : Identifier) :
    StoreInvariant fun repo =>
      ∃ session ∈ repo.sessions, session.sessionId = sessionId ∧ P session where
  stable :=
    { coursePacks := fun h _ => h
      leases := fun h _ => h
      debounce := fun h _ => h
      create := by
        rintro repo request safetyProfile _ actorId at_ sessions ⟨session, hmem, h⟩ _ hinsert
        exact ⟨session, (Table.mem_insert? hinsert).mpr (.inl hmem), h⟩
      change := by
        intro repo session session' sessions h hmem hchange hupdate
        refine exists_of_update h hupdate fun stored hstored hid hold => ?_
        obtain rfl := Table.eq_of_key_eq hstored hmem (hid.trans hchange.sessionId_eq)
        exact hP.change hold hchange
      event := fun h _ => h }
  node :=
    { plugins := fun h _ => h
      nodes := fun h _ _ => h }
  arm := by
    intro repo allowPhysical session actorId at_ sessions h hmem hcheck hupdate
    obtain ⟨hmode, _, hstate, _⟩ := checkArm_ok hcheck
    refine exists_of_update h hupdate fun stored hstored hid hold => ?_
    obtain rfl := Table.eq_of_key_eq hstored hmem hid
    exact hP.arm actorId at_ hold hmode hstate
  bind := by
    intro repo _ role nodeId actorId at_ assignment sessions h hcheck hupdate
    obtain ⟨hmem, _, _, hstate⟩ := checkAssignment_ok hcheck
    refine exists_of_update h hupdate fun stored hstored hid hold => ?_
    obtain rfl := Table.eq_of_key_eq hstored hmem hid
    exact hP.bind _ hold (hstate.imp id And.right)
  command :=
    { claim := fun h _ => h
      lifecycle := fun h _ => h }

end SessionProperty

namespace InteractionSession

/-- What arming stands for. -/
structure HoldsArm (session : InteractionSession) : Prop where
  mode : session.mode = .physical
  state : session.state = .ready ∨ session.state = .paused ∨ session.state = .active
  armedAt : session.armedAt.isSome
  armedBy : session.armedBy.isSome
  disarmReason : session.disarmReason = none

def ArmedOk (session : InteractionSession) : Prop := session.armed = true → session.HoldsArm

theorem armedOk_property : SessionProperty ArmedOk where
  change := by
    intro session session' h hchange harmed
    cases hchange with
    | ready at_ hstate => exact { h harmed with state := .inl rfl }
    | disarm at_ reason hstate => cases harmed
    | start at_ hstate => exact { h harmed with state := .inr (.inr rfl) }
    | pause at_ hstate => cases harmed
    | stop at_ reason hterminal hstate => cases harmed
  arm := by
    intro session actorId at_ _ hmode hstate _
    exact ⟨hmode, hstate.imp id .inl, rfl, rfl, rfl⟩
  bind := by
    intro session binding h _ harmed
    exact { h harmed with }

theorem ArmedOk.unarmed_of_terminal {session : InteractionSession} (h : session.ArmedOk)
    (hterminal : session.isTerminal = true) : session.armed = false := by
  by_contra harmed
  have hstate := (h (by simpa using harmed)).state
  simp only [isTerminal, Bool.or_eq_true, decide_eq_true_eq] at hterminal
  rcases hstate with hs | hs | hs <;> simp [hs] at hterminal

structure Ended (state : FabricSessionState) (session : InteractionSession) : Prop where
  terminal : session.isTerminal = true
  state_eq : session.state = state
  unarmed : session.armed = false

theorem ended_property (state : FabricSessionState) : SessionProperty (Ended state) where
  change := by
    intro session session' h hchange
    have hterminal := h.terminal
    simp only [isTerminal, Bool.or_eq_true, decide_eq_true_eq] at hterminal
    cases hchange with
    | ready at_ hstate =>
      simp only [allowsRoleChange, Bool.or_eq_true, decide_eq_true_eq] at hstate
      rcases hstate with (hs | hs) | hs <;> simp [hs] at hterminal
    | disarm at_ reason hstate =>
      rcases hstate with rfl | ⟨hs, _⟩
      · exact ⟨h.terminal, h.state_eq, rfl⟩
      · simp [hs] at hterminal
    | start at_ hstate => rcases hstate with hs | hs <;> simp [hs] at hterminal
    | pause at_ hstate => simp [hstate] at hterminal
    | stop at_ reason hnot hstate =>
      rw [h.terminal] at hnot
      cases hnot
  arm := by
    intro session actorId at_ h _ hstate
    have hterminal := h.terminal
    simp only [isTerminal, Bool.or_eq_true, decide_eq_true_eq] at hterminal
    rcases hstate with hs | hs <;> simp [hs] at hterminal
  bind := fun _ h _ => ⟨h.terminal, h.state_eq, h.unarmed⟩

end InteractionSession

section Reachable
variable {allowPhysical : Bool} {s : Service}

theorem armedOk_reachable (h : (interactionFabric allowPhysical).Reachable s) :
    ∀ session ∈ s.repository.sessions, session.ArmedOk := by
  refine (InteractionSession.armedOk_property.forAll ?_).reachable ?_ h
  · intro request safetyProfile sessionId actorId at_ harmed
    cases harmed
  · exact fun session hmem => absurd hmem (Table.not_mem_empty session)

/-- In every reachable state the armed sessions are physical, in a state that may be armed
and carry who armed them when; a terminal session is unarmed and stays as it is. -/
theorem session_invariant (h : (interactionFabric allowPhysical).Reachable s) :
    (∀ session ∈ s.repository.sessions, session.ArmedOk) ∧
      ∀ session ∈ s.repository.sessions, session.isTerminal = true →
        session.armed = false ∧
        ∀ trace s', (interactionFabric allowPhysical).Steps s trace s' →
          ∃ session' ∈ s'.repository.sessions, session'.sessionId = session.sessionId ∧
            session'.state = session.state ∧ session'.armed = false := by
  have hall := armedOk_reachable h
  refine ⟨hall, fun session hmem hterminal => ?_⟩
  have hunarmed := (hall session hmem).unarmed_of_terminal hterminal
  refine ⟨hunarmed, fun trace s' hsteps => ?_⟩
  have hpersists := (InteractionSession.ended_property session.state).persists session.sessionId
  obtain ⟨session', hmem', hid, hended⟩ := hpersists.steps
    ⟨session, hmem, rfl, hterminal, rfl, hunarmed⟩ hsteps
  exact ⟨session', hmem', hid, hended.state_eq, hended.unarmed⟩

end Reachable

namespace Lesson

def uuid (n : ℕ) : Uuid := ⟨Fin.ofNat (2 ^ 128) n⟩

/-- The environment of the `k`-th call. -/
def ambient (k : ℕ) : Ambient where
  clock i := seconds (1700000000 + k) + i
  uuid i := uuid (100 * k + i)

def site : Identifier := ⟨"site", by decide⟩
def room : Identifier := ⟨"room", by decide⟩
def tutor : Identifier := ⟨"tutor", by decide⟩
def driver : Identifier := ⟨"driver", by decide⟩
def classroom : Identifier := ⟨"classroom", by decide⟩
def sessionId : Identifier := ⟨"lesson", by decide⟩

def drive : CapabilityDescriptor where
  name := ⟨"robot.drive", by decide⟩
  version := "1"
  direction := .consume
  latencyClass := .interactive
  safetyClassification := .bounded_physical
  dataClassification := .operational
  constraints := JsonObject.empty

def button : CapabilityDescriptor where
  name := ⟨"robot.button", by decide⟩
  version := "1"
  direction := .publish
  latencyClass := .interactive
  safetyClassification := .none
  dataClassification := .operational
  constraints := JsonObject.empty

def manifest : PluginManifest where
  pluginId := ⟨"plugin", by decide⟩
  pluginVersion := "1"
  publishedCapabilities := [button]
  consumedCapabilities := [drive]
  requiredPermissions := []
  dataClassifications := [.operational]
  otherFields := JsonObject.empty

def robot : IntegrationNode where
  nodeId := ⟨"robot", by decide⟩
  pluginId := ⟨"plugin", by decide⟩
  pluginVersion := "1"
  runtimeVersion := "1"
  hostId := ⟨"host", by decide⟩
  siteId := site
  roomId := room
  displayName := "Robot"
  connectionState := .connected
  healthState := .healthy
  physical := true
  simulated := false
  publishedCapabilities := [button]
  consumedCapabilities := [drive]
  configurationSchema := JsonObject.empty
  safetyClassification := .bounded_physical
  dataClassifications := [.operational]
  simulatorAvailable := false
  requiredPermissions := none
  lastSeenAt := 0
  metadata := JsonObject.empty

/-- The button of the robot drives it. -/
def flow : FlowRecipe where
  flowId := ⟨"flow", by decide⟩
  version := 1
  trigger := ⟨button.name, none, none, none⟩
  command := ⟨drive.name, JsonObject.empty, []⟩
  target := .role driver
  guards := []
  safetyProfile := classroom
  outputRoles := none
  parallelGroup := none
  enabled := true

def coursePack : CoursePack where
  coursePackId := ⟨"pack", by decide⟩
  version := "1"
  roles := [⟨driver, [drive.name], none, none, false⟩]
  flows := [flow]
  safetyProfile := classroom
  otherFields := JsonObject.empty

def createRequest : CreateInteractionSessionRequest where
  coursePackId := coursePack.coursePackId
  coursePackVersion := coursePack.version
  siteId := site
  roomId := room
  mode := .physical
  participantIds := none

def setUp (coursePack : CoursePack) : List (FabricEvent × Ambient) :=
  [(.setDispatcher true, ambient 0), (.call (.installCoursePack coursePack), ambient 1),
    (.call (.registerPluginAndNodes manifest [robot]), ambient 2),
    (.call (.createSession createRequest sessionId tutor), ambient 3),
    (.call (.assignRole sessionId driver robot.nodeId tutor), ambient 4)]

def armAndStart : List (FabricEvent × Ambient) :=
  [(.call (.transitionSession sessionId .arm tutor), ambient 5),
    (.call (.transitionSession sessionId .start tutor), ambient 6)]

/-- The lesson after its emergency stop. -/
def stopped : Service := Service.after true (setUp coursePack ++ armAndStart ++
  [(.call (.transitionSession sessionId .emergency_stop tutor), ambient 7)])

end Lesson

theorem session_invariant_lesson :
    Lesson.stopped.repository.sessions.rows.map (·.state) = [.emergency_stopped] ∧
      (∀ session ∈ Lesson.stopped.repository.sessions, session.ArmedOk) ∧
      ∀ session ∈ Lesson.stopped.repository.sessions, session.isTerminal = true →
        session.armed = false ∧
        ∀ trace s', (interactionFabric true).Steps Lesson.stopped trace s' →
          ∃ session' ∈ s'.repository.sessions, session'.sessionId = session.sessionId ∧
            session'.state = session.state ∧ session'.armed = false :=
  ⟨by decide +kernel, session_invariant (Service.after_reachable true _)⟩

end CitPhysicalXR.Fabric
