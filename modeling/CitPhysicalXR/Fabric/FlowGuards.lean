import CitPhysicalXR.Fabric.FlowRouting
import CitPhysicalXR.Fabric.Ingestion

/-! The guards of flows: those that the routing evaluates, those that it does not, and the packs
that stay dormant while their session is unarmed. -/
namespace CitPhysicalXR.Fabric
open Foundation

/-- The stored node that a role of the session is bound to. -/
def Repository.targetNode (repo : Repository) (session : InteractionSession) (role : Identifier) :
    Option IntegrationNode :=
  (session.roleBindings.find? fun item => item.role = role).bind fun binding =>
    repo.getFabricNode binding.nodeId

section
variable {repo : Repository} {flow : FlowRecipe} {event : FabricEventEnvelope}
  {session : InteractionSession} {now : Instant} {role : Identifier}

theorem roleAccepts_iff : repo.roleAccepts flow session role = true ↔
    ∃ node, repo.targetNode session role = some node ∧
      (.target_is_connected ∈ flow.guards → node.connectionState = .connected) ∧
      (.target_is_armed ∈ flow.guards → node.physical = true → session.armed = true) ∧
      ∀ required ∈ flowTargetRequiredCapability flow,
        (consumedCapability node required.text).isSome = true := by
  unfold Repository.roleAccepts Repository.targetNode
  cases hbinding : session.roleBindings.find? fun item => item.role = role with
  | none => simp
  | some binding =>
    rw [Option.bind_some]
    dsimp only
    cases hnode : repo.getFabricNode binding.nodeId with
    | none => simp
    | some node =>
      have hall (p : CapabilityIdentifier → Bool) (capability : Option CapabilityIdentifier) :
          capability.all p = true ↔ ∀ required ∈ capability, p required = true := by
        cases capability <;> simp
      simp only [Bool.and_eq_true, Bool.not_eq_true', decide_eq_false_iff_not, not_not,
        hall, Option.some.injEq, exists_eq_left', Bool.and_eq_false_imp, decide_eq_true_eq,
        Bool.not_eq_false', and_imp, and_assoc]

/-- An instructor holds the node: a lease of an instructor's priority is neither released nor
expired. -/
def Repository.IsOverridden (repo : Repository) (nodeId : Identifier) (now : Instant) : Prop :=
  ∃ lease ∈ repo.leases, lease.nodeId = nodeId ∧ lease.isActive = true ∧ now < lease.expiresAt ∧
    lease.priority = .instructor_override

def GuardHolds (approved : Identifier → Prop) (repo : Repository) (session : InteractionSession)
    (now : Instant) (role : Identifier) : FlowGuard → Prop
  | .session_is_active => session.state = .active
  | .role_is_assigned => ∃ binding ∈ session.roleBindings, binding.role = role
  | .target_is_connected => ∃ node, repo.targetNode session role = some node ∧
      node.connectionState = .connected
  | .target_is_armed => ∃ node, repo.targetNode session role = some node ∧
      (node.physical = true → session.armed = true)
  | .instructor_override_is_clear => ∃ node, repo.targetNode session role = some node ∧
      ¬repo.IsOverridden node.nodeId now
  | .approval_is_present => approved role

/-- The guards that the routing looks at. -/
def isEvaluated : FlowGuard → Bool
  | .session_is_active | .role_is_assigned | .target_is_connected | .target_is_armed => true
  | .instructor_override_is_clear | .approval_is_present => false

/-- The routing looks at four of the six guards. -/
theorem guardHolds_evaluated {approved : Identifier → Prop}
    (h : role ∈ repo.routedRoles flow event session now) {guard : FlowGuard}
    (hguard : guard ∈ flow.guards) (hevaluated : isEvaluated guard = true) :
    GuardHolds approved repo session now role guard := by
  obtain ⟨hfires, _, haccepts⟩ := mem_routedRoles.mp h
  obtain ⟨node, hnode, hconnected, harmed, _⟩ := roleAccepts_iff.mp haccepts
  cases guard with
  | session_is_active =>
    unfold Repository.fires at hfires
    simp only [Bool.and_eq_true, decide_eq_true_eq] at hfires
    rcases hfires.2.1 with hfree | hactive
    · exact absurd hguard hfree
    · exact hactive
  | role_is_assigned =>
    unfold Repository.targetNode at hnode
    obtain ⟨binding, hbinding, _⟩ := Option.bind_eq_some_iff.mp hnode
    have hrole := List.find?_some hbinding
    exact ⟨binding, List.mem_of_find?_eq_some hbinding, by simpa using hrole⟩
  | target_is_connected => exact ⟨node, hnode, hconnected hguard⟩
  | target_is_armed => exact ⟨node, hnode, harmed hguard⟩
  | instructor_override_is_clear => cases hevaluated
  | approval_is_present => cases hevaluated

/-- The guards of a flow that the routing does not look at hold for a role. -/
def OthersHold (approved : Identifier → Prop) (repo : Repository) (flow : FlowRecipe)
    (session : InteractionSession) (now : Instant) (role : Identifier) : Prop :=
  (.instructor_override_is_clear ∈ flow.guards → ∃ node,
    repo.targetNode session role = some node ∧ ¬repo.IsOverridden node.nodeId now) ∧
  (.approval_is_present ∈ flow.guards → approved role)

/-- A flow yields a command only if all its guards hold, if and only if the two guards that the
routing ignores hold for each role that it lets through. -/
theorem guards_fail_closed (approved : Identifier → Prop) (repo : Repository) (flow : FlowRecipe)
    (event : FabricEventEnvelope) (session : InteractionSession) (now : Instant)
    (messageId : ℕ → Uuid) (hevent : event.validates = true) :
    (∀ requests repo', requestsFromFlow flow event session now messageId repo = .ok requests repo' →
      ∀ request ∈ requests, ∀ guard ∈ flow.guards,
        GuardHolds approved repo session now request.targetRole guard) ↔
    (repo.fires flow event session now = true →
      (∀ role ∈ resolveFlowTargetRoles flow event.payload,
        repo.roleAccepts flow session role = true → keyFits flow session role = true) →
      ∀ role ∈ resolveFlowTargetRoles flow event.payload,
        repo.roleAccepts flow session role = true →
          OthersHold approved repo flow session now role) := by
  have hspec := requestsFromFlow_spec repo flow session now hevent messageId
  constructor
  · intro hclosed hfires hfits role hrole haccepts
    have hrouted : role ∈ repo.routedRoles flow event session now :=
      mem_routedRoles.mpr ⟨hfires, hrole, haccepts⟩
    cases hrun : requestsFromFlow flow event session now messageId repo with
    | error error repo' =>
      rw [hrun] at hspec
      obtain ⟨⟨long, hlong, hkey⟩, _⟩ := hspec
      obtain ⟨_, hselected, htaken⟩ := mem_routedRoles.mp hlong
      rw [hfits long hselected htaken] at hkey
      cases hkey
    | ok requests repo' =>
      rw [hrun] at hspec
      rw [← hspec.1.roles] at hrouted
      obtain ⟨request, hrequest, rfl⟩ := List.mem_map.mp hrouted
      have hguards := hclosed requests repo' hrun request hrequest
      exact ⟨fun hlisted => hguards _ hlisted, fun hlisted => hguards _ hlisted⟩
  · intro hothers requests repo' hrun request hrequest guard hguard
    rw [hrun] at hspec
    obtain ⟨hrequests, _⟩ := hspec
    have hrouted : request.targetRole ∈ repo.routedRoles flow event session now := by
      rw [← hrequests.roles]
      exact List.mem_map_of_mem hrequest
    obtain ⟨hfires, hrole, haccepts⟩ := mem_routedRoles.mp hrouted
    have hfits : ∀ role ∈ resolveFlowTargetRoles flow event.payload,
        repo.roleAccepts flow session role = true → keyFits flow session role = true := by
      intro other hother htaken
      exact hrequests.fits other (mem_routedRoles.mpr ⟨hfires, hother, htaken⟩)
    obtain ⟨hclear, happroved⟩ := hothers hfires hfits _ hrole haccepts
    cases hevaluated : isEvaluated guard with
    | true => exact guardHolds_evaluated hrouted hguard hevaluated
    | false =>
      cases guard with
      | instructor_override_is_clear => exact hclear hguard
      | approval_is_present => exact happroved hguard
      | session_is_active => cases hevaluated
      | role_is_assigned => cases hevaluated
      | target_is_connected => cases hevaluated
      | target_is_armed => cases hevaluated

end

namespace Lesson

def robotBinding : RoleBinding := ⟨driver, robot.nodeId, drive.name, 0, tutor⟩

/-- The session of the lesson while it runs. -/
def running (armed : Bool) : InteractionSession where
  sessionId := sessionId
  coursePackId := coursePack.coursePackId
  coursePackVersion := coursePack.version
  siteId := site
  roomId := room
  mode := .physical
  state := .active
  armed := armed
  armedAt := none
  armedBy := none
  disarmReason := none
  participantIds := []
  roleBindings := [robotBinding]
  safetyProfile := classroom
  createdAt := 0
  updatedAt := 0
  startedAt := none
  endedAt := none
  createdBy := tutor

def storeWith (node : IntegrationNode) (leases : List FabricControlLease) : Repository :=
  { Repository.empty with
    nodes := Repository.empty.nodes.upsert ⟨node, press.timestamp + seconds 15⟩
    leases := leases }

/-- The tutor drives the robot. -/
def override : FabricControlLease :=
  ⟨uuid 1, robot.nodeId, drive.name, sessionId, none, .instructor_override, press.timestamp,
    press.timestamp + seconds 5, none, none⟩

def guardedFlow (guards : List FlowGuard) : FlowRecipe := { flow with guards := guards }

def requestedRoles (guards : List FlowGuard) (repo : Repository) (armed : Bool) :
    Option (List Identifier) :=
  (Effect.returned (requestsFromFlow (guardedFlow guards) press (running armed) press.timestamp
    uuid repo)).map fun requests => requests.map (·.targetRole)

end Lesson

/-- While the tutor drives the robot, a press drives it too, though the flow lists both guards. -/
theorem guards_ignored :
    ∃ requests repo', requestsFromFlow
        (Lesson.guardedFlow [.instructor_override_is_clear, .approval_is_present]) Lesson.press
        (Lesson.running true) Lesson.press.timestamp Lesson.uuid
        (Lesson.storeWith Lesson.robot [Lesson.override]) = .ok requests repo' ∧
      ∃ request ∈ requests, ∀ approved, ¬GuardHolds approved
        (Lesson.storeWith Lesson.robot [Lesson.override]) (Lesson.running true)
        Lesson.press.timestamp request.targetRole .instructor_override_is_clear := by
  have hroles : Lesson.requestedRoles [.instructor_override_is_clear, .approval_is_present]
      (Lesson.storeWith Lesson.robot [Lesson.override]) true = some [Lesson.driver] := by
    decide
  unfold Lesson.requestedRoles at hroles
  cases hrun : requestsFromFlow
      (Lesson.guardedFlow [.instructor_override_is_clear, .approval_is_present]) Lesson.press
      (Lesson.running true) Lesson.press.timestamp Lesson.uuid
      (Lesson.storeWith Lesson.robot [Lesson.override]) with
  | error error repo' =>
    rw [hrun] at hroles
    cases hroles
  | ok requests repo' =>
    rw [hrun] at hroles
    have hmap : requests.map (·.targetRole) = [Lesson.driver] := Option.some.inj hroles
    have hmem : Lesson.driver ∈ requests.map (·.targetRole) := by
      rw [hmap]
      exact List.mem_singleton_self _
    obtain ⟨request, hrequest, hrole⟩ := List.mem_map.mp hmem
    refine ⟨requests, repo', rfl, request, hrequest, ?_⟩
    rintro approved ⟨node, hnode, hclear⟩
    rw [hrole] at hnode
    have htarget : (((Lesson.storeWith Lesson.robot [Lesson.override]).targetNode
        (Lesson.running true) Lesson.driver).map (·.nodeId)) = some Lesson.robot.nodeId := by
      decide
    rw [hnode] at htarget
    have hid : node.nodeId = Lesson.robot.nodeId := Option.some.inj htarget
    apply hclear
    rw [hid]
    exact ⟨Lesson.override, List.mem_singleton_self _, rfl, rfl, by decide, rfl⟩

/-- Without the tutor's lease and with an approval, the guards hold. -/
theorem guards_fail_closed_press : Lesson.press.validates = true ∧
    ∀ requests repo', requestsFromFlow
        (Lesson.guardedFlow [.instructor_override_is_clear, .approval_is_present]) Lesson.press
        (Lesson.running true) Lesson.press.timestamp Lesson.uuid
        (Lesson.storeWith Lesson.robot []) = .ok requests repo' →
      ∀ request ∈ requests,
        ∀ guard ∈ (Lesson.guardedFlow [.instructor_override_is_clear, .approval_is_present]).guards,
          GuardHolds (fun role => role = Lesson.driver) (Lesson.storeWith Lesson.robot [])
            (Lesson.running true) Lesson.press.timestamp request.targetRole guard := by
  refine ⟨by decide, (guards_fail_closed (fun role => role = Lesson.driver)
    (Lesson.storeWith Lesson.robot [])
    (Lesson.guardedFlow [.instructor_override_is_clear, .approval_is_present]) Lesson.press
    (Lesson.running true) Lesson.press.timestamp Lesson.uuid (by decide)).mpr ?_⟩
  intro _ _ role hrole haccepts
  obtain ⟨node, hnode, _⟩ := roleAccepts_iff.mp haccepts
  constructor
  · intro _
    refine ⟨node, hnode, ?_⟩
    rintro ⟨lease, hlease, _⟩
    exact absurd hlease List.not_mem_nil
  · intro _
    exact List.mem_singleton.mp hrole

/-- The flows of a pack for monitoring send nothing to a physical node while the session is not
armed. -/
theorem monitoring_dormant {coursePack : CoursePack}
    (hpack : monitoringFlowsAreDormantWhenUnarmed coursePack = true) {flow : FlowRecipe}
    (hflow : flow ∈ coursePack.flows) {session : InteractionSession}
    (hunarmed : session.armed = false) {event : FabricEventEnvelope}
    (hevent : event.validates = true) {now : Instant} {messageId : ℕ → Uuid}
    {repo repo' : Repository} {requests : List FabricCommandRequest}
    (h : requestsFromFlow flow event session now messageId repo = .ok requests repo') :
    ∀ request ∈ requests, ∃ node, repo.targetNode session request.targetRole = some node ∧
      node.physical = false := by
  intro request hrequest
  have hspec := requestsFromFlow_spec repo flow session now hevent messageId
  rw [h] at hspec
  have hrouted : request.targetRole ∈ repo.routedRoles flow event session now := by
    rw [← hspec.1.roles]
    exact List.mem_map_of_mem hrequest
  obtain ⟨hfires, hrole, haccepts⟩ := mem_routedRoles.mp hrouted
  obtain ⟨node, hnode, _, harmed, _⟩ := roleAccepts_iff.mp haccepts
  have henabled : flow.enabled = true := by
    unfold Repository.fires triggerMatches at hfires
    simp only [Bool.and_eq_true] at hfires
    exact hfires.1.1.1.1.1
  have hguards := List.all_eq_true.mp hpack flow hflow
  rw [henabled, Bool.not_true, Bool.false_or] at hguards
  have hcandidate := List.all_eq_true.mp hguards _ (resolveFlowTargetRoles_subset hrole)
  rw [Bool.and_eq_true] at hcandidate
  have hlisted : FlowGuard.target_is_armed ∈ flow.guards := by
    have hall := List.all_eq_true.mp hcandidate.2 .target_is_armed (by decide)
    simpa using hall
  refine ⟨node, hnode, ?_⟩
  cases hphysical : node.physical with
  | false => rfl
  | true =>
    have hcontra := harmed hlisted hphysical
    rw [hunarmed] at hcontra
    cases hcontra

/-- A simulated robot is driven in an unarmed session of a pack for monitoring. -/
theorem monitoring_dormant_simulated :
    ∃ requests repo', requestsFromFlow (Lesson.guardedFlow unarmedSafetyGuards) Lesson.press
        (Lesson.running false) Lesson.press.timestamp Lesson.uuid
        (Lesson.storeWith { Lesson.robot with physical := false, simulated := true } []) =
          .ok requests repo' ∧
      requests ≠ [] ∧
      ∀ request ∈ requests, ∃ node,
        (Lesson.storeWith { Lesson.robot with physical := false, simulated := true }
          []).targetNode (Lesson.running false) request.targetRole = some node ∧
        node.physical = false := by
  have hroles : Lesson.requestedRoles unarmedSafetyGuards (Lesson.storeWith
      { Lesson.robot with physical := false, simulated := true } []) false =
      some [Lesson.driver] := by
    decide
  unfold Lesson.requestedRoles at hroles
  cases hrun : requestsFromFlow (Lesson.guardedFlow unarmedSafetyGuards) Lesson.press
      (Lesson.running false) Lesson.press.timestamp Lesson.uuid
      (Lesson.storeWith { Lesson.robot with physical := false, simulated := true } []) with
  | error error repo' =>
    rw [hrun] at hroles
    cases hroles
  | ok requests repo' =>
    rw [hrun] at hroles
    have hmap : requests.map (·.targetRole) = [Lesson.driver] := Option.some.inj hroles
    refine ⟨requests, repo', rfl, ?_, ?_⟩
    · rintro rfl
      cases hmap
    · let pack : CoursePack :=
        { Lesson.coursePack with
          roles := [⟨Lesson.driver, [Lesson.drive.name], none, none, true⟩]
          flows := [Lesson.guardedFlow unarmedSafetyGuards] }
      have hpack : monitoringFlowsAreDormantWhenUnarmed pack = true := by decide
      exact monitoring_dormant hpack (List.mem_singleton_self _) rfl (by decide) hrun

end CitPhysicalXR.Fabric
