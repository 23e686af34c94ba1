import CitPhysicalXR.Fabric.CommandPolicy
import CitPhysicalXR.Fabric.Course
import CitPhysicalXR.Foundation.Effect

/-! Nodes and interaction sessions of `InteractionFabric`: registration, health, node loss,
role assignment, and the arming and state transitions of sessions. -/
namespace CitPhysicalXR.Fabric
open Foundation

/-- A method of `InteractionFabric` over its repository. -/
abbrev FabricM (α : Type) := Effect Repository FabricError α

def armInactivityTtl : Duration := minutes 2
def armAttendedTtl : Duration := hours 6

namespace Repository
variable (repo : Repository)

def requireSession (sessionId : Identifier) : Except FabricError InteractionSession :=
  match repo.getInteractionSession sessionId with
  | .error e => .error e
  | .ok none => .error (.notFound "INTERACTION_SESSION_NOT_FOUND"
      s!"Interaction session {PyString.repr sessionId.text} does not exist")
  | .ok (some session) => .ok session

def requireNode (nodeId : Identifier) : Except FabricError IntegrationNode :=
  match repo.getFabricNode nodeId with
  | none => .error (.notFound "FABRIC_NODE_NOT_FOUND"
      s!"Fabric node {PyString.repr nodeId.text} does not exist")
  | some node => .ok node

def requireCoursePack (session : InteractionSession) : Except FabricError CoursePack :=
  match repo.getCoursePack session.coursePackId session.coursePackVersion with
  | none => .error (.notFound "COURSE_PACK_NOT_FOUND"
      "Interaction session course pack is no longer installed")
  | some coursePack => .ok coursePack

end Repository

def validateManifest (manifest : PluginManifest) : Except FabricError Unit :=
  let capabilities := (manifest.publishedCapabilities ++ manifest.consumedCapabilities).map (·.name)
  if capabilities = [] then
    .error (.value "Plugin manifest must advertise at least one capability")
  else if ¬ capabilities.Nodup then
    .error (.value "Plugin manifest capability names must be unique")
  else if ¬ manifest.requiredPermissions.Nodup then
    .error (.value "Plugin required permissions must be unique")
  else if ¬ manifest.dataClassifications.Nodup then
    .error (.value "Plugin data classifications must be unique")
  else .ok ()

def validateNodeAgainstManifest (node : IntegrationNode) (manifest : PluginManifest) :
    Except FabricError Unit :=
  let identity (item : CapabilityDescriptor) := (item.name, item.version)
  let published := manifest.publishedCapabilities.map identity
  let consumed := manifest.consumedCapabilities.map identity
  if node.pluginId ≠ manifest.pluginId ∨ node.pluginVersion ≠ manifest.pluginVersion then
    .error (.value "Node plugin identity does not match its registration manifest")
  else if node.publishedCapabilities.any fun item => identity item ∉ published then
    .error (.value "Node publishes a capability absent from its plugin manifest")
  else if node.consumedCapabilities.any fun item => identity item ∉ consumed then
    .error (.value "Node consumes a capability absent from its plugin manifest")
  else if node.publishedCapabilities.isEmpty ∧ node.consumedCapabilities.isEmpty then
    .error (.value "Node must publish or consume at least one capability")
  else if node.physical ∧ node.simulated then
    .error (.value "A node instance cannot be both physical and simulated")
  else if node.consumedCapabilities.any (isActuationClass ·.safetyClassification) ∧
      !node.physical ∧ !node.simulated then
    .error (.value "A non-simulated node consuming physical capabilities must be marked physical")
  else if ¬ node.dataClassifications.Nodup then
    .error (.value "Node data classifications must be unique")
  else .ok ()

/-- The loop of a registration; the nodes before a refused one stay registered. -/
def registerNodes (manifest : PluginManifest) (at_ : Instant) (seen : List Identifier) :
    List IntegrationNode → FabricM (List IntegrationNode)
  | [] => pure []
  | node :: rest => do
    Effect.read fun _ =>
      if node.nodeId ∈ seen then .error (.value s!"Duplicate node ID {PyString.repr node.nodeId.text} in registration")
      else validateNodeAgainstManifest node manifest
    let registered ← Effect.commit (·.upsertFabricNode node at_ nodeLeaseTtl)
    let others ← registerNodes manifest at_ (node.nodeId :: seen) rest
    return registered :: others

def registerPluginAndNodes (manifest : PluginManifest) (nodes : List IntegrationNode)
    (at_ : Instant) : FabricM (List IntegrationNode) := do
  Effect.read fun _ =>
    if nodes.isEmpty then .error (.value "At least one Fabric node is required")
    else validateManifest manifest
  Effect.commit fun repo => (repo.registerFabricPlugin manifest).map (·, ())
  registerNodes manifest at_ [] nodes

def IntegrationNode.isLost (node : IntegrationNode) : Bool :=
  node.connectionState = .unavailable || node.connectionState = .disconnected ||
    node.connectionState = .unsafe_ || node.healthState = .unhealthy

namespace InteractionSession
variable (session : InteractionSession)

def isTerminal : Bool :=
  session.state = .stopped || session.state = .emergency_stopped || session.state = .failed

def bindsAny (nodeIds : List Identifier) : Bool :=
  session.roleBindings.any fun binding => binding.nodeId ∈ nodeIds

def arm (actorId : Identifier) (at_ : Instant) : InteractionSession :=
  { session with
    armed := true
    armedAt := some at_
    armedBy := some actorId
    disarmReason := none
    updatedAt := at_ }

/-- The copy that `_save_disarmed_session` stores. -/
def disarm (at_ : Instant) (reason : String) (state : FabricSessionState) : InteractionSession :=
  { session with
    state := state
    armed := false
    armedAt := none
    armedBy := none
    disarmReason := some reason
    updatedAt := at_
    endedAt := if state = .emergency_stopped then some at_ else session.endedAt }

def start (at_ : Instant) : InteractionSession :=
  { session with
    state := .active
    startedAt := some (session.startedAt.getD at_)
    updatedAt := at_ }

def pause (at_ : Instant) : InteractionSession :=
  { session with
    state := .paused
    armed := false
    armedAt := none
    armedBy := none
    disarmReason := some "session_paused"
    updatedAt := at_ }

def stop (state : FabricSessionState) (reason : String) (at_ : Instant) : InteractionSession :=
  { session with
    state := state
    armed := false
    armedAt := none
    armedBy := none
    disarmReason := some reason
    updatedAt := at_
    endedAt := some at_ }

def ready (at_ : Instant) : InteractionSession :=
  { session with
    state := .ready
    updatedAt := at_ }

end InteractionSession

def saveInteractionSession (session : InteractionSession) : FabricM InteractionSession :=
  Effect.commit fun repo => (repo.saveInteractionSession session).map (·, session)

def releaseFabricSessionLeases (sessionId : Identifier) (at_ : Instant) (reason : String) :
    FabricM Unit :=
  Effect.update (·.releaseFabricSessionLeases sessionId at_ reason)

def saveDisarmedSession (session : InteractionSession) (at_ : Instant) (reason : String)
    (state : FabricSessionState) : FabricM InteractionSession := do
  releaseFabricSessionLeases session.sessionId at_ reason
  saveInteractionSession (session.disarm at_ reason state)

/-- The armed physical sessions with a role on one of the nodes. -/
def isAffected (nodeIds : List Identifier) (session : InteractionSession) : Bool :=
  session.mode = .physical && session.armed && session.bindsAny nodeIds

/-- Node loss stops an active session and leaves the state of the others. -/
def stateAfterLoss (session : InteractionSession) : FabricSessionState :=
  if session.state = .active then .emergency_stopped else session.state

/-- One round of a disarming sweep over the stored sessions. -/
def disarmWhere (p : InteractionSession → Bool)
    (state : InteractionSession → FabricSessionState) (at_ : Instant) (reason : String)
    (session : InteractionSession) : FabricM Unit :=
  if p session then Effect.discard (saveDisarmedSession session at_ reason (state session))
  else pure ()

def disarmSessionsForNodes (nodeIds : List Identifier) (reason : String) (at_ : Instant) :
    FabricM Unit :=
  if nodeIds = [] then pure ()
  else do
    let sessions ← Effect.read (·.listInteractionSessions)
    Effect.forEach (disarmWhere (isAffected nodeIds) stateAfterLoss at_ reason) sessions

def reportHealth (report : HealthReport) (ambient : Ambient) : FabricM IntegrationNode := do
  let updated ← Effect.commit (·.updateFabricHealth report (ambient.clock 0) nodeLeaseTtl)
  if updated.isLost then
    disarmSessionsForNodes [updated.nodeId] "node_health_lost" (ambient.clock 1)
    return updated
  else
    return updated

def expireNodes (ambient : Ambient) : FabricM (List Identifier) := do
  let expired ← Effect.commit (·.expireFabricNodes (ambient.clock 0))
  disarmSessionsForNodes expired "node_lease_expired" (ambient.clock 1)
  return expired

def markDisconnected (at_ : Instant) (node : IntegrationNode) : IntegrationNode :=
  { node with connectionState := .disconnected, healthState := .unknown, lastSeenAt := at_ }

/-- The loop of `disconnect_nodes`; unknown nodes are skipped. -/
def disconnectEach (at_ : Instant) : List Identifier → FabricM (List Identifier)
  | [] => pure []
  | nodeId :: rest => do
    let known ← Effect.read fun repo => .ok (repo.getFabricNode nodeId)
    match known with
    | none => disconnectEach at_ rest
    | some node =>
      let _ ← Effect.commit (·.upsertFabricNode (markDisconnected at_ node) at_ nodeLeaseTtl)
      let others ← disconnectEach at_ rest
      return nodeId :: others

def disconnectNodes (nodeIds : List Identifier) (ambient : Ambient) :
    FabricM (List Identifier) := do
  let disconnected ← disconnectEach (ambient.clock 0) nodeIds
  disarmSessionsForNodes disconnected "adapter_disconnected" (ambient.clock 1)
  return disconnected

def armedSessionTtl (lastAttendedAt : Option Instant) (now : Instant) : Duration :=
  match lastAttendedAt with
  | some attended => if now - attended ≤ armInactivityTtl then armAttendedTtl else armInactivityTtl
  | none => armInactivityTtl

def isArmExpired (ttl : Duration) (now : Instant) (session : InteractionSession) : Bool :=
  session.mode = .physical && session.armed && decide (session.updatedAt + ttl ≤ now)

def expireArmedSessions (lastAttendedAt : Option Instant) (now : Instant) :
    FabricM (List Identifier) := do
  let ttl := armedSessionTtl lastAttendedAt now
  let sessions ← Effect.read (·.listInteractionSessions)
  Effect.forEach (disarmWhere (isArmExpired ttl now) (·.state) now "inactivity_timeout") sessions
  return (sessions.filter (isArmExpired ttl now)).map (·.sessionId)

/-- The draft that `create_session` stores; the identifier comes from the session factory. -/
def draftSession (request : CreateInteractionSessionRequest) (safetyProfile sessionId actorId :
    Identifier) (at_ : Instant) : InteractionSession where
  sessionId := sessionId
  coursePackId := request.coursePackId
  coursePackVersion := request.coursePackVersion
  siteId := request.siteId
  roomId := request.roomId
  mode := request.mode
  state := .draft
  armed := false
  armedAt := none
  armedBy := none
  disarmReason := some "session_created"
  participantIds := request.participantIds.getD []
  roleBindings := []
  safetyProfile := safetyProfile
  createdAt := at_
  updatedAt := at_
  startedAt := none
  endedAt := none
  createdBy := actorId

namespace Repository
variable (repo : Repository)

def createSession (allowPhysical : Bool) (request : CreateInteractionSessionRequest)
    (sessionId actorId : Identifier) (at_ : Instant) :
    Except FabricError (Repository × InteractionSession) :=
  match repo.getCoursePack request.coursePackId request.coursePackVersion with
  | none => .error (.notFound "COURSE_PACK_NOT_FOUND"
      "The exact course-pack version is not installed")
  | some coursePack =>
    if request.mode = .physical ∧ !allowPhysical then
      .error (.policy "PHYSICAL_EXECUTION_DISABLED"
        "Physical Fabric sessions are disabled in this reference slice")
    else
      let session := draftSession request coursePack.safetyProfile sessionId actorId at_
      (repo.createInteractionSession session).map (·, session)

end Repository

def createSession (allowPhysical : Bool) (request : CreateInteractionSessionRequest)
    (sessionId actorId : Identifier) (at_ : Instant) : FabricM InteractionSession :=
  Effect.commit (·.createSession allowPhysical request sessionId actorId at_)

def requiredRolesAreBound (session : InteractionSession) (coursePack : CoursePack) : Bool :=
  coursePack.roles.all fun requirement =>
    requirement.optional || session.roleBindings.any fun binding => binding.role = requirement.role

def unarmedSafetyGuards : List FlowGuard :=
  [.session_is_active, .role_is_assigned, .target_is_connected, .target_is_armed,
    .instructor_override_is_clear]

def monitoringFlowsAreDormantWhenUnarmed (coursePack : CoursePack) : Bool :=
  coursePack.flows.all fun flow => !flow.enabled || (flowCandidateRoles flow).all fun role =>
    (coursePack.requirement? role).any (·.optional) && unarmedSafetyGuards.all (· ∈ flow.guards)

/-- The preferred unarmed session of a course pack in a room, if one can be reused. -/
def reusableSession (coursePack : CoursePack) (siteId roomId : Identifier)
    (mode : FabricSessionMode) (sessions : List InteractionSession) : Option InteractionSession :=
  let candidate (state : FabricSessionState) := sessions.find? fun session =>
    session.coursePackId = coursePack.coursePackId ∧
      session.coursePackVersion = coursePack.version ∧ session.siteId = siteId ∧
      session.roomId = roomId ∧ session.mode = mode ∧ session.state = state ∧ !session.armed
  candidate .active <|> candidate .paused <|> candidate .ready <|> candidate .draft

/-- The flag tells whether an existing session is reused. -/
def ensureMonitoringSession (allowPhysical : Bool) (coursePack : CoursePack)
    (siteId roomId : Identifier) (mode : FabricSessionMode) (sessionId actorId : Identifier)
    (at_ : Instant) : FabricM (InteractionSession × Bool) := do
  Effect.read fun _ => if monitoringFlowsAreDormantWhenUnarmed coursePack then .ok () else
    .error (.value ("A monitoring session flow must target an optional role and include " ++
      "every deterministic unarmed-safety guard"))
  let sessions ← Effect.read (·.listInteractionSessions)
  match reusableSession coursePack siteId roomId mode sessions with
  | some session => return (session, true)
  | none =>
    let session ← createSession allowPhysical
      { coursePackId := coursePack.coursePackId
        coursePackVersion := coursePack.version
        siteId := siteId
        roomId := roomId
        mode := mode
        participantIds := none } sessionId actorId at_
    return (session, false)

/-- Whether a capability that the node advertises has a class with property `p`. -/
def advertisesClass (node : IntegrationNode) (p : FabricSafetyClassification → Bool)
    (capability : CapabilityIdentifier) : Bool :=
  match capabilityDescriptor node capability.text with
  | .ok descriptor => p descriptor.safetyClassification
  | .error _ => false

/-- What `assign_role` decides before it writes. -/
structure RoleAssignment where
  session : InteractionSession
  coursePack : CoursePack
  requiredCapability : CapabilityIdentifier
  isMonitoringExtension : Bool

def allowsRoleChange (state : FabricSessionState) : Bool :=
  state = .draft || state = .ready || state = .paused

namespace Repository
variable (repo : Repository)

/-- The checks of `assign_role` against the role's requirement. -/
def checkRequirement (session : InteractionSession) (node : IntegrationNode)
    (coursePack : CoursePack) (requirement : CourseRoleRequirement) :
    Except FabricError RoleAssignment :=
  let requiredAll := requirement.allOfCapabilities.getD []
  let compatible := requirement.oneOfCapabilities.filter (nodeHasCapability node ·.text)
  match compatible, requiredAll.all (nodeHasCapability node ·.text) with
  | requiredCapability :: _, true => do
    let roleCapabilities := compatible ++ requiredAll
    let extension := session.state = .active && !session.armed &&
      monitoringFlowsAreDormantWhenUnarmed coursePack && requirement.optional &&
      roleCapabilities.all (advertisesClass node (!isActuationClass ·))
    raiseIf (!allowsRoleChange session.state && !extension)
      (.conflict "SESSION_ACTIVE" ("Roles can be changed during an active session only for " ++
        "an unarmed, no-flow, optional informational monitoring role"))
    raiseIf (session.mode = .simulation ∧
        roleCapabilities.any (advertisesClass node isActuationClass) ∧ !node.simulated)
      (.policy "SIMULATOR_REQUIRED"
        "A simulation session cannot bind a real physical-actuation capability")
    raiseIf (node.connectionState ≠ .connected ∧ node.connectionState ≠ .degraded)
      (.conflict "NODE_UNAVAILABLE" "Role target node is unavailable")
    return ⟨session, coursePack, requiredCapability, extension⟩
  | _, _ => .error (.conflict "CAPABILITY_MISMATCH"
      s!"Node {PyString.repr node.nodeId.text} does not satisfy role {PyString.repr requirement.role.text}")

/-- The checks of `assign_role`. -/
def checkAssignment (sessionId role nodeId : Identifier) : Except FabricError RoleAssignment := do
  let session ← repo.requireSession sessionId
  let node ← repo.requireNode nodeId
  raiseIf (node.siteId ≠ session.siteId ∨ node.roomId ≠ session.roomId)
    (.policy "NODE_SCOPE_MISMATCH" "The node is outside the interaction session's site or room")
  let coursePack ← repo.requireCoursePack session
  match coursePack.requirement? role with
  | none =>
    .error (.notFound "ROLE_NOT_FOUND" s!"Course pack has no role {PyString.repr role.text}")
  | some requirement => checkRequirement session node coursePack requirement

end Repository

def assignRole (sessionId role nodeId actorId : Identifier) (at_ : Instant) :
    FabricM InteractionSession := do
  let assignment ← Effect.read (·.checkAssignment sessionId role nodeId)
  let binding : RoleBinding := ⟨role, nodeId, assignment.requiredCapability, at_, actorId⟩
  let updated ← Effect.commit fun repo => .ok (repo.bindInteractionRole assignment.session binding)
  if !assignment.isMonitoringExtension && requiredRolesAreBound updated assignment.coursePack then
    saveInteractionSession (updated.ready at_)
  else
    return updated

namespace Repository
variable (repo : Repository)

/-- The check that `_validate_bound_nodes` makes of one binding. -/
def validateBoundNode (coursePack : CoursePack) (binding : RoleBinding) :
    Except FabricError Unit := do
  let node ← repo.requireNode binding.nodeId
  raiseIf (node.connectionState ≠ .connected) (.conflict "NODE_UNAVAILABLE"
    s!"Role {PyString.repr binding.role.text} is assigned to an unavailable node")
  raiseIf (!nodeHasCapability node binding.requiredCapability.text) (.conflict "CAPABILITY_MISMATCH"
    s!"Role {PyString.repr binding.role.text} no longer has its required capability")
  match coursePack.requirement? binding.role with
  | none => .error .stopIteration
  | some requirement =>
    raiseIf (!(requirement.allOfCapabilities.getD []).all (nodeHasCapability node ·.text))
      (.conflict "CAPABILITY_MISMATCH"
        s!"Role {PyString.repr binding.role.text} no longer has all required capabilities")

def validateBoundNodes (session : InteractionSession) : Except FabricError Unit := do
  let coursePack ← repo.requireCoursePack session
  raiseIf (!requiredRolesAreBound session coursePack) (.conflict "REQUIRED_ROLES_UNASSIGNED"
    "All required course roles must be assigned before start")
  session.roleBindings.forM (repo.validateBoundNode coursePack)

/-- The bindings of an unarmed monitoring session: informational, and no flow's target. -/
def monitoringBindings (commandTargetRoles : List Identifier) :
    List RoleBinding → Except FabricError Bool
  | [] => .ok true
  | binding :: rest =>
    if binding.role ∈ commandTargetRoles then .ok false
    else do
      let node ← repo.requireNode binding.nodeId
      let descriptor ← capabilityDescriptor node binding.requiredCapability.text
      if isActuationClass descriptor.safetyClassification then return false
      else monitoringBindings commandTargetRoles rest

def isUnarmedMonitoringSession (session : InteractionSession) : Except FabricError Bool := do
  let coursePack ← repo.requireCoursePack session
  if session.roleBindings.isEmpty || !monitoringFlowsAreDormantWhenUnarmed coursePack then
    return false
  else
    let enabled := coursePack.flows.filter (·.enabled)
    repo.monitoringBindings (enabled.flatMap flowCandidateRoles) session.roleBindings

end Repository

inductive SessionAction where
  | arm | disarm | start | pause | stop | emergency_stop
  | unsupported (action : String)
  deriving DecidableEq

namespace Repository
variable (repo : Repository)

/-- The refusals of the `arm` branch. -/
def checkArm (allowPhysical : Bool) (session : InteractionSession) : Except FabricError Unit :=
  if session.mode ≠ .physical then
    .error (.policy "SIMULATION_ARMING_DENIED"
      "Simulation sessions do not arm physical outputs")
  else if !allowPhysical then
    .error (.policy "PHYSICAL_EXECUTION_DISABLED"
      "Physical Fabric sessions are disabled in this reference slice")
  else if session.state ≠ .ready ∧ session.state ≠ .paused then
    .error (.conflict "INVALID_SESSION_TRANSITION"
      "Only a ready or paused physical session can be armed")
  else repo.validateBoundNodes session

/-- The refusals of the `start` branch. -/
def checkStart (session : InteractionSession) : Except FabricError Unit :=
  if session.state ≠ .ready ∧ session.state ≠ .paused then
    .error (.conflict "INVALID_SESSION_TRANSITION"
      s!"Cannot start a session from {PyString.repr session.state.value}")
  else do
    repo.validateBoundNodes session
    if session.mode = .physical ∧ !session.armed then
      let monitoring ← repo.isUnarmedMonitoringSession session
      raiseIf (!monitoring) (.policy "SESSION_NOT_ARMED"
        "A physical session must be explicitly armed before start")
    else .ok ()

end Repository

/-- The refusal of the `pause` branch. -/
def checkPause (session : InteractionSession) : Except FabricError Unit :=
  if session.state ≠ .active then
    .error (.conflict "INVALID_SESSION_TRANSITION" "Only an active session can be paused")
  else .ok ()

/-- The `stop` and `emergency_stop` branch: a terminal session is returned as it is. -/
def stopSession (session : InteractionSession) (state : FabricSessionState) (reason : String)
    (at_ : Instant) : FabricM InteractionSession :=
  if session.isTerminal then pure session
  else do
    releaseFabricSessionLeases session.sessionId at_ reason
    saveInteractionSession (session.stop state reason at_)

def transitionSession (allowPhysical : Bool) (sessionId : Identifier) (action : SessionAction)
    (actorId : Identifier) (at_ : Instant) : FabricM InteractionSession := do
  let session ← Effect.read (·.requireSession sessionId)
  match action with
  | .arm =>
    Effect.read (·.checkArm allowPhysical session)
    saveInteractionSession (session.arm actorId at_)
  | .disarm => saveDisarmedSession session at_ "instructor_disarm" session.state
  | .start =>
    Effect.read (·.checkStart session)
    saveInteractionSession (session.start at_)
  | .pause =>
    Effect.read fun _ => checkPause session
    releaseFabricSessionLeases sessionId at_ "session_paused"
    saveInteractionSession (session.pause at_)
  | .stop => stopSession session .stopped "session_stop" at_
  | .emergency_stop => stopSession session .emergency_stopped "session_emergency_stop" at_
  | .unsupported action => throw (.value s!"Unsupported session action {PyString.repr action}")

end CitPhysicalXR.Fabric
