import CitPhysicalXR.Fabric.Records
import CitPhysicalXR.Foundation.Effect
import CitPhysicalXR.Foundation.KeyedTable

/-! The durable state of the fabric and the operations of its SQLite repository. Stored
texts of instants compare as the instants do. -/
namespace CitPhysicalXR.Fabric
open Foundation

structure NodeRow where
  node : IntegrationNode
  leaseExpiresAt : Instant

structure FabricControlLease where
  leaseId : Uuid
  nodeId : Identifier
  capability : CapabilityIdentifier
  sessionId : Identifier
  ownerNodeId : Option Identifier
  priority : FabricCommandPriority
  acquiredAt : Instant
  expiresAt : Instant
  releasedAt : Option Instant
  releaseReason : Option String
  deriving DecidableEq

structure FabricLeaseDecision where
  acquired : Bool
  holderSessionId : Option Identifier := none
  preemptedSessionId : Option Identifier := none
  deriving DecidableEq

structure FlowDebounce where
  sessionId : Identifier
  flowId : String
  sourceNodeId : Identifier
  lastTriggeredAt : Instant
  deriving DecidableEq

structure StoredFabricEvent where
  streamSequence : ℕ
  event : FabricEventEnvelope

structure StoredFabricLifecycle where
  streamSequence : ℕ
  lifecycle : FabricCommandLifecycleEvent

/-- Events and lifecycle records are append-only; the stream sequence of a record is its
position counted from one. -/
structure Repository where
  plugins : Table fun manifest : PluginManifest => (manifest.pluginId, manifest.pluginVersion)
  nodes : Table fun row : NodeRow => row.node.nodeId
  coursePacks : Table fun coursePack : CoursePack => (coursePack.coursePackId, coursePack.version)
  sessions : Table InteractionSession.sessionId
  events : List FabricEventEnvelope
  commands : List FabricResolvedCommand
  lifecycle : List FabricCommandLifecycleEvent
  leases : List FabricControlLease
  debounce : List FlowDebounce

/-- The values a call draws from its environment: the successive readings of the injected
clock and the successive results of `uuid4`. -/
structure Ambient where
  clock : ℕ → Instant
  uuid : ℕ → Uuid

def priorityRank : FabricCommandPriority → ℕ
  | .emergency_stop => 6
  | .safety_engine => 5
  | .instructor_override => 4
  | .lesson_automation => 3
  | .student_interaction => 2
  | .autonomous_agent => 1

def nodeLeaseTtl : Duration := seconds 15

namespace Repository

def empty : Repository where
  plugins := Table.empty
  nodes := Table.empty
  coursePacks := Table.empty
  sessions := Table.empty
  events := []
  commands := []
  lifecycle := []
  leases := []
  debounce := []

variable (repo : Repository)

def registerFabricPlugin (manifest : PluginManifest) : Except FabricError Repository := do
  encodeJson manifest.toJson maxJsonBytes
  return { repo with plugins := repo.plugins.upsert manifest }

def upsertFabricNode (node : IntegrationNode) (at_ : Instant) (leaseTtl : Duration) :
    Except FabricError (Repository × IntegrationNode) := do
  raiseIf (leaseTtl ≤ 0) (.value "lease_ttl must be positive")
  raiseIf (repo.plugins.get? (node.pluginId, node.pluginVersion)).isNone
    (.value s!"Plugin '{node.pluginId.text}' version {PyString.repr node.pluginVersion} is not registered")
  let normalized := { node with lastSeenAt := at_ }
  encodeJson normalized.toJson maxJsonBytes
  return ({ repo with nodes := repo.nodes.upsert ⟨normalized, at_ + leaseTtl⟩ }, normalized)

def getFabricNode (nodeId : Identifier) : Option IntegrationNode :=
  (repo.nodes.get? nodeId).map (·.node)

def updateFabricHealth (report : HealthReport) (at_ : Instant) (leaseTtl : Duration) :
    Except FabricError (Repository × IntegrationNode) :=
  if at_ + seconds 30 < report.reportedAt then
    .error (.value "Health report timestamp is too far in the future")
  else
    match repo.getFabricNode report.nodeId with
    | none => .error (.lookup s!"Fabric node '{report.nodeId.text}' is not registered")
    | some current =>
      let metadata := match report.batteryPercent with
        | none => current.metadata
        | some battery => current.metadata.set "batteryPercent" battery
      let metadata := match report.message with
        | none => metadata.pop "healthMessage"
        | some message => metadata.set "healthMessage" (.str message)
      let metadata := metadata.set "healthMetrics" report.metrics.toJson
      repo.upsertFabricNode { current with
        connectionState := report.connectionState
        healthState := report.healthState
        lastSeenAt := at_
        metadata := metadata } at_ leaseTtl

/-- `connection_state NOT IN ('unavailable', 'disconnected', 'unsafe')`. -/
def isPresent (state : FabricNodeConnectionState) : Bool :=
  state ≠ .unavailable ∧ state ≠ .disconnected ∧ state ≠ .unsafe_

def isExpired (at_ : Instant) (row : NodeRow) : Bool :=
  decide (row.leaseExpiresAt ≤ at_) && isPresent row.node.connectionState

def markUnavailable (at_ : Instant) (node : IntegrationNode) : IntegrationNode :=
  { node with connectionState := .unavailable, lastSeenAt := at_ }

/-- One transaction: an encoding failure of any expired node leaves the store unchanged. -/
def expireFabricNodes (at_ : Instant) : Except FabricError (Repository × List Identifier) := do
  let due := repo.nodes.rows.filter (isExpired at_)
  due.forM fun row => encodeJson (markUnavailable at_ row.node).toJson maxJsonBytes
  let expired := (due.map (·.node.nodeId)).insertionSort fun a b => a.text ≤ b.text
  return ({ repo with
    nodes := repo.nodes.mapRows
      (fun row => if isExpired at_ row then
        { row with node := markUnavailable at_ row.node } else row)
      (by intro row; split <;> rfl)
    leases := repo.leases.map fun lease =>
      if lease.releasedAt.isNone && decide (lease.nodeId ∈ expired) then
        { lease with releasedAt := some at_, releaseReason := some "node_lease_expired" }
      else lease }, expired)

def installCoursePack (coursePack : CoursePack) : Except FabricError Repository := do
  encodeJson coursePack.toJson maxCoursePackJsonBytes
  return { repo with coursePacks := repo.coursePacks.upsert coursePack }

def getCoursePack (coursePackId : Identifier) (version : String) : Option CoursePack :=
  repo.coursePacks.get? (coursePackId, version)

/-- `model_validate_json` on a stored session: the schema allows 64 role bindings. -/
def decodeSession (session : InteractionSession) : Except FabricError InteractionSession :=
  if session.roleBindings.length ≤ 64 then .ok session
  else .error (.value "roleBindings: List should have at most 64 items after validation")

def createInteractionSession (session : InteractionSession) : Except FabricError Repository :=
  if (repo.getCoursePack session.coursePackId session.coursePackVersion).isNone then
    .error (.value "Interaction session references an uninstalled course pack")
  else
    match repo.sessions.insert? session with
    | none => .error .integrity
    | some sessions => .ok { repo with sessions := sessions }

def getInteractionSession (sessionId : Identifier) :
    Except FabricError (Option InteractionSession) :=
  match repo.sessions.get? sessionId with
  | none => .ok none
  | some session => some <$> decodeSession session

/-- `ORDER BY created_at DESC, session_id`. -/
def sessionOrder (a b : InteractionSession) : Bool :=
  decide (b.createdAt < a.createdAt) ||
    (decide (a.createdAt = b.createdAt) && decide (a.sessionId.text ≤ b.sessionId.text))

def listInteractionSessions : Except FabricError (List InteractionSession) :=
  (repo.sessions.rows.insertionSort fun a b => sessionOrder a b).mapM decodeSession

def saveInteractionSession (session : InteractionSession) : Except FabricError Repository :=
  match repo.sessions.update? session with
  | none => .error (.lookup s!"Interaction session '{session.sessionId.text}' was not found")
  | some sessions => .ok { repo with sessions := sessions }

def withBinding (session : InteractionSession) (binding : RoleBinding) : InteractionSession :=
  { session with
    roleBindings := (session.roleBindings.filter (fun item => item.role ≠ binding.role) ++
      [binding]).insertionSort fun a b => a.role.text ≤ b.role.text
    updatedAt := binding.assignedAt }

def bindInteractionRole (session : InteractionSession) (binding : RoleBinding) :
    Repository × InteractionSession :=
  let updated := withBinding session binding
  ({ repo with sessions := (repo.sessions.update? updated).getD repo.sessions }, updated)

def payloadPolicyError (event : FabricEventEnvelope) : Option String :=
  if event.dataClassification = .sensitive_raw ∨ event.dataClassification = .secret then
    some "Raw sensitive data and secrets cannot enter Fabric persistence"
  else validateJsonValue 0 event.payload.toJson

def appendFabricEvent (event : FabricEventEnvelope) :
    Except FabricError (Repository × Option StoredFabricEvent) :=
  match payloadPolicyError event with
  | some message => .error (.value message)
  | none => do
    encodeJson event.toJson maxJsonBytes
    if repo.events.any fun stored => stored.messageId = event.messageId then
      return (repo, none)
    else
      raiseIf (repo.events.any fun stored =>
          stored.sourceNodeId = event.sourceNodeId ∧ stored.sequence = event.sequence)
        (.sequenceConflict s!"Node '{event.sourceNodeId.text}' reused sequence {event.sequence}")
      let record := { event with payload := event.payload.excludeNone }
      return ({ repo with events := repo.events ++ [record] },
        some ⟨repo.events.length + 1, event⟩)

/-- The flag tells whether the command is new; an earlier command with the same idempotency
key is returned instead of it. -/
def claimFabricCommand (command : FabricResolvedCommand) :
    Except FabricError (Repository × FabricResolvedCommand × Bool) := do
  encodeJson command.toJson maxJsonBytes
  match repo.commands.find? fun stored => stored.idempotencyKey = command.idempotencyKey with
  | some existing => return (repo, existing, false)
  | none =>
    raiseIf (repo.commands.any fun stored => stored.commandId = command.commandId) .integrity
    let record := { command with parameters := command.parameters.excludeNone }
    return ({ repo with commands := repo.commands ++ [record] }, command, true)

def getFabricCommand (commandId : Uuid) : Option FabricResolvedCommand :=
  repo.commands.find? fun stored => stored.commandId = commandId

/-- A message that is stored already is not stored again. -/
def appendFabricLifecycle (lifecycle : FabricCommandLifecycleEvent) :
    Except FabricError (Repository × Option StoredFabricLifecycle) := do
  encodeJson lifecycle.toJson maxJsonBytes
  if repo.lifecycle.any fun stored => stored.messageId = lifecycle.messageId then
    return (repo, none)
  else
    raiseIf (repo.getFabricCommand lifecycle.commandId).isNone .integrity
    let record := { lifecycle with details := lifecycle.details.excludeNone }
    return ({ repo with lifecycle := repo.lifecycle ++ [record] },
      some ⟨repo.lifecycle.length + 1, lifecycle⟩)

/-- The lifecycle records of a command in stream order, at most `limit` of them. -/
def listFabricLifecycle (commandId : Uuid) (limit : ℕ) : List FabricCommandLifecycleEvent :=
  (repo.lifecycle.filter fun stored => stored.commandId = commandId).take limit

def fabricPageLimit : ℕ := 500

end Repository

namespace FabricControlLease

def isActive (lease : FabricControlLease) : Bool := lease.releasedAt.isNone

def release (at_ : Instant) (reason : String) (lease : FabricControlLease) : FabricControlLease :=
  { lease with releasedAt := some at_, releaseReason := some reason }

/-- `UPDATE fabric_control_leases SET released_at = at … WHERE released_at IS NULL AND p`. -/
def releaseWhere (p : FabricControlLease → Bool) (at_ : Instant) (reason : String)
    (leases : List FabricControlLease) : List FabricControlLease :=
  leases.map fun lease => if lease.isActive && p lease then lease.release at_ reason else lease

def isFor (nodeId : Identifier) (capability : CapabilityIdentifier)
    (lease : FabricControlLease) : Bool :=
  decide (lease.nodeId = nodeId) && decide (lease.capability = capability)

/-- `acquire_fabric_control_lease`: renewal by the holding session, takeover by a strictly
higher rank, and takeover of an expired lease are one transaction. -/
def acquire (leases : List FabricControlLease) (command : FabricResolvedCommand)
    (at_ : Instant) (leaseId : Uuid) : List FabricControlLease × FabricLeaseDecision :=
  let leases := releaseWhere (fun lease => decide (lease.expiresAt ≤ at_)) at_ "expired" leases
  let granted : FabricControlLease :=
    { leaseId := leaseId
      nodeId := command.targetNodeId
      capability := command.action
      sessionId := command.sessionId
      ownerNodeId := command.sourceNodeId
      priority := command.priority
      acquiredAt := at_
      expiresAt := command.expiresAt
      releasedAt := none
      releaseReason := none }
  match leases.find? fun lease =>
      isFor command.targetNodeId command.action lease && lease.isActive with
  | none => (leases ++ [granted], { acquired := true })
  | some current =>
    let sameSession := decide (current.sessionId = command.sessionId)
    let mayPreempt := decide (priorityRank current.priority < priorityRank command.priority)
    if !sameSession && !mayPreempt then
      (leases, { acquired := false, holderSessionId := some current.sessionId })
    else
      (leases.map (fun lease => if lease.leaseId = current.leaseId then
          lease.release at_ (if sameSession then "renewed" else "priority_preempted")
        else lease) ++ [granted],
        { acquired := true
          preemptedSessionId := if sameSession then none else some current.sessionId })

/-- `release_fabric_session_leases`. -/
def releaseSession (leases : List FabricControlLease) (sessionId : Identifier) (at_ : Instant)
    (reason : String) : List FabricControlLease :=
  releaseWhere (fun lease => decide (lease.sessionId = sessionId)) at_ reason leases

end FabricControlLease

namespace Repository
variable (repo : Repository)

def acquireFabricControlLease (command : FabricResolvedCommand) (at_ : Instant) (leaseId : Uuid) :
    Repository × FabricLeaseDecision :=
  let (leases, decision) := FabricControlLease.acquire repo.leases command at_ leaseId
  ({ repo with leases := leases }, decision)

def releaseFabricSessionLeases (sessionId : Identifier) (at_ : Instant) (reason : String) :
    Repository :=
  { repo with leases := FabricControlLease.releaseSession repo.leases sessionId at_ reason }

/-- Whether the trigger may fire; if so, its instant is recorded. -/
def claimFlowDebounce (sessionId : Identifier) (flowId : String) (sourceNodeId : Identifier)
    (at_ : Instant) (debounce : Duration) : Repository × Bool :=
  let isKey (row : FlowDebounce) : Bool :=
    decide (row.sessionId = sessionId ∧ row.flowId = flowId ∧ row.sourceNodeId = sourceNodeId)
  let claimed : FlowDebounce := ⟨sessionId, flowId, sourceNodeId, at_⟩
  match repo.debounce.find? isKey with
  | some row =>
    if at_ - row.lastTriggeredAt < debounce then (repo, false)
    else ({ repo with debounce :=
      repo.debounce.map fun row => if isKey row then claimed else row }, true)
  | none => ({ repo with debounce := repo.debounce ++ [claimed] }, true)

variable {repo} {repo' : Repository}

theorem upsertFabricNode_ok {node node' : IntegrationNode} {at_ : Instant} {ttl : Duration}
    (h : repo.upsertFabricNode node at_ ttl = .ok (repo', node')) :
    node' = { node with lastSeenAt := at_ } ∧
      repo' = { repo with nodes := repo.nodes.upsert ⟨node', at_ + ttl⟩ } := by
  unfold upsertFabricNode at h
  obtain ⟨_, _, h⟩ := bind_eq_ok.mp h
  obtain ⟨_, _, h⟩ := bind_eq_ok.mp h
  obtain ⟨_, _, h⟩ := bind_eq_ok.mp h
  cases h
  exact ⟨rfl, rfl⟩

theorem updateFabricHealth_ok {report : HealthReport} {node' : IntegrationNode} {at_ : Instant}
    {ttl : Duration} (h : repo.updateFabricHealth report at_ ttl = .ok (repo', node')) :
    (∃ current metadata, repo.getFabricNode report.nodeId = some current ∧ node' =
      { current with
        connectionState := report.connectionState
        healthState := report.healthState
        lastSeenAt := at_
        metadata := metadata }) ∧
      repo' = { repo with nodes := repo.nodes.upsert ⟨node', at_ + ttl⟩ } := by
  unfold updateFabricHealth at h
  split at h
  · cases h
  · split at h
    · cases h
    · rename_i current hcurrent
      obtain ⟨hnode, hrepo⟩ := upsertFabricNode_ok h
      exact ⟨⟨current, _, hcurrent, hnode⟩, hrepo⟩

theorem getFabricNode_eq_some {nodeId : Identifier} {node : IntegrationNode} :
    repo.getFabricNode nodeId = some node ↔
      ∃ row ∈ repo.nodes, row.node = node ∧ node.nodeId = nodeId := by
  simp only [getFabricNode, Option.map_eq_some_iff, Table.get?_eq_some]
  constructor
  · rintro ⟨row, ⟨hrow, rfl⟩, rfl⟩
    exact ⟨row, hrow, rfl, rfl⟩
  · rintro ⟨row, hrow, rfl, rfl⟩
    exact ⟨row, ⟨hrow, rfl⟩, rfl⟩

theorem getFabricNode_upsert_self (row : NodeRow) :
    getFabricNode { repo with nodes := repo.nodes.upsert row } row.node.nodeId = some row.node := by
  have hself : (repo.nodes.upsert row).get? row.node.nodeId = some row :=
    Table.get?_upsert_self row
  simp [getFabricNode, hself]

theorem getFabricNode_upsert_of_ne {row : NodeRow} {nodeId : Identifier}
    (h : nodeId ≠ row.node.nodeId) :
    getFabricNode { repo with nodes := repo.nodes.upsert row } nodeId =
      repo.getFabricNode nodeId := by
  have hother : (repo.nodes.upsert row).get? nodeId = repo.nodes.get? nodeId :=
    Table.get?_upsert_of_ne h
  simp [getFabricNode, hother]

theorem expireFabricNodes_ok {at_ : Instant} {expired : List Identifier}
    (h : repo.expireFabricNodes at_ = .ok (repo', expired)) :
    ∃ (nodes : Table fun row : NodeRow => row.node.nodeId) (leases : List FabricControlLease),
      repo' = { repo with nodes := nodes, leases := leases } ∧
      (∀ row', row' ∈ nodes ↔ ∃ row ∈ repo.nodes, row' = if isExpired at_ row then
        { row with node := markUnavailable at_ row.node } else row) ∧
      (∀ nodeId, nodeId ∈ expired ↔
        ∃ row ∈ repo.nodes, isExpired at_ row = true ∧ row.node.nodeId = nodeId) := by
  unfold expireFabricNodes at h
  obtain ⟨_, _, h⟩ := bind_eq_ok.mp h
  cases h
  refine ⟨_, _, rfl, ?_, ?_⟩
  · intro row'
    rw [Table.mem_mapRows]
    exact exists_congr fun row => and_congr Iff.rfl eq_comm
  · intro nodeId
    simp only [List.mem_insertionSort, List.mem_map, List.mem_filter, and_assoc]
    rfl

theorem createInteractionSession_ok {session : InteractionSession}
    (h : repo.createInteractionSession session = .ok repo') :
    ∃ sessions, repo.sessions.insert? session = some sessions ∧
      repo' = { repo with sessions := sessions } := by
  unfold createInteractionSession at h
  split at h
  · cases h
  · split at h
    · cases h
    · rename_i sessions hs
      cases h
      exact ⟨sessions, hs, rfl⟩

theorem saveInteractionSession_ok {session : InteractionSession}
    (h : repo.saveInteractionSession session = .ok repo') :
    ∃ sessions, repo.sessions.update? session = some sessions ∧
      repo' = { repo with sessions := sessions } := by
  unfold saveInteractionSession at h
  split at h
  · cases h
  · rename_i sessions hs
    cases h
    exact ⟨sessions, hs, rfl⟩

theorem getInteractionSession_ok {sessionId : Identifier} {session : InteractionSession}
    (h : repo.getInteractionSession sessionId = .ok (some session)) :
    repo.sessions.get? sessionId = some session ∧ session.roleBindings.length ≤ 64 := by
  unfold getInteractionSession at h
  split at h
  · cases h
  · rename_i stored hstored
    unfold decodeSession at h
    split at h
    · cases h
      exact ⟨hstored, ‹_›⟩
    · cases h

theorem listInteractionSessions_ok {sessions : List InteractionSession}
    (h : repo.listInteractionSessions = .ok sessions) :
    sessions.Perm repo.sessions.rows := by
  have hdecode : ∀ {stored decoded : List InteractionSession},
      stored.mapM decodeSession = .ok decoded → decoded = stored := by
    intro stored
    induction stored with
    | nil =>
      intro decoded h
      cases h
      rfl
    | cons session rest ih =>
      intro decoded h
      rw [List.mapM_cons] at h
      obtain ⟨first, hfirst, h⟩ := bind_eq_ok.mp h
      obtain ⟨others, hothers, h⟩ := bind_eq_ok.mp h
      cases h
      have hfirst : first = session := by
        unfold decodeSession at hfirst
        split at hfirst
        · cases hfirst
          rfl
        · cases hfirst
      rw [hfirst, ih hothers]
  rw [hdecode h]
  exact List.perm_insertionSort _ _

theorem appendFabricEvent_ok {event : FabricEventEnvelope} {stored : Option StoredFabricEvent}
    (h : repo.appendFabricEvent event = .ok (repo', stored)) :
    (stored = none ∧ repo' = repo ∧ ∃ old ∈ repo.events, old.messageId = event.messageId) ∨
      (stored = some ⟨repo.events.length + 1, event⟩ ∧
        repo' = { repo with
          events := repo.events ++ [{ event with payload := event.payload.excludeNone }] } ∧
        ∀ old ∈ repo.events, old.messageId ≠ event.messageId ∧
          ¬ (old.sourceNodeId = event.sourceNodeId ∧ old.sequence = event.sequence)) := by
  unfold appendFabricEvent at h
  split at h
  · cases h
  · obtain ⟨_, _, h⟩ := bind_eq_ok.mp h
    split at h
    · rename_i hdup
      cases h
      exact .inl ⟨rfl, rfl, by simpa using hdup⟩
    · rename_i hdup
      obtain ⟨_, hseq, h⟩ := bind_eq_ok.mp h
      rw [raiseIf_eq_ok] at hseq
      cases h
      refine .inr ⟨rfl, rfl, fun old hold => ⟨?_, ?_⟩⟩
      · intro he
        exact hdup (List.any_eq_true.mpr ⟨old, hold, by simpa using he⟩)
      · intro he
        exact hseq (List.any_eq_true.mpr ⟨old, hold, by simpa using he⟩)

theorem claimFabricCommand_ok {command claimed : FabricResolvedCommand} {isNew : Bool}
    (h : repo.claimFabricCommand command = .ok (repo', claimed, isNew)) :
    (isNew = false ∧ repo' = repo ∧ claimed ∈ repo.commands ∧
        claimed.idempotencyKey = command.idempotencyKey) ∨
      (isNew = true ∧ claimed = command ∧
        repo' = { repo with commands := repo.commands ++
          [{ command with parameters := command.parameters.excludeNone }] } ∧
        ∀ old ∈ repo.commands, old.idempotencyKey ≠ command.idempotencyKey ∧
          old.commandId ≠ command.commandId) := by
  unfold claimFabricCommand at h
  obtain ⟨_, _, h⟩ := bind_eq_ok.mp h
  split at h
  · rename_i existing hexisting
    cases h
    have hkey := List.find?_some hexisting
    exact .inl ⟨rfl, rfl, List.mem_of_find?_eq_some hexisting, by simpa using hkey⟩
  · rename_i hnone
    obtain ⟨_, hid, h⟩ := bind_eq_ok.mp h
    rw [raiseIf_eq_ok] at hid
    cases h
    refine .inr ⟨rfl, rfl, rfl, fun old hold => ⟨?_, ?_⟩⟩
    · simpa using List.find?_eq_none.mp hnone old hold
    · intro he
      exact hid (List.any_eq_true.mpr ⟨old, hold, by simpa using he⟩)

theorem claimFabricCommand_encodes {command claimed : FabricResolvedCommand} {isNew : Bool}
    (h : repo.claimFabricCommand command = .ok (repo', claimed, isNew)) :
    encodeJson command.toJson maxJsonBytes = .ok () := by
  unfold claimFabricCommand at h
  obtain ⟨_, hencode, _⟩ := bind_eq_ok.mp h
  exact hencode

theorem appendFabricLifecycle_ok {lifecycle : FabricCommandLifecycleEvent}
    {stored : Option StoredFabricLifecycle}
    (h : repo.appendFabricLifecycle lifecycle = .ok (repo', stored)) :
    (stored = none ∧ repo' = repo ∧
        ∃ old ∈ repo.lifecycle, old.messageId = lifecycle.messageId) ∨
      (stored = some ⟨repo.lifecycle.length + 1, lifecycle⟩ ∧
        repo' = { repo with lifecycle := repo.lifecycle ++
          [{ lifecycle with details := lifecycle.details.excludeNone }] } ∧
        (repo.getFabricCommand lifecycle.commandId).isSome ∧
        ∀ old ∈ repo.lifecycle, old.messageId ≠ lifecycle.messageId) := by
  unfold appendFabricLifecycle at h
  obtain ⟨_, _, h⟩ := bind_eq_ok.mp h
  split at h
  · rename_i hdup
    cases h
    exact .inl ⟨rfl, rfl, by simpa using hdup⟩
  · rename_i hdup
    obtain ⟨_, hcommand, h⟩ := bind_eq_ok.mp h
    rw [raiseIf_eq_ok] at hcommand
    cases h
    refine .inr ⟨rfl, rfl, by simpa [Option.isSome_iff_ne_none] using hcommand,
      fun old hold he => ?_⟩
    exact hdup (List.any_eq_true.mpr ⟨old, hold, by simpa using he⟩)

theorem appendFabricLifecycle_encodes {lifecycle : FabricCommandLifecycleEvent}
    {stored : Option StoredFabricLifecycle}
    (h : repo.appendFabricLifecycle lifecycle = .ok (repo', stored)) :
    encodeJson lifecycle.toJson maxJsonBytes = .ok () := by
  unfold appendFabricLifecycle at h
  obtain ⟨_, hencode, _⟩ := bind_eq_ok.mp h
  exact hencode

theorem claimFlowDebounce_eq {sessionId : Identifier} {flowId : String}
    {sourceNodeId : Identifier} {at_ : Instant} {debounce : Duration} {fires : Bool}
    (h : repo.claimFlowDebounce sessionId flowId sourceNodeId at_ debounce = (repo', fires)) :
    ∃ rows, repo' = { repo with debounce := rows } := by
  unfold claimFlowDebounce at h
  dsimp only at h
  split at h
  · split at h
    · cases h
      exact ⟨repo.debounce, rfl⟩
    · cases h
      exact ⟨_, rfl⟩
  · cases h
    exact ⟨_, rfl⟩

end Repository
end CitPhysicalXR.Fabric
