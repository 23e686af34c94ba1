import CitPhysicalXR.Fabric.SessionInvariant
import Mathlib.Data.List.TakeWhile

/-! Node loss and arming: whether an armed physical session can have a role on a node that is
lost. Health reports, heartbeat expiry and disconnects end in a disarming sweep; registration,
arming and role assignment do not look at every field that makes a node lost. -/
namespace CitPhysicalXR.Fabric
open Foundation

/-- No armed physical session has a role on a lost node, the named nodes left aside. -/
def SparesLost (nodeIds : List Identifier) (repo : Repository) : Prop :=
  ∀ session ∈ repo.sessions, session.mode = .physical → session.armed = true →
    ∀ binding ∈ session.roleBindings, binding.nodeId ∉ nodeIds →
      ∀ row ∈ repo.nodes, row.node.nodeId = binding.nodeId → row.node.isLost = false

namespace Repository
variable (repo : Repository)

/-- Whether an armed physical session has a role on the node. -/
def isInUse (nodeId : Identifier) : Bool := repo.sessions.rows.any (isAffected [nodeId])

def isUnhealthy (nodeId : Identifier) : Bool :=
  (repo.getFabricNode nodeId).any (·.healthState = .unhealthy)

variable {repo}

theorem isInUse_of_binding {session : InteractionSession} {binding : RoleBinding}
    (hsession : session ∈ repo.sessions) (hmode : session.mode = .physical)
    (harmed : session.armed = true) (hbinding : binding ∈ session.roleBindings) :
    repo.isInUse binding.nodeId = true := by
  refine List.any_eq_true.mpr ⟨session, hsession, ?_⟩
  simp only [isAffected, hmode, harmed, InteractionSession.bindsAny, decide_true, Bool.and_true,
    Bool.true_and, List.any_eq_true]
  exact ⟨binding, hbinding, by simp⟩

end Repository

namespace SparesLost
variable {repo : Repository} {nodeIds nodeIds' : List Identifier}

theorem empty : SparesLost [] Repository.empty := by
  intro session hsession
  exact absurd hsession (Table.not_mem_empty session)

/-- Nodes that no armed session uses need not be left aside. -/
theorem drop (h : SparesLost nodeIds repo)
    (hunused : ∀ nodeId ∈ nodeIds, repo.isInUse nodeId = false ∨ nodeId ∈ nodeIds') :
    SparesLost nodeIds' repo := by
  intro session hsession hmode harmed binding hbinding hnotin
  apply h session hsession hmode harmed binding hbinding
  intro hin
  rcases hunused _ hin with hfree | hin'
  · rw [Repository.isInUse_of_binding hsession hmode harmed hbinding] at hfree
    cases hfree
  · exact hnotin hin'

theorem mono (h : SparesLost nodeIds repo) (hsub : nodeIds ⊆ nodeIds') :
    SparesLost nodeIds' repo := h.drop fun _ hin => .inr (hsub hin)

/-- Rows may change where they stay in service or where their node is left aside. -/
theorem nodes (h : SparesLost nodeIds repo) {nodes : Table fun row : NodeRow => row.node.nodeId}
    (hrows : ∀ row ∈ nodes, row ∈ repo.nodes ∨ row.node.isLost = false ∨
      row.node.nodeId ∈ nodeIds) : SparesLost nodeIds { repo with nodes := nodes } := by
  intro session hsession hmode harmed binding hbinding hnotin row hrow hid
  rcases hrows row hrow with hold | hkept | hin
  · exact h session hsession hmode harmed binding hbinding hnotin row hold hid
  · exact hkept
  · exact absurd (hid ▸ hin) hnotin

theorem upsert (h : SparesLost nodeIds repo) {row : NodeRow}
    (hrow : row.node.isLost = false ∨ row.node.nodeId ∈ nodeIds) :
    SparesLost nodeIds { repo with nodes := repo.nodes.upsert row } := by
  apply h.nodes
  intro row' hrow'
  rcases Table.mem_upsert.mp hrow' with rfl | ⟨hold, _⟩
  · exact .inr hrow
  · exact .inl hold

theorem update (h : SparesLost nodeIds repo) {session : InteractionSession}
    {sessions : Table InteractionSession.sessionId}
    (hupdate : repo.sessions.update? session = some sessions)
    (hsession : session.mode = .physical → session.armed = true →
      ∀ binding ∈ session.roleBindings, binding.nodeId ∉ nodeIds →
        ∀ row ∈ repo.nodes, row.node.nodeId = binding.nodeId → row.node.isLost = false) :
    SparesLost nodeIds { repo with sessions := sessions } := by
  intro other hother
  rcases (Table.mem_update? hupdate).mp hother with rfl | ⟨hold, _⟩
  · exact hsession
  · exact h other hold

/-- Writes that neither arm a session, nor bind a role, nor touch a node. -/
theorem stable (nodeIds : List Identifier) : Stable (SparesLost nodeIds) where
  coursePacks h _ := h
  leases h _ := h
  debounce h _ := h
  event h _ := h
  create := by
    intro repo request safetyProfile sessionId actorId at_ sessions h _ hinsert session hsession
    rcases (Table.mem_insert? hinsert).mp hsession with hold | rfl
    · exact h session hold
    · exact fun _ harmed => absurd harmed (by simp [draftSession])
  change := by
    intro repo session session' sessions h hsession hchange hupdate
    refine h.update hupdate fun hmode harmed => ?_
    obtain ⟨harmed', hmode', hbindings⟩ := hchange.armed_eq harmed
    rw [hbindings]
    exact h session hsession (hmode' ▸ hmode) harmed'

theorem commandStable (nodeIds : List Identifier) : CommandStable (SparesLost nodeIds) where
  claim h _ := h
  lifecycle h _ := h

end SparesLost

theorem disarmSessionsForNodes_spares (nodeIds : List Identifier) (reason : String)
    (at_ : Instant) :
    Effect.Triple (fun repo => SparesLost nodeIds repo ∧
        ((∀ nodeId ∈ nodeIds, repo.isInUse nodeId = false) ∨ repo.isSweepable = true))
      (disarmSessionsForNodes nodeIds reason at_)
      (fun _ => SparesLost []) (fun _ => SparesLost []) := by
  rintro repo ⟨hrepo, hunused | hsweepable⟩
  · exact disarmSessionsForNodes_keeps (SparesLost.stable []) nodeIds reason at_ repo
      (hrepo.drop fun nodeId hin => .inl (hunused nodeId hin))
  · refine ((disarmSessionsForNodes_disarms (SparesLost.stable nodeIds)
      (P := fun repo => SparesLost nodeIds repo ∧ repo.isSweepable = true) (fun _ h => h.1)
      nodeIds reason at_).conseq (fun _ h => h) ?_ ?_) repo ⟨hrepo, hsweepable⟩
    · rintro _ repo ⟨hspares, hdisarmed⟩ session hsession hmode harmed binding hbinding _
      apply hspares session hsession hmode harmed binding hbinding
      intro hin
      have haffected := hdisarmed session hsession harmed
      simp only [isAffected, hmode, harmed, decide_true, Bool.true_and,
        InteractionSession.bindsAny, List.any_eq_false, decide_eq_true_eq] at haffected
      exact haffected binding hbinding hin
    · rintro _ repo ⟨⟨_, hsweepable⟩, hnot⟩
      rw [hsweepable] at hnot
      cases hnot

/-- The states that the report gives its node count as lost. -/
def HealthReport.reportsLoss (report : HealthReport) : Bool :=
  report.connectionState = .unavailable || report.connectionState = .disconnected ||
    report.connectionState = .unsafe_ || report.healthState = .unhealthy

namespace Repository
variable (repo : Repository)

/-- A lost node in use is disarmed, for the sweep can read every session. -/
def sweepsHealth (report : HealthReport) (at_ : Instant) : Bool :=
  !((repo.updateFabricHealth report at_ nodeLeaseTtl).toBool && report.reportsLoss &&
    repo.isInUse report.nodeId) || repo.isSweepable

def sweepsExpired (at_ : Instant) : Bool :=
  !((repo.expireFabricNodes at_).toBool && repo.nodes.rows.any fun row =>
    isExpired at_ row && repo.isInUse row.node.nodeId) || repo.isSweepable

end Repository

theorem reportHealth_spares (report : HealthReport) (ambient : Ambient) :
    Effect.Triple (fun repo => SparesLost [] repo ∧
        repo.sweepsHealth report (ambient.clock 0) = true)
      (reportHealth report ambient) (fun _ => SparesLost []) (fun _ => SparesLost []) := by
  apply Effect.Triple.bind (Q := fun updated repo => if updated.isLost = true then
    SparesLost [updated.nodeId] repo ∧ ((∀ nodeId ∈ [updated.nodeId], repo.isInUse nodeId = false) ∨
      repo.isSweepable = true) else SparesLost [] repo)
  · apply Effect.Triple.commit
    · rintro repo repo' updated ⟨hrepo, hsweeps⟩ h
      obtain ⟨⟨current, metadata, hcurrent, rfl⟩, rfl⟩ := Repository.updateFabricHealth_ok h
      obtain ⟨row, _, rfl, hid⟩ := Repository.getFabricNode_eq_some.mp hcurrent
      split
      · rename_i hlost
        have hreports : report.reportsLoss = true := hlost
        refine ⟨(hrepo.mono (by simp)).upsert (.inr (by simp)), ?_⟩
        simp only [Repository.sweepsHealth, h, Except.toBool, hreports, Bool.true_and,
          Bool.or_eq_true, Bool.not_eq_true'] at hsweeps
        refine hsweeps.imp (fun hunused nodeId hin => ?_) id
        obtain rfl := List.mem_singleton.mp hin
        exact hid ▸ hunused
      · rename_i hlost
        exact hrepo.upsert (.inl (by simpa using hlost))
    · exact fun _ _ hrepo _ => hrepo.1
  · intro updated
    split
    · apply Effect.Triple.bind (disarmSessionsForNodes_spares _ _ _)
      intro _
      exact Effect.Triple.pure fun _ h => h
    · exact Effect.Triple.pure fun _ h => h

theorem expireNodes_spares (ambient : Ambient) :
    Effect.Triple (fun repo => SparesLost [] repo ∧ repo.sweepsExpired (ambient.clock 0) = true)
      (expireNodes ambient) (fun _ => SparesLost []) (fun _ => SparesLost []) := by
  apply Effect.Triple.bind (Q := fun expired repo => SparesLost expired repo ∧
    ((∀ nodeId ∈ expired, repo.isInUse nodeId = false) ∨ repo.isSweepable = true))
  · apply Effect.Triple.commit
    · rintro repo repo' expired ⟨hrepo, hsweeps⟩ h
      obtain ⟨nodes, leases, rfl, hrows, hexpired⟩ := Repository.expireFabricNodes_ok h
      refine ⟨(hrepo.mono (by simp)).nodes ?_, ?_⟩
      · intro row' hrow'
        obtain ⟨row, hrow, rfl⟩ := (hrows row').mp hrow'
        split
        · rename_i hdue
          exact .inr (.inr ((hexpired _).mpr ⟨row, hrow, hdue, rfl⟩))
        · exact .inl hrow
      · simp only [Repository.sweepsExpired, h, Except.toBool, Bool.true_and, Bool.or_eq_true,
          Bool.not_eq_true', List.any_eq_false, Bool.and_eq_true, not_and,
          Bool.not_eq_true] at hsweeps
        refine hsweeps.imp (fun hunused nodeId hin => ?_) id
        obtain ⟨row, hrow, hdue, rfl⟩ := (hexpired nodeId).mp hin
        exact hunused row hrow hdue
    · exact fun _ _ hrepo _ => hrepo.1
  · intro expired
    apply Effect.Triple.bind (disarmSessionsForNodes_spares _ _ _)
    intro _
    exact Effect.Triple.pure fun _ h => h

namespace Repository
variable {repo repo' : Repository}

/-- Whether a node can be marked as disconnected; an unknown node is skipped. -/
def canDisconnect (repo : Repository) (at_ : Instant) (nodeId : Identifier) : Bool :=
  (repo.getFabricNode nodeId).all fun node =>
    (repo.upsertFabricNode (markDisconnected at_ node) at_ nodeLeaseTtl).toBool

/-- The nodes that a disconnect writes are unused, or it ends in a sweep. -/
def sweepsDisconnected (repo : Repository) (at_ : Instant) (nodeIds : List Identifier) : Bool :=
  ((nodeIds.takeWhile (repo.canDisconnect at_)).all fun nodeId => !repo.isInUse nodeId) ||
    nodeIds.all (repo.canDisconnect at_) && repo.isSweepable

theorem upsertFabricNode_toBool (hplugins : repo'.plugins = repo.plugins) (node : IntegrationNode)
    (at_ : Instant) (ttl : Duration) :
    (repo'.upsertFabricNode node at_ ttl).toBool = (repo.upsertFabricNode node at_ ttl).toBool := by
  unfold upsertFabricNode
  rw [hplugins]
  cases raiseIf (ttl ≤ 0) (FabricError.value "lease_ttl must be positive") with
  | error e => rfl
  | ok _ =>
    cases raiseIf ((repo.plugins.get? (node.pluginId, node.pluginVersion)).isNone = true)
      (FabricError.value s!"Plugin '{node.pluginId.text}' version {PyString.repr node.pluginVersion} is not registered") with
    | error e => rfl
    | ok _ =>
      cases hencode : encodeJson ({ node with lastSeenAt := at_ } : IntegrationNode).toJson
        maxJsonBytes with
      | error e => simp [hencode, Bind.bind, Except.bind, Except.toBool]
      | ok _ => simp [hencode, Bind.bind, Except.bind, Except.toBool, pure, Except.pure]

theorem canDisconnect_upsert {node : IntegrationNode} {nodeId : Identifier} {at_ : Instant}
    (hnode : repo.getFabricNode nodeId = some node) (leaseExpiresAt : Instant) :
    canDisconnect { repo with
      nodes := repo.nodes.upsert ⟨markDisconnected at_ node, leaseExpiresAt⟩ } at_ =
      repo.canDisconnect at_ := by
  obtain ⟨row, _, rfl, hid⟩ := getFabricNode_eq_some.mp hnode
  have hstores : ∀ node', (upsertFabricNode { repo with
      nodes := repo.nodes.upsert ⟨markDisconnected at_ row.node, leaseExpiresAt⟩ }
      (markDisconnected at_ node') at_ nodeLeaseTtl).toBool =
      (repo.upsertFabricNode (markDisconnected at_ node') at_ nodeLeaseTtl).toBool := by
    intro node'
    apply upsertFabricNode_toBool
    rfl
  funext other
  unfold canDisconnect
  by_cases hother : other = nodeId
  · subst hother
    have hmarked : getFabricNode { repo with
        nodes := repo.nodes.upsert ⟨markDisconnected at_ row.node, leaseExpiresAt⟩ }
        (markDisconnected at_ row.node).nodeId = some (markDisconnected at_ row.node) :=
      getFabricNode_upsert_self ⟨markDisconnected at_ row.node, leaseExpiresAt⟩
    rw [show (markDisconnected at_ row.node).nodeId = other from hid] at hmarked
    rw [hmarked, hnode]
    exact hstores (markDisconnected at_ row.node)
  · rw [getFabricNode_upsert_of_ne (by simpa [markDisconnected, hid] using hother)]
    simp only [hstores]

end Repository

/-- The loop of a disconnect writes the nodes of its prefix that can be written. -/
theorem disconnectEach_spares (at_ : Instant) (sessions : Table InteractionSession.sessionId)
    (writable : Identifier → Bool) (rest nodeIds : List Identifier) :
    Effect.Triple (fun repo => SparesLost nodeIds repo ∧ repo.sessions = sessions ∧
        repo.canDisconnect at_ = writable)
      (disconnectEach at_ rest)
      (fun written repo => SparesLost (written ++ nodeIds) repo ∧ repo.sessions = sessions ∧
        rest.all writable = true ∧ written ⊆ rest)
      (fun _ repo => SparesLost (rest.takeWhile writable ++ nodeIds) repo ∧
        repo.sessions = sessions ∧ rest.all writable = false) := by
  induction rest generalizing nodeIds with
  | nil => exact Effect.Triple.pure fun repo h => ⟨h.1, h.2.1, rfl, by simp⟩
  | cons nodeId rest ih =>
    apply Effect.Triple.bind (Q := fun known repo => (SparesLost nodeIds repo ∧
      repo.sessions = sessions ∧ repo.canDisconnect at_ = writable) ∧
        repo.getFabricNode nodeId = known)
    · exact Effect.Triple.read (fun repo known h hknown => ⟨h, Except.ok.inj hknown⟩)
        fun repo e _ h => (by cases h)
    intro known
    cases known with
    | none =>
      have hskip : ∀ repo, (SparesLost nodeIds repo ∧ repo.sessions = sessions ∧
          repo.canDisconnect at_ = writable) ∧ repo.getFabricNode nodeId = none →
          writable nodeId = true := by
        rintro repo ⟨⟨_, _, rfl⟩, hnone⟩
        simp [Repository.canDisconnect, hnone]
      intro repo h
      refine ((ih nodeIds).conseq (fun _ h => h) ?_ ?_) repo h.1
      · rintro written repo' ⟨hspares, hsessions, hall, hsub⟩
        exact ⟨hspares, hsessions, by simpa [hskip repo h] using hall,
          fun id hin => List.mem_cons_of_mem nodeId (hsub hin)⟩
      · rintro e repo' ⟨hspares, hsessions, hall⟩
        rw [List.takeWhile_cons_of_pos (hskip repo h)]
        exact ⟨hspares.mono (by simp), hsessions, by simpa [hskip repo h] using hall⟩
    | some node =>
      apply Effect.Triple.bind (Q := fun _ repo => (SparesLost (nodeId :: nodeIds) repo ∧
        repo.sessions = sessions ∧ repo.canDisconnect at_ = writable) ∧ writable nodeId = true)
      · apply Effect.Triple.commit
        · rintro repo repo' stored ⟨⟨hspares, hsessions, rfl⟩, hnode⟩ h
          obtain ⟨rfl, rfl⟩ := Repository.upsertFabricNode_ok h
          have hid : node.nodeId = nodeId := by
            obtain ⟨_, _, _, hid⟩ := Repository.getFabricNode_eq_some.mp hnode
            exact hid
          refine ⟨⟨(hspares.mono (List.subset_cons_self _ _)).upsert (.inr ?_), hsessions,
            Repository.canDisconnect_upsert hnode _⟩, ?_⟩
          · exact hid ▸ List.mem_cons_self
          · simp [Repository.canDisconnect, hnode, h, Except.toBool]
        · rintro repo e ⟨⟨hspares, hsessions, rfl⟩, hnode⟩ h
          have hnot : repo.canDisconnect at_ nodeId = false := by
            simp [Repository.canDisconnect, hnode, h, Except.toBool]
          rw [List.takeWhile_cons_of_neg (by simp [hnot])]
          exact ⟨hspares, hsessions, by simp [hnot]⟩
      · intro _
        apply Effect.Triple.assume
        intro hwritable
        apply Effect.Triple.bind (Q := fun others repo =>
          SparesLost (others ++ nodeId :: nodeIds) repo ∧ repo.sessions = sessions ∧
            rest.all writable = true ∧ others ⊆ rest)
        · refine (ih (nodeId :: nodeIds)).conseq (fun _ h => h) (fun _ _ h => h) ?_
          rintro e repo ⟨hspares, hsessions, hall⟩
          rw [List.takeWhile_cons_of_pos hwritable]
          exact ⟨hspares.mono (by simp), hsessions, by simpa [hwritable] using hall⟩
        · intro others
          apply Effect.Triple.pure
          rintro repo ⟨hspares, hsessions, hall, hsub⟩
          exact ⟨hspares.mono (by simp), hsessions, by simpa [hwritable] using hall,
            List.cons_subset_cons nodeId hsub⟩

theorem disconnectNodes_spares (nodeIds : List Identifier) (ambient : Ambient) :
    Effect.Triple (fun repo => SparesLost [] repo ∧
        repo.sweepsDisconnected (ambient.clock 0) nodeIds = true)
      (disconnectNodes nodeIds ambient) (fun _ => SparesLost []) (fun _ => SparesLost []) := by
  rintro repo ⟨hrepo, hsweeps⟩
  have hloop := disconnectEach_spares (ambient.clock 0) repo.sessions
    (repo.canDisconnect (ambient.clock 0)) nodeIds []
  simp only [Repository.sweepsDisconnected, Bool.or_eq_true, Bool.and_eq_true, List.all_eq_true,
    Bool.not_eq_true'] at hsweeps
  have huse : ∀ {repo' : Repository}, repo'.sessions = repo.sessions →
      repo'.isInUse = repo.isInUse := by
    intro repo' h
    funext nodeId
    simp [Repository.isInUse, h]
  refine (Effect.Triple.bind (P := fun repo' => repo' = repo) (Q := fun written repo' =>
    SparesLost written repo' ∧ ((∀ nodeId ∈ written, repo'.isInUse nodeId = false) ∨
      repo'.isSweepable = true)) ?_ ?_) repo rfl
  · refine hloop.conseq ?_ ?_ ?_
    · rintro repo' rfl
      exact ⟨hrepo, rfl, rfl⟩
    · rintro written repo' ⟨hspares, hsessions, hall, hsub⟩
      refine ⟨by simpa using hspares, ?_⟩
      rcases hsweeps with hunused | ⟨_, hsweepable⟩
      · rw [List.takeWhile_eq_self_iff.mpr (List.all_eq_true.mp hall)] at hunused
        rw [huse hsessions]
        exact .inl fun nodeId hin => hunused nodeId (hsub hin)
      · exact .inr (by
          simpa [Repository.isSweepable, Repository.listInteractionSessions, hsessions]
            using hsweepable)
    · rintro e repo' ⟨hspares, hsessions, hall⟩
      rcases hsweeps with hunused | ⟨hall', _⟩
      · refine hspares.drop fun nodeId hin => .inl ?_
        rw [huse hsessions]
        exact hunused nodeId (by simpa using hin)
      · rw [List.all_eq_true.mpr hall'] at hall
        cases hall
  · intro written
    apply Effect.Triple.bind (disarmSessionsForNodes_spares _ _ _)
    intro _
    exact Effect.Triple.pure fun _ h => h

/-- The nodes that the loop of a registration stores: all before the first refused one. -/
def acceptedNodes (manifest : PluginManifest) (at_ : Instant) :
    List Identifier → List IntegrationNode → List IntegrationNode
  | _, [] => []
  | seen, node :: rest =>
    if node.nodeId ∉ seen ∧ (validateNodeAgainstManifest node manifest).toBool = true ∧
        (encodeJson ({ node with lastSeenAt := at_ } : IntegrationNode).toJson
          maxJsonBytes).toBool = true then
      node :: acceptedNodes manifest at_ (node.nodeId :: seen) rest
    else []

def registeredNodes (manifest : PluginManifest) (nodes : List IntegrationNode) (at_ : Instant) :
    List IntegrationNode :=
  if (validateManifest manifest).toBool = true ∧
      (encodeJson manifest.toJson maxJsonBytes).toBool = true then
    acceptedNodes manifest at_ [] nodes
  else []

def Repository.usesNoLost (repo : Repository) (nodes : List IntegrationNode) : Bool :=
  nodes.all fun node => !(node.isLost && repo.isInUse node.nodeId)

theorem Repository.upsertFabricNode_encodes {repo repo' : Repository}
    {node node' : IntegrationNode} {at_ : Instant} {ttl : Duration}
    (h : repo.upsertFabricNode node at_ ttl = .ok (repo', node')) :
    encodeJson ({ node with lastSeenAt := at_ } : IntegrationNode).toJson maxJsonBytes = .ok () := by
  unfold Repository.upsertFabricNode at h
  obtain ⟨_, _, h⟩ := bind_eq_ok.mp h
  obtain ⟨_, _, h⟩ := bind_eq_ok.mp h
  obtain ⟨_, hencode, _⟩ := bind_eq_ok.mp h
  exact hencode

theorem registerNodes_spares (manifest : PluginManifest) (at_ : Instant) (seen : List Identifier)
    (nodes : List IntegrationNode) :
    Effect.Triple (fun repo => SparesLost [] repo ∧
        repo.usesNoLost (acceptedNodes manifest at_ seen nodes) = true)
      (registerNodes manifest at_ seen nodes) (fun _ => SparesLost []) (fun _ => SparesLost []) := by
  induction nodes generalizing seen with
  | nil => exact Effect.Triple.pure fun _ h => h.1
  | cons node rest ih =>
    apply Effect.Triple.bind (Q := fun _ repo => (SparesLost [] repo ∧
      repo.usesNoLost (acceptedNodes manifest at_ seen (node :: rest)) = true) ∧
        (node.nodeId ∉ seen ∧ (validateNodeAgainstManifest node manifest).toBool = true))
    · apply Effect.Triple.read
      · intro repo _ hrepo h
        split at h
        · cases h
        · exact ⟨hrepo, ‹_›, by simp [h, Except.toBool]⟩
      · exact fun _ _ hrepo _ => hrepo.1
    intro _
    apply Effect.Triple.assume
    rintro ⟨hseen, hvalid⟩
    apply Effect.Triple.bind (Q := fun _ repo => SparesLost [] repo ∧
      repo.usesNoLost (acceptedNodes manifest at_ (node.nodeId :: seen) rest) = true)
    · apply Effect.Triple.commit
      · rintro repo repo' stored ⟨hspares, huses⟩ h
        have hencode := Repository.upsertFabricNode_encodes h
        obtain ⟨rfl, rfl⟩ := Repository.upsertFabricNode_ok h
        rw [acceptedNodes, if_pos ⟨hseen, hvalid, by simp [hencode, Except.toBool]⟩] at huses
        simp only [Repository.usesNoLost, List.all_cons, Bool.and_eq_true] at huses
        refine ⟨?_, huses.2⟩
        cases hlost : node.isLost with
        | false => exact hspares.upsert (.inl hlost)
        | true =>
          have hunused : repo.isInUse node.nodeId = false := by simpa [hlost] using huses.1
          have haside : SparesLost [node.nodeId] repo := hspares.mono (by simp)
          refine (haside.upsert (.inr (by simp))).drop fun nodeId hin => .inl ?_
          obtain rfl := List.mem_singleton.mp hin
          exact hunused
      · exact fun _ _ hrepo _ => hrepo.1
    · intro stored
      apply Effect.Triple.bind (ih (node.nodeId :: seen))
      intro others
      exact Effect.Triple.pure fun _ h => h

theorem registerPluginAndNodes_spares (manifest : PluginManifest) (nodes : List IntegrationNode)
    (at_ : Instant) :
    Effect.Triple (fun repo => SparesLost [] repo ∧
        repo.usesNoLost (registeredNodes manifest nodes at_) = true)
      (registerPluginAndNodes manifest nodes at_) (fun _ => SparesLost [])
      (fun _ => SparesLost []) := by
  apply Effect.Triple.bind (Q := fun _ repo => (SparesLost [] repo ∧
    repo.usesNoLost (registeredNodes manifest nodes at_) = true) ∧
      (validateManifest manifest).toBool = true)
  · apply Effect.Triple.read
    · intro repo _ hrepo h
      split at h
      · cases h
      · exact ⟨hrepo, by simp [h, Except.toBool]⟩
    · exact fun _ _ hrepo _ => hrepo.1
  intro _
  apply Effect.Triple.assume
  intro hvalid
  apply Effect.Triple.bind (m := Effect.commit _) (Q := fun _ repo => SparesLost [] repo ∧
    repo.usesNoLost (acceptedNodes manifest at_ [] nodes) = true)
  · apply Effect.Triple.commit
    · rintro repo repo' _ ⟨hspares, huses⟩ h
      obtain ⟨stored, hstored, hpair⟩ := map_eq_ok.mp h
      obtain ⟨_, hencode, hstored⟩ := bind_eq_ok.mp hstored
      cases hstored
      cases hpair
      rw [registeredNodes, if_pos ⟨hvalid, by simp [hencode, Except.toBool]⟩] at huses
      exact ⟨hspares, huses⟩
    · exact fun _ _ hrepo _ => hrepo.1
  · intro _
    exact registerNodes_spares manifest at_ [] nodes

theorem isLost_of_present {repo : Repository} {row : NodeRow} {node : IntegrationNode}
    (hnode : repo.getFabricNode node.nodeId = some node) (hrow : row ∈ repo.nodes)
    (hid : row.node.nodeId = node.nodeId) (hpresent : node.connectionState = .connected ∨
      node.connectionState = .degraded) (hhealthy : repo.isUnhealthy node.nodeId = false) :
    row.node.isLost = false := by
  obtain ⟨row', hrow', rfl, _⟩ := Repository.getFabricNode_eq_some.mp hnode
  obtain rfl := Table.eq_of_key_eq hrow hrow' hid
  simp only [Repository.isUnhealthy, hnode, Option.any_some, decide_eq_false_iff_not] at hhealthy
  rcases hpresent with hstate | hstate <;> simp [IntegrationNode.isLost, hstate, hhealthy]

namespace Repository
variable (repo : Repository)

/-- A session that is about to be armed has no role on an unhealthy node. -/
def armsHealthy (allowPhysical : Bool) (sessionId : Identifier) : Bool :=
  match repo.requireSession sessionId with
  | .error _ => true
  | .ok session => !(repo.checkArm allowPhysical session).toBool ||
      session.roleBindings.all fun binding => !repo.isUnhealthy binding.nodeId

/-- A node that is about to get a role of an armed session is not unhealthy. -/
def bindsHealthy (sessionId role nodeId : Identifier) : Bool :=
  match repo.checkAssignment sessionId role nodeId with
  | .error _ => true
  | .ok assignment => !assignment.session.armed || !repo.isUnhealthy nodeId

end Repository

theorem arm_spares (allowPhysical : Bool) (sessionId : Identifier) (action : SessionAction)
    (actorId : Identifier) (at_ : Instant) :
    Effect.Triple (fun repo => SparesLost [] repo ∧
        (action = .arm → repo.armsHealthy allowPhysical sessionId = true))
      (transitionSession allowPhysical sessionId action actorId at_)
      (fun _ => SparesLost []) (fun _ => SparesLost []) := by
  apply transitionSession_triple (SparesLost.stable []) fun _ h => h.1
  rintro repo session sessions haction ⟨hspares, harms⟩ hsession hcheck hupdate
  have harms := harms haction
  simp only [Repository.armsHealthy, hsession, hcheck, Except.toBool, Bool.not_true,
    Bool.false_or, List.all_eq_true, Bool.not_eq_true'] at harms
  apply hspares.update hupdate
  intro _ _ binding hbinding _ row hrow hid
  obtain ⟨node, hnode, hconnected⟩ :=
    validateBoundNodes_ok (checkArm_ok hcheck).2.2.2 binding hbinding
  obtain ⟨_, _, _, hnodeId⟩ := Repository.getFabricNode_eq_some.mp hnode
  have hhealthy := harms binding hbinding
  rw [← hnodeId] at hnode hid hhealthy
  exact isLost_of_present hnode hrow hid (.inl hconnected) hhealthy

theorem assignRole_spares (sessionId role nodeId actorId : Identifier) (at_ : Instant) :
    Effect.Triple (fun repo => SparesLost [] repo ∧
        repo.bindsHealthy sessionId role nodeId = true)
      (assignRole sessionId role nodeId actorId at_)
      (fun _ => SparesLost []) (fun _ => SparesLost []) := by
  apply assignRole_triple (SparesLost.stable []) fun _ h => h.1
  rintro repo assignment sessions ⟨hspares, hbinds⟩ hcheck hupdate
  simp only [Repository.bindsHealthy, hcheck, Bool.or_eq_true, Bool.not_eq_true'] at hbinds
  obtain ⟨hsession, _, ⟨node, hnode, hpresent⟩, _⟩ := checkAssignment_ok hcheck
  apply hspares.update hupdate
  intro hmode harmed binding hbinding hnotin row hrow hid
  have hhealthy := hbinds.resolve_left (by simpa [Repository.withBinding] using harmed)
  have hcases : binding ∈ assignment.session.roleBindings ∨ binding.nodeId = nodeId := by
    simp only [Repository.withBinding, List.mem_insertionSort, List.mem_append, List.mem_filter,
      List.mem_singleton] at hbinding
    rcases hbinding with ⟨hold, _⟩ | rfl
    · exact .inl hold
    · exact .inr rfl
  rcases hcases with hold | rfl
  · exact hspares assignment.session hsession hmode harmed binding hold hnotin row hrow hid
  · obtain ⟨_, _, _, hnodeId⟩ := Repository.getFabricNode_eq_some.mp hnode
    rw [← hnodeId] at hnode hid hhealthy
    exact isLost_of_present hnode hrow hid hpresent hhealthy

/-- The condition on a call under which it leaves no armed session on a lost node. -/
def FabricCall.sparesNodes (allowPhysical : Bool) (ambient : Ambient) (repo : Repository) :
    FabricCall → Bool
  | .registerPluginAndNodes manifest nodes =>
    repo.usesNoLost (registeredNodes manifest nodes (ambient.clock 0))
  | .reportHealth report => repo.sweepsHealth report (ambient.clock 0)
  | .expireNodes => repo.sweepsExpired (ambient.clock 0)
  | .disconnectNodes nodeIds => repo.sweepsDisconnected (ambient.clock 0) nodeIds
  | .assignRole sessionId role nodeId _ => repo.bindsHealthy sessionId role nodeId
  | .transitionSession sessionId .arm _ => repo.armsHealthy allowPhysical sessionId
  | _ => true

def nodesSpared (allowPhysical : Bool) (s : Service) : FabricEvent × Ambient → Bool
  | (.call call, ambient) => call.sparesNodes allowPhysical ambient s.repository
  | _ => true

theorem FabricCall.run_spares (allowPhysical : Bool) (lastAttendedAt : Option Instant)
    (ambient : Ambient) (call : FabricCall) {repo : Repository} (hrepo : SparesLost [] repo)
    (hspares : call.sparesNodes allowPhysical ambient repo = true) :
    SparesLost [] (Effect.final (call.run allowPhysical lastAttendedAt ambient repo)) := by
  have hI := SparesLost.stable []
  cases call with
  | installCoursePack coursePack => exact (installCoursePack_keeps hI coursePack).final hrepo
  | registerPluginAndNodes manifest nodes =>
    exact (registerPluginAndNodes_spares manifest nodes _).discard.final ⟨hrepo, hspares⟩
  | reportHealth report =>
    exact (reportHealth_spares report ambient).discard.final ⟨hrepo, hspares⟩
  | expireNodes => exact (expireNodes_spares ambient).discard.final ⟨hrepo, hspares⟩
  | expireArmedSessions => exact (expireArmedSessions_keeps hI _ _).discard.final hrepo
  | disconnectNodes nodeIds =>
    exact (disconnectNodes_spares nodeIds ambient).discard.final ⟨hrepo, hspares⟩
  | createSession request sessionId actorId =>
    exact (createSession_keeps hI allowPhysical request sessionId actorId _).discard.final hrepo
  | ensureMonitoringSession coursePack siteId roomId mode sessionId actorId =>
    exact (ensureMonitoringSession_keeps hI allowPhysical coursePack siteId roomId mode
      sessionId actorId _).discard.final hrepo
  | assignRole sessionId role nodeId actorId =>
    exact (assignRole_spares sessionId role nodeId actorId _).discard.final ⟨hrepo, hspares⟩
  | transitionSession sessionId action actorId =>
    refine (arm_spares allowPhysical sessionId action actorId _).discard.final ⟨hrepo, ?_⟩
    rintro rfl
    exact hspares
  | acceptAdapterLifecycle lifecycle =>
    exact (acceptAdapterLifecycle_keeps (SparesLost.commandStable []) lifecycle).discard.final hrepo

theorem Service.step_spares {allowPhysical : Bool} {ambient : Ambient} {s s' : Service}
    {event : FabricEvent} {out : List FabricOutput} (h : SparesLost [] s.repository)
    (hspares : nodesSpared allowPhysical s (event, ambient) = true)
    (hstep : s.step allowPhysical ambient event = some (s', out)) :
    SparesLost [] s'.repository := by
  have hcommand := SparesLost.commandStable []
  have hstable := SparesLost.stable []
  apply Service.step_keeps_of_call hstable h hstep
  · rintro call rfl
    exact call.run_spares allowPhysical s.lastAttendedAt ambient h hspares
  · exact fun _ _ _ request _ _ => (submitStart_keeps hcommand hstable _ _ _ request).final h
  · exact fun _ _ reply _ command _ _ => (submitResume_keeps hcommand _ command reply).final h

/-- Where registrations spare the nodes in use, arming and role assignment meet no unhealthy
node, and the sweeps after a loss can run, no armed physical session has a role on a node that
is unavailable, disconnected, unsafe or unhealthy. -/
theorem node_loss_disarms {allowPhysical : Bool} {s : Service}
    (h : ((interactionFabric allowPhysical).restrict
      fun s e => nodesSpared allowPhysical s e = true).Reachable s)
    {session : InteractionSession} (hsession : session ∈ s.repository.sessions)
    (hmode : session.mode = .physical) (harmed : session.armed = true)
    {binding : RoleBinding} (hbinding : binding ∈ session.roleBindings)
    {node : IntegrationNode} (hnode : s.repository.getFabricNode binding.nodeId = some node) :
    node.connectionState ≠ .unavailable ∧ node.connectionState ≠ .disconnected ∧
      node.connectionState ≠ .unsafe_ ∧ node.healthState ≠ .unhealthy := by
  have hspares : SparesLost [] s.repository :=
    h.invariant (P := fun s => SparesLost [] s.repository)
      (by rintro s rfl; exact SparesLost.empty)
      fun hs (hstep : _ ∧ _ ∧ _ ∧ _) => Service.step_spares hs hstep.1 hstep.2.2.2
  obtain ⟨row, hrow, rfl, hid⟩ := Repository.getFabricNode_eq_some.mp hnode
  have hkept := hspares session hsession hmode harmed binding hbinding (by simp) row hrow hid
  simpa [IntegrationNode.isLost, and_assoc] using hkept

namespace Lesson

/-- The robot registers again while its lesson runs. -/
def reregistered (connectionState : FabricNodeConnectionState) : FabricEvent × Ambient :=
  (.call (.registerPluginAndNodes manifest [{ robot with connectionState := connectionState }]),
    ambient 7)

def connectedAgain : Service := Service.afterWhere true (nodesSpared true)
  (setUp coursePack ++ armAndStart ++ [reregistered .connected])

def disconnectedAgain : Service := Service.after true
  (setUp coursePack ++ armAndStart ++ [reregistered .disconnected])

def armedNodes (s : Service) : List (FabricNodeConnectionState × FabricNodeHealthState) :=
  (s.repository.sessions.rows.filter fun session => session.mode = .physical && session.armed).flatMap
    fun session => session.roleBindings.filterMap fun binding =>
      (s.repository.getFabricNode binding.nodeId).map fun node =>
        (node.connectionState, node.healthState)

theorem mem_armedNodes {s : Service} {states : FabricNodeConnectionState × FabricNodeHealthState}
    (h : states ∈ armedNodes s) :
    ∃ session ∈ s.repository.sessions, session.mode = .physical ∧ session.armed = true ∧
      ∃ binding ∈ session.roleBindings, ∃ node,
        s.repository.getFabricNode binding.nodeId = some node ∧
        (node.connectionState, node.healthState) = states := by
  simp only [armedNodes, List.mem_flatMap, List.mem_filter, Bool.and_eq_true, decide_eq_true_eq,
    List.mem_filterMap, Option.map_eq_some_iff] at h
  obtain ⟨session, ⟨hsession, hmode, harmed⟩, binding, hbinding, node, hnode, hstates⟩ := h
  exact ⟨session, hsession, hmode, harmed, binding, hbinding, node, hnode, hstates⟩

theorem connectedAgain_armed : (.connected, .healthy) ∈ armedNodes connectedAgain := by
  decide +kernel

theorem disconnectedAgain_armed : (.disconnected, .healthy) ∈ armedNodes disconnectedAgain := by
  decide +kernel

end Lesson

theorem node_loss_disarms_lesson :
    ∃ session ∈ Lesson.connectedAgain.repository.sessions, ∃ binding ∈ session.roleBindings,
      ∃ node, Lesson.connectedAgain.repository.getFabricNode binding.nodeId = some node ∧
        node.connectionState ≠ .unavailable ∧ node.connectionState ≠ .disconnected ∧
        node.connectionState ≠ .unsafe_ ∧ node.healthState ≠ .unhealthy := by
  have hreach : ((interactionFabric true).restrict
      fun s e => nodesSpared true s e = true).Reachable Lesson.connectedAgain :=
    Service.afterWhere_reachable true (nodesSpared true) _
  have harmed := Lesson.connectedAgain_armed
  generalize Lesson.connectedAgain = s at hreach harmed ⊢
  obtain ⟨session, hsession, hmode, harmed, binding, hbinding, node, hnode, _⟩ :=
    Lesson.mem_armedNodes harmed
  exact ⟨session, hsession, binding, hbinding, node, hnode,
    node_loss_disarms hreach hsession hmode harmed hbinding hnode⟩

/-- A registration writes a node as disconnected and leaves the session on it armed. -/
theorem node_loss_reregistered :
    (interactionFabric true).Reachable Lesson.disconnectedAgain ∧
      ∃ session ∈ Lesson.disconnectedAgain.repository.sessions, session.mode = .physical ∧
        session.armed = true ∧ ∃ binding ∈ session.roleBindings, ∃ node,
          Lesson.disconnectedAgain.repository.getFabricNode binding.nodeId = some node ∧
          node.connectionState = .disconnected := by
  have hreach : (interactionFabric true).Reachable Lesson.disconnectedAgain :=
    Service.after_reachable true _
  have harmed := Lesson.disconnectedAgain_armed
  generalize Lesson.disconnectedAgain = s at hreach harmed ⊢
  obtain ⟨session, hsession, hmode, harmed, binding, hbinding, node, hnode, hstates⟩ :=
    Lesson.mem_armedNodes harmed
  refine ⟨hreach, ?_⟩
  exact ⟨session, hsession, hmode, harmed, binding, hbinding, node, hnode,
    congrArg Prod.fst hstates⟩

end CitPhysicalXR.Fabric
