import CitPhysicalXR.Fabric.Service

/-! The writes of the fabric, one by one, and the rule that carries a property of the store
through every call: it suffices that the property is closed under the single writes. -/
namespace CitPhysicalXR.Fabric
open Foundation

/-- The rewritings of a stored session that neither arm it nor bind a role. -/
inductive SessionChange : InteractionSession → InteractionSession → Prop
  | ready {session : InteractionSession} (at_ : Instant) :
      allowsRoleChange session.state = true → SessionChange session (session.ready at_)
  | disarm {session : InteractionSession} (at_ : Instant) (reason : String)
      {state : FabricSessionState} :
      state = session.state ∨ session.state = .active ∧ state = .emergency_stopped →
      SessionChange session (session.disarm at_ reason state)
  | start {session : InteractionSession} (at_ : Instant) :
      session.state = .ready ∨ session.state = .paused →
      SessionChange session (session.start at_)
  | pause {session : InteractionSession} (at_ : Instant) :
      session.state = .active → SessionChange session (session.pause at_)
  | stop {session : InteractionSession} (at_ : Instant) (reason : String)
      {state : FabricSessionState} : session.isTerminal = false →
      state = .stopped ∨ state = .emergency_stopped →
      SessionChange session (session.stop state reason at_)

theorem SessionChange.armed_eq {session session' : InteractionSession}
    (h : SessionChange session session') (harmed : session'.armed = true) :
    session.armed = true ∧ session'.mode = session.mode ∧
      session'.roleBindings = session.roleBindings := by
  cases h with
  | ready | start => exact ⟨harmed, rfl, rfl⟩
  | disarm | pause | stop => cases harmed

theorem SessionChange.sessionId_eq {session session' : InteractionSession}
    (h : SessionChange session session') : session'.sessionId = session.sessionId := by
  cases h <;> rfl

structure Stable (I : Repository → Prop) : Prop where
  coursePacks : ∀ {repo}, I repo → ∀ coursePack,
    I { repo with coursePacks := repo.coursePacks.upsert coursePack }
  leases : ∀ {repo}, I repo → ∀ leases, I { repo with leases := leases }
  debounce : ∀ {repo}, I repo → ∀ rows, I { repo with debounce := rows }
  create : ∀ {repo request safetyProfile sessionId actorId at_ sessions}, I repo →
    (repo.getCoursePack request.coursePackId request.coursePackVersion).isSome →
    repo.sessions.insert? (draftSession request safetyProfile sessionId actorId at_) =
      some sessions → I { repo with sessions := sessions }
  change : ∀ {repo session session' sessions}, I repo → session ∈ repo.sessions →
    SessionChange session session' → repo.sessions.update? session' = some sessions →
    I { repo with sessions := sessions }
  event : ∀ {repo event}, I repo →
    (∀ old ∈ repo.events, old.messageId ≠ event.messageId ∧
      ¬ (old.sourceNodeId = event.sourceNodeId ∧ old.sequence = event.sequence)) →
    I { repo with events := repo.events ++ [event] }

structure NodeStable (I : Repository → Prop) : Prop where
  plugins : ∀ {repo}, I repo → ∀ plugins, I { repo with plugins := plugins }
  nodes : ∀ {repo}, I repo → ∀ nodes : Table fun row : NodeRow => row.node.nodeId,
    (∀ row ∈ repo.nodes, ∃ row' ∈ nodes, row'.node.nodeId = row.node.nodeId) →
    I { repo with nodes := nodes }

/-- Closure under arming. -/
def ArmStable (I : Repository → Prop) : Prop :=
  ∀ {repo allowPhysical session actorId at_ sessions}, I repo → session ∈ repo.sessions →
    repo.checkArm allowPhysical session = .ok () →
    repo.sessions.update? (session.arm actorId at_) = some sessions →
    I { repo with sessions := sessions }

/-- Closure under role assignment. -/
def BindStable (I : Repository → Prop) : Prop :=
  ∀ {repo sessionId role nodeId actorId at_ assignment sessions}, I repo →
    repo.checkAssignment sessionId role nodeId = .ok assignment →
    repo.sessions.update? (Repository.withBinding assignment.session
      ⟨role, nodeId, assignment.requiredCapability, at_, actorId⟩) = some sessions →
    I { repo with sessions := sessions }

structure CommandStable (I : Repository → Prop) : Prop where
  claim : ∀ {repo command}, I repo →
    (∀ old ∈ repo.commands, old.idempotencyKey ≠ command.idempotencyKey ∧
      old.commandId ≠ command.commandId) →
    I { repo with commands := repo.commands ++ [command] }
  lifecycle : ∀ {repo lifecycle}, I repo →
    (repo.getFabricCommand lifecycle.commandId).isSome →
    I { repo with lifecycle := repo.lifecycle ++ [lifecycle] }

variable {I : Repository → Prop}

/-- A call from a store with `I` leaves one with `I`, whether it returns or raises. -/
def Keeps {α : Type} (I : Repository → Prop) (m : FabricM α) : Prop :=
  Effect.Triple I m (fun _ => I) (fun _ => I)

theorem Keeps.pure {α : Type} (a : α) : Keeps I (pure a) := Effect.Triple.pure fun _ h => h

theorem Keeps.read {α : Type} (f : Repository → Except FabricError α) :
    Keeps I (Effect.read f) :=
  Effect.Triple.read (fun _ _ h _ => h) fun _ _ h _ => h

theorem Keeps.bind {α β : Type} {m : FabricM α} {k : α → FabricM β} (hm : Keeps I m)
    (hk : ∀ a, Keeps I (k a)) : Keeps I (m >>= k) := Effect.Triple.bind hm hk

theorem Keeps.commit {α : Type} {f : Repository → Except FabricError (Repository × α)}
    (h : ∀ {repo repo' a}, I repo → f repo = .ok (repo', a) → I repo') :
    Keeps I (Effect.commit f) :=
  Effect.Triple.commit (fun _ _ _ hs hf => h hs hf) fun _ _ hs _ => hs

theorem Keeps.discard {α : Type} {m : FabricM α} (hm : Keeps I m) : Keeps I (Effect.discard m) :=
  Effect.Triple.discard hm

theorem Keeps.final {α : Type} {m : FabricM α} (h : Keeps I m) {repo : Repository}
    (hI : I repo) : I (Effect.final (m repo)) := Effect.Triple.final h hI

theorem requireSession_ok {repo : Repository} {sessionId : Identifier}
    {session : InteractionSession} (h : repo.requireSession sessionId = .ok session) :
    session ∈ repo.sessions ∧ session.sessionId = sessionId ∧
      session.roleBindings.length ≤ 64 := by
  unfold Repository.requireSession at h
  split at h
  · cases h
  · cases h
  · rename_i stored hstored
    cases h
    obtain ⟨hget, hlength⟩ := Repository.getInteractionSession_ok hstored
    obtain ⟨hmem, hid⟩ := Table.get?_some hget
    exact ⟨hmem, hid, hlength⟩

theorem requireNode_ok {repo : Repository} {nodeId : Identifier} {node : IntegrationNode}
    (h : repo.requireNode nodeId = .ok node) : repo.getFabricNode nodeId = some node := by
  unfold Repository.requireNode at h
  split at h
  · cases h
  · cases h
    assumption

theorem validateBoundNodes_ok {repo : Repository} {session : InteractionSession}
    (h : repo.validateBoundNodes session = .ok ()) :
    ∀ binding ∈ session.roleBindings, ∃ node, repo.getFabricNode binding.nodeId = some node ∧
      node.connectionState = .connected := by
  unfold Repository.validateBoundNodes at h
  obtain ⟨coursePack, _, h⟩ := bind_eq_ok.mp h
  obtain ⟨_, _, h⟩ := bind_eq_ok.mp h
  intro binding hbinding
  have hbound := forM_eq_ok h binding hbinding
  obtain ⟨node, hnode, hbound⟩ := bind_eq_ok.mp hbound
  obtain ⟨_, hconnected, _⟩ := bind_eq_ok.mp hbound
  rw [raiseIf_eq_ok, not_not] at hconnected
  exact ⟨node, requireNode_ok hnode, hconnected⟩

theorem checkArm_ok {repo : Repository} {allowPhysical : Bool} {session : InteractionSession}
    (h : repo.checkArm allowPhysical session = .ok ()) :
    session.mode = .physical ∧ allowPhysical = true ∧
      (session.state = .ready ∨ session.state = .paused) ∧
      repo.validateBoundNodes session = .ok () := by
  unfold Repository.checkArm at h
  split at h
  · cases h
  · split at h
    · cases h
    · split at h
      · cases h
      · rename_i hmode hallow hstate
        exact ⟨not_not.mp hmode, by simpa using hallow, by tauto, h⟩

theorem checkStart_ok {repo : Repository} {session : InteractionSession}
    (h : repo.checkStart session = .ok ()) :
    session.state = .ready ∨ session.state = .paused := by
  unfold Repository.checkStart at h
  split at h
  · cases h
  · rename_i hstate
    tauto

theorem checkPause_ok {session : InteractionSession} (h : checkPause session = .ok ()) :
    session.state = .active := by
  unfold checkPause at h
  split at h
  · cases h
  · rename_i hstate
    exact not_not.mp hstate

theorem checkAssignment_ok {repo : Repository} {sessionId role nodeId : Identifier}
    {assignment : RoleAssignment}
    (h : repo.checkAssignment sessionId role nodeId = .ok assignment) :
    assignment.session ∈ repo.sessions ∧ assignment.session.sessionId = sessionId ∧
      (∃ node, repo.getFabricNode nodeId = some node ∧
        (node.connectionState = .connected ∨ node.connectionState = .degraded)) ∧
      (allowsRoleChange assignment.session.state = true ∨ assignment.isMonitoringExtension = true ∧
        assignment.session.state = .active ∧ assignment.session.armed = false) := by
  unfold Repository.checkAssignment at h
  obtain ⟨session, hsession, h⟩ := bind_eq_ok.mp h
  obtain ⟨node, hnode, h⟩ := bind_eq_ok.mp h
  obtain ⟨_, _, h⟩ := bind_eq_ok.mp h
  obtain ⟨coursePack, _, h⟩ := bind_eq_ok.mp h
  split at h
  · cases h
  · unfold Repository.checkRequirement at h
    dsimp only at h
    split at h
    · obtain ⟨_, hstate, h⟩ := bind_eq_ok.mp h
      obtain ⟨_, _, h⟩ := bind_eq_ok.mp h
      obtain ⟨_, hconnected, h⟩ := bind_eq_ok.mp h
      rw [raiseIf_eq_ok] at hstate hconnected
      cases h
      obtain ⟨hmem, hid, _⟩ := requireSession_ok hsession
      refine ⟨hmem, hid, ⟨node, requireNode_ok hnode, by tauto⟩, ?_⟩
      rw [Bool.and_eq_true, Bool.not_eq_true', Bool.not_eq_true', not_and_or,
        Bool.not_eq_false, Bool.not_eq_false] at hstate
      refine hstate.imp id fun hext => ⟨hext, ?_⟩
      simp only [Bool.and_eq_true, decide_eq_true_eq, Bool.not_eq_true'] at hext
      exact ⟨hext.1.1.1.1, hext.1.1.1.2⟩
    · cases h

section Nodes
variable (hI : NodeStable I)
include hI

theorem registerFabricPlugin_keeps (manifest : PluginManifest) :
    Keeps I (Effect.commit fun repo => (repo.registerFabricPlugin manifest).map (·, ())) := by
  apply Keeps.commit
  intro repo repo' _ hrepo h
  obtain ⟨stored, hstored, hpair⟩ := map_eq_ok.mp h
  obtain ⟨_, _, hstored⟩ := bind_eq_ok.mp hstored
  cases hstored
  cases hpair
  exact hI.plugins hrepo _

theorem NodeStable.upsert {repo : Repository} (hrepo : I repo) (row : NodeRow) :
    I { repo with nodes := repo.nodes.upsert row } := by
  apply hI.nodes hrepo
  intro old hold
  by_cases hid : old.node.nodeId = row.node.nodeId
  · exact ⟨row, Table.mem_upsert.mpr (.inl rfl), hid.symm⟩
  · exact ⟨old, Table.mem_upsert.mpr (.inr ⟨hold, hid⟩), rfl⟩

theorem upsertFabricNode_keeps (node : IntegrationNode) (at_ : Instant) (ttl : Duration) :
    Keeps I (Effect.commit (·.upsertFabricNode node at_ ttl)) := by
  apply Keeps.commit
  intro repo repo' node' hrepo h
  obtain ⟨_, rfl⟩ := Repository.upsertFabricNode_ok h
  exact hI.upsert hrepo _

theorem registerNodes_keeps (manifest : PluginManifest) (at_ : Instant) (seen : List Identifier)
    (nodes : List IntegrationNode) : Keeps I (registerNodes manifest at_ seen nodes) := by
  induction nodes generalizing seen with
  | nil => exact Keeps.pure _
  | cons node rest ih =>
    apply Keeps.bind (Keeps.read _)
    intro _
    apply Keeps.bind (upsertFabricNode_keeps hI node at_ nodeLeaseTtl)
    intro _
    apply Keeps.bind (ih _)
    intro _
    exact Keeps.pure _

theorem registerPluginAndNodes_keeps (manifest : PluginManifest) (nodes : List IntegrationNode)
    (at_ : Instant) : Keeps I (registerPluginAndNodes manifest nodes at_) := by
  apply Keeps.bind (Keeps.read _)
  intro _
  apply Keeps.bind (registerFabricPlugin_keeps hI manifest)
  intro _
  exact registerNodes_keeps hI manifest at_ [] nodes

theorem disconnectEach_keeps (at_ : Instant) (nodeIds : List Identifier) :
    Keeps I (disconnectEach at_ nodeIds) := by
  induction nodeIds with
  | nil => exact Keeps.pure _
  | cons nodeId rest ih =>
    apply Keeps.bind (Keeps.read _)
    intro known
    cases known with
    | none => exact ih
    | some node =>
      apply Keeps.bind (upsertFabricNode_keeps hI _ at_ nodeLeaseTtl)
      intro _
      apply Keeps.bind ih
      intro _
      exact Keeps.pure _

end Nodes

section Sessions
variable (hI : Stable I)
include hI

omit hI in
theorem update?_stored {repo : Repository} (session' : InteractionSession)
    {session : InteractionSession} (hsession : session ∈ repo.sessions)
    (hid : session.sessionId = session'.sessionId) :
    ∃ sessions, repo.sessions.update? session' = some sessions :=
  Option.isSome_iff_exists.mp (Table.update?_isSome hsession hid)

theorem save_change {session session' : InteractionSession}
    (hchange : SessionChange session session') {J : Repository → Prop}
    (hJ : ∀ repo, J repo → I repo ∧ session ∈ repo.sessions) :
    Effect.Triple J (saveInteractionSession session') (fun _ => I) (fun _ => I) := by
  apply Effect.Triple.commit
  · intro repo repo' saved hrepo h
    obtain ⟨stored, hstored, hpair⟩ := map_eq_ok.mp h
    cases hpair
    obtain ⟨sessions, hupdate, rfl⟩ := Repository.saveInteractionSession_ok hstored
    exact hI.change (hJ repo hrepo).1 (hJ repo hrepo).2 hchange hupdate
  · intro repo _ hrepo _
    exact (hJ repo hrepo).1

theorem releaseAndSave {session session' : InteractionSession}
    (hchange : SessionChange session session') (sessionId : Identifier) (at_ : Instant)
    (reason : String) :
    Effect.Triple (fun repo => I repo ∧ session ∈ repo.sessions)
      (do
        releaseFabricSessionLeases sessionId at_ reason
        saveInteractionSession session')
      (fun _ => I) (fun _ => I) := by
  apply Effect.Triple.bind (Q := fun _ repo => I repo ∧ session ∈ repo.sessions)
  · exact Effect.Triple.update fun repo hrepo => ⟨hI.leases hrepo.1 _, hrepo.2⟩
  · intro _
    exact save_change hI hchange fun _ h => h

/-- Every stored session can be read back. -/
def Repository.isSweepable (repo : Repository) : Bool := repo.listInteractionSessions.toBool

/-- What a sweep knows while the sessions of `rest` are still to come. -/
structure SweepState (I : Repository → Prop) (p : InteractionSession → Bool)
    (rest : List InteractionSession) (repo : Repository) : Prop where
  kept : I repo
  distinct : (rest.map (·.sessionId)).Nodup
  stored : ∀ session ∈ rest, session ∈ repo.sessions
  covers : ∀ session ∈ repo.sessions, session.armed = true → p session = true → session ∈ rest

omit hI in
theorem SweepState.leases (hI : Stable I) {p : InteractionSession → Bool}
    {rest : List InteractionSession} {repo : Repository} (h : SweepState I p rest repo)
    (leases : List FabricControlLease) : SweepState I p rest { repo with leases := leases } :=
  ⟨hI.leases h.kept leases, h.distinct, h.stored, h.covers⟩

theorem disarmWhere_round {p : InteractionSession → Bool}
    {state : InteractionSession → FabricSessionState} {at_ : Instant} {reason : String}
    (hstate : ∀ session, p session = true → state session = session.state ∨
      session.state = .active ∧ state session = .emergency_stopped)
    (session : InteractionSession) (rest : List InteractionSession) :
    Effect.Triple (SweepState I p (session :: rest)) (disarmWhere p state at_ reason session)
      (fun _ => SweepState I p rest) (fun _ _ => False) := by
  unfold disarmWhere
  split
  · rename_i hp
    apply Effect.Triple.discard
    apply Effect.Triple.bind (Q := fun _ => SweepState I p (session :: rest))
    · exact Effect.Triple.update fun repo h => h.leases hI _
    · intro _
      apply Effect.Triple.commit
      · intro repo repo' saved h hsave
        obtain ⟨stored, hstored, hpair⟩ := map_eq_ok.mp hsave
        cases hpair
        obtain ⟨sessions, hupdate, rfl⟩ := Repository.saveInteractionSession_ok hstored
        obtain ⟨hnotin, hdistinct⟩ := List.nodup_cons.mp h.distinct
        refine ⟨hI.change h.kept (h.stored session (by simp))
          (.disarm at_ reason (hstate session hp)) hupdate, hdistinct, ?_, ?_⟩
        · intro other hother
          refine (Table.mem_update? hupdate).mpr (.inr ⟨h.stored other (by simp [hother]), ?_⟩)
          intro hid
          exact hnotin (List.mem_map.mpr ⟨other, hother, hid⟩)
        · intro other hother harmed hpo
          rcases (Table.mem_update? hupdate).mp hother with rfl | ⟨hmem, hid⟩
          · cases harmed
          · rcases List.mem_cons.mp (h.covers other hmem harmed hpo) with rfl | hrest
            · exact absurd rfl hid
            · exact hrest
      · -- the session is stored, so that saving it cannot fail
        intro repo e h hsave
        obtain ⟨sessions, hupdate⟩ := update?_stored (session.disarm at_ reason (state session))
          (h.stored session (by simp)) rfl
        simp [Repository.saveInteractionSession, hupdate, Except.map] at hsave
  · rename_i hp
    apply Effect.Triple.pure
    intro repo h
    refine ⟨h.kept, (List.nodup_cons.mp h.distinct).2, ?_, ?_⟩
    · exact fun other hother => h.stored other (by simp [hother])
    · intro other hother harmed hpo
      rcases List.mem_cons.mp (h.covers other hother harmed hpo) with rfl | hrest
      · exact absurd hpo hp
      · exact hrest

omit hI in
theorem listInteractionSessions_sweep {P : Repository → Prop} (hP : ∀ repo, P repo → I repo)
    (p : InteractionSession → Bool) :
    Effect.Triple P (Effect.read (·.listInteractionSessions)) (SweepState I p)
      (fun _ repo => P repo ∧ repo.isSweepable = false) := by
  apply Effect.Triple.read
  · intro repo sessions hrepo h
    have hperm := Repository.listInteractionSessions_ok h
    have hids : (sessions.map (·.sessionId)).Nodup :=
      (hperm.map _).nodup_iff.mpr repo.sessions.unique
    exact ⟨hP repo hrepo, hids, fun session hs => hperm.subset hs,
      fun session hs _ _ => hperm.symm.subset hs⟩
  · intro repo e hrepo h
    exact ⟨hrepo, by simp [Repository.isSweepable, h, Except.toBool]⟩

theorem sweep_disarms {p : InteractionSession → Bool}
    {state : InteractionSession → FabricSessionState} {at_ : Instant} {reason : String}
    (hstate : ∀ session, p session = true → state session = session.state ∨
      session.state = .active ∧ state session = .emergency_stopped)
    (sessions : List InteractionSession) :
    Effect.Triple (SweepState I p sessions)
      (Effect.forEach (disarmWhere p state at_ reason) sessions)
      (fun _ repo => I repo ∧ ∀ session ∈ repo.sessions, session.armed = true → p session = false)
      (fun _ _ => False) := by
  apply (Effect.Triple.forEach_rest (disarmWhere_round hI hstate) sessions).conseq (fun _ h => h)
  · intro _ repo h
    refine ⟨h.kept, fun session hs harmed => ?_⟩
    by_contra hp
    have := h.covers session hs harmed (by simpa using hp)
    simp at this
  · exact fun _ _ h => h

omit hI in
theorem stateAfterLoss_cases (session : InteractionSession) :
    stateAfterLoss session = session.state ∨
      session.state = .active ∧ stateAfterLoss session = .emergency_stopped := by
  unfold stateAfterLoss
  split
  · exact .inr ⟨‹_›, rfl⟩
  · exact .inl rfl

theorem disarmSessionsForNodes_disarms {P : Repository → Prop} (hP : ∀ repo, P repo → I repo)
    (nodeIds : List Identifier) (reason : String) (at_ : Instant) :
    Effect.Triple P (disarmSessionsForNodes nodeIds reason at_)
      (fun _ repo => I repo ∧
        ∀ session ∈ repo.sessions, session.armed = true → isAffected nodeIds session = false)
      (fun _ repo => P repo ∧ repo.isSweepable = false) := by
  unfold disarmSessionsForNodes
  split
  · rename_i hnil
    subst hnil
    apply Effect.Triple.pure
    intro repo hrepo
    refine ⟨hP repo hrepo, fun session _ _ => ?_⟩
    simp [isAffected, InteractionSession.bindsAny]
  · apply Effect.Triple.bind (listInteractionSessions_sweep hP _)
    intro sessions
    exact (sweep_disarms hI (fun session _ => stateAfterLoss_cases session) sessions).conseq
      (fun _ h => h) (fun _ _ h => h) fun _ _ h => h.elim

theorem disarmSessionsForNodes_keeps (nodeIds : List Identifier) (reason : String)
    (at_ : Instant) : Keeps I (disarmSessionsForNodes nodeIds reason at_) :=
  (disarmSessionsForNodes_disarms hI (fun _ h => h) nodeIds reason at_).conseq (fun _ h => h)
    (fun _ _ h => h.1) fun _ _ h => h.1

theorem expireArmedSessions_keeps (lastAttendedAt : Option Instant) (now : Instant) :
    Keeps I (expireArmedSessions lastAttendedAt now) := by
  apply Effect.Triple.bind ((listInteractionSessions_sweep (fun _ h => h)
    (isArmExpired (armedSessionTtl lastAttendedAt now) now)).conseq (fun _ h => h)
      (fun _ _ h => h) fun _ _ h => h.1)
  intro sessions
  apply Effect.Triple.bind ((sweep_disarms hI (fun _ _ => .inl rfl) sessions).conseq
    (fun _ h => h) (fun _ _ h => h) fun _ _ h => h.elim)
  intro _
  exact Effect.Triple.pure fun _ h => h.1

theorem createSession_keeps (allowPhysical : Bool) (request : CreateInteractionSessionRequest)
    (sessionId actorId : Identifier) (at_ : Instant) :
    Keeps I (createSession allowPhysical request sessionId actorId at_) := by
  apply Keeps.commit
  intro repo repo' session hrepo h
  unfold Repository.createSession at h
  split at h
  · cases h
  · rename_i coursePack hpack
    split at h
    · cases h
    · obtain ⟨stored, hstored, hpair⟩ := map_eq_ok.mp h
      cases hpair
      obtain ⟨sessions, hinsert, rfl⟩ := Repository.createInteractionSession_ok hstored
      exact hI.create hrepo (by simp [hpack]) hinsert

theorem ensureMonitoringSession_keeps (allowPhysical : Bool) (coursePack : CoursePack)
    (siteId roomId : Identifier) (mode : FabricSessionMode) (sessionId actorId : Identifier)
    (at_ : Instant) :
    Keeps I (ensureMonitoringSession allowPhysical coursePack siteId roomId mode sessionId actorId
      at_) := by
  apply Keeps.bind (Keeps.read _)
  intro _
  apply Keeps.bind (Keeps.read _)
  intro sessions
  split
  · exact Keeps.pure _
  · apply Keeps.bind (createSession_keeps hI allowPhysical _ sessionId actorId at_)
    intro _
    exact Keeps.pure _

theorem assignRole_triple {P : Repository → Prop} {sessionId role nodeId actorId : Identifier}
    {at_ : Instant} (hP : ∀ repo, P repo → I repo)
    (hbind : ∀ repo assignment sessions, P repo →
      repo.checkAssignment sessionId role nodeId = .ok assignment →
      repo.sessions.update? (Repository.withBinding assignment.session
        ⟨role, nodeId, assignment.requiredCapability, at_, actorId⟩) = some sessions →
      I { repo with sessions := sessions }) :
    Effect.Triple P (assignRole sessionId role nodeId actorId at_) (fun _ => I) (fun _ => I) := by
  apply Effect.Triple.bind (Q := fun assignment repo => P repo ∧
    repo.checkAssignment sessionId role nodeId = .ok assignment)
  · exact Effect.Triple.read (fun _ _ hrepo h => ⟨hrepo, h⟩) fun repo _ hrepo _ => hP repo hrepo
  intro assignment
  apply Effect.Triple.bind (Q := fun updated repo => I repo ∧ updated ∈ repo.sessions ∧
    (assignment.isMonitoringExtension = false → allowsRoleChange updated.state = true))
  · apply Effect.Triple.commit
    · rintro repo repo' updated ⟨hrepo, hcheck⟩ h
      obtain ⟨hmem, _, _, hstate⟩ := checkAssignment_ok hcheck
      cases h
      obtain ⟨sessions, hupdate⟩ := update?_stored (Repository.withBinding assignment.session
        ⟨role, nodeId, assignment.requiredCapability, at_, actorId⟩) hmem rfl
      have hI' := hbind repo assignment sessions hrepo hcheck hupdate
      rw [hupdate]
      refine ⟨hI', (Table.mem_update? hupdate).mpr (.inl rfl), fun hext => ?_⟩
      rcases hstate with hstate | ⟨hmonitoring, _⟩
      · exact hstate
      · rw [hext] at hmonitoring
        cases hmonitoring
    · exact fun repo _ hrepo _ => hP repo hrepo.1
  intro updated
  split
  · rename_i hready
    rw [Bool.and_eq_true, Bool.not_eq_true'] at hready
    apply Effect.Triple.commit
    · rintro repo repo' saved ⟨hrepo, hmem, hstate⟩ h
      obtain ⟨stored, hstored, hpair⟩ := map_eq_ok.mp h
      cases hpair
      obtain ⟨sessions, hupdate, rfl⟩ := Repository.saveInteractionSession_ok hstored
      exact hI.change hrepo hmem (.ready at_ (hstate hready.1)) hupdate
    · exact fun _ _ hrepo _ => hrepo.1
  · exact Effect.Triple.pure fun _ hrepo => hrepo.1

theorem assignRole_keeps (hbind : BindStable I) (sessionId role nodeId actorId : Identifier)
    (at_ : Instant) : Keeps I (assignRole sessionId role nodeId actorId at_) :=
  assignRole_triple hI (fun _ hrepo => hrepo) fun _ _ _ hrepo hcheck hupdate =>
    hbind hrepo hcheck hupdate

theorem stopSession_keeps (session : InteractionSession) {state : FabricSessionState}
    (hstate : state = .stopped ∨ state = .emergency_stopped) (reason : String) (at_ : Instant) :
    Effect.Triple (fun repo => I repo ∧ session ∈ repo.sessions)
      (stopSession session state reason at_) (fun _ => I) (fun _ => I) := by
  unfold stopSession
  split
  · exact Effect.Triple.pure fun _ hrepo => hrepo.1
  · rename_i hterminal
    exact releaseAndSave hI (.stop at_ reason (by simpa using hterminal) hstate)
      session.sessionId at_ reason

/-- A transition keeps `I`, where it arms if the armed session does. -/
theorem transitionSession_triple {P : Repository → Prop} {allowPhysical : Bool}
    {sessionId : Identifier} {action : SessionAction} {actorId : Identifier} {at_ : Instant}
    (hP : ∀ repo, P repo → I repo)
    (harm : ∀ repo session sessions, action = .arm → P repo →
      repo.requireSession sessionId = .ok session → repo.checkArm allowPhysical session = .ok () →
      repo.sessions.update? (session.arm actorId at_) = some sessions →
      I { repo with sessions := sessions }) :
    Effect.Triple P (transitionSession allowPhysical sessionId action actorId at_)
      (fun _ => I) (fun _ => I) := by
  apply Effect.Triple.bind (Q := fun session repo => P repo ∧
    repo.requireSession sessionId = .ok session)
  · exact Effect.Triple.read (fun _ _ hrepo h => ⟨hrepo, h⟩) fun repo _ hrepo _ => hP repo hrepo
  intro session
  have hstored : ∀ repo, P repo ∧ repo.requireSession sessionId = .ok session →
      I repo ∧ session ∈ repo.sessions := fun repo h => ⟨hP repo h.1, (requireSession_ok h.2).1⟩
  cases action with
  | arm =>
    apply Effect.Triple.bind (Q := fun _ repo => (P repo ∧
      repo.requireSession sessionId = .ok session) ∧ repo.checkArm allowPhysical session = .ok ())
    · exact Effect.Triple.read (fun _ _ hrepo h => ⟨hrepo, h⟩)
        fun repo _ hrepo _ => hP repo hrepo.1
    intro _
    apply Effect.Triple.commit
    · rintro repo repo' saved ⟨⟨hrepo, hsession⟩, hcheck⟩ h
      obtain ⟨stored, hsaved, hpair⟩ := map_eq_ok.mp h
      cases hpair
      obtain ⟨sessions, hupdate, rfl⟩ := Repository.saveInteractionSession_ok hsaved
      exact harm repo session sessions rfl hrepo hsession hcheck hupdate
    · exact fun repo _ hrepo _ => hP repo hrepo.1.1
  | disarm =>
    exact (releaseAndSave hI (.disarm at_ _ (.inl rfl)) session.sessionId at_ _).conseq hstored
      (fun _ _ h => h) fun _ _ h => h
  | start =>
    apply Effect.Triple.bind (Q := fun _ repo => (I repo ∧ session ∈ repo.sessions) ∧
      (session.state = .ready ∨ session.state = .paused))
    · exact Effect.Triple.read (fun repo _ hrepo h => ⟨hstored repo hrepo, checkStart_ok h⟩)
        fun repo _ hrepo _ => hP repo hrepo.1
    intro _ repo hrepo
    exact save_change hI (J := fun repo => I repo ∧ session ∈ repo.sessions)
      (.start at_ hrepo.2) (fun _ h => h) repo hrepo.1
  | pause =>
    apply Effect.Triple.bind (Q := fun _ repo => (I repo ∧ session ∈ repo.sessions) ∧
      session.state = .active)
    · exact Effect.Triple.read (fun repo _ hrepo h => ⟨hstored repo hrepo, checkPause_ok h⟩)
        fun repo _ hrepo _ => hP repo hrepo.1
    intro _ repo hrepo
    exact releaseAndSave hI (.pause at_ hrepo.2) sessionId at_ _ repo hrepo.1
  | stop =>
    exact (stopSession_keeps hI session (.inl rfl) _ at_).conseq hstored (fun _ _ h => h)
      fun _ _ h => h
  | emergency_stop =>
    exact (stopSession_keeps hI session (.inr rfl) _ at_).conseq hstored (fun _ _ h => h)
      fun _ _ h => h
  | unsupported action => exact Effect.Triple.throw fun repo hrepo => hP repo hrepo.1

theorem transitionSession_keeps (allowPhysical : Bool) (sessionId : Identifier)
    (action : SessionAction) (actorId : Identifier) (at_ : Instant)
    (harm : action = .arm → ArmStable I) :
    Keeps I (transitionSession allowPhysical sessionId action actorId at_) :=
  transitionSession_triple hI (fun _ hrepo => hrepo)
    fun _ _ _ haction hrepo hsession hcheck hupdate =>
      harm haction hrepo (requireSession_ok hsession).1 hcheck hupdate

omit hI in
theorem updateFabricHealth_keeps (hnode : NodeStable I) (report : HealthReport) (at_ : Instant)
    (ttl : Duration) : Keeps I (Effect.commit (·.updateFabricHealth report at_ ttl)) := by
  apply Keeps.commit
  intro repo repo' node' hrepo h
  obtain ⟨_, rfl⟩ := Repository.updateFabricHealth_ok h
  exact hnode.upsert hrepo _

theorem reportHealth_keeps (hnode : NodeStable I) (report : HealthReport) (ambient : Ambient) :
    Keeps I (reportHealth report ambient) := by
  apply Keeps.bind (updateFabricHealth_keeps hnode report _ _)
  intro updated
  split
  · apply Keeps.bind (disarmSessionsForNodes_keeps hI _ _ _)
    intro _
    exact Keeps.pure _
  · exact Keeps.pure _

theorem expireFabricNodes_keeps (hnode : NodeStable I) (at_ : Instant) :
    Keeps I (Effect.commit (·.expireFabricNodes at_)) := by
  apply Keeps.commit
  intro repo repo' expired hrepo h
  obtain ⟨nodes, leases, rfl, hrows, _⟩ := Repository.expireFabricNodes_ok h
  refine hI.leases (hnode.nodes hrepo nodes ?_) leases
  intro row hrow
  refine ⟨_, (hrows _).mpr ⟨row, hrow, rfl⟩, ?_⟩
  split <;> rfl

theorem expireNodes_keeps (hnode : NodeStable I) (ambient : Ambient) :
    Keeps I (expireNodes ambient) := by
  apply Keeps.bind (expireFabricNodes_keeps hI hnode _)
  intro expired
  apply Keeps.bind (disarmSessionsForNodes_keeps hI _ _ _)
  intro _
  exact Keeps.pure _

theorem disconnectNodes_keeps (hnode : NodeStable I) (nodeIds : List Identifier)
    (ambient : Ambient) : Keeps I (disconnectNodes nodeIds ambient) := by
  apply Keeps.bind (disconnectEach_keeps hnode _ nodeIds)
  intro disconnected
  apply Keeps.bind (disarmSessionsForNodes_keeps hI _ _ _)
  intro _
  exact Keeps.pure _

theorem installCoursePack_keeps (coursePack : CoursePack) :
    Keeps I (installCoursePack coursePack) := by
  apply Keeps.bind (Keeps.read _)
  intro _
  apply Keeps.commit
  intro repo repo' _ hrepo h
  obtain ⟨stored, hstored, hpair⟩ := map_eq_ok.mp h
  obtain ⟨_, _, hstored⟩ := bind_eq_ok.mp hstored
  cases hstored
  cases hpair
  exact hI.coursePacks hrepo _

end Sessions
end CitPhysicalXR.Fabric
