import CitPhysicalXR.Fabric.Stability

/-! The step rule of the fabric service: a property of the store that is closed under its
single writes is kept by every step, and holds in every reachable state. -/
namespace CitPhysicalXR.Fabric
open Foundation

variable {I : Repository → Prop}

section Commands

theorem submitResume_keeps_of (ambient : Ambient) (command : FabricResolvedCommand)
    (happend : ∀ draw stage note, Keeps I (appendLifecycle ambient draw command stage note))
    (reply : DispatchReply) : Keeps I (submitResume ambient command reply) := by
  cases reply with
  | raised =>
    apply Keeps.bind (happend _ _ _)
    intro _
    exact Keeps.pure _
  | outcome outcome =>
    rw [submitResume]
    split
    · apply Keeps.bind (happend _ _ _)
      intro dispatched
      split
      · exact Keeps.pure _
      · apply Keeps.bind (happend _ _ _)
        intro _
        exact Keeps.pure _
    · apply Keeps.bind (happend _ _ _)
      intro _
      exact Keeps.pure _

section Authorization
variable (hI : Stable I)
include hI

theorem authorizeCommand_keeps_of (dispatcherInstalled : Bool) (ambient : Ambient)
    (command : FabricResolvedCommand) (node : IntegrationNode)
    (happend : ∀ draw stage note, Keeps I (appendLifecycle ambient draw command stage note))
    (lifecycle : List FabricCommandLifecycleEvent) :
    Keeps I (authorizeCommand dispatcherInstalled ambient command node lifecycle) := by
  apply Keeps.bind (m := Effect.commit _)
  · apply Keeps.commit
    intro repo repo' decision hrepo h
    cases h
    exact hI.leases hrepo _
  · intro decision
    split
    · apply Keeps.bind (happend _ _ _)
      intro authorized
      split
      · exact Keeps.pure _
      · apply Keeps.bind (happend _ _ _)
        intro _
        exact Keeps.pure _
    · apply Keeps.bind (happend _ _ _)
      intro _
      exact Keeps.pure _

theorem admitCommand_keeps_of (allowPhysical dispatcherInstalled : Bool) (ambient : Ambient)
    (command : FabricResolvedCommand) (session : InteractionSession) (node : IntegrationNode)
    (happend : ∀ draw stage note, Keeps I (appendLifecycle ambient draw command stage note)) :
    Keeps I (admitCommand allowPhysical dispatcherInstalled ambient command session node) := by
  apply Keeps.bind (happend _ _ _)
  intro proposed
  split
  · apply Keeps.bind (happend _ _ _)
    intro _
    exact Keeps.pure _
  · apply Keeps.bind (happend _ _ _)
    intro _
    exact authorizeCommand_keeps_of hI _ _ _ _ happend _

end Authorization

variable (hC : CommandStable I)
include hC

theorem appendFabricLifecycle_keeps {repo repo' : Repository}
    {lifecycle : FabricCommandLifecycleEvent} {stored : Option StoredFabricLifecycle}
    (hrepo : I repo) (h : repo.appendFabricLifecycle lifecycle = .ok (repo', stored)) :
    I repo' := by
  rcases Repository.appendFabricLifecycle_ok h with ⟨_, rfl, _⟩ | ⟨_, rfl, hcommand, _⟩
  · exact hrepo
  · exact hC.lifecycle hrepo hcommand

theorem appendLifecycle_keeps (ambient : Ambient) (draw : ℕ) (command : FabricResolvedCommand)
    (stage : FabricCommandLifecycleStage) (note : LifecycleNote) :
    Keeps I (appendLifecycle ambient draw command stage note) := by
  apply Keeps.bind (Keeps.read _)
  intro _
  apply Keeps.commit
  intro repo repo' _ hrepo h
  obtain ⟨⟨stored, _⟩, hstored, hpair⟩ := map_eq_ok.mp h
  cases hpair
  exact appendFabricLifecycle_keeps hC hrepo hstored

theorem claimFabricCommand_keeps (command : FabricResolvedCommand) :
    Keeps I (Effect.commit (·.claimFabricCommand command)) := by
  apply Keeps.commit
  intro repo repo' claim hrepo h
  rcases Repository.claimFabricCommand_ok h with ⟨_, rfl, _⟩ | ⟨_, _, rfl, hfresh⟩
  · exact hrepo
  · exact hC.claim hrepo hfresh

theorem submitResume_keeps (ambient : Ambient) (command : FabricResolvedCommand)
    (reply : DispatchReply) : Keeps I (submitResume ambient command reply) :=
  submitResume_keeps_of ambient command
    (fun _ _ _ => appendLifecycle_keeps hC _ _ _ _ _) reply

theorem acceptAdapterLifecycle_keeps (lifecycle : FabricCommandLifecycleEvent) :
    Keeps I (acceptAdapterLifecycle lifecycle) := by
  apply Keeps.bind (Keeps.read _)
  intro _
  apply Keeps.commit
  intro repo repo' _ hrepo h
  exact appendFabricLifecycle_keeps hC hrepo h

variable (hI : Stable I)
include hI

theorem admitCommand_keeps (allowPhysical dispatcherInstalled : Bool) (ambient : Ambient)
    (command : FabricResolvedCommand) (session : InteractionSession) (node : IntegrationNode) :
    Keeps I (admitCommand allowPhysical dispatcherInstalled ambient command session node) :=
  admitCommand_keeps_of hI _ _ _ _ _ _ fun _ _ _ => appendLifecycle_keeps hC _ _ _ _ _

theorem submitStart_keeps (allowPhysical dispatcherInstalled : Bool) (ambient : Ambient)
    (request : FabricCommandRequest) :
    Keeps I (submitStart allowPhysical dispatcherInstalled ambient request) := by
  apply Keeps.bind (Keeps.read _)
  intro session
  apply Keeps.bind (Keeps.read _)
  intro binding
  apply Keeps.bind (Keeps.read _)
  intro node
  apply Keeps.bind (claimFabricCommand_keeps hC _)
  rintro ⟨command, isNew⟩
  cases isNew with
  | false =>
    simp only [Bool.false_eq_true, ↓reduceIte]
    exact Keeps.read _
  | true => exact admitCommand_keeps hC hI _ _ _ _ _ _

end Commands

section Events
variable (hI : Stable I)
include hI

theorem storeEvent_keeps (event : FabricEventEnvelope) (now : Instant) :
    Keeps I (storeEvent event now) := by
  apply Keeps.bind (Keeps.read _)
  rintro ⟨session, inactiveResult⟩
  dsimp only
  split
  · exact Keeps.pure _
  · apply Keeps.bind (m := Effect.commit _)
    · apply Keeps.commit
      intro repo repo' stored hrepo h
      cases happend : repo.appendFabricEvent event with
      | error e =>
        rw [happend] at h
        cases h
      | ok result =>
        rw [happend] at h
        cases h
        rcases Repository.appendFabricEvent_ok happend with ⟨_, rfl, _⟩ | ⟨_, rfl, hfresh⟩
        · exact hrepo
        · exact hI.event hrepo hfresh
    · intro stored
      split
      · exact Keeps.pure _
      · split
        · exact Keeps.pure _
        · exact Keeps.pure _

theorem requestsFromFlow_keeps (flow : FlowRecipe) (event : FabricEventEnvelope)
    (session : InteractionSession) (now : Instant) (messageId : ℕ → Uuid) :
    Keeps I (requestsFromFlow flow event session now messageId) := by
  unfold requestsFromFlow
  split
  · exact Keeps.pure _
  · split
    · exact Keeps.pure _
    · apply Keeps.bind (m := claimTrigger flow event session now _)
      · unfold claimTrigger
        dsimp only
        split
        · exact Keeps.pure _
        · apply Keeps.commit
          intro repo repo' fires hrepo h
          obtain ⟨rows, rfl⟩ := Repository.claimFlowDebounce_eq (Except.ok.inj h)
          exact hI.debounce hrepo rows
      · intro fires
        dsimp only
        split
        · exact Keeps.pure _
        · split
          · exact Keeps.pure _
          · exact Keeps.read _

theorem routeFlows_keeps (event : FabricEventEnvelope) (session : InteractionSession)
    (now : Instant) (messageId : ℕ → ℕ → Uuid) (index : ℕ) (flows : List FlowRecipe) :
    Keeps I (routeFlows event session now messageId index flows) := by
  induction flows generalizing index with
  | nil => exact Keeps.pure _
  | cons flow flows ih =>
    apply Keeps.bind (requestsFromFlow_keeps hI flow event session now _)
    intro _
    apply Keeps.bind (ih _)
    intro _
    exact Keeps.pure _

theorem routeEvent_keeps (event : FabricEventEnvelope) (session : InteractionSession)
    (now : Instant) (messageId : ℕ → ℕ → Uuid) :
    Keeps I (routeEvent event session now messageId) := by
  apply Keeps.bind (Keeps.read _)
  intro coursePack
  apply Keeps.bind (routeFlows_keeps hI event session now messageId 0 _)
  intro _
  exact Keeps.pure _

end Events

/-- Closure under every write that is not one of a command. -/
structure LessonInvariant (I : Repository → Prop) : Prop where
  stable : Stable I
  node : NodeStable I
  arm : ArmStable I
  bind : BindStable I

theorem LessonInvariant.of_commands (h : ∀ {repo repo' : Repository}, I repo →
    repo'.commands = repo.commands → repo'.lifecycle = repo.lifecycle → I repo') :
    LessonInvariant I where
  stable :=
    { coursePacks := fun hrepo _ => h hrepo rfl rfl
      leases := fun hrepo _ => h hrepo rfl rfl
      debounce := fun hrepo _ => h hrepo rfl rfl
      create := fun hrepo _ _ => h hrepo rfl rfl
      change := fun hrepo _ _ _ => h hrepo rfl rfl
      event := fun hrepo _ => h hrepo rfl rfl }
  node :=
    { plugins := fun hrepo _ => h hrepo rfl rfl
      nodes := fun hrepo _ _ => h hrepo rfl rfl }
  arm := fun hrepo _ _ _ => h hrepo rfl rfl
  bind := fun hrepo _ _ => h hrepo rfl rfl

/-- Closure under every write of the fabric. -/
structure StoreInvariant (I : Repository → Prop) : Prop extends LessonInvariant I where
  command : CommandStable I

/-- The calls that write no command; the lifecycle of a command has its own argument. -/
theorem FabricCall.run_keeps (hI : LessonInvariant I) (allowPhysical : Bool)
    (lastAttendedAt : Option Instant) (ambient : Ambient) (call : FabricCall)
    (haccept : ∀ lifecycle, call = .acceptAdapterLifecycle lifecycle →
      Keeps I (Fabric.acceptAdapterLifecycle lifecycle)) :
    Keeps I (call.run allowPhysical lastAttendedAt ambient) := by
  cases call with
  | installCoursePack coursePack => exact installCoursePack_keeps hI.stable coursePack
  | registerPluginAndNodes manifest nodes =>
    exact (registerPluginAndNodes_keeps hI.node manifest nodes _).discard
  | reportHealth report => exact (reportHealth_keeps hI.stable hI.node report ambient).discard
  | expireNodes => exact (expireNodes_keeps hI.stable hI.node ambient).discard
  | expireArmedSessions => exact (expireArmedSessions_keeps hI.stable _ _).discard
  | disconnectNodes nodeIds =>
    exact (disconnectNodes_keeps hI.stable hI.node nodeIds ambient).discard
  | createSession request sessionId actorId =>
    exact (createSession_keeps hI.stable allowPhysical request sessionId actorId _).discard
  | ensureMonitoringSession coursePack siteId roomId mode sessionId actorId =>
    exact (ensureMonitoringSession_keeps hI.stable allowPhysical coursePack siteId roomId mode
      sessionId actorId _).discard
  | assignRole sessionId role nodeId actorId =>
    exact (assignRole_keeps hI.stable hI.bind sessionId role nodeId actorId _).discard
  | transitionSession sessionId action actorId =>
    exact (transitionSession_keeps hI.stable allowPhysical sessionId action actorId _
      fun _ => hI.arm).discard
  | acceptAdapterLifecycle lifecycle => exact (haccept lifecycle rfl).discard

namespace Service
variable {s s' : Service} {out : List FabricOutput} {allowPhysical : Bool} {ambient : Ambient}

theorem runCall_repository (m : FabricM Unit) :
    (s.runCall m).1.repository = Effect.final (m s.repository) := by
  unfold runCall
  split <;> simp_all [Effect.final]

theorem begin_repository (i j : ℕ) (task : FabricTask) (request : FabricCommandRequest) :
    (s.begin allowPhysical ambient i j task request).1.repository =
      Effect.final (submitStart allowPhysical s.dispatcherInstalled ambient request
        s.repository) := by
  unfold begin
  split <;> simp_all [Effect.final, withTask]

theorem resume_repository (i j : ℕ) (task : FabricTask) (command : FabricResolvedCommand)
    (reply : DispatchReply) : (s.resume ambient i j task command reply).1.repository =
      Effect.final (submitResume ambient command reply s.repository) := by
  unfold resume
  split <;> simp_all [Effect.final, withTask]

theorem eq_of_step {result : Service × List FabricOutput} (h : some result = some (s', out)) :
    result.1 = s' ∧ result.2 = out := by
  rw [Option.some.inj h]
  exact ⟨rfl, rfl⟩

section Outputs
variable {command : FabricResolvedCommand} {node : IntegrationNode}

theorem runCall_dispatched (m : FabricM Unit) :
    FabricOutput.dispatched command node ∉ (s.runCall m).2 := by
  unfold runCall
  split <;> simp

theorem ingest_dispatched (event : FabricEventEnvelope) :
    FabricOutput.dispatched command node ∉ (s.ingest event ambient).2 := by
  unfold ingest
  split
  · simp
  · simp
  · split <;> simp

theorem failure_ne_dispatched (task : FabricTask) (e : FabricError) :
    FabricOutput.dispatched command node ≠ failure task e := by
  unfold failure
  split <;> simp

theorem resume_dispatched (i j : ℕ) (task : FabricTask) (claimed : FabricResolvedCommand)
    (reply : DispatchReply) :
    FabricOutput.dispatched command node ∉ (s.resume ambient i j task claimed reply).2 := by
  unfold resume
  split
  · simpa using failure_ne_dispatched task _
  · simp

theorem begin_dispatched {i j : ℕ} {task : FabricTask} {request : FabricCommandRequest}
    (h : FabricOutput.dispatched command node ∈ (s.begin allowPhysical ambient i j task request).2) :
    ∃ lifecycle repo, submitStart allowPhysical s.dispatcherInstalled ambient request
        s.repository = .ok (.dispatching command node lifecycle) repo ∧
      s.begin allowPhysical ambient i j task request =
        (s.withTask i (task.suspend j command) repo, [.dispatched command node]) := by
  unfold begin at h ⊢
  split at h
  · exact absurd (List.mem_singleton.mp h) (failure_ne_dispatched task _)
  · simp at h
  · rename_i command' node' lifecycle repo hrun
    obtain ⟨rfl, rfl⟩ : command = command' ∧ node = node' := by simpa using h
    exact ⟨lifecycle, repo, hrun, rfl⟩

theorem dispatched_of_step {event : FabricEvent}
    (hstep : s.step allowPhysical ambient event = some (s', out))
    (hout : FabricOutput.dispatched command node ∈ out) :
    ∃ i j task request lifecycle, event = .advance i j ∧
      s.submissionAt i j = some (task, .ready request) ∧
      submitStart allowPhysical s.dispatcherInstalled ambient request s.repository =
        .ok (.dispatching command node lifecycle) s'.repository ∧
      out = [.dispatched command node] := by
  cases event with
  | call call =>
    rw [← (eq_of_step hstep).2] at hout
    exact absurd hout (runCall_dispatched _)
  | setDispatcher installed =>
    cases hstep
    simp at hout
  | noteConsoleAttendance =>
    cases hstep
    simp at hout
  | ingestEvent event =>
    rw [← (eq_of_step hstep).2] at hout
    exact absurd hout (ingest_dispatched event)
  | submitCommand request =>
    cases hstep
    simp at hout
  | reply i j reply =>
    simp only [step] at hstep
    split at hstep
    · rw [← (eq_of_step hstep).2] at hout
      exact absurd hout (resume_dispatched i j _ _ reply)
    · cases hstep
  | advance i j =>
    simp only [step] at hstep
    split at hstep
    · rename_i task request hsubmission
      rw [← (eq_of_step hstep).2] at hout
      obtain ⟨lifecycle, repo, hrun, hbegin⟩ := begin_dispatched hout
      rw [hbegin] at hstep
      cases hstep
      exact ⟨i, j, task, request, lifecycle, rfl, hsubmission, hrun, rfl⟩
    · cases hstep

end Outputs

theorem ingest_keeps (hI : Stable I) (event : FabricEventEnvelope) (h : I s.repository) :
    I (s.ingest event ambient).1.repository := by
  have hstore := storeEvent_keeps hI event (ambient.clock 0) s.repository h
  unfold ingest
  split
  · rename_i repo hrun
    rw [hrun] at hstore
    exact hstore
  · rename_i repo hrun
    rw [hrun] at hstore
    exact hstore
  · rename_i stored session repo hrun
    rw [hrun] at hstore
    have hroute := routeEvent_keeps hI event session (ambient.clock 0)
      (fun flow request => ambient.uuid (64 * flow + request)) repo hstore
    split
    · rename_i hrun
      rw [hrun] at hroute
      exact hroute
    · rename_i hrun
      rw [hrun] at hroute
      exact hroute

/-- A step keeps `I` if the call that it makes or continues does. -/
theorem step_keeps_of_call (hI : Stable I) {event : FabricEvent} (h : I s.repository)
    (hstep : s.step allowPhysical ambient event = some (s', out))
    (hcall : ∀ call, event = .call call →
      I (Effect.final (call.run allowPhysical s.lastAttendedAt ambient s.repository)))
    (hadvance : ∀ i j task request, event = .advance i j →
      s.submissionAt i j = some (task, .ready request) →
      I (Effect.final (submitStart allowPhysical s.dispatcherInstalled ambient request
        s.repository)))
    (hreply : ∀ i j reply task command, event = .reply i j reply →
      s.submissionAt i j = some (task, .dispatching command) →
      I (Effect.final (submitResume ambient command reply s.repository))) :
    I s'.repository := by
  cases event with
  | call call =>
    rw [← (eq_of_step hstep).1, runCall_repository]
    exact hcall call rfl
  | setDispatcher installed =>
    cases hstep
    exact h
  | noteConsoleAttendance =>
    cases hstep
    exact h
  | ingestEvent event =>
    rw [← (eq_of_step hstep).1]
    exact ingest_keeps hI event h
  | submitCommand request =>
    cases hstep
    exact h
  | advance i j =>
    simp only [step] at hstep
    split at hstep
    · rename_i task request hsubmission
      rw [← (eq_of_step hstep).1, begin_repository]
      exact hadvance i j task request rfl hsubmission
    · cases hstep
  | reply i j reply =>
    simp only [step] at hstep
    split at hstep
    · rename_i task command hsubmission
      rw [← (eq_of_step hstep).1, resume_repository]
      exact hreply i j reply task command rfl hsubmission
    · cases hstep

/-- A step keeps `I` if its writes of commands do. -/
theorem step_keeps_of (hI : LessonInvariant I) {event : FabricEvent} (h : I s.repository)
    (hstep : s.step allowPhysical ambient event = some (s', out))
    (haccept : ∀ lifecycle, event = .call (.acceptAdapterLifecycle lifecycle) →
      Keeps I (Fabric.acceptAdapterLifecycle lifecycle))
    (hadvance : ∀ i j task request, event = .advance i j →
      s.submissionAt i j = some (task, .ready request) →
      I (Effect.final (submitStart allowPhysical s.dispatcherInstalled ambient request
        s.repository)))
    (hreply : ∀ i j reply task command, event = .reply i j reply →
      s.submissionAt i j = some (task, .dispatching command) →
      I (Effect.final (submitResume ambient command reply s.repository))) :
    I s'.repository := by
  refine step_keeps_of_call hI.stable h hstep ?_ hadvance hreply
  rintro call rfl
  refine (call.run_keeps hI allowPhysical s.lastAttendedAt ambient ?_).final h
  rintro lifecycle rfl
  exact haccept lifecycle rfl

theorem step_keeps (hI : StoreInvariant I) {event : FabricEvent} (h : I s.repository)
    (hstep : s.step allowPhysical ambient event = some (s', out)) : I s'.repository := by
  apply step_keeps_of hI.toLessonInvariant h hstep
  · exact fun lifecycle _ => acceptAdapterLifecycle_keeps hI.command lifecycle
  · exact fun _ _ _ request _ _ => (submitStart_keeps hI.command hI.stable _ _ _ request).final h
  · exact fun _ _ reply _ command _ _ => (submitResume_keeps hI.command _ command reply).final h

end Service

theorem StoreInvariant.reachable (hI : StoreInvariant I) (hempty : I Repository.empty)
    {allowPhysical : Bool} {s : Service} (h : (interactionFabric allowPhysical).Reachable s) :
    I s.repository :=
  h.invariant (P := fun s => I s.repository) (by rintro s rfl; exact hempty)
    fun hs (hstep : _ ∧ _ ∧ _) => Service.step_keeps hI hs hstep.2.2

/-- Its form for what happens after a given state. -/
theorem StoreInvariant.steps (hI : StoreInvariant I) {allowPhysical : Bool} {s s' : Service}
    {trace : List ((FabricEvent × Ambient) × List FabricOutput)} (h : I s.repository)
    (hs : (interactionFabric allowPhysical).Steps s trace s') : I s'.repository :=
  hs.preserves (P := fun s => I s.repository)
    (fun hs (hstep : _ ∧ _ ∧ _) => Service.step_keeps hI hs hstep.2.2) h

end CitPhysicalXR.Fabric
