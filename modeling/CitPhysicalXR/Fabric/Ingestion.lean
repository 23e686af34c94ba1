import CitPhysicalXR.Fabric.DispatchGate

/-! Exactly-once ingestion: the stored events are unique under both of their keys, and every
command key is claimed and handed to an adapter at most once over a whole run. -/
namespace CitPhysicalXR.Fabric
open Foundation

def Submission.request? : Submission → Option FabricCommandRequest
  | .ready request => some request
  | .dispatching _ => none
  | .done => none

def Submission.command? : Submission → Option FabricResolvedCommand
  | .ready _ => none
  | .dispatching command => some command
  | .done => none

theorem filterMap_set_perm {α β : Type*} {f : α → Option β} {l : List α} {j : ℕ} {a x : α}
    (ha : l[j]? = some a) (hx : f x = none) :
    ((f a).toList ++ (l.set j x).filterMap f).Perm (l.filterMap f) := by
  induction l generalizing j with
  | nil => simp at ha
  | cons b l ih =>
    cases j with
    | zero =>
      obtain rfl : b = a := by simpa using ha
      cases hb : f b <;> simp [hx, hb]
    | succ j =>
      have hrest := ih (by simpa using ha)
      cases hb : f b with
      | none => simpa [List.filterMap_cons, hb] using hrest
      | some c =>
        rw [List.set_cons_succ, List.filterMap_cons_some hb, List.filterMap_cons_some hb]
        exact List.perm_middle.trans (hrest.cons c)

namespace FabricTask
variable (task : FabricTask)

def requests : List FabricCommandRequest :=
  task.running.filterMap Submission.request? ++ task.rest.flatten

def commands : List FabricResolvedCommand := task.running.filterMap Submission.command?

theorem settle_commands : task.settle.commands = task.commands := by
  unfold settle
  split
  · rename_i hdone
    split
    · rfl
    · have hnone : task.running.filterMap Submission.command? = [] := by
        rw [List.filterMap_eq_nil_iff]
        intro submission hsubmission
        have := List.all_eq_true.mp hdone submission hsubmission
        cases submission <;> simp_all [Submission.command?]
      simp [commands, hnone, Submission.command?]
  · rfl

theorem settle_requests : task.settle.requests = task.requests := by
  unfold settle
  split
  · rename_i hdone
    split
    · rfl
    · rename_i batch rest hrest
      have hnone : task.running.filterMap Submission.request? = [] := by
        rw [List.filterMap_eq_nil_iff]
        intro submission hsubmission
        have := List.all_eq_true.mp hdone submission hsubmission
        cases submission <;> simp_all [Submission.request?]
      simp [requests, hnone, hrest, List.filterMap_map, Function.comp_def, Submission.request?]
  · rfl

theorem settle_event : task.settle.event = task.event := by
  unfold settle
  split
  · split <;> rfl
  · rfl

variable {task} {i : ℕ} {submission : Submission}

/-- A submission that is begun or done leaves the others of its task pending. -/
theorem set_requests (hsubmission : task.running[i]? = some submission) {next : Submission}
    (hnext : next.request? = none) :
    (submission.request?.toList ++
      requests { task with running := task.running.set i next }).Perm task.requests := by
  unfold requests
  rw [← List.append_assoc]
  exact (filterMap_set_perm hsubmission hnext).append_right _

theorem set_commands (hsubmission : task.running[i]? = some submission) {next : Submission}
    (hnext : next.command? = none) :
    commands { task with running := task.running.set i next } ⊆ task.commands := by
  intro command hcommand
  exact (filterMap_set_perm hsubmission hnext).subset (List.mem_append_right _ hcommand)

theorem finish_commands (hsubmission : task.running[i]? = some submission) :
    (task.finish i).commands ⊆ task.commands := by
  rw [finish, settle_commands]
  exact set_commands hsubmission rfl

theorem finish_requests (hsubmission : task.running[i]? = some submission) :
    (submission.request?.toList ++ (task.finish i).requests).Perm task.requests := by
  rw [finish, settle_requests]
  exact set_requests hsubmission rfl

theorem suspend_requests (hsubmission : task.running[i]? = some submission)
    (command : FabricResolvedCommand) :
    (submission.request?.toList ++ (task.suspend i command).requests).Perm task.requests :=
  set_requests hsubmission rfl

theorem fail_requests (hsubmission : task.running[i]? = some submission) :
    (task.fail i).requests ⊆ task.requests := by
  have hrunning := filterMap_set_perm hsubmission (f := Submission.request?) (x := .done) rfl
  intro request hrequest
  simp only [fail, requests, List.flatten_nil, List.append_nil] at hrequest
  exact List.mem_append_left _ (hrunning.subset (List.mem_append_right _ hrequest))

end FabricTask

namespace Service
variable {s s' : Service} {out : List FabricOutput} {allowPhysical : Bool} {ambient : Ambient}

theorem submissionAt_some {i j : ℕ} {task : FabricTask} {submission : Submission}
    (h : s.submissionAt i j = some (task, submission)) :
    s.tasks[i]? = some task ∧ task.running[j]? = some submission := by
  unfold submissionAt at h
  obtain ⟨found, hfound, h⟩ := Option.bind_eq_some_iff.mp h
  obtain ⟨at_, hat, h⟩ := Option.bind_eq_some_iff.mp h
  cases h
  exact ⟨hfound, hat⟩

/-- The rule for tasks: a step adds the task of its own call, lets requests and commands of one
task go, or suspends a submission whose command goes to its adapter. -/
theorem step_tasks {P : FabricTask → Prop} {event : FabricEvent}
    (hstep : s.step allowPhysical ambient event = some (s', out)) (h : ∀ task ∈ s.tasks, P task)
    (hsubmit : ∀ request, event = .submitCommand request → P ⟨none, [.ready request], []⟩)
    (hingest : ∀ e batches stored session repo, event = .ingestEvent e →
      storeEvent e (ambient.clock 0) s.repository = .ok (.routing stored session) repo →
      routeEvent e session (ambient.clock 0) (fun flow request => ambient.uuid (64 * flow + request))
        repo = .ok batches s'.repository → P (FabricTask.settle ⟨some e, [], batches⟩))
    (hdrop : ∀ task task', P task → task'.event = task.event → task'.requests ⊆ task.requests →
      task'.commands ⊆ task.commands → P task')
    (hbegin : ∀ i j task request command node lifecycle, P task →
      s.submissionAt i j = some (task, .ready request) →
      submitStart allowPhysical s.dispatcherInstalled ambient request s.repository =
        .ok (.dispatching command node lifecycle) s'.repository → P (task.suspend j command)) :
    ∀ task ∈ s'.tasks, P task := by
  have hset : ∀ {i : ℕ} {task : FabricTask} {repo : Repository}, P task →
      ∀ other ∈ (s.withTask i task repo).tasks, P other := by
    intro i task repo htask other hother
    rcases List.mem_or_eq_of_mem_set hother with hold | rfl
    · exact h other hold
    · exact htask
  have hat : ∀ {i j : ℕ} {task : FabricTask} {submission : Submission},
      s.submissionAt i j = some (task, submission) → P task := by
    intro i j task submission hsubmission
    exact h task (List.mem_of_getElem? (submissionAt_some hsubmission).1)
  have hfail : ∀ {i j : ℕ} {task : FabricTask} {submission : Submission},
      s.submissionAt i j = some (task, submission) → P (task.fail j) := by
    intro i j task submission hsubmission
    have hrunning := (submissionAt_some hsubmission).2
    exact hdrop task _ (hat hsubmission) rfl (FabricTask.fail_requests hrunning)
      (FabricTask.set_commands hrunning rfl)
  have hfinish : ∀ {i j : ℕ} {task : FabricTask} {submission : Submission},
      s.submissionAt i j = some (task, submission) → P (task.finish j) := by
    intro i j task submission hsubmission
    have hrunning := (submissionAt_some hsubmission).2
    refine hdrop task _ (hat hsubmission) (FabricTask.settle_event _) ?_
      (FabricTask.finish_commands hrunning)
    intro request hrequest
    exact (FabricTask.finish_requests hrunning).subset (List.mem_append_right _ hrequest)
  cases event with
  | call call =>
    rw [← (eq_of_step hstep).1]
    unfold runCall
    split <;> exact h
  | setDispatcher installed =>
    cases hstep
    exact h
  | noteConsoleAttendance =>
    cases hstep
    exact h
  | submitCommand request =>
    cases hstep
    intro task htask
    rcases List.mem_append.mp htask with hold | hnew
    · exact h task hold
    · obtain rfl := List.mem_singleton.mp hnew
      exact hsubmit request rfl
  | ingestEvent e =>
    obtain ⟨hs', -⟩ := eq_of_step hstep
    unfold ingest at hs'
    split at hs'
    · rw [← hs']
      exact h
    · rw [← hs']
      exact h
    · rename_i stored session repo hstore
      split at hs'
      · rw [← hs']
        exact h
      · rename_i batches repo' hroute
        rw [← hs']
        intro task htask
        rcases List.mem_append.mp htask with hold | hnew
        · exact h task hold
        · obtain rfl := List.mem_singleton.mp hnew
          exact hingest e batches stored session repo rfl hstore (by rw [← hs']; exact hroute)
  | advance i j =>
    simp only [step] at hstep
    split at hstep
    · rename_i task request hsubmission
      obtain ⟨hs', -⟩ := eq_of_step hstep
      unfold begin at hs'
      split at hs'
      · rw [← hs']
        exact hset (hfail hsubmission)
      · rw [← hs']
        exact hset (hfinish hsubmission)
      · rename_i command node lifecycle repo hrun
        have htask := hbegin i j task request command node lifecycle (hat hsubmission) hsubmission
          (by rw [← hs']; exact hrun)
        rw [← hs']
        exact hset htask
    · cases hstep
  | reply i j reply =>
    simp only [step] at hstep
    split at hstep
    · rename_i task command hsubmission
      obtain ⟨hs', -⟩ := eq_of_step hstep
      unfold resume at hs'
      split at hs'
      · rw [← hs']
        exact hset (hfail hsubmission)
      · rw [← hs']
        exact hset (hfinish hsubmission)
    · cases hstep

end Service
structure IsFlowRequest (event : FabricEventEnvelope) (session : InteractionSession)
    (now : Instant) (flows : List FlowRecipe) (request : FabricCommandRequest) : Prop where
  derived : ∃ flow ∈ flows, ∃ parameters role messageId,
    request = flowRequest flow event session now parameters role messageId
  bound : ∃ binding ∈ session.roleBindings, binding.role = request.targetRole
  valid : request.validates = true

theorem roleAccepts_bound {repo : Repository} {flow : FlowRecipe} {session : InteractionSession}
    {role : Identifier} (h : repo.roleAccepts flow session role = true) :
    ∃ binding ∈ session.roleBindings, binding.role = role := by
  unfold Repository.roleAccepts at h
  split at h
  · cases h
  · rename_i binding hbinding
    exact ⟨binding, List.mem_of_find?_eq_some hbinding, by simpa using List.find?_some hbinding⟩

section Routing
variable {event : FabricEventEnvelope} {session : InteractionSession} {now : Instant}

theorem buildRequests_ok {flow : FlowRecipe} {parameters : JsonObject}
    {accepts : Identifier → Bool} {messageId : ℕ → Uuid} {draw : ℕ} {roles : List Identifier}
    {requests : List FabricCommandRequest}
    (h : buildRequests flow event session now parameters accepts messageId draw roles =
      .ok requests) : ∀ request ∈ requests, request.validates = true ∧
        accepts request.targetRole = true ∧ ∃ role draw,
          request = flowRequest flow event session now parameters role (messageId draw) := by
  induction roles generalizing draw requests with
  | nil =>
    cases h
    simp
  | cons role rest ih =>
    rw [buildRequests] at h
    split at h
    · rename_i haccepts
      dsimp only at h
      split at h
      · rename_i hvalid
        obtain ⟨others, hothers, hcons⟩ := map_eq_ok.mp h
        subst hcons
        intro request hrequest
        rcases List.mem_cons.mp hrequest with rfl | hrequest
        · exact ⟨hvalid, haccepts, role, draw, rfl⟩
        · exact ih hothers request hrequest
      · cases h
    · exact ih h

theorem requestsFromFlow_requests (flow : FlowRecipe) (messageId : ℕ → Uuid) :
    Effect.Triple (fun _ => True) (requestsFromFlow flow event session now messageId)
      (fun requests _ => ∀ request ∈ requests, IsFlowRequest event session now [flow] request)
      (fun _ _ => True) := by
  unfold requestsFromFlow
  split
  · exact Effect.Triple.pure fun _ _ => by simp
  · split
    · exact Effect.Triple.pure fun _ _ => by simp
    · apply Effect.Triple.bind Effect.Triple.any
      intro fires
      dsimp only
      split
      · exact Effect.Triple.pure fun _ _ => by simp
      · split
        · exact Effect.Triple.pure fun _ _ => by simp
        · apply Effect.Triple.read
          · intro repo requests _ h request hrequest
            obtain ⟨hvalid, haccepts, role, draw, hderived⟩ := buildRequests_ok h request hrequest
            exact ⟨⟨flow, by simp, _, role, _, hderived⟩, roleAccepts_bound haccepts, hvalid⟩
          · exact fun _ _ _ _ => trivial

theorem routeFlows_requests (messageId : ℕ → ℕ → Uuid) (index : ℕ) (flows : List FlowRecipe) :
    Effect.Triple (fun _ => True) (routeFlows event session now messageId index flows)
      (fun routed _ => ∀ entry ∈ routed, IsFlowRequest event session now flows entry.2)
      (fun _ _ => True) := by
  induction flows generalizing index with
  | nil => exact Effect.Triple.pure fun _ _ => by simp
  | cons flow flows ih =>
    apply Effect.Triple.bind (Q := fun requests _ => True ∧
      ∀ request ∈ requests, IsFlowRequest event session now [flow] request)
    · exact (requestsFromFlow_requests flow _).conseq (fun _ h => h)
        (fun _ _ h => ⟨trivial, h⟩) fun _ _ h => h
    intro requests
    apply Effect.Triple.assume
    intro hrequests
    apply Effect.Triple.bind (ih (index + 1))
    intro others
    apply Effect.Triple.pure
    intro repo hothers entry hentry
    have hwiden : ∀ {some_ : List FlowRecipe} {request : FabricCommandRequest},
        some_ ⊆ flow :: flows → IsFlowRequest event session now some_ request →
        IsFlowRequest event session now (flow :: flows) request := by
      rintro some_ request hsub ⟨⟨flow', hflow', hderived⟩, hbound, hvalid⟩
      exact ⟨⟨flow', hsub hflow', hderived⟩, hbound, hvalid⟩
    rcases List.mem_append.mp hentry with hfirst | hrest
    · obtain ⟨request, hrequest, rfl⟩ := List.mem_map.mp hfirst
      exact hwiden (by simp) (hrequests request hrequest)
    · exact hwiden (List.subset_cons_self flow flows) (hothers entry hrest)

theorem routeEvent_requests (event : FabricEventEnvelope) (session : InteractionSession)
    (now : Instant) (messageId : ℕ → ℕ → Uuid) :
    Effect.Triple (fun _ => True) (routeEvent event session now messageId)
      (fun batches _ => ∃ coursePack : CoursePack, ∀ batch ∈ batches, ∀ request ∈ batch,
        IsFlowRequest event session now coursePack.flows request)
      (fun _ _ => True) := by
  apply Effect.Triple.bind Effect.Triple.any
  intro coursePack
  apply (Effect.Triple.bind (routeFlows_requests messageId 0 coursePack.flows)
    fun routed => ?_).conseq (fun _ _ => trivial) (fun _ _ h => h) fun _ _ h => h
  apply Effect.Triple.pure
  intro repo hrouted
  refine ⟨coursePack, fun batch hbatch request hrequest => ?_⟩
  obtain ⟨flow, hentry⟩ := mem_submissionBatches (fun _ h => h) hbatch hrequest
  exact hrouted _ hentry

end Routing

def HasEventKey (event : FabricEventEnvelope) (request : FabricCommandRequest) : Prop :=
  ∃ flowId : Identifier, request.idempotencyKey =
    flowIdempotencyKey request.sessionId flowId request.targetRole event.messageId

theorem IsFlowRequest.hasEventKey {event : FabricEventEnvelope} {session : InteractionSession}
    {now : Instant} {flows : List FlowRecipe} {request : FabricCommandRequest}
    (h : IsFlowRequest event session now flows request) : HasEventKey event request := by
  obtain ⟨flow, _, parameters, role, messageId, rfl⟩ := h.derived
  exact ⟨flow.flowId, rfl⟩

def FabricTask.CarriesEventKeys (task : FabricTask) : Prop :=
  ∀ event, task.event = some event → ∀ request ∈ task.requests, HasEventKey event request

theorem FabricTask.requests_batches (event : Option FabricEventEnvelope)
    (batches : List (List FabricCommandRequest)) :
    (FabricTask.settle ⟨event, [], batches⟩).requests = batches.flatten := by
  rw [settle_requests]
  simp [requests]

variable {allowPhysical : Bool} {s s' : Service} {out : List FabricOutput}

theorem Service.step_eventKeys {ambient : Ambient}
    {event : FabricEvent}
    (h : ∀ task ∈ s.tasks, task.CarriesEventKeys)
    (hstep : s.step allowPhysical ambient event = some (s', out)) :
    ∀ task ∈ s'.tasks, task.CarriesEventKeys := by
  apply Service.step_tasks hstep h
  · intro request _ e hevent
    cases hevent
  · intro e batches stored session repo _ _ hroute e' hevent request hrequest
    rw [FabricTask.settle_event] at hevent
    cases hevent
    rw [FabricTask.requests_batches] at hrequest
    obtain ⟨batch, hbatch, hrequest⟩ := List.mem_flatten.mp hrequest
    obtain ⟨coursePack, hflow⟩ := (routeEvent_requests e session (ambient.clock 0)
      (fun flow request => ambient.uuid (64 * flow + request))).of_ok trivial hroute
    exact (hflow batch hbatch request hrequest).hasEventKey
  · intro task task' hkeys hevent hsub _ e he request hrequest
    exact hkeys e (hevent ▸ he) request (hsub hrequest)
  · intro i j task request command node lifecycle hkeys hsubmission _ e he request' hrequest'
    have hrunning := (Service.submissionAt_some hsubmission).2
    have hpending := (FabricTask.suspend_requests hrunning command).subset
      (List.mem_append_right _ hrequest')
    exact hkeys e he request' hpending

structure UniqueRecords (repo : Repository) : Prop where
  messages : (repo.events.map (·.messageId)).Nodup
  sequences : (repo.events.map fun event => (event.sourceNodeId, event.sequence)).Nodup
  keys : (repo.commands.map (·.idempotencyKey)).Nodup

theorem nodup_append_singleton {α β : Type*} {f : α → β} {l : List α} {a : α}
    (h : (l.map f).Nodup) (hfresh : ∀ old ∈ l, f old ≠ f a) : ((l ++ [a]).map f).Nodup := by
  rw [List.map_append, List.map_singleton, List.nodup_append]
  refine ⟨h, List.nodup_singleton _, ?_⟩
  rintro x hx y hy rfl
  obtain ⟨old, hold, rfl⟩ := List.mem_map.mp hx
  exact hfresh old hold (List.mem_singleton.mp hy)

theorem UniqueRecords.invariant : StoreInvariant UniqueRecords where
  stable :=
    { coursePacks := fun h _ => ⟨h.messages, h.sequences, h.keys⟩
      leases := fun h _ => ⟨h.messages, h.sequences, h.keys⟩
      debounce := fun h _ => ⟨h.messages, h.sequences, h.keys⟩
      create := fun h _ _ => ⟨h.messages, h.sequences, h.keys⟩
      change := fun h _ _ _ => ⟨h.messages, h.sequences, h.keys⟩
      event := by
        intro repo event h hfresh
        refine ⟨nodup_append_singleton h.messages fun old hold => (hfresh old hold).1,
          nodup_append_singleton h.sequences fun old hold heq => (hfresh old hold).2 ?_, h.keys⟩
        simpa using heq }
  node :=
    { plugins := fun h _ => ⟨h.messages, h.sequences, h.keys⟩
      nodes := fun h _ _ => ⟨h.messages, h.sequences, h.keys⟩ }
  arm := fun h _ _ _ => ⟨h.messages, h.sequences, h.keys⟩
  bind := fun h _ _ => ⟨h.messages, h.sequences, h.keys⟩
  command :=
    { claim := fun h hfresh =>
        ⟨h.messages, h.sequences, nodup_append_singleton h.keys fun old hold => (hfresh old hold).1⟩
      lifecycle := fun h _ => ⟨h.messages, h.sequences, h.keys⟩ }

theorem UniqueRecords.empty : UniqueRecords Repository.empty :=
  ⟨List.nodup_nil, List.nodup_nil, List.nodup_nil⟩

theorem holdsCommand_invariant (p : FabricResolvedCommand → Prop) :
    StoreInvariant fun repo => ∃ command ∈ repo.commands, p command where
  stable :=
    { coursePacks := fun h _ => h
      leases := fun h _ => h
      debounce := fun h _ => h
      create := fun h _ _ => h
      change := fun h _ _ _ => h
      event := fun h _ => h }
  node :=
    { plugins := fun h _ => h
      nodes := fun h _ _ => h }
  arm := fun h _ _ _ => h
  bind := fun h _ _ => h
  command :=
    { claim := by
        intro repo command h _
        obtain ⟨old, hold, hp⟩ := h
        exact ⟨old, List.mem_append_left _ hold, hp⟩
      lifecycle := fun h _ => h }

def HoldsKey (key : String) (repo : Repository) : Prop :=
  ∃ command ∈ repo.commands, command.idempotencyKey = key

theorem HoldsKey.invariant (key : String) : StoreInvariant (HoldsKey key) :=
  holdsCommand_invariant (·.idempotencyKey = key)

/-- The records of a store go on from those of an earlier one. -/
structure Extends (before repo : Repository) : Prop where
  events : before.events <+: repo.events
  commands : before.commands <+: repo.commands
  lifecycle : before.lifecycle <+: repo.lifecycle

theorem Extends.invariant (before : Repository) : StoreInvariant (Extends before) where
  stable :=
    { coursePacks := fun h _ => { h with }
      leases := fun h _ => { h with }
      debounce := fun h _ => { h with }
      create := fun h _ _ => { h with }
      change := fun h _ _ _ => { h with }
      event := fun h _ => { h with events := h.events.trans (List.prefix_append ..) } }
  node :=
    { plugins := fun h _ => { h with }
      nodes := fun h _ _ => { h with } }
  arm := fun h _ _ _ => { h with }
  bind := fun h _ _ => { h with }
  command :=
    { claim := fun h _ => { h with commands := h.commands.trans (List.prefix_append ..) }
      lifecycle := fun h _ => { h with lifecycle := h.lifecycle.trans (List.prefix_append ..) } }

/-- What a session is created with. -/
def InteractionSession.founding (session : InteractionSession) :
    Identifier × Identifier × String × Identifier × Identifier × FabricSessionMode ×
      List Identifier × Identifier × Instant × Identifier :=
  (session.sessionId, session.coursePackId, session.coursePackVersion, session.siteId,
    session.roomId, session.mode, session.participantIds, session.safetyProfile, session.createdAt,
    session.createdBy)

theorem founding_property (session : InteractionSession) :
    SessionProperty fun later => later.founding = session.founding where
  change := by
    intro _ _ h hchange
    cases hchange <;> exact h
  arm _ _ h _ _ := h
  bind _ h _ := h

/-- No call, delivery or reply takes a record away, changes one or puts one before another, and no
session loses what it was created with. -/
theorem records_append_only {allowPhysical : Bool} {s s' : Service}
    {trace : List ((FabricEvent × Ambient) × List FabricOutput)}
    (hs : (interactionFabric allowPhysical).Steps s trace s') :
    Extends s.repository s'.repository ∧ ∀ session ∈ s.repository.sessions,
      ∃ later ∈ s'.repository.sessions, later.founding = session.founding := by
  refine ⟨(Extends.invariant s.repository).steps
    ⟨List.prefix_refl _, List.prefix_refl _, List.prefix_refl _⟩ hs, fun session hsession => ?_⟩
  obtain ⟨later, hlater, _, hsame⟩ := ((founding_property session).persists session.sessionId).steps
    ⟨session, hsession, rfl, rfl⟩ hs
  exact ⟨later, hlater, hsame⟩

/-- A command with the identifier is stored. -/
def IsClaimed (commandId : Uuid) (repo : Repository) : Prop :=
  ∃ command ∈ repo.commands, command.commandId = commandId

/-- What a submission leaves when its command goes to its adapter: the command was claimed just
now, under a key new to the store. -/
structure Handover (request : FabricCommandRequest) (repo repo' : Repository)
    (command : FabricResolvedCommand) : Prop where
  unclaimed : ¬ HoldsKey command.idempotencyKey repo
  holdsKey : HoldsKey command.idempotencyKey repo'
  isClaimed : IsClaimed command.commandId repo'
  resolved : ∃ nodeId commandId, command = resolveCommand request nodeId commandId

theorem submitStart_claims (allowPhysical dispatcherInstalled : Bool) (ambient : Ambient)
    (request : FabricCommandRequest) (repo : Repository) :
    Effect.Triple (· = repo) (submitStart allowPhysical dispatcherInstalled ambient request)
      (fun progress repo' => ∀ command node lifecycle,
        progress = .dispatching command node lifecycle → Handover request repo repo' command)
      (fun _ _ => True) := by
  have hread : ∀ {α : Type} (f : Repository → Except FabricError α),
      Effect.Triple (· = repo) (Effect.read f) (fun _ repo' => repo' = repo) (fun _ _ => True) :=
    fun f => Effect.Triple.read (fun _ _ h _ => h) fun _ _ _ _ => trivial
  apply Effect.Triple.bind (hread _)
  intro session
  apply Effect.Triple.bind (hread _)
  intro binding
  apply Effect.Triple.bind (hread _)
  intro node
  set resolved := resolveCommand request binding.nodeId (ambient.uuid 0)
  let Stored (repo : Repository) : Prop := ∃ command ∈ repo.commands,
    command.idempotencyKey = resolved.idempotencyKey ∧ command.commandId = resolved.commandId
  have hstored : StoreInvariant Stored := holdsCommand_invariant _
  apply Effect.Triple.bind (Q := fun claim repo' => claim.2 = true →
    ¬ HoldsKey resolved.idempotencyKey repo ∧ Stored repo')
  · apply Effect.Triple.commit
    · intro repo₀ repo' claim hrepo h
      subst hrepo
      obtain ⟨claimed, isNew⟩ := claim
      rcases Repository.claimFabricCommand_ok h with ⟨rfl, _⟩ | ⟨_, _, rfl, hfresh⟩
      · simp
      · intro _
        refine ⟨?_, _, List.mem_append_right _ List.mem_cons_self, rfl, rfl⟩
        intro hheld
        obtain ⟨old, hold, hkey⟩ := hheld
        exact (hfresh old hold).1 hkey
    · exact fun _ _ _ _ => trivial
  intro claim
  obtain ⟨claimed, isNew⟩ := claim
  cases isNew with
  | false =>
    simp only [Bool.false_eq_true, ↓reduceIte]
    apply Effect.Triple.read
    · intro _ progress _ hprogress command node' lifecycle heq
      subst heq
      cases hprogress
    · exact fun _ _ _ _ => trivial
  | true =>
    have hkeeps := admitCommand_keeps hstored.command hstored.stable allowPhysical
      dispatcherInstalled ambient resolved session node
    have hcommand := admitCommand_dispatching allowPhysical dispatcherInstalled ambient resolved
      session node
    intro repo' hclaim
    obtain ⟨hnew, hheld⟩ := hclaim rfl
    refine ((hkeeps.and hcommand).conseq (fun _ h => h) ?_ fun _ _ _ => trivial) repo'
      ⟨hheld, trivial⟩
    intro progress repo'' h command node' lifecycle heq
    obtain ⟨⟨stored, hmem, hkey, hid⟩, hprogress⟩ := h
    obtain ⟨rfl, _, _⟩ := hprogress command node' lifecycle heq
    exact ⟨hnew, ⟨stored, hmem, hkey⟩, ⟨stored, hmem, hid⟩, ⟨_, _, rfl⟩⟩

def FabricOutput.dispatchedKey? : FabricOutput → Option String
  | .dispatched command _ => some command.idempotencyKey
  | _ => none

/-- The keys of the commands handed to adapters, in the order of a trace. -/
def dispatchedKeys (trace : List ((FabricEvent × Ambient) × List FabricOutput)) : List String :=
  (Machine.outputs trace).filterMap FabricOutput.dispatchedKey?

theorem dispatchedKey_of_step {event : FabricEvent}
    {ambient : Ambient}
    (hstep : s.step allowPhysical ambient event = some (s', out)) :
    out.filterMap FabricOutput.dispatchedKey? = [] ∨
      ∃ key, out.filterMap FabricOutput.dispatchedKey? = [key] ∧
        ¬ HoldsKey key s.repository ∧ HoldsKey key s'.repository := by
  by_cases hdispatch : ∃ command node, FabricOutput.dispatched command node ∈ out
  · obtain ⟨command, node, hout⟩ := hdispatch
    obtain ⟨i, j, task, request, lifecycle, _, _, hrun, rfl⟩ :=
      Service.dispatched_of_step hstep hout
    have hhandover := (submitStart_claims allowPhysical s.dispatcherInstalled ambient request
      s.repository).of_ok rfl hrun _ _ _ rfl
    exact .inr ⟨command.idempotencyKey, rfl, hhandover.unclaimed, hhandover.holdsKey⟩
  · left
    rw [List.filterMap_eq_nil_iff]
    intro output houtput
    cases output with
    | dispatched command node => exact absurd ⟨command, node, houtput⟩ hdispatch
    | _ => rfl

/-- No key is handed over twice in a run. -/
theorem dispatchedKeys_nodup
    {trace : List ((FabricEvent × Ambient) × List FabricOutput)}
    (h : (interactionFabric allowPhysical).Run trace s) :
    (dispatchedKeys trace).Nodup ∧ ∀ key ∈ dispatchedKeys trace, HoldsKey key s.repository := by
  apply Machine.Run.induct (P := fun trace s => (dispatchedKeys trace).Nodup ∧
    ∀ key ∈ dispatchedKeys trace, HoldsKey key s.repository) _ _ h
  · intro s _
    exact ⟨List.nodup_nil, by simp [dispatchedKeys]⟩
  · rintro trace s ⟨event, ambient⟩ s' out _ ⟨hnodup, hheld⟩ ⟨_, _, hstep⟩
    have hkept : ∀ key ∈ dispatchedKeys trace, HoldsKey key s'.repository := fun key hkey =>
      Service.step_keeps (HoldsKey.invariant key) (hheld key hkey) hstep
    have happend : dispatchedKeys (trace ++ [((event, ambient), out)]) =
        dispatchedKeys trace ++ out.filterMap FabricOutput.dispatchedKey? := by
      simp [dispatchedKeys]
    rw [happend]
    rcases dispatchedKey_of_step hstep with hnone | ⟨key, hone, hnew, hholds⟩
    · rw [hnone, List.append_nil]
      exact ⟨hnodup, hkept⟩
    · rw [hone]
      refine ⟨List.nodup_append.mpr ⟨hnodup, List.nodup_singleton key, ?_⟩, ?_⟩
      · rintro old hold new hnew' rfl
        obtain rfl := List.mem_singleton.mp hnew'
        exact hnew (hheld old hold)
      · intro other hother
        rcases List.mem_append.mp hother with hold | hlast
        · exact hkept other hold
        · obtain rfl := List.mem_singleton.mp hlast
          exact hholds

theorem storeEvent_duplicate (event : FabricEventEnvelope) (now : Instant) (repo : Repository) :
    Effect.Triple (· = repo) (storeEvent event now)
      (fun progress repo' => ∀ stored, progress = .finished stored true →
        stored = none ∧ repo' = repo) (fun _ _ => True) := by
  apply Effect.Triple.bind (Q := fun _ repo' => repo' = repo)
  · exact Effect.Triple.read (fun _ _ h _ => h) fun _ _ _ _ => trivial
  rintro ⟨session, inactiveResult⟩
  dsimp only
  split
  · apply Effect.Triple.pure
    rintro _ _ stored hprogress
    cases hprogress
  · apply Effect.Triple.bind (m := Effect.commit _) (Q := fun stored repo' =>
      stored = none → repo' = repo)
    · apply Effect.Triple.commit
      · rintro _ repo' stored rfl h
        cases happend : Repository.appendFabricEvent _ event with
        | error e =>
          rw [happend] at h
          cases h
        | ok result =>
          rw [happend] at h
          cases h
          rcases Repository.appendFabricEvent_ok happend with ⟨_, hrepo, _⟩ | ⟨hsome, _, _⟩
          · exact fun _ => hrepo
          · rw [hsome]
            intro hnone
            cases hnone
      · exact fun _ _ _ _ => trivial
    · intro stored
      cases stored with
      | none =>
        apply Effect.Triple.pure
        rintro repo' hrepo stored hprogress
        cases hprogress
        exact ⟨rfl, hrepo rfl⟩
      | some stored =>
        dsimp only
        split
        · apply Effect.Triple.pure
          rintro _ _ _ hprogress
          cases hprogress
        · apply Effect.Triple.pure
          rintro _ _ _ hprogress
          cases hprogress

theorem Service.duplicate_of_step {event : FabricEvent}
    {ambient : Ambient} {stored : Option StoredFabricEvent}
    (hstep : s.step allowPhysical ambient event = some (s', out))
    (hout : FabricOutput.ingested stored true ∈ out) : stored = none ∧ s' = s := by
  cases event with
  | ingestEvent e =>
    have hduplicate := storeEvent_duplicate e (ambient.clock 0) s.repository s.repository rfl
    simp only [step, Option.some.injEq] at hstep
    unfold ingest at hstep
    split at hstep
    · cases hstep
      simp at hout
    · rename_i stored' duplicate repo hrun
      rw [hrun] at hduplicate
      cases hstep
      obtain ⟨rfl, rfl⟩ : stored = stored' ∧ true = duplicate := by simpa using hout
      obtain ⟨hnone, rfl⟩ := hduplicate stored rfl
      exact ⟨hnone, rfl⟩
    · split at hstep
      · cases hstep
        simp at hout
      · cases hstep
        simp at hout
  | call call =>
    simp only [step, Option.some.injEq] at hstep
    unfold runCall at hstep
    split at hstep
    · cases hstep
      simp at hout
    · cases hstep
      simp at hout
  | setDispatcher installed =>
    cases hstep
    simp at hout
  | noteConsoleAttendance =>
    cases hstep
    simp at hout
  | submitCommand request =>
    cases hstep
    simp at hout
  | advance i j =>
    have hfailure : ∀ task e, FabricOutput.ingested stored true ≠ failure task e := by
      intro task e
      unfold failure
      split <;> simp
    simp only [step] at hstep
    split at hstep
    · rw [← (eq_of_step hstep).2] at hout
      unfold begin at hout
      split at hout
      · exact absurd (List.mem_singleton.mp hout) (hfailure _ _)
      · simp at hout
      · simp at hout
    · cases hstep
  | reply i j reply =>
    have hfailure : ∀ task e, FabricOutput.ingested stored true ≠ failure task e := by
      intro task e
      unfold failure
      split <;> simp
    simp only [step] at hstep
    split at hstep
    · rw [← (eq_of_step hstep).2] at hout
      unfold resume at hout
      split at hout
      · exact absurd (List.mem_singleton.mp hout) (hfailure _ _)
      · simp at hout
    · cases hstep

/-- In every run, whatever is redelivered, reordered or reuses a sequence number: events are
stored once under each key, a duplicate changes nothing, the requests of an event carry its
keys, and under each of these one command is claimed and handed over at most. -/
theorem ingestion_exactly_once {allowPhysical : Bool} {s : Service}
    {trace : List ((FabricEvent × Ambient) × List FabricOutput)}
    (h : (interactionFabric allowPhysical).Run trace s) :
    (s.repository.events.map (·.messageId)).Nodup ∧
      (s.repository.events.map fun event => (event.sourceNodeId, event.sequence)).Nodup ∧
      (∀ event s' out stored, (interactionFabric allowPhysical).Step s event s' out →
        FabricOutput.ingested stored true ∈ out → stored = none ∧ s' = s) ∧
      (∀ task ∈ s.tasks, task.CarriesEventKeys) ∧
      ∀ (sessionId flowId role : Identifier) (messageId : Uuid),
        ((s.repository.commands.map (·.idempotencyKey)).count
          (flowIdempotencyKey sessionId flowId role messageId) ≤ 1) ∧
        (dispatchedKeys trace).count (flowIdempotencyKey sessionId flowId role messageId) ≤ 1 := by
  have hunique := UniqueRecords.invariant.reachable UniqueRecords.empty h.reachable
  have hkeys : ∀ task ∈ s.tasks, task.CarriesEventKeys :=
    h.reachable.invariant (P := fun s => ∀ task ∈ s.tasks, task.CarriesEventKeys)
      (by rintro s rfl; simp [Service.initial])
      fun hs (hstep : _ ∧ _ ∧ _) => Service.step_eventKeys hs hstep.2.2
  refine ⟨hunique.messages, hunique.sequences, ?_, hkeys, ?_⟩
  · exact fun event s' out stored hstep => Service.duplicate_of_step hstep.2.2
  · exact fun _ _ _ _ => ⟨List.nodup_iff_count_le_one.mp hunique.keys _,
      List.nodup_iff_count_le_one.mp (dispatchedKeys_nodup h).1 _⟩

namespace Lesson

def press : FabricEventEnvelope where
  messageId := uuid 7000
  topic := button.name
  sourceNodeId := robot.nodeId
  sourceCapability := button.name
  siteId := site
  roomId := room
  sessionId := sessionId
  participantId := none
  timestamp := (ambient 7).clock 0
  monotonicTimestamp := 0
  sequence := 0
  correlationId := none
  causationId := none
  confidence := none
  ttlMs := 60000
  dataClassification := .operational
  payload := JsonObject.empty

/-- The press is routed to the robot, and then delivered once more. -/
def redelivered : Option (Service × List FabricOutput) :=
  Service.initial.runAll true (fun _ _ => true) (setUp coursePack ++ armAndStart ++
    [(.ingestEvent press, ambient 7), (.advance 0 0, ambient 8), (.ingestEvent press, ambient 9)])

def pressKey : String := flowIdempotencyKey sessionId flow.flowId driver press.messageId

theorem redelivered_keys : redelivered.map (fun r => r.2.filterMap FabricOutput.dispatchedKey?) =
    some [pressKey] := by
  decide +kernel

end Lesson

theorem records_append_only_lesson : ∃ s trace,
    (interactionFabric true).Steps Service.initial trace s ∧
    dispatchedKeys trace = [Lesson.pressKey] ∧ Extends Repository.empty s.repository := by
  have hkeys := Lesson.redelivered_keys
  unfold Lesson.redelivered at hkeys
  obtain ⟨⟨s, out⟩, hrun, hout⟩ := Option.map_eq_some_iff.mp hkeys
  obtain ⟨trace, hsteps, rfl⟩ := Service.runAll_steps hrun
  exact ⟨s, trace, hsteps.of_restrict, hout, (records_append_only hsteps.of_restrict).1⟩

theorem ingestion_exactly_once_lesson : ∃ s trace, (interactionFabric true).Run trace s ∧
    dispatchedKeys trace = [Lesson.pressKey] ∧
    (s.repository.events.map (·.messageId)).Nodup ∧
    ∀ (sessionId flowId role : Identifier) (messageId : Uuid),
      (dispatchedKeys trace).count (flowIdempotencyKey sessionId flowId role messageId) ≤ 1 := by
  have hkeys := Lesson.redelivered_keys
  unfold Lesson.redelivered at hkeys
  obtain ⟨⟨s, out⟩, hrun, hout⟩ := Option.map_eq_some_iff.mp hkeys
  obtain ⟨trace, hsteps, rfl⟩ := Service.runAll_steps hrun
  have hrun : (interactionFabric true).Run trace s := ⟨Service.initial, rfl, hsteps.of_restrict⟩
  obtain ⟨hmessages, _, _, _, honce⟩ := ingestion_exactly_once hrun
  exact ⟨s, trace, hrun, hout, hmessages, fun sessionId flowId role messageId =>
    (honce sessionId flowId role messageId).2⟩

end CitPhysicalXR.Fabric
