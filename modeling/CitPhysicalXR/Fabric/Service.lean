import CitPhysicalXR.Fabric.Routing
import CitPhysicalXR.Foundation.Transition

/-! The fabric service as a transition system. A call that does not await is one step; a
submission is suspended while its dispatcher runs, and every other call may come between.
The system also lets a submission begin later than the event loop begins it, so each run of
the event loop is one of its runs. -/
namespace CitPhysicalXR.Fabric
open Foundation

inductive Submission where
  | ready (request : FabricCommandRequest)
  | dispatching (command : FabricResolvedCommand)
  | done

/-- The submissions of one call: `running` are gathered now, the batches of `rest` follow one
after the other. `event` is the stored event that an ingestion routes. -/
structure FabricTask where
  event : Option FabricEventEnvelope
  running : List Submission
  rest : List (List FabricCommandRequest)

namespace FabricTask
variable (task : FabricTask)

/-- When the gathered submissions are done, the next batch begins. -/
def settle : FabricTask :=
  if task.running.all (· matches .done) then
    match task.rest with
    | [] => task
    | batch :: rest => { task with running := batch.map .ready, rest := rest }
  else task

def finish (i : ℕ) : FabricTask :=
  settle { task with running := task.running.set i .done }

/-- An exception of one submission ends the call; submissions gathered with it go on. -/
def fail (i : ℕ) : FabricTask :=
  { task with running := task.running.set i .done, rest := [] }

def suspend (i : ℕ) (command : FabricResolvedCommand) : FabricTask :=
  { task with running := task.running.set i (.dispatching command) }

end FabricTask

/-- The calls that do not await. -/
inductive FabricCall where
  | installCoursePack (coursePack : CoursePack)
  | registerPluginAndNodes (manifest : PluginManifest) (nodes : List IntegrationNode)
  | reportHealth (report : HealthReport)
  | expireNodes
  | expireArmedSessions
  | disconnectNodes (nodeIds : List Identifier)
  | createSession (request : CreateInteractionSessionRequest) (sessionId actorId : Identifier)
  | ensureMonitoringSession (coursePack : CoursePack) (siteId roomId : Identifier)
      (mode : FabricSessionMode) (sessionId actorId : Identifier)
  | assignRole (sessionId role nodeId actorId : Identifier)
  | transitionSession (sessionId : Identifier) (action : SessionAction) (actorId : Identifier)
  | acceptAdapterLifecycle (lifecycle : FabricCommandLifecycleEvent)

inductive FabricEvent where
  | call (call : FabricCall)
  | setDispatcher (installed : Bool)
  | noteConsoleAttendance
  | ingestEvent (event : FabricEventEnvelope)
  | submitCommand (request : FabricCommandRequest)
  | advance (task submission : ℕ)
  | reply (task submission : ℕ) (reply : DispatchReply)

inductive FabricOutput where
  | dispatched (command : FabricResolvedCommand) (node : IntegrationNode)
  | ingested (storedEvent : Option StoredFabricEvent) (duplicate : Bool)
  | raised (error : FabricError)
  | routingFailed (event : FabricEventEnvelope) (error : FabricError)

structure Service where
  repository : Repository
  dispatcherInstalled : Bool
  lastAttendedAt : Option Instant
  tasks : List FabricTask

def installCoursePack (coursePack : CoursePack) : FabricM Unit := do
  Effect.read fun _ => validateCoursePack coursePack
  Effect.commit fun repo => (repo.installCoursePack coursePack).map (·, ())

def FabricCall.run (allowPhysical : Bool) (lastAttendedAt : Option Instant) (ambient : Ambient) :
    FabricCall → FabricM Unit
  | .installCoursePack coursePack => Fabric.installCoursePack coursePack
  | .registerPluginAndNodes manifest nodes =>
    Effect.discard (Fabric.registerPluginAndNodes manifest nodes (ambient.clock 0))
  | .reportHealth report => Effect.discard (Fabric.reportHealth report ambient)
  | .expireNodes => Effect.discard (Fabric.expireNodes ambient)
  | .expireArmedSessions =>
    Effect.discard (Fabric.expireArmedSessions lastAttendedAt (ambient.clock 0))
  | .disconnectNodes nodeIds => Effect.discard (Fabric.disconnectNodes nodeIds ambient)
  | .createSession request sessionId actorId =>
    Effect.discard (Fabric.createSession allowPhysical request sessionId actorId (ambient.clock 0))
  | .ensureMonitoringSession coursePack siteId roomId mode sessionId actorId =>
    Effect.discard (Fabric.ensureMonitoringSession allowPhysical coursePack siteId roomId mode
      sessionId actorId (ambient.clock 0))
  | .assignRole sessionId role nodeId actorId =>
    Effect.discard (Fabric.assignRole sessionId role nodeId actorId (ambient.clock 0))
  | .transitionSession sessionId action actorId =>
    Effect.discard (Fabric.transitionSession allowPhysical sessionId action actorId
      (ambient.clock 0))
  | .acceptAdapterLifecycle lifecycle => Effect.discard (Fabric.acceptAdapterLifecycle lifecycle)

namespace Service
variable (s : Service)

def initial : Service where
  repository := Repository.empty
  dispatcherInstalled := false
  lastAttendedAt := none
  tasks := []

def runCall (m : FabricM Unit) : Service × List FabricOutput :=
  match m s.repository with
  | .ok _ repo => ({ s with repository := repo }, [])
  | .error e repo => ({ s with repository := repo }, [.raised e])

/-- `ingest_event` until its first submission; the requests are built where the event is
stored, so an exception of the routing leaves the event behind. -/
def ingest (event : FabricEventEnvelope) (ambient : Ambient) : Service × List FabricOutput :=
  match storeEvent event (ambient.clock 0) s.repository with
  | .error e repo => ({ s with repository := repo }, [.raised e])
  | .ok (.finished stored duplicate) repo =>
    ({ s with repository := repo }, [.ingested stored duplicate])
  | .ok (.routing stored session) repo =>
    match routeEvent event session (ambient.clock 0)
        (fun flow request => ambient.uuid (64 * flow + request)) repo with
    | .error e repo =>
      ({ s with repository := repo }, [.ingested (some stored) false, .routingFailed event e])
    | .ok batches repo =>
      ({ s with
        repository := repo
        tasks := s.tasks ++ [FabricTask.settle ⟨some event, [], batches⟩] },
        [.ingested (some stored) false])

/-- What a failed submission reports: the failure of its routing, or its own exception. -/
def failure (task : FabricTask) (e : FabricError) : FabricOutput :=
  match task.event with
  | some event => .routingFailed event e
  | none => .raised e

def withTask (i : ℕ) (task : FabricTask) (repo : Repository) : Service :=
  { s with
    repository := repo
    tasks := s.tasks.set i task }

def begin (allowPhysical : Bool) (ambient : Ambient) (i j : ℕ) (task : FabricTask)
    (request : FabricCommandRequest) : Service × List FabricOutput :=
  match submitStart allowPhysical s.dispatcherInstalled ambient request s.repository with
  | .error e repo => (s.withTask i (task.fail j) repo, [failure task e])
  | .ok (.finished _) repo => (s.withTask i (task.finish j) repo, [])
  | .ok (.dispatching command node _) repo =>
    (s.withTask i (task.suspend j command) repo, [.dispatched command node])

def resume (ambient : Ambient) (i j : ℕ) (task : FabricTask) (command : FabricResolvedCommand)
    (reply : DispatchReply) : Service × List FabricOutput :=
  match submitResume ambient command reply s.repository with
  | .error e repo => (s.withTask i (task.fail j) repo, [failure task e])
  | .ok _ repo => (s.withTask i (task.finish j) repo, [])

def submissionAt (i j : ℕ) : Option (FabricTask × Submission) := do
  let task ← s.tasks[i]?
  let submission ← task.running[j]?
  return (task, submission)

/-- One step; `none` when the named submission is not there to take it. -/
def step (allowPhysical : Bool) (ambient : Ambient) :
    FabricEvent → Option (Service × List FabricOutput)
  | .call call => some (s.runCall (call.run allowPhysical s.lastAttendedAt ambient))
  | .setDispatcher installed => some ({ s with dispatcherInstalled := installed }, [])
  | .noteConsoleAttendance => some ({ s with lastAttendedAt := some (ambient.clock 0) }, [])
  | .ingestEvent event => some (s.ingest event ambient)
  | .submitCommand request =>
    some ({ s with tasks := s.tasks ++ [⟨none, [.ready request], []⟩] }, [])
  | .advance i j =>
    match s.submissionAt i j with
    | some (task, .ready request) => some (s.begin allowPhysical ambient i j task request)
    | _ => none
  | .reply i j reply =>
    match s.submissionAt i j with
    | some (task, .dispatching command) => some (s.resume ambient i j task command reply)
    | _ => none

end Service

/-- The arguments are values of their schema types. -/
def FabricEvent.isWellTyped : FabricEvent → Bool
  | .call (.acceptAdapterLifecycle lifecycle) => lifecycle.validates
  | .ingestEvent event => event.validates
  | .submitCommand request => request.validates
  | _ => true

/-- `uuid4` gives the command and the lifecycle records of one call identifiers that no
stored command and no stored record has. -/
def Ambient.IsFresh (ambient : Ambient) (repo : Repository) : Prop :=
  ((List.range 5).map ambient.uuid).Nodup ∧
    (∀ lifecycle ∈ repo.lifecycle, ∀ i < 5, lifecycle.messageId ≠ ambient.uuid i) ∧
    ∀ command ∈ repo.commands, command.commandId ≠ ambient.uuid 0

instance (ambient : Ambient) (repo : Repository) : Decidable (ambient.IsFresh repo) :=
  inferInstanceAs (Decidable (_ ∧ _ ∧ _))

/-- The service with its setting of `allow_physical`. -/
def interactionFabric (allowPhysical : Bool) :
    Machine Service (FabricEvent × Ambient) FabricOutput where
  Initial s := s = Service.initial
  Step s e s' out := e.1.isWellTyped = true ∧ e.2.IsFresh s.repository ∧
    s.step allowPhysical e.2 e.1 = some (s', out)

/-- Run a list of calls, each in its ambient; `none` when one of them cannot be made or does
not meet the condition. -/
def Service.runAll (allowPhysical : Bool) (ok : Service → FabricEvent × Ambient → Bool) :
    Service → List (FabricEvent × Ambient) → Option (Service × List FabricOutput)
  | s, [] => some (s, [])
  | s, (event, ambient) :: rest =>
    if ok s (event, ambient) = true ∧ event.isWellTyped = true ∧
        ambient.IsFresh s.repository then
      match s.step allowPhysical ambient event with
      | none => none
      | some (s', out) => (s'.runAll allowPhysical ok rest).map fun r => (r.1, out ++ r.2)
    else none

/-- What `runAll` computes is an execution of the service. -/
theorem Service.runAll_steps {allowPhysical : Bool}
    {ok : Service → FabricEvent × Ambient → Bool} {events : List (FabricEvent × Ambient)}
    {s s' : Service} {out : List FabricOutput}
    (h : s.runAll allowPhysical ok events = some (s', out)) :
    ∃ trace, ((interactionFabric allowPhysical).restrict fun s e => ok s e = true).Steps s trace s' ∧
      Machine.outputs trace = out := by
  induction events generalizing s out with
  | nil =>
    cases h
    exact ⟨[], .nil, rfl⟩
  | cons call rest ih =>
    obtain ⟨event, ambient⟩ := call
    unfold runAll at h
    split at h
    · rename_i hok
      split at h
      · cases h
      · rename_i mid first hstep
        obtain ⟨⟨last, others⟩, hrest, hpair⟩ := Option.map_eq_some_iff.mp h
        cases hpair
        obtain ⟨trace, hsteps, hout⟩ := ih hrest
        have hfirst : ((interactionFabric allowPhysical).restrict fun s e => ok s e = true).Step s
            (event, ambient) mid first := ⟨hok.1, hok.2.1, hok.2.2, hstep⟩
        refine ⟨[((event, ambient), first)] ++ trace, ?_, ?_⟩
        · exact (Machine.Steps.single_iff.mpr hfirst).trans hsteps
        · rw [Machine.outputs_append, Machine.outputs_singleton, hout]
    · cases h

/-- The state after a list of calls from the empty store, each of which meets the condition. -/
def Service.afterWhere (allowPhysical : Bool) (ok : Service → FabricEvent × Ambient → Bool)
    (events : List (FabricEvent × Ambient)) : Service :=
  ((Service.initial.runAll allowPhysical ok events).map Prod.fst).getD Service.initial

theorem Service.afterWhere_reachable (allowPhysical : Bool)
    (ok : Service → FabricEvent × Ambient → Bool) (events : List (FabricEvent × Ambient)) :
    ((interactionFabric allowPhysical).restrict fun s e => ok s e = true).Reachable
      (Service.afterWhere allowPhysical ok events) := by
  unfold Service.afterWhere
  cases hrun : Service.initial.runAll allowPhysical ok events with
  | none => exact ⟨[], Service.initial, rfl, .nil⟩
  | some result =>
    obtain ⟨s, out⟩ := result
    obtain ⟨trace, hsteps, _⟩ := Service.runAll_steps hrun
    exact ⟨trace, _, rfl, hsteps⟩

def Service.after (allowPhysical : Bool) (events : List (FabricEvent × Ambient)) : Service :=
  Service.afterWhere allowPhysical (fun _ _ => true) events

theorem Service.after_reachable (allowPhysical : Bool) (events : List (FabricEvent × Ambient)) :
    (interactionFabric allowPhysical).Reachable (Service.after allowPhysical events) :=
  (Service.afterWhere_reachable allowPhysical _ events).of_restrict

end CitPhysicalXR.Fabric
