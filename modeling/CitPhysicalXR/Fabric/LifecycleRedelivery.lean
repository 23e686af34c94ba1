import CitPhysicalXR.Fabric.AdapterConnections
import CitPhysicalXR.Fabric.Ingestion
import CitPhysicalXR.Fabric.LifecycleOrder

/-! The lifecycle messages that an adapter sends again: the transition is checked before the
message is recognised, so a stored message is refused as a step that its command cannot take. -/
namespace CitPhysicalXR.Fabric
open Foundation

/-- What a connection does with a lifecycle frame. -/
inductive LifecycleAnswer where
  | acknowledged (duplicate : Bool) (streamSequence : Option ℕ)
  | closed
  deriving DecidableEq

/-- `adapter.command_lifecycle`, from the rate of the connection to the acknowledgement. -/
def AdapterConnection.deliverLifecycle (c : AdapterConnection) (frameId : String)
    (lifecycle : FabricCommandLifecycleEvent) (now : ℚ) (repo : Repository) :
    LifecycleAnswer × Repository :=
  match c.enforceRate now with
  | none => (.closed, repo)
  | some _ =>
    if lifecycle.targetNodeId.text ∉ c.nodeIds then (.closed, repo)
    else if frameId ∈ c.seenFrameIds then (.acknowledged true none, repo)
    else
      match acceptAdapterLifecycle lifecycle repo with
      | .ok stored repo' =>
        (.acknowledged stored.isNone (stored.map (·.streamSequence)), repo')
      | .error _ repo' => (.closed, repo')

structure CommandIdentity where
  commandId : Uuid
  requestMessageId : Uuid
  targetNodeId : Identifier
  sessionId : Identifier
  correlationId : String

def FabricResolvedCommand.identity (command : FabricResolvedCommand) : CommandIdentity :=
  ⟨command.commandId, command.requestMessageId, command.targetNodeId, command.sessionId,
    command.correlationId⟩

def FabricCommandLifecycleEvent.identity (lifecycle : FabricCommandLifecycleEvent) :
    CommandIdentity :=
  ⟨lifecycle.commandId, lifecycle.requestMessageId, lifecycle.targetNodeId, lifecycle.sessionId,
    lifecycle.correlationId⟩

/-- The record of a message, without what the encoding leaves out. -/
def FabricCommandLifecycleEvent.record (lifecycle : FabricCommandLifecycleEvent) :
    FabricCommandLifecycleEvent :=
  { lifecycle with details := lifecycle.details.excludeNone }

/-- The command with the identifier is stored, with these others. -/
def HoldsIdentity (identity : CommandIdentity) (repo : Repository) : Prop :=
  ∃ command, repo.getFabricCommand identity.commandId = some command ∧
    command.identity = identity

/-- Every stored message repeats the identifiers of its command and fits the storage. -/
def Recognisable (repo : Repository) : Prop :=
  ∀ lifecycle ∈ repo.lifecycle, HoldsIdentity lifecycle.identity repo ∧
    encodeJson lifecycle.toJson maxJsonBytes = .ok ()

theorem HoldsIdentity.claim {identity : CommandIdentity} {repo : Repository}
    (h : HoldsIdentity identity repo) (command : FabricResolvedCommand) :
    HoldsIdentity identity { repo with commands := repo.commands ++ [command] } := by
  obtain ⟨stored, hstored, hidentity⟩ := h
  refine ⟨stored, ?_, hidentity⟩
  unfold Repository.getFabricCommand at hstored ⊢
  rw [List.find?_append, hstored]
  rfl

theorem HoldsIdentity.of_commands {identity : CommandIdentity} {repo repo' : Repository}
    (hcommands : repo'.commands = repo.commands) (h : HoldsIdentity identity repo) :
    HoldsIdentity identity repo' := by
  unfold HoldsIdentity Repository.getFabricCommand at h ⊢
  rwa [hcommands]

theorem HoldsIdentity.invariant (identity : CommandIdentity) :
    StoreInvariant (HoldsIdentity identity) where
  toLessonInvariant := .of_commands fun h hcommands _ => h.of_commands hcommands
  command :=
    { claim := fun h _ => h.claim _
      lifecycle := fun h _ => h.of_commands rfl }

namespace Recognisable
variable {repo : Repository}

theorem of_commands {repo' : Repository} (hcommands : repo'.commands = repo.commands)
    (hlifecycle : repo'.lifecycle = repo.lifecycle) (h : Recognisable repo) :
    Recognisable repo' := by
  intro lifecycle hmem
  rw [hlifecycle] at hmem
  obtain ⟨hidentity, hencodes⟩ := h lifecycle hmem
  exact ⟨hidentity.of_commands hcommands, hencodes⟩

theorem lesson : LessonInvariant Recognisable :=
  .of_commands fun h hcommands hlifecycle => h.of_commands hcommands hlifecycle

theorem claim (h : Recognisable repo) (command : FabricResolvedCommand) :
    Recognisable { repo with commands := repo.commands ++ [command] } := by
  intro lifecycle hmem
  obtain ⟨hidentity, hencodes⟩ := h lifecycle hmem
  exact ⟨hidentity.claim command, hencodes⟩

theorem append (h : Recognisable repo) {lifecycle : FabricCommandLifecycleEvent}
    {repo' : Repository} {stored : Option StoredFabricLifecycle}
    (hidentity : HoldsIdentity lifecycle.identity repo)
    (happend : repo.appendFabricLifecycle lifecycle = .ok (repo', stored)) :
    Recognisable repo' := by
  have hencodes := Repository.appendFabricLifecycle_encodes happend
  obtain ⟨-, rfl, -⟩ | ⟨-, rfl, -, -⟩ := Repository.appendFabricLifecycle_ok happend
  · exact h
  · intro other hother
    obtain hold | hnew := List.mem_append.mp hother
    · exact h other hold
    · obtain rfl := List.mem_singleton.mp hnew
      refine ⟨hidentity, ?_⟩
      rw [FabricCommandLifecycleEvent.toJson_excludeNone]
      exact hencodes

end Recognisable

theorem checkAdapterLifecycle_identity {repo : Repository}
    {lifecycle : FabricCommandLifecycleEvent}
    (h : repo.checkAdapterLifecycle lifecycle = .ok ()) :
    HoldsIdentity lifecycle.identity repo := by
  unfold Repository.checkAdapterLifecycle at h
  split at h
  · cases h
  · rename_i command hcommand
    have hid : command.commandId = lifecycle.commandId := by
      simpa using List.find?_some hcommand
    split_ifs at h with hrequest htarget hcontext
    refine ⟨command, hcommand, ?_⟩
    simp only [FabricResolvedCommand.identity, FabricCommandLifecycleEvent.identity,
      CommandIdentity.mk.injEq]
    obtain ⟨hsession, hcorrelation⟩ := not_or.mp hcontext
    exact ⟨hid, (not_not.mp hrequest).symm, (not_not.mp htarget).symm,
      (not_not.mp hsession).symm, (not_not.mp hcorrelation).symm⟩

theorem acceptAdapterLifecycle_recognisable (lifecycle : FabricCommandLifecycleEvent) :
    Keeps Recognisable (acceptAdapterLifecycle lifecycle) := by
  apply Effect.Triple.bind (Q := fun _ repo =>
    Recognisable repo ∧ HoldsIdentity lifecycle.identity repo)
  · apply Effect.Triple.read
    · intro repo _ hrepo hcheck
      exact ⟨hrepo, checkAdapterLifecycle_identity hcheck⟩
    · exact fun _ _ hrepo _ => hrepo
  · intro _
    apply Effect.Triple.commit
    · intro repo repo' stored hrepo happend
      exact hrepo.1.append hrepo.2 happend
    · exact fun _ _ hrepo _ => hrepo.1

theorem appendLifecycle_recognisable (ambient : Ambient) (draw : ℕ)
    (command : FabricResolvedCommand) (stage : FabricCommandLifecycleStage)
    (note : LifecycleNote) :
    Keeps (fun repo => Recognisable repo ∧ HoldsIdentity command.identity repo)
      (appendLifecycle ambient draw command stage note) := by
  apply Keeps.bind (Keeps.read _)
  intro _
  apply Keeps.commit
  intro repo repo' _ hrepo h
  obtain ⟨⟨stored, _⟩, happend, hpair⟩ := map_eq_ok.mp h
  cases hpair
  have hkept := (HoldsIdentity.invariant command.identity).command
  have hidentity : HoldsIdentity
      (lifecycleEvent command stage (ambient.uuid draw) (ambient.clock draw) note).identity repo :=
    hrepo.2
  exact ⟨hrepo.1.append hidentity happend, appendFabricLifecycle_keeps hkept hrepo.2 happend⟩

theorem submitStart_recognisable (allowPhysical dispatcherInstalled : Bool) (ambient : Ambient)
    (request : FabricCommandRequest) :
    Effect.Triple Recognisable (submitStart allowPhysical dispatcherInstalled ambient request)
      (fun progress repo => Recognisable repo ∧ ∀ command node lifecycle,
        progress = .dispatching command node lifecycle → HoldsIdentity command.identity repo)
      (fun _ => Recognisable) := by
  apply Effect.Triple.bind (Keeps.read _)
  intro session
  apply Effect.Triple.bind (Keeps.read _)
  intro binding
  apply Effect.Triple.bind (Keeps.read _)
  intro node
  set resolved := resolveCommand request binding.nodeId (ambient.uuid 0)
  apply Effect.Triple.bind (Q := fun claim repo => Recognisable repo ∧
    (claim.2 = true → HoldsIdentity resolved.identity repo))
  · apply Effect.Triple.commit
    · intro repo repo' claim hrepo h
      obtain ⟨claimed, isNew⟩ := claim
      obtain ⟨rfl, rfl, -, -⟩ | ⟨-, -, rfl, hfresh⟩ := Repository.claimFabricCommand_ok h
      · exact ⟨hrepo, nofun⟩
      · refine ⟨hrepo.claim _, fun _ =>
          ⟨{ resolved with parameters := resolved.parameters.excludeNone }, ?_, rfl⟩⟩
        have hnone : repo.commands.find? (fun old => old.commandId = resolved.commandId) = none :=
          List.find?_eq_none.mpr fun old hold => by simpa using (hfresh old hold).2
        have hlast : (repo.commands ++ [{ resolved with
            parameters := resolved.parameters.excludeNone }]).find?
              (fun old => old.commandId = resolved.commandId) =
            some { resolved with parameters := resolved.parameters.excludeNone } := by
          rw [List.find?_append, hnone]
          simp
        exact hlast
    · exact fun _ _ hrepo _ => hrepo
  intro claim
  obtain ⟨claimed, isNew⟩ := claim
  cases isNew with
  | false =>
    simp only [Bool.false_eq_true, ↓reduceIte]
    apply Effect.Triple.read
    · intro repo progress hrepo hread
      refine ⟨hrepo.1, ?_⟩
      intro command node' lifecycle hprogress
      rw [hprogress] at hread
      cases hread
    · exact fun _ _ hrepo _ => hrepo.1
  | true =>
    have hstable : Stable fun repo => Recognisable repo ∧ HoldsIdentity resolved.identity repo :=
      (LessonInvariant.of_commands fun h hcommands hlifecycle =>
        ⟨h.1.of_commands hcommands hlifecycle, h.2.of_commands hcommands⟩).stable
    have hkeeps := admitCommand_keeps_of hstable allowPhysical dispatcherInstalled ambient resolved
      session node fun _ _ _ => appendLifecycle_recognisable _ _ _ _ _
    have hcommand := admitCommand_dispatching allowPhysical dispatcherInstalled ambient resolved
      session node
    refine (hkeeps.and hcommand).conseq (fun _ h => ⟨⟨h.1, h.2 rfl⟩, trivial⟩) ?_
      fun _ _ h => h.1.1
    intro progress repo h
    refine ⟨h.1.1, ?_⟩
    intro command node' lifecycle hprogress
    obtain ⟨rfl, -, -⟩ := h.2 command node' lifecycle hprogress
    exact h.1.2

theorem FabricTask.mem_suspend_commands {task : FabricTask} {i : ℕ}
    {command other : FabricResolvedCommand} (h : other ∈ (task.suspend i command).commands) :
    other = command ∨ other ∈ task.commands := by
  obtain ⟨submission, hsubmission, hother⟩ := List.mem_filterMap.mp h
  obtain hold | rfl := List.mem_or_eq_of_mem_set hsubmission
  · exact .inr (List.mem_filterMap.mpr ⟨submission, hold, hother⟩)
  · exact .inl (Option.some.inj hother).symm

/-- Every message of the store can be recognised, and every command that waits for its dispatcher
is stored. -/
structure RecognisableService (s : Service) : Prop where
  repository : Recognisable s.repository
  commands : ∀ task ∈ s.tasks, ∀ command ∈ task.commands,
    HoldsIdentity command.identity s.repository

theorem RecognisableService.step {allowPhysical : Bool} {ambient : Ambient} {s s' : Service}
    {event : FabricEvent} {out : List FabricOutput} (h : RecognisableService s)
    (hstep : s.step allowPhysical ambient event = some (s', out)) : RecognisableService s' where
  repository := by
    apply Service.step_keeps_of Recognisable.lesson h.repository hstep
    · exact fun lifecycle _ => acceptAdapterLifecycle_recognisable lifecycle
    · intro i j task request _ _
      exact ((submitStart_recognisable allowPhysical s.dispatcherInstalled ambient request).conseq
        (fun _ h => h) (fun _ _ h => h.1) fun _ _ h => h).final h.repository
    · intro i j reply task command _ hsubmission
      obtain ⟨htask, hrunning⟩ := Service.submissionAt_some hsubmission
      have hholds := h.commands task (List.mem_of_getElem? htask) command
        (List.mem_filterMap.mpr ⟨_, List.mem_of_getElem? hrunning, rfl⟩)
      exact ((submitResume_keeps_of ambient command
        (fun _ _ _ => appendLifecycle_recognisable _ _ _ _ _) reply).final
          ⟨h.repository, hholds⟩).1
  commands := by
    have hkept (task : FabricTask) (hcommands : ∀ command ∈ task.commands,
        HoldsIdentity command.identity s.repository) : ∀ command ∈ task.commands,
        HoldsIdentity command.identity s'.repository := fun command hcommand =>
      Service.step_keeps (HoldsIdentity.invariant _) (hcommands command hcommand) hstep
    apply Service.step_tasks hstep (fun task htask => hkept task (h.commands task htask))
    · intro request _ command hcommand
      cases hcommand
    · intro e batches stored session repo _ _ _ command hcommand
      rw [FabricTask.settle_commands] at hcommand
      cases hcommand
    · exact fun task task' htask _ _ hsubset command hcommand =>
        htask command (hsubset hcommand)
    · intro i j task request command node lifecycle htask hsubmission hrun
      have hstarted := (submitStart_recognisable allowPhysical s.dispatcherInstalled ambient
        request).of_ok h.repository hrun
      intro other hother
      obtain rfl | hold := FabricTask.mem_suspend_commands hother
      · exact hstarted.2 _ _ _ rfl
      · exact htask other hold

theorem Service.Reachable.recognisable {allowPhysical : Bool} {s : Service}
    (h : (interactionFabric allowPhysical).Reachable s) : RecognisableService s := by
  apply h.invariant
  · rintro s rfl
    constructor
    · intro lifecycle hmem
      cases hmem
    · intro task htask
      cases htask
  · intro s s' e out hs hstep
    exact hs.step hstep.2.2

/-- The last stored stage of the command of the message leads on to the stage of the message. -/
def StageFollows (lifecycle : FabricCommandLifecycleEvent) (repo : Repository) : Prop :=
  ∃ current,
    (repo.listFabricLifecycle lifecycle.commandId Repository.fabricPageLimit).getLast? =
      some current ∧ lifecycle.stage ∈ commandTransitions current.stage

namespace Recognisable
variable {repo : Repository} {lifecycle : FabricCommandLifecycleEvent}

theorem checkAdapterLifecycle_ok (h : Recognisable repo)
    (hstored : lifecycle.record ∈ repo.lifecycle) :
    repo.checkAdapterLifecycle lifecycle = .ok () ↔ StageFollows lifecycle repo := by
  constructor
  · exact Fabric.checkAdapterLifecycle_ok
  · rintro ⟨current, hcurrent, hstage⟩
    have hidentity : HoldsIdentity lifecycle.identity repo := (h _ hstored).1
    obtain ⟨command, hcommand, hidentity⟩ := hidentity
    simp only [FabricResolvedCommand.identity, FabricCommandLifecycleEvent.identity,
      CommandIdentity.mk.injEq] at hcommand hidentity
    obtain ⟨hid, hrequest, htarget, hsession, hcorrelation⟩ := hidentity
    unfold Repository.checkAdapterLifecycle
    simp only [hcommand, hid, hrequest, htarget, hsession, hcorrelation, ne_eq, not_true_eq_false,
      or_self, ↓reduceIte, hcurrent, hstage]

/-- The storage knows the message, once it is asked. -/
theorem appendFabricLifecycle_eq (h : Recognisable repo)
    (hstored : lifecycle.record ∈ repo.lifecycle) :
    repo.appendFabricLifecycle lifecycle = .ok (repo, none) := by
  have hencodes : encodeJson lifecycle.toJson maxJsonBytes = .ok () := by
    rw [← lifecycle.toJson_excludeNone]
    exact (h _ hstored).2
  have hknown : (repo.lifecycle.any fun stored => stored.messageId = lifecycle.messageId) = true :=
    List.any_eq_true.mpr ⟨_, hstored, decide_eq_true rfl⟩
  unfold Repository.appendFabricLifecycle
  rw [hencodes, if_pos hknown]
  rfl

theorem acceptAdapterLifecycle_eq (h : Recognisable repo)
    (hstored : lifecycle.record ∈ repo.lifecycle) (hfollows : StageFollows lifecycle repo) :
    acceptAdapterLifecycle lifecycle repo = .ok none repo := by
  have hcheck := (h.checkAdapterLifecycle_ok hstored).mpr hfollows
  simp only [acceptAdapterLifecycle, bind, EStateM.bind, Effect.read, Effect.commit, hcheck,
    h.appendFabricLifecycle_eq hstored]

theorem acceptAdapterLifecycle_refuses (h : Recognisable repo)
    (hstored : lifecycle.record ∈ repo.lifecycle) (hfollows : ¬ StageFollows lifecycle repo) :
    ∃ error, acceptAdapterLifecycle lifecycle repo = .error error repo := by
  cases hcheck : repo.checkAdapterLifecycle lifecycle with
  | ok _ => exact absurd ((h.checkAdapterLifecycle_ok hstored).mp hcheck) hfollows
  | error error =>
    refine ⟨error, ?_⟩
    simp only [acceptAdapterLifecycle, bind, EStateM.bind, Effect.read, hcheck]

end Recognisable

/-- A stored message that is delivered again is acknowledged as a duplicate and changes nothing
exactly when the connection takes its frame, and has seen it or the stage follows. -/
theorem redelivery_acknowledged {allowPhysical : Bool} {s : Service}
    (h : (interactionFabric allowPhysical).Reachable s) {lifecycle : FabricCommandLifecycleEvent}
    (hstored : lifecycle.record ∈ s.repository.lifecycle) (c : AdapterConnection)
    (frameId : String) (now : ℚ) :
    c.deliverLifecycle frameId lifecycle now s.repository =
        (.acknowledged true none, s.repository) ↔
      (c.enforceRate now).isSome = true ∧ lifecycle.targetNodeId.text ∈ c.nodeIds ∧
        (frameId ∈ c.seenFrameIds ∨ StageFollows lifecycle s.repository) := by
  have hrepo := (Service.Reachable.recognisable h).repository
  unfold AdapterConnection.deliverLifecycle
  cases c.enforceRate now with
  | none => simp
  | some counted =>
    by_cases howned : lifecycle.targetNodeId.text ∈ c.nodeIds
    · by_cases hseen : frameId ∈ c.seenFrameIds
      · simp [howned, hseen]
      · by_cases hfollows : StageFollows lifecycle s.repository
        · rw [hrepo.acceptAdapterLifecycle_eq hstored hfollows]
          simp [howned, hseen, hfollows]
        · obtain ⟨error, herror⟩ := hrepo.acceptAdapterLifecycle_refuses hstored hfollows
          rw [herror]
          simp [howned, hseen, hfollows]
    · simp [howned]

namespace Lesson

/-- The adapter has taken the command and has sent nothing of its own. -/
def dispatched : Service := Service.after true (dispatchDrive ++
  [(.reply 0 0 (accepted none), ambient 9)])

/-- The robot reports that it has done the command. -/
def driveSucceeded : FabricCommandLifecycleEvent where
  messageId := uuid 5000
  commandId := driveCommandId
  requestMessageId := uuid 1007
  sessionId := sessionId
  targetNodeId := robot.nodeId
  stage := .succeeded
  occurredAt := (ambient 10).clock 0
  correlationId := "drive"
  code := none
  message := none
  details := JsonObject.empty

/-- The store once the report is in it. -/
def reported : Repository := Effect.final (acceptAdapterLifecycle driveSucceeded
  dispatched.repository)

def connection (seenFrameIds : List String) : AdapterConnection where
  id := 0
  nodeIds := [robot.nodeId.text]
  phase := .receiving
  seenFrameIds := seenFrameIds

end Lesson

theorem Lesson.report_stored : (Lesson.ambient 10).IsFresh Lesson.dispatched.repository ∧
    (acceptAdapterLifecycle Lesson.driveSucceeded Lesson.dispatched.repository matches
      .ok (some _) _) = true ∧
    ((Lesson.reported.listFabricLifecycle Lesson.driveCommandId
      Repository.fabricPageLimit).getLast?.map (·.stage)) = some .succeeded ∧
    Lesson.driveSucceeded.validates = true := by
  decide +kernel

/-- A message that the storage takes is among its records. -/
theorem acceptAdapterLifecycle_mem {lifecycle : FabricCommandLifecycleEvent}
    {repo repo' : Repository} {stored : StoredFabricLifecycle}
    (h : acceptAdapterLifecycle lifecycle repo = .ok (some stored) repo') :
    lifecycle.record ∈ repo'.lifecycle := by
  have htriple : Effect.Triple (fun _ => True) (acceptAdapterLifecycle lifecycle)
      (fun stored repo => stored.isSome = true → lifecycle.record ∈ repo.lifecycle)
      (fun _ _ => True) := by
    apply Effect.Triple.bind (Q := fun _ _ => True)
    · exact Effect.Triple.read (fun _ _ _ _ => trivial) fun _ _ _ _ => trivial
    · intro _
      apply Effect.Triple.commit
      · intro repo repo' stored _ happend hsome
        obtain ⟨rfl, -, -⟩ | ⟨-, rfl, -, -⟩ := Repository.appendFabricLifecycle_ok happend
        · cases hsome
        · exact List.mem_append_right _ (List.mem_singleton.mpr rfl)
      · exact fun _ _ _ _ => trivial
  exact htriple.of_ok trivial h rfl

theorem Lesson.reported_reachable : (interactionFabric true).Reachable
      { Lesson.dispatched with repository := Lesson.reported } ∧
    Lesson.driveSucceeded.record ∈ Lesson.reported.lifecycle := by
  obtain ⟨hfresh, hstored, -, hvalid⟩ := Lesson.report_stored
  have hreach : (interactionFabric true).Reachable Lesson.dispatched :=
    Service.after_reachable true _
  unfold Lesson.reported
  generalize Lesson.dispatched = s at *
  split at hstored
  · rename_i stored repo' haccept
    have hstep : (interactionFabric true).Step s
        (.call (.acceptAdapterLifecycle Lesson.driveSucceeded), Lesson.ambient 10)
        { s with repository := repo' } [] := by
      refine ⟨hvalid, hfresh, ?_⟩
      simp only [Service.step, FabricCall.run, Service.runCall, Effect.discard, bind, EStateM.bind,
        haccept]
      rfl
    rw [haccept]
    exact ⟨hreach.steps (Machine.Steps.single_iff.mpr hstep), acceptAdapterLifecycle_mem haccept⟩
  · cases hstored

theorem Lesson.not_stageFollows : ¬ StageFollows Lesson.driveSucceeded Lesson.reported := by
  rintro ⟨current, hcurrent, hstage⟩
  have hcurrent : (Lesson.reported.listFabricLifecycle Lesson.driveCommandId
      Repository.fabricPageLimit).getLast? = some current := hcurrent
  have hsucceeded := Lesson.report_stored.2.2.1
  rw [hcurrent] at hsucceeded
  have hlast : current.stage = .succeeded := Option.some.inj hsucceeded
  rw [hlast] at hstage
  cases hstage

/-- On another connection the stored report of the robot closes the connection, in any frame. -/
theorem report_refused : (interactionFabric true).Reachable
      { Lesson.dispatched with repository := Lesson.reported } ∧
    Lesson.driveSucceeded.record ∈ Lesson.reported.lifecycle ∧
    ((Lesson.connection []).enforceRate 0).isSome = true ∧
    Lesson.driveSucceeded.targetNodeId.text ∈ (Lesson.connection []).nodeIds ∧
    ∀ frameId, (Lesson.connection []).deliverLifecycle frameId Lesson.driveSucceeded 0
      Lesson.reported = (.closed, Lesson.reported) := by
  obtain ⟨hreach, hmem⟩ := Lesson.reported_reachable
  refine ⟨hreach, hmem, by decide, List.mem_singleton.mpr rfl, ?_⟩
  intro frameId
  have hrepo := (Service.Reachable.recognisable hreach).repository
  obtain ⟨error, herror⟩ := hrepo.acceptAdapterLifecycle_refuses hmem Lesson.not_stageFollows
  have howned : Lesson.driveSucceeded.targetNodeId.text ∈ (Lesson.connection []).nodeIds :=
    List.mem_singleton.mpr rfl
  have hunseen : frameId ∉ (Lesson.connection []).seenFrameIds := List.not_mem_nil
  have hrate : (Lesson.connection []).enforceRate 0 =
      some { Lesson.connection [] with frameTimes := [0] } := rfl
  unfold AdapterConnection.deliverLifecycle
  rw [hrate]
  dsimp only
  rw [if_neg (not_not.mpr howned), if_neg hunseen, herror]

/-- The frame that its own connection has seen is acknowledged again. -/
theorem redelivery_acknowledged_report :
    (Lesson.connection ["frame"]).deliverLifecycle "frame" Lesson.driveSucceeded 0
      Lesson.reported = (.acknowledged true none, Lesson.reported) :=
  (redelivery_acknowledged Lesson.reported_reachable.1 Lesson.reported_reachable.2
    (Lesson.connection ["frame"]) "frame" 0).mpr
    ⟨rfl, List.mem_singleton.mpr rfl, .inl (List.mem_singleton.mpr rfl)⟩

end CitPhysicalXR.Fabric
