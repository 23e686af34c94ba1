import CitPhysicalXR.Fabric.DispatchGate
import CitPhysicalXR.Foundation.Trail

/-! The order of the lifecycle stages stored for a command. A submission appends its stages
without reading the stored ones, so the order rests on what the dispatcher answers. -/
namespace CitPhysicalXR.Fabric
open Foundation

/-- `PROPOSED` first, then along `_COMMAND_TRANSITIONS`. -/
abbrev IsLegalHistory : List FabricCommandLifecycleStage → Prop :=
  IsTrail .proposed fun a b => b ∈ commandTransitions a

def FabricCommandLifecycleStage.isTerminal (stage : FabricCommandLifecycleStage) : Bool :=
  (commandTransitions stage).isEmpty

def stageRank : FabricCommandLifecycleStage → ℕ
  | .proposed => 0
  | .validated => 1
  | .authorized => 2
  | .dispatched => 3
  | .accepted => 4
  | .running => 5
  | .succeeded | .failed | .cancelled | .timed_out | .rejected => 6

theorem stageRank_lt {a b : FabricCommandLifecycleStage} (h : b ∈ commandTransitions a) :
    stageRank a < stageRank b := by
  cases a <;> cases b <;> first | decide | simp [commandTransitions] at h

namespace IsLegalHistory
variable {stages : List FabricCommandLifecycleStage}

/-- A legal history is far shorter than a page of lifecycle records. -/
theorem length_le (h : IsLegalHistory stages) : stages.length ≤ 7 :=
  IsTrail.length_le stageRank (fun _ _ => stageRank_lt) (fun a => by cases a <;> decide) h

theorem nothing_after_terminal (h : IsLegalHistory stages)
    {before after : List FabricCommandLifecycleStage} {stage : FabricCommandLifecycleStage}
    (hstages : stages = before ++ stage :: after) (hterminal : stage.isTerminal = true) :
    after = [] := by
  subst hstages
  cases after with
  | nil => rfl
  | cons next after =>
    have hnext := (List.isChain_cons_cons.mp (List.isChain_append.mp h.chain).2.1).1
    have hnone : commandTransitions stage = [] := List.isEmpty_iff.mp hterminal
    rw [hnone] at hnext
    cases hnext

end IsLegalHistory

namespace Repository
variable (repo : Repository)

/-- The stages stored for a command, in stream order. -/
def stages (commandId : Uuid) : List FabricCommandLifecycleStage :=
  (repo.lifecycle.filter fun stored => stored.commandId = commandId).map (·.stage)

variable {repo}

theorem stages_append (lifecycle : FabricCommandLifecycleEvent) (commandId : Uuid) :
    stages { repo with lifecycle := repo.lifecycle ++ [lifecycle] } commandId =
      repo.stages commandId ++ if lifecycle.commandId = commandId then [lifecycle.stage] else [] := by
  unfold stages
  rw [List.filter_append, List.map_append]
  by_cases h : lifecycle.commandId = commandId
  · simp [h]
  · simp [h]

theorem getFabricCommand_isSome {commandId : Uuid} :
    (repo.getFabricCommand commandId).isSome = true ↔
      ∃ command ∈ repo.commands, command.commandId = commandId := by
  simp [getFabricCommand, List.find?_isSome]

end Repository

structure OrderedLifecycle (repo : Repository) : Prop where
  legal : ∀ commandId, IsLegalHistory (repo.stages commandId)
  claimed : ∀ lifecycle ∈ repo.lifecycle, (repo.getFabricCommand lifecycle.commandId).isSome = true

namespace OrderedLifecycle
variable {repo : Repository}

theorem empty : OrderedLifecycle Repository.empty where
  legal _ := IsTrail.nil
  claimed := by simp [Repository.empty]

/-- No write but those of commands touches the order. -/
theorem lesson : LessonInvariant OrderedLifecycle where
  stable :=
    { coursePacks := fun h _ => ⟨h.legal, h.claimed⟩
      leases := fun h _ => ⟨h.legal, h.claimed⟩
      debounce := fun h _ => ⟨h.legal, h.claimed⟩
      create := fun h _ _ => ⟨h.legal, h.claimed⟩
      change := fun h _ _ _ => ⟨h.legal, h.claimed⟩
      event := fun h _ => ⟨h.legal, h.claimed⟩ }
  node :=
    { plugins := fun h _ => ⟨h.legal, h.claimed⟩
      nodes := fun h _ _ => ⟨h.legal, h.claimed⟩ }
  arm := fun h _ _ _ => ⟨h.legal, h.claimed⟩
  bind := fun h _ _ => ⟨h.legal, h.claimed⟩

theorem claim (h : OrderedLifecycle repo) (command : FabricResolvedCommand) :
    OrderedLifecycle { repo with commands := repo.commands ++ [command] } where
  legal := h.legal
  claimed lifecycle hlifecycle := by
    obtain ⟨old, hold, hid⟩ := Repository.getFabricCommand_isSome.mp (h.claimed lifecycle hlifecycle)
    exact Repository.getFabricCommand_isSome.mpr ⟨old, List.mem_append_left _ hold, hid⟩

/-- A command that is not stored yet has no history. -/
theorem stages_of_unclaimed (h : OrderedLifecycle repo) {commandId : Uuid}
    (hfresh : ∀ old ∈ repo.commands, old.commandId ≠ commandId) : repo.stages commandId = [] := by
  simp only [Repository.stages, List.map_eq_nil_iff, List.filter_eq_nil_iff, decide_eq_true_eq]
  intro lifecycle hlifecycle hid
  obtain ⟨old, hold, hold_id⟩ :=
    Repository.getFabricCommand_isSome.mp (h.claimed lifecycle hlifecycle)
  exact hfresh old hold (hold_id.trans hid)

theorem append (h : OrderedLifecycle repo) {lifecycle : FabricCommandLifecycleEvent}
    (hcommand : (repo.getFabricCommand lifecycle.commandId).isSome = true)
    (hlegal : IsLegalHistory (repo.stages lifecycle.commandId ++ [lifecycle.stage])) :
    OrderedLifecycle { repo with lifecycle := repo.lifecycle ++ [lifecycle] } where
  legal commandId := by
    rw [Repository.stages_append]
    by_cases hid : lifecycle.commandId = commandId
    · subst hid
      simpa using hlegal
    · simpa [hid] using h.legal commandId
  claimed stored hstored := by
    rcases List.mem_append.mp hstored with hstored | hstored
    · exact h.claimed stored hstored
    · obtain rfl := List.mem_singleton.mp hstored
      exact hcommand

theorem listFabricLifecycle_eq (h : OrderedLifecycle repo) (commandId : Uuid) :
    repo.listFabricLifecycle commandId Repository.fabricPageLimit =
      repo.lifecycle.filter fun stored => stored.commandId = commandId := by
  have hlength := (h.legal commandId).length_le
  simp only [Repository.stages, List.length_map] at hlength
  apply List.take_of_length_le
  have : Repository.fabricPageLimit = 500 := rfl
  omega

end OrderedLifecycle

theorem checkAdapterLifecycle_ok {repo : Repository} {lifecycle : FabricCommandLifecycleEvent}
    (h : repo.checkAdapterLifecycle lifecycle = .ok ()) :
    ∃ current, (repo.listFabricLifecycle lifecycle.commandId Repository.fabricPageLimit).getLast? =
      some current ∧ lifecycle.stage ∈ commandTransitions current.stage := by
  unfold Repository.checkAdapterLifecycle at h
  split at h
  · cases h
  · rename_i command hcommand
    have hid : command.commandId = lifecycle.commandId := by
      simpa using List.find?_some hcommand
    rw [hid] at h
    split_ifs at h
    split at h
    · cases h
    · rename_i current hcurrent
      split at h
      · exact ⟨current, hcurrent, ‹_›⟩
      · cases h

theorem acceptAdapterLifecycle_ordered (lifecycle : FabricCommandLifecycleEvent) :
    Keeps OrderedLifecycle (acceptAdapterLifecycle lifecycle) := by
  have hcheck : Effect.Triple OrderedLifecycle (Effect.read (·.checkAdapterLifecycle lifecycle))
      (fun _ repo => OrderedLifecycle repo ∧
        IsLegalHistory (repo.stages lifecycle.commandId ++ [lifecycle.stage]))
      (fun _ => OrderedLifecycle) := by
    refine Effect.Triple.read (fun repo _ hrepo h => ⟨hrepo, ?_⟩) fun _ _ hrepo _ => hrepo
    obtain ⟨current, hcurrent, hedge⟩ := checkAdapterLifecycle_ok h
    rw [hrepo.listFabricLifecycle_eq] at hcurrent
    refine (hrepo.legal lifecycle.commandId).append ?_ hedge
    simp [Repository.stages, List.getLast?_map, hcurrent]
  apply Effect.Triple.bind hcheck
  intro _
  apply Effect.Triple.commit
  · rintro repo repo' stored ⟨hrepo, hlegal⟩ h
    rcases Repository.appendFabricLifecycle_ok h with ⟨_, rfl, _⟩ | ⟨_, rfl, hcommand, _⟩
    · exact hrepo
    · exact hrepo.append hcommand hlegal
  · rintro repo _ ⟨hrepo, _⟩ _
    exact hrepo

/-- A record that `_append_lifecycle` stores rather than raises on. -/
def FabricCommandLifecycleEvent.isStorable (lifecycle : FabricCommandLifecycleEvent) : Bool :=
  lifecycle.validates && (encodeJson lifecycle.toJson maxJsonBytes).toBool

theorem FabricCommandLifecycleEvent.isStorable_of {lifecycle : FabricCommandLifecycleEvent}
    (hvalid : lifecycle.validates = true)
    (hencode : encodeJson lifecycle.toJson maxJsonBytes = .ok ()) : lifecycle.isStorable = true := by
  simp [isStorable, hvalid, hencode, Except.toBool]

/-- The store in the course of a submission: the stages of its command are known, and the
identifiers from `draw` on are still unused. -/
structure Standing (ambient : Ambient) (draw : ℕ) (commandId : Uuid)
    (stages : List FabricCommandLifecycleStage) (repo : Repository) : Prop where
  ordered : OrderedLifecycle repo
  stages_eq : repo.stages commandId = stages
  fresh : ∀ lifecycle ∈ repo.lifecycle, ∀ i < 5, draw ≤ i → lifecycle.messageId ≠ ambient.uuid i

section Submission
variable {ambient : Ambient} {draw : ℕ} {command : FabricResolvedCommand}
  {stages : List FabricCommandLifecycleStage} {stage : FabricCommandLifecycleStage}
  {note : LifecycleNote}

theorem uuid_inj (hnodup : ((List.range 5).map ambient.uuid).Nodup) {i j : ℕ} (hi : i < 5)
    (hj : j < 5) (h : ambient.uuid i = ambient.uuid j) : i = j :=
  List.inj_on_of_nodup_map hnodup (List.mem_range.mpr hi) (List.mem_range.mpr hj) h

/-- A record extends the history of its command by its stage, if that is a transition. -/
theorem appendLifecycle_standing (hnodup : ((List.range 5).map ambient.uuid).Nodup)
    (hdraw : draw < 5) (hlegal : (lifecycleEvent command stage (ambient.uuid draw)
      (ambient.clock draw) note).isStorable = true → IsLegalHistory (stages ++ [stage])) :
    Effect.Triple (Standing ambient draw command.commandId stages)
      (appendLifecycle ambient draw command stage note)
      (fun _ => Standing ambient (draw + 1) command.commandId (stages ++ [stage]))
      (fun _ => OrderedLifecycle) := by
  set lifecycle := lifecycleEvent command stage (ambient.uuid draw) (ambient.clock draw) note
  have hvalid : Effect.Triple (Standing ambient draw command.commandId stages)
      (Effect.read fun _ => validateLifecycle lifecycle)
      (fun _ repo => Standing ambient draw command.commandId stages repo ∧
        lifecycle.validates = true) (fun _ => OrderedLifecycle) := by
    refine Effect.Triple.read (fun repo _ hrepo h => ⟨hrepo, ?_⟩) fun _ _ hrepo _ => hrepo.ordered
    simpa using raiseIf_eq_ok.mp h
  apply Effect.Triple.bind hvalid
  intro _
  apply Effect.Triple.assume
  intro hvalidates
  apply Effect.Triple.commit
  · intro repo repo' _ hrepo h
    obtain ⟨⟨stored, _⟩, hstored, hpair⟩ := map_eq_ok.mp h
    cases hpair
    rcases Repository.appendFabricLifecycle_ok hstored with ⟨_, _, hdup⟩ | ⟨_, rfl, hcommand, _⟩
    · obtain ⟨old, hold, hid⟩ := hdup
      exact absurd hid (hrepo.fresh old hold draw hdraw le_rfl)
    · have hencode := Repository.appendFabricLifecycle_encodes hstored
      have hhistory : IsLegalHistory (repo.stages command.commandId ++ [stage]) := by
        rw [hrepo.stages_eq]
        exact hlegal (FabricCommandLifecycleEvent.isStorable_of hvalidates hencode)
      refine ⟨hrepo.ordered.append hcommand hhistory, ?_, ?_⟩
      · rw [Repository.stages_append]
        simp [lifecycleEvent, hrepo.stages_eq]
      · intro old hold i hi hle
        rcases List.mem_append.mp hold with hold | hold
        · exact hrepo.fresh old hold i hi (by omega)
        · obtain rfl := List.mem_singleton.mp hold
          intro heq
          have := uuid_inj hnodup hdraw hi heq
          omega
  · exact fun _ _ hrepo _ => hrepo.ordered

theorem legal_authorized :
    IsLegalHistory [FabricCommandLifecycleStage.proposed, .validated, .authorized] :=
  (IsTrail.singleton.append rfl (by decide)).append rfl (by decide)

theorem authorizeCommand_ordered (hnodup : ((List.range 5).map ambient.uuid).Nodup)
    (dispatcherInstalled : Bool) (node : IntegrationNode)
    (lifecycle : List FabricCommandLifecycleEvent) :
    Effect.Triple (Standing ambient 3 command.commandId [.proposed, .validated])
      (authorizeCommand dispatcherInstalled ambient command node lifecycle)
      (fun _ => OrderedLifecycle) (fun _ => OrderedLifecycle) := by
  have hvalidated : IsLegalHistory [FabricCommandLifecycleStage.proposed, .validated] :=
    IsTrail.singleton.append rfl (by decide)
  apply Effect.Triple.bind (m := Effect.commit _)
    (Q := fun _ => Standing ambient 3 command.commandId [.proposed, .validated])
  · apply Effect.Triple.commit
    · intro repo repo' decision hrepo h
      cases h
      exact ⟨OrderedLifecycle.lesson.stable.leases hrepo.ordered _, hrepo.stages_eq, hrepo.fresh⟩
    · exact fun _ _ hrepo _ => hrepo.ordered
  · intro decision
    split
    · apply Effect.Triple.bind
        (appendLifecycle_standing hnodup (by decide) fun _ => legal_authorized)
      intro authorized
      split
      · exact Effect.Triple.pure fun _ hrepo => hrepo.ordered
      · apply Effect.Triple.bind (appendLifecycle_standing hnodup (by decide)
          fun _ => legal_authorized.append rfl (by decide))
        intro failed
        exact Effect.Triple.pure fun _ hrepo => hrepo.ordered
    · apply Effect.Triple.bind (appendLifecycle_standing hnodup (by decide)
        fun _ => hvalidated.append rfl (by decide))
      intro rejected
      exact Effect.Triple.pure fun _ hrepo => hrepo.ordered

theorem admitCommand_ordered (hnodup : ((List.range 5).map ambient.uuid).Nodup)
    (allowPhysical dispatcherInstalled : Bool) (session : InteractionSession)
    (node : IntegrationNode) :
    Effect.Triple (Standing ambient 1 command.commandId [])
      (admitCommand allowPhysical dispatcherInstalled ambient command session node)
      (fun _ => OrderedLifecycle) (fun _ => OrderedLifecycle) := by
  have hproposed : IsLegalHistory [FabricCommandLifecycleStage.proposed] := IsTrail.singleton
  apply Effect.Triple.bind (appendLifecycle_standing hnodup (by decide) fun _ => hproposed)
  intro proposed
  split
  · apply Effect.Triple.bind (appendLifecycle_standing hnodup (by decide)
      fun _ => hproposed.append rfl (by decide))
    intro rejected
    exact Effect.Triple.pure fun _ hrepo => hrepo.ordered
  · apply Effect.Triple.bind (appendLifecycle_standing hnodup (by decide)
      fun _ => hproposed.append rfl (by decide))
    intro validated
    exact authorizeCommand_ordered hnodup _ _ _

theorem submitStart_ordered (hnodup : ((List.range 5).map ambient.uuid).Nodup)
    (allowPhysical dispatcherInstalled : Bool) (request : FabricCommandRequest) :
    Effect.Triple (fun repo => OrderedLifecycle repo ∧ ambient.IsFresh repo)
      (submitStart allowPhysical dispatcherInstalled ambient request)
      (fun _ => OrderedLifecycle) (fun _ => OrderedLifecycle) := by
  have hread : ∀ {α : Type} (f : Repository → Except FabricError α),
      Effect.Triple (fun repo => OrderedLifecycle repo ∧ ambient.IsFresh repo) (Effect.read f)
        (fun _ repo => OrderedLifecycle repo ∧ ambient.IsFresh repo) (fun _ => OrderedLifecycle) :=
    fun f => Effect.Triple.read (fun _ _ hrepo _ => hrepo) fun _ _ hrepo _ => hrepo.1
  apply Effect.Triple.bind (hread _)
  intro session
  apply Effect.Triple.bind (hread _)
  intro binding
  apply Effect.Triple.bind (hread _)
  intro node
  set resolved := resolveCommand request binding.nodeId (ambient.uuid 0)
  have hclaim : Effect.Triple (fun repo => OrderedLifecycle repo ∧ ambient.IsFresh repo)
      (Effect.commit (·.claimFabricCommand resolved))
      (fun claim repo => OrderedLifecycle repo ∧
        (claim.2 = true → Standing ambient 1 resolved.commandId [] repo))
      (fun _ => OrderedLifecycle) := by
    apply Effect.Triple.commit
    · rintro repo repo' ⟨claimed, isNew⟩ ⟨hrepo, hfresh⟩ h
      rcases Repository.claimFabricCommand_ok h with ⟨rfl, rfl, _⟩ | ⟨_, _, rfl, hunclaimed⟩
      · exact ⟨hrepo, by simp⟩
      · have hstages := hrepo.stages_of_unclaimed fun old hold => (hunclaimed old hold).2
        exact ⟨hrepo.claim _, fun _ => ⟨hrepo.claim _, hstages,
          fun lifecycle hlifecycle i hi _ => hfresh.2.1 lifecycle hlifecycle i hi⟩⟩
    · exact fun _ _ hrepo _ => hrepo.1
  apply Effect.Triple.bind hclaim
  rintro ⟨claimed, isNew⟩
  cases isNew with
  | false =>
    simp only [Bool.false_eq_true, ↓reduceIte]
    exact Effect.Triple.read (fun _ _ hrepo _ => hrepo.1) fun _ _ hrepo _ => hrepo.1
  | true =>
    exact (admitCommand_ordered hnodup allowPhysical dispatcherInstalled session node).conseq
      (fun _ hrepo => hrepo.2 rfl) (fun _ _ hrepo => hrepo) fun _ _ hrepo => hrepo

end Submission

/-- Whether the stages of a reply lead on from the stage at which its command stands. A record
that is not storable raises and leaves no stage. -/
def DispatchReply.fits (ambient : Ambient) (command : FabricResolvedCommand)
    (last : FabricCommandLifecycleStage) : DispatchReply → Bool
  | .raised => decide (.failed ∈ commandTransitions last)
  | .outcome result =>
    if result.accepted then
      decide (.dispatched ∈ commandTransitions last) && result.terminalStage.all fun stage =>
        !(lifecycleEvent command stage (ambient.uuid 1) (ambient.clock 1) result.note).isStorable ||
          decide (stage ∈ commandTransitions .dispatched)
    else
      let stage := result.terminalStage.getD .rejected
      !(lifecycleEvent command stage (ambient.uuid 0) (ambient.clock 0) result.refusal).isStorable ||
        decide (stage ∈ commandTransitions last)

/-- A reply is taken up only where it fits the last stored stage of its command. -/
def repliesFit (s : Service) : FabricEvent × Ambient → Bool
  | (.reply i j reply, ambient) =>
    match s.submissionAt i j with
    | some (_, .dispatching command) =>
      (s.repository.stages command.commandId).getLast?.any fun last =>
        reply.fits ambient command last
    | _ => true
  | _ => true

theorem submitResume_ordered {ambient : Ambient} {command : FabricResolvedCommand}
    {reply : DispatchReply} {repo : Repository} {last : FabricCommandLifecycleStage}
    (hrepo : OrderedLifecycle repo) (hfresh : ambient.IsFresh repo)
    (hlast : (repo.stages command.commandId).getLast? = some last)
    (hfits : reply.fits ambient command last = true) :
    OrderedLifecycle (Effect.final (submitResume ambient command reply repo)) := by
  have hlegal := hrepo.legal command.commandId
  have hstanding : Standing ambient 0 command.commandId (repo.stages command.commandId) repo :=
    ⟨hrepo, rfl, fun lifecycle hlifecycle i hi _ => hfresh.2.1 lifecycle hlifecycle i hi⟩
  generalize repo.stages command.commandId = stages at hlast hlegal hstanding
  have htriple : Effect.Triple (Standing ambient 0 command.commandId stages)
      (submitResume ambient command reply) (fun _ => OrderedLifecycle)
      (fun _ => OrderedLifecycle) := by
    cases reply with
    | raised =>
      have hedge : .failed ∈ commandTransitions last := of_decide_eq_true hfits
      apply Effect.Triple.bind (appendLifecycle_standing hfresh.1 (by decide)
        fun _ => hlegal.append hlast hedge)
      intro failed
      exact Effect.Triple.pure fun _ hrepo => hrepo.ordered
    | outcome outcome =>
      rw [submitResume]
      rw [DispatchReply.fits] at hfits
      by_cases haccepted : outcome.accepted = true
      · rw [if_pos haccepted] at hfits ⊢
        obtain ⟨hedge, hterminal⟩ := Bool.and_eq_true_iff.mp hfits
        have hdispatched := hlegal.append hlast (of_decide_eq_true hedge)
        apply Effect.Triple.bind (appendLifecycle_standing hfresh.1 (by decide)
          fun _ => hdispatched)
        intro dispatched
        split
        · exact Effect.Triple.pure fun _ hrepo => hrepo.ordered
        · rename_i stage hstage
          apply Effect.Triple.bind (appendLifecycle_standing hfresh.1 (by decide) fun hstorable =>
            hdispatched.append List.getLast?_concat
              (by simpa [hstage, hstorable] using hterminal))
          intro terminal
          exact Effect.Triple.pure fun _ hrepo => hrepo.ordered
      · rw [if_neg haccepted] at hfits ⊢
        apply Effect.Triple.bind (appendLifecycle_standing hfresh.1 (by decide) fun hstorable =>
          hlegal.append hlast (by simpa [hstorable] using hfits))
        intro rejected
        exact Effect.Triple.pure fun _ hrepo => hrepo.ordered
  exact htriple.final hstanding

theorem Service.step_ordered {allowPhysical : Bool} {ambient : Ambient} {s s' : Service}
    {event : FabricEvent} {out : List FabricOutput} (h : OrderedLifecycle s.repository)
    (hfresh : ambient.IsFresh s.repository) (hfits : repliesFit s (event, ambient) = true)
    (hstep : s.step allowPhysical ambient event = some (s', out)) :
    OrderedLifecycle s'.repository := by
  apply Service.step_keeps_of OrderedLifecycle.lesson h hstep
  · exact fun lifecycle _ => acceptAdapterLifecycle_ordered lifecycle
  · intro i j task request _ _
    exact (submitStart_ordered hfresh.1 allowPhysical s.dispatcherInstalled request).final
      ⟨h, hfresh⟩
  · rintro i j reply task command rfl hsubmission
    simp only [repliesFit, hsubmission, Option.any_eq_true] at hfits
    obtain ⟨last, hlast, hfits⟩ := hfits
    exact submitResume_ordered h hfresh hlast hfits

/-- Where every reply fits the stage at which its command stands, the stages stored for each
command begin at `PROPOSED`, follow the transitions, and end with the first terminal one. -/
theorem lifecycle_ordered {allowPhysical : Bool} {s : Service}
    (h : ((interactionFabric allowPhysical).restrict fun s e => repliesFit s e = true).Reachable s)
    (commandId : Uuid) :
    IsLegalHistory (s.repository.stages commandId) ∧
      ∀ before stage after, s.repository.stages commandId = before ++ stage :: after →
        stage.isTerminal = true → after = [] := by
  have hordered : OrderedLifecycle s.repository :=
    h.invariant (P := fun s => OrderedLifecycle s.repository)
      (by rintro s rfl; exact OrderedLifecycle.empty)
      fun hs (hstep : _ ∧ _ ∧ _ ∧ _) =>
        Service.step_ordered hs hstep.2.2.1 hstep.1 hstep.2.2.2
  have hlegal := hordered.legal commandId
  exact ⟨hlegal, fun _ _ _ => hlegal.nothing_after_terminal⟩

namespace Lesson

def dispatchDrive : List (FabricEvent × Ambient) :=
  setUp coursePack ++ armAndStart ++
    [(.submitCommand (driveRequest 7 "drive"), ambient 7), (.advance 0 0, ambient 8)]

def driveCommandId : Uuid := (ambient 8).uuid 0

/-- The robot turns the command down in a message of its own. -/
def driveRejected : FabricCommandLifecycleEvent where
  messageId := uuid 5000
  commandId := driveCommandId
  requestMessageId := uuid 1007
  sessionId := sessionId
  targetNodeId := robot.nodeId
  stage := .rejected
  occurredAt := (ambient 9).clock 0
  correlationId := "drive"
  code := none
  message := none
  details := JsonObject.empty

def accepted (terminalStage : Option FabricCommandLifecycleStage) : DispatchReply :=
  .outcome { accepted := true, terminalStage := terminalStage }

def driven : Service := Service.afterWhere true repliesFit
  (dispatchDrive ++ [(FabricEvent.reply 0 0 (accepted (some .succeeded)), ambient 9)])

/-- The message of the robot comes before the end of the dispatcher. -/
def overtaken : Service := Service.after true (dispatchDrive ++
  [(FabricEvent.call (.acceptAdapterLifecycle driveRejected), ambient 9),
    (.reply 0 0 (accepted none), ambient 10)])

end Lesson

theorem lifecycle_ordered_lesson :
    Lesson.driven.repository.stages Lesson.driveCommandId =
        [.proposed, .validated, .authorized, .dispatched, .succeeded] ∧
      IsLegalHistory (Lesson.driven.repository.stages Lesson.driveCommandId) ∧
      ∀ before stage after, Lesson.driven.repository.stages Lesson.driveCommandId =
        before ++ stage :: after → stage.isTerminal = true → after = [] :=
  ⟨by decide, lifecycle_ordered (Service.afterWhere_reachable true _ _) _⟩

theorem Lesson.overtaken_stages : Lesson.overtaken.repository.stages Lesson.driveCommandId =
    [.proposed, .validated, .authorized, .rejected, .dispatched] := by
  decide

/-- A dispatcher that ends after its adapter refused appends `DISPATCHED` to `REJECTED`. -/
theorem lifecycle_overtaken : (interactionFabric true).Reachable Lesson.overtaken ∧
    ¬ IsLegalHistory (Lesson.overtaken.repository.stages Lesson.driveCommandId) := by
  refine ⟨Service.after_reachable true _, fun hlegal => ?_⟩
  have hstages : _ = [FabricCommandLifecycleStage.proposed, .validated, .authorized] ++
    FabricCommandLifecycleStage.rejected :: [.dispatched] := Lesson.overtaken_stages
  have hnothing := hlegal.nothing_after_terminal hstages (by decide)
  cases hnothing

end CitPhysicalXR.Fabric
