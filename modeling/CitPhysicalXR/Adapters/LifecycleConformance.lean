import CitPhysicalXR.Adapters.Bridges
import CitPhysicalXR.Fabric.LifecycleOrder

/-! The lifecycle that a bridge reports against `_COMMAND_TRANSITIONS`: when the reported stages
lead on from `DISPATCHED` to a terminal one, for every way in which a command can run. -/
namespace CitPhysicalXR.Adapters
open Foundation Fabric

/-- After `DISPATCHED` the stages follow `_COMMAND_TRANSITIONS` to a terminal one. -/
structure StagesConform (stages : List FabricCommandLifecycleStage) : Prop where
  path : (.dispatched :: stages).IsChain fun a b => b ∈ commandTransitions a
  terminal : stages.getLast?.any (·.isTerminal) = true

instance (stages : List FabricCommandLifecycleStage) : Decidable (StagesConform stages) :=
  decidable_of_iff
    (((.dispatched :: stages).IsChain fun a b => b ∈ commandTransitions a) ∧
      stages.getLast?.any (·.isTerminal) = true)
    ⟨fun h => ⟨h.1, h.2⟩, fun h => ⟨h.path, h.terminal⟩⟩

structure IsDispatched (repo : Repository) (command : FabricResolvedCommand) : Prop where
  stored : repo.getFabricCommand command.commandId = some command
  legal : IsLegalHistory (repo.stages command.commandId)
  last : (repo.stages command.commandId).getLast? = some .dispatched

/-- A command's own lifecycle conforms to the server: its stages do, and the server, which
closes the connection on a record that fails its check, passes each of its records in turn. -/
structure Conforms (command : FabricResolvedCommand)
    (published : List FabricCommandLifecycleEvent) : Prop where
  stages : StagesConform (published.map (·.stage))
  checked : ∀ repo, IsDispatched repo command → ∀ before lifecycle after,
    published = before ++ lifecycle :: after →
      Repository.checkAdapterLifecycle { repo with lifecycle := repo.lifecycle ++ before }
        lifecycle = .ok ()

/-- A record carries the identity of the command. -/
structure IsOf (command : FabricResolvedCommand) (lifecycle : FabricCommandLifecycleEvent) :
    Prop where
  commandId : lifecycle.commandId = command.commandId
  requestMessageId : lifecycle.requestMessageId = command.requestMessageId
  targetNodeId : lifecycle.targetNodeId = command.targetNodeId
  sessionId : lifecycle.sessionId = command.sessionId
  correlationId : lifecycle.correlationId = command.correlationId

theorem IsOf.lifecycleEvent (command : FabricResolvedCommand)
    (stage : FabricCommandLifecycleStage) (messageId : Uuid) (occurredAt : Instant)
    (note : LifecycleNote) :
    IsOf command (lifecycleEvent command stage messageId occurredAt note) :=
  ⟨rfl, rfl, rfl, rfl, rfl⟩

private theorem stages_append_own (repo : Repository) {command : FabricResolvedCommand}
    {records : List FabricCommandLifecycleEvent} (hown : ∀ record ∈ records, IsOf command record) :
    Repository.stages { repo with lifecycle := repo.lifecycle ++ records } command.commandId =
      repo.stages command.commandId ++ records.map (·.stage) := by
  have hall : records.filter (fun record => record.commandId = command.commandId) = records :=
    List.filter_eq_self.mpr fun record hrecord => by simp [(hown record hrecord).commandId]
  simp only [Repository.stages, List.filter_append, List.map_append]
  rw [hall]

theorem Conforms.of_stages {command : FabricResolvedCommand}
    {published : List FabricCommandLifecycleEvent}
    (hown : ∀ record ∈ published, IsOf command record)
    (hstages : StagesConform (published.map (·.stage))) : Conforms command published := by
  refine ⟨hstages, ?_⟩
  intro repo hrepo before lifecycle after hsplit
  have hbefore : ∀ record ∈ before, IsOf command record :=
    fun record hrecord => hown record (by simp [hsplit, hrecord])
  have hthis : IsOf command lifecycle := hown lifecycle (by simp [hsplit])
  obtain ⟨front, hfront⟩ := List.getLast?_eq_some_iff.mp hrepo.last
  have hpath : (.dispatched :: (before.map (·.stage) ++ [lifecycle.stage])).IsChain
      fun a b => b ∈ commandTransitions a := by
    have hall := hstages.path
    rw [hsplit, List.map_append, List.map_cons] at hall
    exact hall.prefix ⟨after.map (·.stage), by simp⟩
  -- the stored history, the records before this one, and this one
  have hhistory : IsLegalHistory
      (repo.stages command.commandId ++ before.map (·.stage) ++ [lifecycle.stage]) := by
    have hlegal := hrepo.legal
    rw [hfront] at hlegal ⊢
    rw [List.append_assoc]
    exact hlegal.extend hpath
  have hstored := stages_append_own repo hbefore
  generalize hrepo' : ({ repo with lifecycle := repo.lifecycle ++ before } : Repository) = repo'
  rw [hrepo'] at hstored
  have hcommand : repo'.getFabricCommand command.commandId = some command := by
    rw [← hrepo']
    exact hrepo.stored
  rw [← hstored] at hhistory
  have hpage : repo'.listFabricLifecycle command.commandId Repository.fabricPageLimit =
      repo'.lifecycle.filter fun record => record.commandId = command.commandId := by
    have hlength := hhistory.length_le
    rw [List.length_append, Repository.stages, List.length_map] at hlength
    have hlimit : Repository.fabricPageLimit = 500 := rfl
    exact List.take_of_length_le (by omega)
  obtain ⟨current, hcurrent⟩ : ∃ current,
      (repo'.lifecycle.filter fun record => record.commandId = command.commandId).getLast? =
        some current := by
    refine ⟨_, List.getLast?_eq_some_getLast ?_⟩
    intro hnone
    rw [Repository.stages, hnone, hfront] at hstored
    simp at hstored
  have hedge : lifecycle.stage ∈ commandTransitions current.stage := by
    refine (List.isChain_append.mp hhistory.chain).2.2 _ ?_ _ rfl
    rw [Repository.stages, List.getLast?_map, hcurrent]
    rfl
  unfold Repository.checkAdapterLifecycle
  rw [hthis.commandId, hcommand]
  simp only [hpage, hcurrent]
  rw [if_neg (not_not_intro hthis.requestMessageId), if_neg (not_not_intro hthis.targetNodeId),
    if_neg (not_or_intro (not_not_intro hthis.sessionId) (not_not_intro hthis.correlationId)),
    if_pos hedge]

section
variable {ρ : Type} {client : FabricAdapterClient} {command : FabricResolvedCommand}

def OwnRecords (command : FabricResolvedCommand) (s : BridgeRecord ρ) : Prop :=
  ∀ record ∈ s.published, IsOf command record

/-- A part that only reports on the command, on a return and on an exception. -/
abbrev KeepsOwn (command : FabricResolvedCommand) {α : Type} (m : AdapterM ρ α) : Prop :=
  Effect.Triple (OwnRecords command) m (fun _ => OwnRecords command) (fun _ => OwnRecords command)

private theorem publishLifecycle_own (stage : FabricCommandLifecycleStage)
    (note : LifecycleNote) :
    KeepsOwn command (client.publishLifecycle command stage note : AdapterM ρ Unit) := by
  intro s hs
  rw [FabricAdapterClient.publishLifecycle_eq]
  cases client.refusal command stage note with
  | some error => exact hs
  | none =>
    intro record hrecord
    rcases List.mem_append.mp hrecord with hold | hnew
    · exact hs record hold
    · rw [List.mem_singleton.mp hnew]
      exact IsOf.lifecycleEvent _ _ _ _ _

private theorem read_own {α : Type} {f : BridgeRecord ρ → Except AdapterError α} :
    KeepsOwn command (Effect.read f) :=
  Effect.Triple.read (fun _ _ hs _ => hs) (fun _ _ hs _ => hs)

private theorem noteError_own {error : AdapterError} :
    KeepsOwn command (noteError error : AdapterM ρ Unit) :=
  Effect.Triple.update fun _ hs => hs

private theorem attempt_own {execute : CommandReplayCache ρ →
      Except AdapterError (JsonObject × CommandReplayCache ρ)}
    {afterwards : Except AdapterError Unit} :
    KeepsOwn command (attempt client command execute afterwards) := by
  apply Effect.Triple.bind (publishLifecycle_own _ _)
  intro _
  apply Effect.Triple.bind (publishLifecycle_own _ _)
  intro _
  apply Effect.Triple.bind (Q := fun _ => OwnRecords command)
  · refine Effect.Triple.commit ?_ fun s _ hs _ => hs
    intro s s' details hs hrun
    obtain ⟨result, _, hresult⟩ := map_eq_ok.mp hrun
    cases hresult
    exact hs
  intro details
  apply Effect.Triple.bind (publishLifecycle_own _ _)
  intro _
  exact read_own

variable {stage : FabricCommandLifecycleStage} {code : Identifier}

private theorem reportError_own
    {error : AdapterError} :
    KeepsOwn command (reportError client command stage code error : AdapterM ρ Unit) := by
  apply Effect.Triple.bind noteError_own
  intro _
  exact publishLifecycle_own _ _

theorem handleChecked_own {parts : CheckedParts ρ} :
    KeepsOwn command (handleChecked client command parts) := by
  apply Effect.Triple.bind read_own
  intro seen
  split
  · exact Effect.Triple.pure fun _ hs => hs
  · split
    · apply Effect.Triple.rescue attempt_own
      intro error
      unfold reportFailure
      split
      · apply Effect.Triple.bind noteError_own
        intro _
        apply Effect.Triple.bind read_own
        intro _
        exact publishLifecycle_own _ _
      · exact Effect.Triple.throw fun _ hs => hs
    · split
      · exact reportError_own
      · exact Effect.Triple.throw fun _ hs => hs

theorem handleEager_own {parts : EagerParts} :
    KeepsOwn command (handleEager client command parts) := by
  apply Effect.Triple.rescue attempt_own
  intro error
  unfold settle
  split
  · exact reportError_own
  · split
    · apply Effect.Triple.ensuring (P := OwnRecords command)
      · apply Effect.Triple.bind noteError_own
        intro _
        exact read_own
      · exact publishLifecycle_own _ _
      · exact fun _ _ hs => hs
    · exact Effect.Triple.throw fun _ hs => hs

theorem recordsOf_own {handle : AdapterM ρ Unit} (h : KeepsOwn command handle)
    (executions : CommandReplayCache ρ) :
    ∀ record ∈ recordsOf handle executions, IsOf command record := by
  apply h.final (s := { executions := executions })
  simp [OwnRecords]

def BridgeRecord.stages (s : BridgeRecord ρ) : List FabricCommandLifecycleStage :=
  s.published.map (·.stage)

/-- The first exception before the success of the command is out. -/
def attemptFailure (client : FabricAdapterClient) (command : FabricResolvedCommand)
    (execution : Except AdapterError JsonObject) : Option AdapterError :=
  (client.refusal command .accepted {}).or <| (client.refusal command .running {}).or <|
    match execution with
    | .error error => some error
    | .ok details => client.refusal command .succeeded { details := some details }

/-- The stages that are out when that exception is raised. -/
def attemptStages (client : FabricAdapterClient) (command : FabricResolvedCommand) :
    List FabricCommandLifecycleStage :=
  if (client.refusal command .accepted {}).isSome then []
  else if (client.refusal command .running {}).isSome then [.accepted]
  else [.accepted, .running]

section
variable {execute : CommandReplayCache ρ →
    Except AdapterError (JsonObject × CommandReplayCache ρ)} {executions : CommandReplayCache ρ}

theorem attempt_fails (afterwards : Except AdapterError Unit) {error : AdapterError}
    (h : attemptFailure client command ((execute executions).map Prod.fst) = some error) :
    ∃ s, attempt client command execute afterwards { executions := executions } =
      .error error s ∧ s.stages = attemptStages client command := by
  unfold attemptFailure at h
  unfold attempt attemptStages
  simp only [bind, EStateM.bind, FabricAdapterClient.publishLifecycle_eq]
  cases haccepted : client.refusal command .accepted {} with
  | some refused =>
    simp only [haccepted, Option.some_or, Option.some.injEq] at h
    exact ⟨_, by rw [h], rfl⟩
  | none =>
    simp only [haccepted, Option.none_or] at h
    cases hrunning : client.refusal command .running {} with
    | some refused =>
      simp only [hrunning, Option.some_or, Option.some.injEq] at h
      rw [h]
      exact ⟨_, rfl, rfl⟩
    | none =>
      simp only [hrunning, Option.none_or] at h
      cases hexecute : execute executions with
      | error raised =>
        simp only [hexecute, Except.map, Option.some.injEq] at h
        simp only [Effect.commit, hexecute, Except.map, h]
        exact ⟨_, rfl, rfl⟩
      | ok result =>
        simp only [hexecute, Except.map] at h
        simp only [Effect.commit, hexecute, Except.map, h]
        exact ⟨_, rfl, rfl⟩

theorem attempt_succeeds (afterwards : Except AdapterError Unit)
    (h : attemptFailure client command ((execute executions).map Prod.fst) = none) :
    ∃ s, attempt client command execute afterwards { executions := executions } =
      (match afterwards with
        | .ok _ => .ok () s
        | .error error => .error error s) ∧ s.stages = [.accepted, .running, .succeeded] := by
  unfold attemptFailure at h
  unfold attempt
  simp only [bind, EStateM.bind, FabricAdapterClient.publishLifecycle_eq]
  obtain ⟨haccepted, h⟩ := Option.or_eq_none_iff.mp h
  obtain ⟨hrunning, h⟩ := Option.or_eq_none_iff.mp h
  cases hexecute : execute executions with
  | error raised =>
    simp [hexecute, Except.map] at h
  | ok result =>
    simp only [hexecute, Except.map] at h
    simp only [haccepted, hrunning, Effect.commit, hexecute, Except.map, h, Effect.read]
    cases afterwards with
    | ok _ => exact ⟨_, rfl, rfl⟩
    | error error => exact ⟨_, rfl, rfl⟩

end

/-- Reports of an exception go out when their text and their stage do. -/
def Tells (client : FabricAdapterClient) (command : FabricResolvedCommand)
    (stage : FabricCommandLifecycleStage) (error : AdapterError) : Prop :=
  client.Delivers command stage ∧ error.text ≠ ""

variable (client) in
theorem stages_publishError (hvalid : command.validates = true)
        (error : AdapterError) (s : BridgeRecord ρ) :
    let final := Effect.final (client.publishLifecycle command stage
      { code := some code.text, message := some error.reported } s)
    Tells client command stage error ∧ final.stages = s.stages ++ [stage] ∨
      ¬ Tells client command stage error ∧ final.stages = s.stages := by
  have hrefusal : client.refusal command stage
      { code := some code.text, message := some error.reported } = none ↔
        Tells client command stage error := by
    rw [FabricAdapterClient.refusal_eq_none hvalid (by simpa using code.valid)]
    simp only [optionalTextWithin, AdapterError.textWithin_reported, Tells]
  intro final
  by_cases htells : Tells client command stage error
  · have hsent := hrefusal.mpr htells
    refine .inl ⟨htells, ?_⟩
    simp only [final, FabricAdapterClient.publishLifecycle_eq, hsent, Effect.final,
      BridgeRecord.stages, List.map_append]
    rfl
  · obtain ⟨refused, hrefused⟩ := Option.ne_none_iff_exists'.mp (mt hrefusal.mp htells)
    refine .inr ⟨htells, ?_⟩
    simp only [final, FabricAdapterClient.publishLifecycle_eq, hrefused, Effect.final]

variable (client) in
theorem stages_reportError (hvalid : command.validates = true)
        (error : AdapterError) (s : BridgeRecord ρ) :
    let final := Effect.final (reportError client command stage code error s)
    Tells client command stage error ∧ final.stages = s.stages ++ [stage] ∨
      ¬ Tells client command stage error ∧ final.stages = s.stages :=
  stages_publishError client hvalid error { s with lastError := some error.reported }

/-- The handling of a checked command ends well for the server. The command is new. If its check
fails, the failure is a `ValueError` whose report goes out. If it passes, the exception raised
before the success is out, if any, is one that the bridge catches, recovers from and reports; and
none that it would report is raised after the success. -/
def CheckedFits (client : FabricAdapterClient) (command : FabricResolvedCommand)
    (parts : CheckedParts ρ) (executions : CommandReplayCache ρ) : Prop :=
  parts.hasSeen executions = false ∧
    match parts.check with
    | .error error => error.kind = .valueError ∧ Tells client command .rejected error
    | .ok () =>
      match attemptFailure client command ((parts.execute executions).map Prod.fst) with
      | some error => Settles error
      | none => ∀ error, parts.afterwards = .error error → ¬ Settles error
where
  Settles (error : AdapterError) : Prop :=
    parts.catches error.kind = true ∧ parts.recover = .ok () ∧ Tells client command .failed error

private theorem attemptStages_conform :
    ¬ StagesConform (attemptStages client command) ∧
      StagesConform (attemptStages client command ++ [FabricCommandLifecycleStage.failed]) := by
  unfold attemptStages
  split
  · decide
  · split <;> decide

variable (client) in
private theorem stages_reportFailure (hvalid : command.validates = true) {parts : CheckedParts ρ}
    (error : AdapterError) (s : BridgeRecord ρ) :
    let final := Effect.final (reportFailure client command parts error s)
    CheckedFits.Settles client command parts error ∧ final.stages = s.stages ++ [FabricCommandLifecycleStage.failed] ∨
      ¬ CheckedFits.Settles client command parts error ∧ final.stages = s.stages := by
  intro final
  by_cases hcatches : parts.catches error.kind = true
  · cases hrecover : parts.recover with
    | error raised =>
      refine .inr ⟨fun h => ?_, ?_⟩
      · have hrecovers := h.2.1
        rw [hrecover] at hrecovers
        cases hrecovers
      · simp only [final, reportFailure, hcatches, if_true, hrecover]
        rfl
    | ok _ =>
      have hfinal : final = Effect.final (client.publishLifecycle command .failed
          { code := some parts.failedCode.text, message := some error.reported }
          { s with lastError := some error.reported }) := by
        simp only [final, reportFailure, hcatches, if_true, hrecover]
        rfl
      rw [hfinal]
      rcases stages_publishError client hvalid error { s with lastError := some error.reported } with
        ⟨htells, hstages⟩ | ⟨htells, hstages⟩
      · exact .inl ⟨⟨hcatches, hrecover, htells⟩, hstages⟩
      · exact .inr ⟨fun h => htells h.2.2, hstages⟩
  · refine .inr ⟨fun h => hcatches h.1, ?_⟩
    simp only [final, reportFailure, hcatches]
    rfl

theorem handleChecked_conforms (hvalid : command.validates = true) {parts : CheckedParts ρ}
    (executions : CommandReplayCache ρ) :
    StagesConform ((recordsOf (handleChecked client command parts) executions).map (·.stage)) ↔
      CheckedFits client command parts executions := by
  change StagesConform (Effect.final (handleChecked client command parts
    { executions := executions })).stages ↔ _
  have hnothing : ¬ StagesConform [] := by decide
  have hrejected : StagesConform [.rejected] := by decide
  unfold handleChecked CheckedFits
  simp only [bind, EStateM.bind, Effect.read]
  cases hseen : parts.hasSeen executions with
  | true => exact iff_of_false hnothing (by simp)
  | false =>
    simp only [Bool.false_eq_true, if_false, true_and]
    cases hcheck : parts.check with
    | error error =>
      by_cases hkind : error.kind = .valueError
      · simp only [hkind, if_true, true_and]
        rcases stages_reportError client hvalid error { executions := executions } with
          ⟨htells, hstages⟩ | ⟨htells, hstages⟩
        · rw [hstages]
          exact iff_of_true hrejected htells
        · rw [hstages]
          exact iff_of_false hnothing htells
      · simp only [hkind, if_false, false_and, iff_false]
        exact hnothing
    | ok _ =>
      simp only [Effect.rescue]
      cases hfailure : attemptFailure client command ((parts.execute executions).map Prod.fst) with
      | some error =>
        obtain ⟨s, hattempt, hs⟩ := attempt_fails parts.afterwards hfailure
        simp only [hattempt]
        rcases stages_reportFailure client hvalid error s with
          ⟨hsettles, hstages⟩ | ⟨hsettles, hstages⟩
        · rw [hstages, hs]
          exact iff_of_true attemptStages_conform.2 hsettles
        · rw [hstages, hs]
          exact iff_of_false attemptStages_conform.1 hsettles
      | none =>
        obtain ⟨s, hattempt, hs⟩ := attempt_succeeds parts.afterwards hfailure
        have hsucceeded : StagesConform s.stages := by
          rw [hs]
          decide
        cases hafter : parts.afterwards with
        | ok _ =>
          rw [hafter] at hattempt
          simp only [hattempt]
          exact iff_of_true hsucceeded fun _ h => by cases h
        | error error =>
          rw [hafter] at hattempt
          simp only [hattempt, Except.error.injEq, forall_eq']
          rcases stages_reportFailure client hvalid error s with
            ⟨hsettles, hstages⟩ | ⟨hsettles, hstages⟩
          · rw [hstages, hs]
            exact iff_of_false (by decide) (not_not_intro hsettles)
          · rw [hstages]
            exact iff_of_true hsucceeded hsettles

/-- The handling of a command that is checked while it runs ends well for the server. The
exception raised before the success is out, if any, is an `OSError` or a `RuntimeError` and its
report goes out; a `ValueError` only does when not even the acceptance was reported. -/
def EagerFits (client : FabricAdapterClient) (command : FabricResolvedCommand)
    (parts : EagerParts) (executions : CommandReplayCache JsonObject) : Prop :=
  ∀ error ∈ attemptFailure client command
      ((parts.handler.execute parts.now command executions).map Prod.fst),
    if error.kind = .valueError then
      client.refusal command .accepted {} ≠ none ∧ Tells client command .rejected error
    else (error.kind = .osError ∨ error.kind.isRuntimeError = true) ∧
      Tells client command .failed error

variable (client) in
private theorem stages_settle (hvalid : command.validates = true) (parts : EagerParts)
    (error : AdapterError)
    (s : BridgeRecord JsonObject) :
    let final := Effect.final (settle client command parts error s)
    if error.kind = .valueError then
      Tells client command .rejected error ∧ final.stages = s.stages ++ [FabricCommandLifecycleStage.rejected] ∨
        ¬ Tells client command .rejected error ∧ final.stages = s.stages
    else
      ((error.kind = .osError ∨ error.kind.isRuntimeError = true) ∧
          Tells client command .failed error) ∧ final.stages = s.stages ++ [FabricCommandLifecycleStage.failed] ∨
        ¬ ((error.kind = .osError ∨ error.kind.isRuntimeError = true) ∧
          Tells client command .failed error) ∧ final.stages = s.stages := by
  intro final
  by_cases hvalue : error.kind = .valueError
  · rw [if_pos hvalue]
    have hfinal : final = Effect.final (reportError client command .rejected parts.rejectedCode
        error s) := by
      simp only [final, settle, hvalue, if_true]
    rw [hfinal]
    exact stages_reportError client hvalid error s
  · rw [if_neg hvalue]
    by_cases hcaught : error.kind = .osError ∨ error.kind.isRuntimeError = true
    · have hfinal : final = Effect.final (client.publishLifecycle command .failed
          { code := some parts.failedCode.text, message := some error.reported }
          { s with lastError := some error.reported }) := by
        simp only [final, settle, if_neg hvalue, if_pos hcaught, Effect.ensuring, bind,
          EStateM.bind, noteError, Effect.update, Effect.read]
        cases parts.safeStop with
        | ok _ => rfl
        | error raised =>
          simp only []
          split <;> simp_all [Effect.final]
      rw [hfinal]
      rcases stages_publishError client hvalid error { s with lastError := some error.reported }
        with ⟨htells, hstages⟩ | ⟨htells, hstages⟩
      · exact .inl ⟨⟨hcaught, htells⟩, hstages⟩
      · exact .inr ⟨fun h => htells h.2, hstages⟩
    · refine .inr ⟨fun h => hcaught h.1, ?_⟩
      simp only [final, settle, if_neg hvalue, if_neg hcaught]
      rfl

theorem handleEager_conforms (hvalid : command.validates = true) {parts : EagerParts}
    (executions : CommandReplayCache JsonObject) :
    StagesConform ((recordsOf (handleEager client command parts) executions).map (·.stage)) ↔
      EagerFits client command parts executions := by
  change StagesConform (Effect.final (handleEager client command parts
    { executions := executions })).stages ↔ _
  unfold handleEager EagerFits
  simp only [Effect.rescue]
  cases hfailure : attemptFailure client command
      ((parts.handler.execute parts.now command executions).map Prod.fst) with
  | none =>
    obtain ⟨s, hattempt, hs⟩ : ∃ s, attempt client command
        (parts.handler.execute parts.now command) (.ok ()) { executions := executions } =
          .ok () s ∧ s.stages = [.accepted, .running, .succeeded] :=
      attempt_succeeds (.ok ()) hfailure
    simp only [hattempt]
    refine iff_of_true ?_ (by simp)
    change StagesConform s.stages
    rw [hs]
    decide
  | some error =>
    obtain ⟨s, hattempt, hs⟩ : ∃ s, attempt client command
        (parts.handler.execute parts.now command) (.ok ()) { executions := executions } =
          .error error s ∧ s.stages = attemptStages client command :=
      attempt_fails (.ok ()) hfailure
    simp only [hattempt, Option.mem_some_iff, forall_eq']
    have hsettle := stages_settle client hvalid parts error s
    by_cases hvalue : error.kind = .valueError
    · rw [if_pos hvalue] at hsettle ⊢
      rcases hsettle with ⟨htells, hstages⟩ | ⟨htells, hstages⟩
      · rw [hstages, hs]
        unfold attemptStages
        cases haccepted : client.refusal command .accepted {} with
        | some refused =>
          have hrejects : StagesConform [.rejected] := by decide
          exact iff_of_true hrejects ⟨by simp, htells⟩
        | none =>
          refine iff_of_false ?_ (by simp)
          simp only [Option.isSome_none, Bool.false_eq_true, if_false]
          split <;> decide
      · rw [hstages, hs]
        exact iff_of_false attemptStages_conform.1 fun h => htells h.2
    · rw [if_neg hvalue] at hsettle ⊢
      rcases hsettle with ⟨htells, hstages⟩ | ⟨htells, hstages⟩
      · rw [hstages, hs]
        exact iff_of_true attemptStages_conform.2 htells
      · rw [hstages, hs]
        exact iff_of_false attemptStages_conform.1 htells

end

/-- The condition under which the lifecycle of a command conforms, for the parts of a bridge. -/
def AdapterBridge.Fits (client : FabricAdapterClient) (command : FabricResolvedCommand) :
    AdapterBridge → Prop
  | .tello bridge executions => CheckedFits client command (bridge.parts command) executions
  | .fleet bridge executions => CheckedFits client command (bridge.parts command) executions
  | .roboMaster bridge executions =>
    CheckedFits client command (bridge.parts client command) executions
  | .matter bridge executions =>
    CheckedFits client command (bridge.parts client command) executions
  | .lego bridge => CheckedFits client command (bridge.parts command) {}
  | .wonder bridge executions => EagerFits client command bridge.parts executions
  | .sphero bridge executions => EagerFits client command bridge.parts executions
  | .ollie bridge executions => EagerFits client command bridge.parts executions

private theorem conforms_iff {ρ : Type} {command : FabricResolvedCommand}
    {handle : AdapterM ρ Unit} {executions : CommandReplayCache ρ} {fits : Prop}
    (hown : KeepsOwn command handle)
    (hfits : StagesConform ((recordsOf handle executions).map (·.stage)) ↔ fits) :
    Conforms command (recordsOf handle executions) ↔ fits :=
  ⟨fun h => hfits.mp h.stages,
    fun h => Conforms.of_stages (recordsOf_own hown executions) (hfits.mpr h)⟩

/-- For every bridge, every well-formed command and every way it can run, the reported lifecycle
conforms to the server exactly when the handling fits. -/
theorem lifecycles_conform (client : FabricAdapterClient) (bridge : AdapterBridge)
    (command : FabricResolvedCommand) (hvalid : command.validates = true) :
    Conforms command (bridge.published client command) ↔ bridge.Fits client command := by
  cases bridge with
  | tello bridge executions =>
    exact conforms_iff handleChecked_own (handleChecked_conforms hvalid _)
  | fleet bridge executions =>
    exact conforms_iff handleChecked_own (handleChecked_conforms hvalid _)
  | roboMaster bridge executions =>
    exact conforms_iff handleChecked_own (handleChecked_conforms hvalid _)
  | matter bridge executions =>
    exact conforms_iff handleChecked_own (handleChecked_conforms hvalid _)
  | lego bridge =>
    exact conforms_iff handleChecked_own (handleChecked_conforms hvalid _)
  | wonder bridge executions =>
    exact conforms_iff handleEager_own (handleEager_conforms hvalid _)
  | sphero bridge executions =>
    exact conforms_iff handleEager_own (handleEager_conforms hvalid _)
  | ollie bridge executions =>
    exact conforms_iff handleEager_own (handleEager_conforms hvalid _)

namespace Stops

def robot : Identifier := ⟨"robot-1", by decide⟩

def command (action : CapabilityIdentifier) : FabricResolvedCommand where
  commandId := ⟨1⟩
  requestMessageId := ⟨2⟩
  sessionId := ⟨"lesson-6", by decide⟩
  targetNodeId := robot
  action := action
  parameters := JsonObject.empty
  priority := .instructor_override
  idempotencyKey := "stop-1"
  requestedAt := 0
  expiresAt := 1
  safetyProfile := ⟨"classroom-6", by decide⟩
  correlationId := "stop-1"
  causationId := none
  sourceNodeId := none

def groundStop : FabricResolvedCommand := command ⟨"mobility.ground.stop", by decide⟩
def land : FabricResolvedCommand := command ⟨"mobility.flight.land", by decide⟩

def client : FabricAdapterClient where
  sequences := [robot]
  ambient := { clock := fun _ => 0, uuid := fun n => ⟨Fin.ofNat _ n⟩ }
  refusesLifecycle _ := none
  refusesEvent _ := none

def tello : FabricTelloBridge where
  nodeId := robot
  backend :=
    { takeoff := .ok JsonObject.empty
      move := fun _ _ => .ok JsonObject.empty
      rotate := fun _ _ => .ok JsonObject.empty
      land := fun _ => .ok JsonObject.empty
      emergencyStop := fun _ => .ok JsonObject.empty }
  clock _ := 0

/-- A BOLT whose clock has passed the expiry of the stop. -/
def bolt : FabricSpheroBridge where
  nodeId := robot
  transport :=
    { stop := .ok ()
      setVelocity := fun _ _ _ => .ok ⟨0, 0⟩
      setColor := fun _ _ _ => .ok ()
      resetAim := .ok () }
  demonstration := { start := fun _ => .ok (), cancel := .ok (), safeStop := .ok () }
  now := 1

end Stops

theorem lifecycles_conform_land :
    Conforms Stops.land ((AdapterBridge.tello Stops.tello {}).published Stops.client Stops.land) := by
  refine (lifecycles_conform Stops.client (.tello Stops.tello {}) Stops.land (by decide)).mpr ?_
  have hfailure : attemptFailure Stops.client Stops.land
      (((Stops.tello.parts Stops.land).execute {}).map Prod.fst) = none := by decide
  have hcheck : (Stops.tello.parts Stops.land).check = .ok () := by decide
  refine ⟨by decide, ?_⟩
  rw [hcheck, hfailure]
  intro error h
  cases h

/-- A BOLT rejects a command that has expired only after it has reported it as running. -/
theorem lifecycle_rejected_late : ¬ Conforms Stops.groundStop
    ((AdapterBridge.sphero Stops.bolt {}).published Stops.client Stops.groundStop) := by
  intro h
  have hstages : ((AdapterBridge.sphero Stops.bolt {}).published Stops.client
      Stops.groundStop).map (·.stage) = [.accepted, .running, .rejected] := by decide
  have hconform := h.stages
  rw [hstages] at hconform
  revert hconform
  decide

end CitPhysicalXR.Adapters
