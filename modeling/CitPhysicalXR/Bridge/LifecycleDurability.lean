import CitPhysicalXR.Bridge.Bridge
import CitPhysicalXR.Bridge.HandlerRules

/-! Durability of lifecycles: whether the stage in a command's row always has its frame in the
lifecycle outbox or acknowledged, wherever a crash falls. -/
namespace CitPhysicalXR.Bridge
open Foundation Fabric

/-- The frame of a stage waits in the outbox, or was acknowledged. -/
def Reported (reports : List BridgeReport) (outbox : BridgeOutbox) (commandId : Uuid)
    (stage : FabricCommandLifecycleStage) : Prop :=
  BridgeReport.lifecycle commandId stage ∈ reports ∨ ∃ row ∈ outbox.lifecycles,
    row.frame.lifecycle.commandId = commandId ∧ row.frame.lifecycle.stage = stage

/-- A row with a terminal stage has it reported. A row stands at DISPATCHED, the stage that the
server recorded before it sent the command, only when its handling was cut short. -/
def Settled (reports : List BridgeReport) (outbox : BridgeOutbox) (row : BridgeCommandReceipt) :
    Prop :=
  (row.stage ∈ terminalStages ∧ Reported reports outbox row.commandId row.stage) ∨
    (row.stage = .dispatched ∧ BridgeReport.interrupted row.commandId ∈ reports)

def AllSettled (reports : List BridgeReport) (outbox : BridgeOutbox) : Prop :=
  ∀ row ∈ outbox.commands, Settled reports outbox row

/-- While a command is handled from `base` on: every other row is settled, its own row stands
at a stage that the handler writes, and no frame that waited in `base` is lost. -/
structure SettledBut (commandId : Uuid) (reports : List BridgeReport)
    (base outbox : BridgeOutbox) : Prop where
  others : ∀ row ∈ outbox.commands, row.commandId ≠ commandId → Settled reports outbox row
  own : ∀ row ∈ outbox.commands, row.commandId = commandId →
    row.stage = .dispatched ∨ row.stage ∈ terminalStages
  kept : ∀ pending ∈ base.lifecycles, pending ∈ outbox.lifecycles

section Settling
variable {reports more : List BridgeReport} {outbox outbox' : BridgeOutbox} {commandId : Uuid}
  {row : BridgeCommandReceipt} {stage : FabricCommandLifecycleStage}

theorem Reported.append (h : Reported reports outbox commandId stage) :
    Reported (reports ++ more) outbox commandId stage :=
  h.imp_left fun h => List.mem_append_left more h

theorem Settled.append (h : Settled reports outbox row) : Settled (reports ++ more) outbox row := by
  rcases h with ⟨hstage, hreported⟩ | ⟨hstage, hcut⟩
  · exact .inl ⟨hstage, hreported.append⟩
  · exact .inr ⟨hstage, List.mem_append_left more hcut⟩

theorem Settled.stage_cases (h : Settled reports outbox row) :
    row.stage = .dispatched ∨ row.stage ∈ terminalStages := by
  rcases h with ⟨hstage, _⟩ | ⟨hstage, _⟩
  · exact .inr hstage
  · exact .inl hstage

theorem Settled.mono (h : Settled reports outbox row)
    (hkept : ∀ pending ∈ outbox.lifecycles, pending ∈ outbox'.lifecycles) :
    Settled reports outbox' row := by
  rcases h with ⟨hstage, hreported⟩ | hcut
  · refine .inl ⟨hstage, ?_⟩
    rcases hreported with hreported | ⟨pending, hpending, hsame⟩
    · exact .inl hreported
    · exact .inr ⟨pending, hkept pending hpending, hsame⟩
  · exact .inr hcut

theorem AllSettled.but (h : AllSettled reports outbox) (commandId : Uuid) :
    SettledBut commandId reports outbox outbox where
  others row hrow _ := h row hrow
  own row hrow _ := (h row hrow).stage_cases
  kept _ hpending := hpending

theorem AllSettled.append (h : AllSettled reports outbox) : AllSettled (reports ++ more) outbox :=
  fun row hrow => (h row hrow).append

/-- A handling that was cut short before it wrote a terminal stage leaves all rows settled. -/
theorem SettledBut.interrupted {base : BridgeOutbox} (hbase : AllSettled reports base)
    (h : SettledBut commandId reports base outbox)
    (hown : ∀ row ∈ outbox.commands, row.commandId = commandId → row.stage ∈ terminalStages →
      row ∈ base.commands) :
    AllSettled (reports ++ [BridgeReport.interrupted commandId]) outbox := by
  intro row hrow
  by_cases hcommand : row.commandId = commandId
  · rcases h.own row hrow hcommand with hstage | hstage
    · exact .inr ⟨hstage, by simp [hcommand]⟩
    · exact ((hbase row (hown row hrow hcommand hstage)).mono h.kept).append
  · exact (h.others row hrow hcommand).append

end Settling

/-- The command has a row at a terminal stage, and that is reported or among the frames that
are still to be enqueued. -/
def Announced (commandId : Uuid) (reports : List BridgeReport)
    (frames : List AdapterCommandLifecycleFrame) (outbox : BridgeOutbox) : Prop :=
  ∃ row ∈ outbox.commands, row.commandId = commandId ∧ row.stage ∈ terminalStages ∧
    (Reported reports outbox commandId row.stage ∨
      ∃ frame ∈ frames, frame.lifecycle.commandId = commandId ∧ frame.lifecycle.stage = row.stage)

section Handler
variable {reports : List BridgeReport} {commandId : Uuid} {base : BridgeOutbox}

variable {outbox : BridgeOutbox}

theorem SettledBut.updated (h : SettledBut commandId reports base outbox)
    {stage : FabricCommandLifecycleStage} (hstage : stage ∈ terminalStages)
    (agentMeshCommandId : Option String) (updatedAt : Instant) :
    SettledBut commandId reports base
      (outbox.updated commandId stage agentMeshCommandId updatedAt) := by
  refine ⟨?_, ?_, h.kept⟩
  · intro row hrow hne
    rcases BridgeOutbox.mem_updated.mp hrow with ⟨row₀, _, hsame, rfl⟩ | ⟨hrow, _⟩
    · exact absurd hsame hne
    · exact h.others row hrow hne
  · intro row hrow hsame
    rcases BridgeOutbox.mem_updated.mp hrow with ⟨row₀, _, _, rfl⟩ | ⟨_, hne⟩
    · exact .inr hstage
    · exact absurd hsame hne

theorem SettledBut.recorded {input : BridgeCommandReceipt}
    (h : SettledBut input.commandId reports base outbox) (hstage : input.stage = .dispatched) :
    SettledBut input.commandId reports base
      { outbox with commands := outbox.commands.insertOrIgnore input } := by
  refine ⟨?_, ?_, h.kept⟩
  · intro row hrow hne
    rcases (UniqueTable.mem_insertOrIgnore _).mp hrow with hrow | ⟨rfl, _⟩
    · exact h.others row hrow hne
    · exact absurd rfl hne
  · intro row hrow hsame
    rcases (UniqueTable.mem_insertOrIgnore _).mp hrow with hrow | ⟨rfl, _⟩
    · exact h.own row hrow hsame
    · exact .inl hstage

theorem SettledBut.invariant :
    MirrorCommandHandler.Invariant commandId (SettledBut commandId reports base) where
  recorded outbox input hcommand hstage h := by
    subst hcommand
    exact h.recorded hstage
  updated _ _ _ _ hstage h := h.updated hstage _ _
  routed _ _ h := ⟨h.others, h.own, h.kept⟩

variable {sha256 : String → String} {mapping : AgentMeshFabricMapping} {now : Instant}

theorem MirrorCommandHandler.handle_announced (hbase : AllSettled reports base)
    (frame : AdapterCommandFrame) :
    Effect.Triple (· = .boot base) (handle sha256 frame mapping now)
      (fun frames d => Durable.Always (SettledBut frame.command.commandId reports base) d ∧
        Announced frame.command.commandId reports frames d.current)
      (fun _ => Durable.Always (SettledBut frame.command.commandId reports base)) := by
  refine (handle_settles SettledBut.invariant base).conseq ?_ ?_ fun _ _ hd => hd
  · intro d hd
    rw [hd]
    exact ⟨Durable.always_boot (hbase.but _), rfl⟩
  · intro frames d hd
    obtain ⟨hd, ⟨_, hsame, row, hrow, hcommand, hstage⟩ | ⟨_, row, hrow, hcommand, hanswers⟩⟩ := hd
    · -- a terminal row was settled when the command came
      rw [hsame]
      refine ⟨hd, row, hrow, hcommand, hstage, .inl ?_⟩
      rcases hbase row hrow with ⟨_, hreported⟩ | ⟨hdispatched, _⟩
      · exact hcommand ▸ hreported
      · rw [hdispatched] at hstage
        exact absurd hstage (by decide)
    · exact ⟨hd, row, hrow, hcommand, hanswers.terminal, .inr hanswers.mem_stage⟩

theorem SettledBut.enqueued (h : SettledBut commandId reports base outbox)
    (row : PendingLifecycleFrame) :
    SettledBut commandId reports base
      { outbox with lifecycles := outbox.lifecycles.insertOrIgnore row } := by
  have hkept : ∀ pending ∈ outbox.lifecycles, pending ∈ outbox.lifecycles.insertOrIgnore row :=
    fun pending hpending => (UniqueTable.mem_insertOrIgnore _).mpr (.inl hpending)
  exact ⟨fun row hrow hne => (h.others row hrow hne).mono hkept, h.own,
    fun pending hpending => hkept pending (h.kept pending hpending)⟩

/-- Enqueuing the first of the frames that are to come makes it reported. -/
theorem enqueueLifecycle_announced (frame : AdapterCommandLifecycleFrame)
    (rest : List AdapterCommandLifecycleFrame) (createdAt : Instant) :
    Effect.Triple
      (fun d => Durable.Always (SettledBut commandId reports base) d ∧
        Announced commandId reports (frame :: rest) d.current)
      (BridgeOutbox.enqueueLifecycle frame createdAt).discard
      (fun _ d => Durable.Always (SettledBut commandId reports base) d ∧
        Announced commandId reports rest d.current)
      (fun _ => Durable.Always (SettledBut commandId reports base)) := by
  apply Effect.Triple.discard
  apply Effect.Triple.bind (Q := fun _ d =>
    Durable.Always (SettledBut commandId reports base) d ∧
      Announced commandId reports (frame :: rest) d.current)
  · exact Durable.triple_read (fun _ _ hd _ => hd) fun _ _ hd _ => hd.1
  · intro _
    apply Effect.Triple.bind (Q := fun _ d =>
      Durable.Always (SettledBut commandId reports base) d ∧
        Announced commandId reports (frame :: rest) d.current)
    · apply Durable.triple_write
      · intro d s _ hd hf
        cases hf
        obtain ⟨hsettled, row, hrow, hcommand, hstage, hreported⟩ := hd
        refine ⟨hsettled.commit (hsettled.current.enqueued _), row, hrow, hcommand, hstage, ?_⟩
        rcases hreported with (hacknowledged | ⟨pending, hpending, hsame⟩) | hframe
        · exact .inl (.inl hacknowledged)
        · exact .inl (.inr ⟨pending, (UniqueTable.mem_insertOrIgnore _).mpr (.inl hpending), hsame⟩)
        · exact .inr hframe
      · exact fun _ _ hd _ => hd.1
    · intro _
      apply Durable.triple_read
      · intro d pending hd hf
        split at hf
        · cases hf
        · rename_i found hfound
          obtain ⟨hmem, hsame⟩ := UniqueTable.find?_some _ hfound
          obtain ⟨hsettled, row, hrow, hcommand, hstage, hreported⟩ := hd
          refine ⟨hsettled, row, hrow, hcommand, hstage, ?_⟩
          rcases hreported with hreported | ⟨other, hother, hown, hotherStage⟩
          · exact .inl hreported
          · rcases List.mem_cons.mp hother with rfl | hother
            · exact .inl (.inr ⟨found, hmem, hsame.1.trans hown, hsame.2.trans hotherStage⟩)
            · exact .inr ⟨other, hother, hown, hotherStage⟩
      · exact fun _ _ hd _ => hd.1

theorem handleCommand_settles (hbase : AllSettled reports base) (frame : AdapterCommandFrame)
    (clock : FabricCommandLifecycleStage → Instant) :
    Effect.Triple (· = .boot base)
      (CitAgentMeshBridge.handleCommand sha256 frame mapping now clock)
      (fun _ d => Durable.Always (SettledBut frame.command.commandId reports base) d ∧
        Announced frame.command.commandId reports [] d.current)
      (fun _ => Durable.Always (SettledBut frame.command.commandId reports base)) := by
  apply Effect.Triple.bind (MirrorCommandHandler.handle_announced hbase frame)
  intro frames
  exact Effect.Triple.forEach_rest (J := fun rest d =>
    Durable.Always (SettledBut frame.command.commandId reports base) d ∧
      Announced frame.command.commandId reports rest d.current)
    (fun lifecycle rest => enqueueLifecycle_announced lifecycle rest _) frames

theorem SettledBut.handled (h : SettledBut commandId reports base outbox)
    (hannounced : Announced commandId reports [] outbox) : AllSettled reports outbox := by
  obtain ⟨own, hown, hcommand, hstage, hreported⟩ := hannounced
  have hreported := hreported.resolve_right fun hframe => by
    obtain ⟨frame, hframe, _⟩ := hframe
    cases hframe
  intro row hrow
  by_cases hsame : row.commandId = commandId
  · rw [BridgeCommandReceipt.eq_of_commandId hrow hown (hsame.trans hcommand.symm)]
    exact .inl ⟨hstage, hcommand.symm ▸ hreported⟩
  · exact h.others row hrow hsame

end Handler

/-- The handling of a command ends: it does not raise, and a crash comes after its last commit
or not at all. -/
def Completes (sha256 : String → String) (outbox : BridgeOutbox) (frame : AdapterCommandFrame)
    (mapping : AgentMeshFabricMapping) (now : Instant)
    (clock : FabricCommandLifecycleStage → Instant) (crash : Option ℕ) : Prop :=
  let result := CitAgentMeshBridge.handleCommand sha256 frame mapping now clock (.boot outbox)
  (Effect.returned result).isSome ∧
    ∀ commits ∈ crash, commits = (Effect.final result).history.length

/-- The condition on a call: a handling that does not complete is cut short before it commits a
terminal stage, and a discard meets pending lifecycle frames of its own session only. -/
def ReportsWhole (sha256 : String → String) (outbox : BridgeOutbox) : BridgeCall → Prop
  | .handleCommand frame mapping now clock crash =>
    Completes sha256 outbox frame mapping now clock crash ∨
      ∀ outbox' out, CitAgentMeshBridge.Leaves sha256 outbox
          (.handleCommand frame mapping now clock crash) outbox' out →
        ∀ row ∈ outbox'.commands, row.commandId = frame.command.commandId →
          row.stage ∈ terminalStages → row ∈ outbox.commands
  | .discardUndeliverableFrames sessionId _ =>
    ∀ row ∈ outbox.lifecycles, row.frame.lifecycle.sessionId.text = sessionId
  | _ => True

section Runs
variable {sha256 : String → String} {reports out : List BridgeReport}
  {outbox outbox' : BridgeOutbox}

variable {now : Instant}

theorem handled_settles {frame : AdapterCommandFrame} {mapping : AgentMeshFabricMapping}
    {clock : FabricCommandLifecycleStage → Instant} {d : Durable BridgeOutbox}
    {u : Unit} (h : AllSettled reports outbox)
    (hrun : CitAgentMeshBridge.handleCommand sha256 frame mapping now clock (.boot outbox) =
      .ok u d) :
    AllSettled reports d.current ∧ Announced frame.command.commandId reports [] d.current := by
  have hd := (handleCommand_settles h frame clock).of_ok rfl hrun
  exact ⟨hd.1.current.handled hd.2, hd.2⟩

/-- A crash or an exception leaves one of the states that the handling goes through. -/
theorem interrupted_points {frame : AdapterCommandFrame} {mapping : AgentMeshFabricMapping}
    {clock : FabricCommandLifecycleStage → Instant} (h : AllSettled reports outbox) :
    Durable.Always (SettledBut frame.command.commandId reports outbox) (Effect.final
      (CitAgentMeshBridge.handleCommand sha256 frame mapping now clock (.boot outbox))) :=
  ((handleCommand_settles h frame clock).conseq (fun _ hd => hd) (fun _ _ hd => hd.1)
    fun _ _ hd => hd).final rfl

variable (sha256) in
theorem program_handleCommand (frame : AdapterCommandFrame) (mapping : AgentMeshFabricMapping)
    (now : Instant) (clock : FabricCommandLifecycleStage → Instant) (crash : Option ℕ)
    (d : Durable BridgeOutbox) :
    CitAgentMeshBridge.program sha256 (.handleCommand frame mapping now clock crash) d =
      match CitAgentMeshBridge.handleCommand sha256 frame mapping now clock d with
      | .ok _ d' => .ok [.handled frame.command.commandId] d'
      | .error e d' => .error e d' := by
  change EStateM.bind _ _ d = _
  unfold EStateM.bind
  cases CitAgentMeshBridge.handleCommand sha256 frame mapping now clock d <;> rfl

theorem handleCommand_step {frame : AdapterCommandFrame} {mapping : AgentMeshFabricMapping}
    {clock : FabricCommandLifecycleStage → Instant} {crash : Option ℕ}
    (hstep : CitAgentMeshBridge.Leaves sha256 outbox (.handleCommand frame mapping now clock crash)
      outbox' out)
    (hwhole : ReportsWhole sha256 outbox (.handleCommand frame mapping now clock crash))
    (h : AllSettled reports outbox) : AllSettled (reports ++ out) outbox' := by
  have hpoints : Durable.Always (SettledBut frame.command.commandId reports outbox) (Effect.final
      (CitAgentMeshBridge.handleCommand sha256 frame mapping now clock (.boot outbox))) :=
    interrupted_points h
  -- where the handling stopped before its end, no terminal stage is new
  have hcut : outbox' ∈ (Effect.final (CitAgentMeshBridge.handleCommand sha256 frame mapping now
      clock (.boot outbox))).points → ¬ Completes sha256 outbox frame mapping now clock crash →
      AllSettled (reports ++ [BridgeReport.interrupted frame.command.commandId]) outbox' := by
    intro hmem hopen
    exact (hpoints outbox' hmem).interrupted h ((hwhole.resolve_left hopen) outbox' out hstep)
  have hprogram := program_handleCommand sha256 frame mapping now clock crash
    (.boot outbox)
  cases hrun : CitAgentMeshBridge.handleCommand sha256 frame mapping now clock (.boot outbox) with
  | ok u d =>
    rw [hrun] at hprogram hcut
    have hsettled := (handled_settles h hrun).1
    cases crash with
    | none =>
      unfold CitAgentMeshBridge.Leaves at hstep
      rw [hprogram] at hstep
      obtain ⟨rfl, rfl⟩ := hstep
      exact hsettled.append
    | some commits =>
      unfold CitAgentMeshBridge.Leaves at hstep
      rw [hprogram] at hstep
      obtain ⟨hpoint, rfl⟩ := hstep
      by_cases hlast : commits = d.history.length
      · rw [hlast] at hpoint
        obtain rfl : d.current = outbox' := by
          simpa [Effect.final, Durable.points] using hpoint
        exact hsettled.append
      · refine hcut (List.mem_of_getElem? hpoint) ?_
        intro hcompletes
        rw [Completes, hrun] at hcompletes
        exact hlast (hcompletes.2 commits rfl)
  | error e d =>
    rw [hrun] at hprogram hcut
    have hopen : ¬ Completes sha256 outbox frame mapping now clock crash := by
      intro hcompletes
      rw [Completes, hrun] at hcompletes
      exact Bool.false_ne_true hcompletes.1
    cases crash with
    | none =>
      unfold CitAgentMeshBridge.Leaves at hstep
      rw [hprogram] at hstep
      obtain ⟨rfl, rfl⟩ := hstep
      exact hcut (by simp [Effect.final, Durable.points]) hopen
    | some commits =>
      unfold CitAgentMeshBridge.Leaves at hstep
      rw [hprogram] at hstep
      obtain ⟨hpoint, rfl⟩ := hstep
      exact hcut (List.mem_of_getElem? hpoint) hopen

theorem enqueueEvent_settled (sourceKey : String) (frame : AdapterEventFrame)
    (receipt : BridgeEventReceipt) (createdAt : Instant) :
    Effect.Triple (fun d => AllSettled reports d.current)
      (BridgeOutbox.enqueueEvent sourceKey frame receipt createdAt)
      (fun _ d => AllSettled reports d.current) (fun _ d => AllSettled reports d.current) := by
  apply Effect.Triple.bind (Durable.triple_read (fun _ _ h _ => h) fun _ _ h _ => h)
  intro _
  apply Effect.Triple.bind (Q := fun _ d => AllSettled reports d.current)
  · apply Durable.triple_write
    · intro d s _ h hf
      cases hf
      exact h
    · exact fun _ _ h _ => h
  · intro _
    exact Durable.triple_read (fun _ _ h _ => h) fun _ _ h _ => h

theorem acknowledgeFrame_settled (frameId : Uuid) :
    Effect.Triple (fun d => AllSettled reports d.current) (BridgeOutbox.acknowledgeFrame frameId)
      (fun _ d => AllSettled reports d.current) (fun _ d => AllSettled reports d.current) := by
  apply Durable.triple_write
  · intro d s _ h hf
    split at hf
    · cases hf
      exact h
    · obtain ⟨_, _, hf⟩ := bind_eq_ok.mp hf
      cases hf
      exact h
  · exact fun _ _ h _ => h

theorem acknowledgeLifecycleFrame_settled (frameId : Uuid) :
    Effect.Triple (fun d => AllSettled reports d.current)
      (BridgeOutbox.acknowledgeLifecycleFrame frameId)
      (fun row d => AllSettled (reports ++ row.toList.map fun row =>
        .lifecycle row.frame.lifecycle.commandId row.frame.lifecycle.stage) d.current)
      (fun _ d => AllSettled reports d.current) := by
  apply Durable.triple_write
  · intro d s deleted h hf
    cases hf
    intro row hrow
    rcases h row hrow with ⟨hstage, hreported⟩ | ⟨hstage, hcut⟩
    · refine .inl ⟨hstage, ?_⟩
      rcases hreported with hreported | ⟨pending, hpending, hcommand, hpendingStage⟩
      · exact .inl (List.mem_append_left _ hreported)
      · by_cases hframe : pending.frame.frameId = frameId
        · cases hdeleted : d.current.lifecycles.find? (·.frame.frameId = frameId) with
          | none => exact absurd hframe ((UniqueTable.find?_none _).mp hdeleted pending hpending)
          | some found =>
            obtain ⟨hfound, hsame⟩ := UniqueTable.find?_some _ hdeleted
            rw [PendingLifecycleFrame.eq_of_frameId hpending hfound (hframe.trans hsame.symm)]
              at hcommand hpendingStage
            left
            rw [← hcommand, ← hpendingStage]
            simp
        · exact .inr ⟨pending, (UniqueTable.mem_delete _).mpr ⟨hpending, hframe⟩, hcommand,
            hpendingStage⟩
    · exact .inr ⟨hstage, List.mem_append_left _ hcut⟩
  · exact fun _ _ h _ => h

theorem discarded_settled {sessionId : String} {at_ : Instant} (h : AllSettled reports outbox)
    (hsession : ∀ row ∈ outbox.lifecycles, row.frame.lifecycle.sessionId.text = sessionId) :
    AllSettled reports (outbox.discarded sessionId at_) := by
  intro row hrow
  refine (h row hrow).mono fun pending hpending => (UniqueTable.mem_delete _).mpr ⟨hpending, ?_⟩
  exact fun hother => hother (hsession pending hpending)

theorem step_settled {call : BridgeCall}
    (hstep : CitAgentMeshBridge.Leaves sha256 outbox call outbox' out)
    (hwhole : ReportsWhole sha256 outbox call) (h : AllSettled reports outbox) :
    AllSettled (reports ++ out) outbox' := by
  have hnothing : ∀ {outbox}, AllSettled reports outbox → AllSettled (reports ++ []) outbox :=
    fun h => h.append
  cases call with
  | handleCommand frame mapping now clock crash => exact handleCommand_step hstep hwhole h
  | restart =>
    obtain ⟨rfl, rfl⟩ := hstep
    exact hnothing h
  | enqueueEvent sourceKey frame receipt createdAt =>
    obtain ⟨rfl, rfl⟩ := hstep
    apply CitAgentMeshBridge.ends_of_triple (R := fun out => AllSettled (reports ++ out))
    apply Effect.Triple.bind ((enqueueEvent_settled _ _ _ _).conseq ?_ (fun _ _ hd => hd)
      fun _ _ hd => hnothing hd)
    · intro _
      exact Effect.Triple.pure fun _ hd => hnothing hd
    · intro d hd
      rw [hd]
      exact h
  | acknowledgeFrame frameId =>
    obtain ⟨rfl, rfl⟩ := hstep
    apply CitAgentMeshBridge.ends_of_triple (R := fun out => AllSettled (reports ++ out))
    apply Effect.Triple.bind ((acknowledgeFrame_settled _).conseq ?_ (fun _ _ hd => hd)
      fun _ _ hd => hnothing hd)
    · intro _
      exact Effect.Triple.pure fun _ hd => AllSettled.append hd
    · intro d hd
      rw [hd]
      exact h
  | acknowledgeLifecycleFrame frameId =>
    obtain ⟨rfl, rfl⟩ := hstep
    apply CitAgentMeshBridge.ends_of_triple (R := fun out => AllSettled (reports ++ out))
    apply Effect.Triple.bind ((acknowledgeLifecycleFrame_settled _).conseq ?_ (fun _ _ hd => hd)
      fun _ _ hd => hnothing hd)
    · intro _
      exact Effect.Triple.pure fun _ hd => hd
    · intro d hd
      rw [hd]
      exact h
  | discardUndeliverableFrames sessionId at_ =>
    obtain ⟨rfl, rfl⟩ := hstep
    exact hnothing (discarded_settled h hwhole)

end Runs

/-- In a run whose handlings are never cut short between the commit of a terminal stage and
the last frame, every stage in a command's row is reported, or is the server's own DISPATCHED
after a handling that was cut short; and handling the command again to its end leaves it at a
terminal stage that is reported. -/
theorem lifecycle_durable {sha256 : String → String}
    {trace : List (BridgeCall × List BridgeReport)} {outbox : BridgeOutbox}
    (hrun : ((bridge sha256).restrict (ReportsWhole sha256)).Run trace outbox) :
    (∀ row ∈ outbox.commands,
      Reported (Machine.outputs trace) outbox row.commandId row.stage ∨
        (row.stage = .dispatched ∧ BridgeReport.interrupted row.commandId ∈ Machine.outputs trace)) ∧
    ∀ frame mapping now clock outbox', (bridge sha256).Step outbox
        (.handleCommand frame mapping now clock none) outbox' [.handled frame.command.commandId] →
      ∃ row ∈ outbox'.commands, row.commandId = frame.command.commandId ∧
        row.stage ∈ terminalStages ∧
        Reported (Machine.outputs trace) outbox' row.commandId row.stage := by
  have hsettled : AllSettled (Machine.outputs trace) outbox := by
    refine hrun.induct (P := fun trace => AllSettled (Machine.outputs trace)) ?_ ?_
    · intro outbox hinit row hrow
      obtain rfl : outbox = .empty := hinit
      exact absurd hrow (UniqueTable.not_mem_empty row)
    · intro trace outbox call outbox' out _ ih hstep
      rw [Machine.outputs_append, Machine.outputs_singleton]
      exact step_settled hstep.2 hstep.1 ih
  refine ⟨?_, ?_⟩
  · intro row hrow
    exact (hsettled row hrow).imp_left And.right
  · intro frame mapping now clock outbox' hstep
    have hprogram := program_handleCommand sha256 frame mapping now clock none
      (.boot outbox)
    have hstep : CitAgentMeshBridge.Leaves sha256 outbox
      (.handleCommand frame mapping now clock none) outbox' _ := hstep
    unfold CitAgentMeshBridge.Leaves at hstep
    rw [hprogram] at hstep
    cases hhandled : CitAgentMeshBridge.handleCommand sha256 frame mapping now clock
      (.boot outbox) with
    | error e d =>
      rw [hhandled] at hstep
      simp [Effect.returned, CitAgentMeshBridge.interruption] at hstep
    | ok u d =>
      rw [hhandled] at hstep
      obtain ⟨rfl, -⟩ := hstep
      obtain ⟨row, hrow, hcommand, hstage, hreported⟩ := (handled_settles hsettled hhandled).2
      refine ⟨row, hrow, hcommand, hstage, ?_⟩
      rw [hcommand]
      exact hreported.resolve_right (by simp)

namespace Lamp

def command : FabricResolvedCommand where
  commandId := ⟨1⟩
  requestMessageId := ⟨2⟩
  sessionId := ⟨"lesson-5", by decide⟩
  targetNodeId := ⟨"lamp-1", by decide⟩
  action := ⟨"light.switch", by decide⟩
  parameters := .empty
  priority := .student_interaction
  idempotencyKey := "lamp-on"
  requestedAt := 0
  expiresAt := 5000000
  safetyProfile := ⟨"classroom-5", by decide⟩
  correlationId := "lesson-5"
  causationId := none
  sourceNodeId := none

/-- The digests of the two texts that a rejection of the command hashes. -/
def sha256 (source : String) : String :=
  if source = "frame:00000000-0000-0000-0000-000000000001:REJECTED" then
    "8af7baa28ee32d929d34e4955ca21a634090983b13ccce92c418a11e50ffdc1e"
  else "caa43e7a84665e1c339bf9335b630a1fd624d443c2103ac2695c4904e41827cd"

def call (crash : Option ℕ) : BridgeCall :=
  .handleCommand { frameId := ⟨3⟩, command, sentAt := 0 }
    { nodes := [], agentSessionByNodeId := fun _ => none } 1000 (fun _ => 2000) crash

/-- The database after a crash behind the second commit of the handling. -/
def cutShort : Option BridgeOutbox :=
  (Effect.final (CitAgentMeshBridge.program sha256 (call (some 2)) (.boot .empty))).points[2]?

/-- The command's row is at REJECTED and no lifecycle frame waits. -/
def Unreported (outbox : BridgeOutbox) : Prop :=
  outbox.commands.rows.map (fun row => (row.commandId, row.stage)) = [(⟨1⟩, .rejected)] ∧
    outbox.lifecycles.rows.length = 0

instance : DecidablePred Unreported := fun _ => inferInstanceAs (Decidable (_ ∧ _))

end Lamp

theorem lifecycle_durable_lamp : ∃ trace outbox,
    ((bridge Lamp.sha256).restrict (ReportsWhole Lamp.sha256)).Run trace outbox ∧
    ∀ row ∈ outbox.commands, Reported (Machine.outputs trace) outbox row.commandId row.stage ∨
      (row.stage = .dispatched ∧ BridgeReport.interrupted row.commandId ∈ Machine.outputs trace) := by
  let M := (bridge Lamp.sha256).restrict (ReportsWhole Lamp.sha256)
  have hwhole : ReportsWhole Lamp.sha256 .empty (Lamp.call none) := by
    refine .inl ⟨?_, fun _ h => by cases h⟩
    decide +kernel
  have hstep : ∃ outbox, M.Step .empty (Lamp.call none) outbox
      (CitAgentMeshBridge.told Lamp.sha256 .empty (Lamp.call none)) :=
    ⟨_, hwhole, CitAgentMeshBridge.leaves_after Lamp.sha256 (Lamp.call none) trivial .empty⟩
  obtain ⟨outbox, hstep⟩ := hstep
  have hrun : M.Run _ outbox := ⟨.empty, rfl, Machine.Steps.nil.snoc hstep⟩
  exact ⟨_, outbox, hrun, (lifecycle_durable hrun).1⟩

/-- A crash between the stage and its frame: the command handled again to its end stays at
REJECTED, and no frame will tell the server. -/
theorem lifecycle_lost : ∃ trace outbox, (bridge Lamp.sha256).Run trace outbox ∧
    Machine.outputs trace = [.interrupted ⟨1⟩, .handled ⟨1⟩] ∧ Lamp.Unreported outbox := by
  have hcut : Lamp.cutShort.any fun outbox =>
      CitAgentMeshBridge.told Lamp.sha256 outbox (Lamp.call none) = [.handled ⟨1⟩] ∧
        Lamp.Unreported (CitAgentMeshBridge.after Lamp.sha256 outbox (Lamp.call none)) := by
    decide +kernel
  obtain ⟨outbox, houtbox, hafter⟩ := Option.any_eq_true _ _ |>.mp hcut
  have hcrash : (bridge Lamp.sha256).Step .empty (Lamp.call (some 2)) outbox [.interrupted ⟨1⟩] :=
    ⟨houtbox, rfl⟩
  obtain ⟨htold, hunreported⟩ := of_decide_eq_true hafter
  have hagain : (bridge Lamp.sha256).Step outbox (Lamp.call none)
      (CitAgentMeshBridge.after Lamp.sha256 outbox (Lamp.call none)) [.handled ⟨1⟩] := by
    rw [← htold]
    exact CitAgentMeshBridge.leaves_after Lamp.sha256 (Lamp.call none) trivial outbox
  exact ⟨_, _, ⟨.empty, rfl, (Machine.Steps.nil.snoc hcrash).snoc hagain⟩, rfl, hunreported⟩

end CitPhysicalXR.Bridge
