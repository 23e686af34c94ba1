import CitPhysicalXR.Bridge.CommandHandler

/-! What the handling of a command answers and writes, for any property of the database that
each single write keeps. -/
namespace CitPhysicalXR.Bridge
open Foundation Fabric

/-- A property of every commit, kept also when the program raises. -/
abbrev Keeps (I : BridgeOutbox → Prop) {α : Type} (m : BridgeM α) : Prop :=
  Effect.Triple (Durable.Always I) m (fun _ => Durable.Always I) (fun _ => Durable.Always I)

section Keeps
variable {I : BridgeOutbox → Prop}

theorem read_keeps {α : Type} {f : BridgeOutbox → Except BridgeError α} :
    Keeps I (Durable.read f) :=
  Durable.triple_read (fun _ _ h _ => h) fun _ _ h _ => h

theorem execute_keeps {f : BridgeOutbox → BridgeOutbox} (h : ∀ outbox, I outbox → I (f outbox)) :
    Keeps I (execute f) := by
  apply Durable.triple_write
  · intro d s _ hI hf
    cases hf
    exact hI.commit (h _ hI.current)
  · exact fun _ _ hI _ => hI

end Keeps

def BridgeOutbox.HasTerminal (outbox : BridgeOutbox) (commandId : Uuid) : Prop :=
  ∃ row ∈ outbox.commands, row.commandId = commandId ∧ row.stage ∈ terminalStages

namespace MirrorCommandHandler

/-- A property of databases that the writes of a command's handling keep. -/
structure Invariant (commandId : Uuid) (I : BridgeOutbox → Prop) : Prop where
  recorded : ∀ outbox (input : BridgeCommandReceipt), input.commandId = commandId →
    input.stage = .dispatched → I outbox →
      I { outbox with commands := outbox.commands.insertOrIgnore input }
  updated : ∀ outbox stage agentMeshCommandId updatedAt, stage ∈ terminalStages → I outbox →
    I (outbox.updated commandId stage agentMeshCommandId updatedAt)
  routed : ∀ outbox routes, I outbox → I { outbox with routes }

inductive Answers (sha256 : String → String) (command : FabricResolvedCommand) (now : Instant) :
    List AdapterCommandLifecycleFrame → FabricCommandLifecycleStage → Prop
  | single {stage : FabricCommandLifecycleStage} (hstage : stage ∈ terminalStages)
      (report : Report) :
      Answers sha256 command now [lifecycleFrame sha256 command stage now report] stage
  | confirmed (accepted succeeded : Report) :
      Answers sha256 command now [lifecycleFrame sha256 command .accepted now accepted,
        lifecycleFrame sha256 command .succeeded now succeeded] .succeeded

def Reports (sha256 : String → String) (command : FabricResolvedCommand) (now : Instant)
    (frames : List AdapterCommandLifecycleFrame) (outbox : BridgeOutbox) : Prop :=
  ∃ row ∈ outbox.commands, row.commandId = command.commandId ∧
    Answers sha256 command now frames row.stage

section Rules
variable {sha256 : String → String} {command : FabricResolvedCommand} {now : Instant}
  {frames : List AdapterCommandLifecycleFrame} {stage : FabricCommandLifecycleStage}

theorem Answers.terminal (h : Answers sha256 command now frames stage) :
    stage ∈ terminalStages := by
  cases h with
  | single hstage => exact hstage
  | confirmed => decide

theorem Answers.mem_stage (h : Answers sha256 command now frames stage) :
    ∃ frame ∈ frames, frame.lifecycle.commandId = command.commandId ∧
      frame.lifecycle.stage = stage := by
  cases h with
  | single => exact ⟨_, List.mem_singleton_self _, rfl, rfl⟩
  | confirmed => exact ⟨_, List.mem_cons_of_mem _ (List.mem_singleton_self _), rfl, rfl⟩

theorem Answers.frame_eq (h : Answers sha256 command now frames stage) :
    ∀ frame ∈ frames, ∃ stage report, frame = lifecycleFrame sha256 command stage now report := by
  intro frame hframe
  cases h with
  | single _ report =>
    obtain rfl := List.mem_singleton.mp hframe
    exact ⟨_, report, rfl⟩
  | confirmed accepted succeeded =>
    rcases List.mem_cons.mp hframe with rfl | hframe
    · exact ⟨_, accepted, rfl⟩
    · obtain rfl := List.mem_singleton.mp hframe
      exact ⟨_, succeeded, rfl⟩

variable (I : BridgeOutbox → Prop)

/-- A program that keeps a property at each of its commits, whichever way it ends. -/
abbrev Handles {α : Type} (m : BridgeM α) (Q : α → BridgeOutbox → Prop) : Prop :=
  Effect.Triple (Durable.Always I) m (fun a d => Durable.Always I d ∧ Q a d.current)
    (fun _ => Durable.Always I)

variable {I}

/-- A program that only keeps the property, before another one. -/
theorem Handles.next {α β : Type} {m : BridgeM α} {k : α → BridgeM β}
    {Q : α → BridgeOutbox → Prop} {R : β → BridgeOutbox → Prop} (hm : Handles I m Q)
    (hk : ∀ a, Handles I (k a) R) : Handles I (m >>= k) R :=
  Effect.Triple.bind hm fun a => (hk a).conseq (fun _ hd => hd.1) (fun _ _ hd => hd)
    fun _ _ hd => hd

theorem read_handles {α : Type} {f : BridgeOutbox → Except BridgeError α} :
    Handles I (Durable.read f) fun a outbox => f outbox = .ok a :=
  Durable.triple_read (fun _ _ h hf => ⟨h, hf⟩) fun _ _ h _ => h

/-- A frame is built from its arguments and writes nothing. -/
theorem lifecycle_handles (stage : FabricCommandLifecycleStage) (report : Report)
    (P : BridgeOutbox → Prop) :
    Effect.Triple (fun d => Durable.Always I d ∧ P d.current)
      (lifecycle sha256 command stage now report)
      (fun frame d => Durable.Always I d ∧ P d.current ∧
        frame = lifecycleFrame sha256 command stage now report)
      (fun _ => Durable.Always I) := by
  apply Durable.triple_read
  · intro d frame hd hf
    obtain ⟨_, hf⟩ := seq_eq_ok.mp hf
    cases hf
    exact ⟨hd.1, hd.2, rfl⟩
  · exact fun _ _ hd _ => hd.1

variable (hI : Invariant command.commandId I)
include hI

theorem recordCommand_handles {input : BridgeCommandReceipt}
    (hcommand : input.commandId = command.commandId) (hstage : input.stage = .dispatched) :
    Handles I (BridgeOutbox.recordCommand input) fun _ _ => True := by
  apply Durable.triple_write
  · intro d s _ hd hf
    split at hf
    · obtain ⟨_, hf⟩ := seq_eq_ok.mp hf
      cases hf
      exact ⟨hd.commit hd.current, trivial⟩
    · cases hf
      exact ⟨hd.commit (hI.recorded _ _ hcommand hstage hd.current), trivial⟩
  · exact fun _ _ hd _ => hd

theorem updateCommand_handles {stage : FabricCommandLifecycleStage}
    (hstage : stage ∈ terminalStages) (agentMeshCommandId : Option String) (updatedAt : Instant) :
    Handles I (BridgeOutbox.updateCommand command.commandId stage agentMeshCommandId updatedAt)
      fun _ outbox => ∃ row ∈ outbox.commands, row.commandId = command.commandId ∧
        row.stage = stage := by
  apply Durable.triple_write
  · intro d s _ hd hf
    obtain ⟨_, hf⟩ := seq_eq_ok.mp hf
    split at hf
    · cases hf
    · rename_i row hrow
      obtain ⟨hmem, hsame⟩ := UniqueTable.find?_some _ hrow
      cases hf
      refine ⟨hd.commit (hI.updated _ _ _ _ hstage hd.current), _, hmem, hsame, ?_⟩
      rcases BridgeOutbox.mem_updated.mp hmem with ⟨row₀, _, _, rfl⟩ | ⟨_, hne⟩
      · rfl
      · exact absurd hsame hne
  · exact fun _ _ hd _ => hd

theorem recordAgentRoute_handles (route : BridgeAgentRoute) :
    Handles I (BridgeOutbox.recordAgentRoute route) fun _ _ => True := by
  unfold BridgeOutbox.recordAgentRoute execute
  apply Durable.triple_write
  · intro d s _ hd hf
    cases hf
    exact ⟨hd.commit (hI.routed _ _ hd.current), trivial⟩
  · exact fun _ _ hd _ => hd

theorem terminal_handles {stage : FabricCommandLifecycleStage} (hstage : stage ∈ terminalStages)
    (report : Report) :
    Handles I (terminal sha256 command stage now report) fun frame outbox =>
      (∃ row ∈ outbox.commands, row.commandId = command.commandId ∧ row.stage = stage) ∧
        frame = lifecycleFrame sha256 command stage now report := by
  apply Effect.Triple.bind (updateCommand_handles hI hstage none now)
  intro _
  exact lifecycle_handles stage report fun outbox => ∃ row ∈ outbox.commands,
    row.commandId = command.commandId ∧ row.stage = stage

theorem answer_handles {stage : FabricCommandLifecycleStage} (hstage : stage ∈ terminalStages)
    (report : Report) :
    Handles I (do return [← terminal sha256 command stage now report])
      (Reports sha256 command now) := by
  apply Effect.Triple.bind (terminal_handles hI hstage report)
  intro frame
  apply Effect.Triple.pure
  intro d hd
  obtain ⟨hd, ⟨row, hrow, hcommand, rfl⟩, rfl⟩ := hd
  exact ⟨hd, row, hrow, hcommand, .single hstage report⟩

theorem reject_handles (code message : String) :
    Handles I (reject sha256 command code message now) (Reports sha256 command now) :=
  answer_handles hI (by decide) _

theorem confirm_handles (accepted succeeded : Report) :
    Handles I (confirm sha256 command now accepted succeeded) (Reports sha256 command now) := by
  apply Effect.Triple.bind
    (Q := fun frame d => Durable.Always I d ∧
      frame = lifecycleFrame sha256 command .accepted now accepted)
  · refine (lifecycle_handles (I := I) .accepted accepted fun _ => True).conseq ?_ ?_ ?_
    · exact fun _ hd => ⟨hd, trivial⟩
    · exact fun _ _ hd => ⟨hd.1, hd.2.2⟩
    · exact fun _ _ hd => hd
  · intro first
    apply Effect.Triple.assume
    intro hfirst
    apply Effect.Triple.bind (terminal_handles hI (by decide) succeeded)
    intro last
    apply Effect.Triple.pure
    intro d hd
    obtain ⟨hd, ⟨row, hrow, hcommand, hstage⟩, rfl⟩ := hd
    refine ⟨hd, row, hrow, hcommand, ?_⟩
    rw [hstage, hfirst]
    exact .confirmed accepted succeeded

theorem confirmPrompt_handles (targetSession : AgentMeshSession) (receipt : BridgeEventReceipt) :
    Handles I (confirmPrompt sha256 command targetSession receipt now)
      (Reports sha256 command now) := by
  have hroute : Handles I (recordDispatchedRoute command receipt now) fun _ _ => True := by
    unfold recordDispatchedRoute
    split
    · exact Effect.Triple.pure fun _ hd => ⟨hd, trivial⟩
    · exact recordAgentRoute_handles hI _
  exact hroute.next fun _ => confirm_handles hI _ _

theorem matchPrompt_handles (targetSession : AgentMeshSession) (prompt : String)
    (receipt : Option BridgeEventReceipt) :
    Handles I (matchPrompt sha256 command targetSession prompt receipt now)
      (Reports sha256 command now) := by
  unfold matchPrompt
  split
  · exact reject_handles hI _ _
  · split
    · exact reject_handles hI _ _
    · split
      · exact reject_handles hI _ _
      · exact confirmPrompt_handles hI _ _

variable {mapping : AgentMeshFabricMapping}

theorem agentPrompt_handles :
    Handles I (agentPrompt sha256 command mapping now) (Reports sha256 command now) := by
  unfold agentPrompt
  split
  · exact reject_handles hI _ _
  · split
    · exact reject_handles hI _ _
    · exact read_handles.next fun receipt => matchPrompt_handles hI _ _ receipt

theorem matchDisplay_handles (text : String) (receipt : Option BridgeEventReceipt) :
    Handles I (matchDisplay sha256 command text receipt now) (Reports sha256 command now) := by
  unfold matchDisplay
  split
  · exact reject_handles hI _ _
  · exact confirm_handles hI _ _

theorem display_handles :
    Handles I (display sha256 command mapping now) (Reports sha256 command now) := by
  unfold display
  split
  · exact reject_handles hI _ _
  · split
    · exact reject_handles hI _ _
    · exact read_handles.next fun receipt => matchDisplay_handles hI _ receipt

theorem finish_handles :
    Handles I (finish sha256 command mapping now) (Reports sha256 command now) := by
  unfold finish
  split
  · exact answer_handles hI (by decide) _
  · split
    · exact agentPrompt_handles hI
    · split
      · exact display_handles hI
      · exact reject_handles hI _ _

end Rules

/-- A command is answered once: nothing happens when its row is at a terminal stage, and else
the row gets there. -/
def Settles (sha256 : String → String) (command : FabricResolvedCommand) (now : Instant)
    (base : BridgeOutbox) (frames : List AdapterCommandLifecycleFrame) (outbox : BridgeOutbox) :
    Prop :=
  (frames = [] ∧ outbox = base ∧ base.HasTerminal command.commandId) ∨
    (¬ base.HasTerminal command.commandId ∧ Reports sha256 command now frames outbox)

theorem handle_settles {sha256 : String → String} {frame : AdapterCommandFrame}
    {mapping : AgentMeshFabricMapping} {now : Instant} {I : BridgeOutbox → Prop}
    (hI : Invariant frame.command.commandId I) (base : BridgeOutbox) :
    Effect.Triple (fun d => Durable.Always I d ∧ d.current = base)
      (handle sha256 frame mapping now)
      (fun frames d => Durable.Always I d ∧ Settles sha256 frame.command now base frames d.current)
      (fun _ => Durable.Always I) := by
  apply Effect.Triple.bind (Q := fun existing d => (Durable.Always I d ∧ d.current = base) ∧
    base.command frame.command.commandId = existing)
  · apply Durable.triple_read
    · intro d existing hd hf
      cases hf
      exact ⟨hd, by rw [hd.2]⟩
    · intro d e _ hf
      cases hf
  · intro existing
    apply Effect.Triple.assume
    intro hexisting
    have hanswered : ¬ base.HasTerminal frame.command.commandId →
        Effect.Triple (Durable.Always I) (finish sha256 frame.command mapping now)
          (fun frames d => Durable.Always I d ∧
            Settles sha256 frame.command now base frames d.current)
          (fun _ => Durable.Always I) := by
      intro hnone
      exact (finish_handles hI).conseq (fun _ hd => hd) (fun _ _ hd => ⟨hd.1, .inr ⟨hnone, hd.2⟩⟩)
        fun _ _ hd => hd
    cases existing with
    | none =>
      have hnone : ¬ base.HasTerminal frame.command.commandId := by
        intro h
        obtain ⟨row, hrow, hcommand, _⟩ := h
        exact UniqueTable.find?_none _ |>.mp hexisting row hrow hcommand
      apply Effect.Triple.bind ((recordCommand_handles hI rfl rfl).conseq (fun _ hd => hd.1)
        (fun _ _ hd => hd.1) fun _ _ hd => hd)
      intro _
      exact hanswered hnone
    | some existing =>
      obtain ⟨hmem, hsame⟩ := UniqueTable.find?_some _ hexisting
      apply Effect.Triple.bind (Q := fun _ d => Durable.Always I d ∧ d.current = base)
      · exact Durable.triple_read (fun _ _ hd _ => hd) fun _ _ hd _ => hd.1
      · intro _
        split
        · rename_i hstage
          apply Effect.Triple.pure
          intro d hd
          exact ⟨hd.1, .inl ⟨rfl, hd.2, existing, hmem, hsame, hstage⟩⟩
        · rename_i hstage
          refine (hanswered ?_).conseq (fun _ hd => hd.1) (fun _ _ hd => hd) fun _ _ hd => hd
          intro h
          obtain ⟨row, hrow, hcommand, hterminal⟩ := h
          rw [BridgeCommandReceipt.eq_of_commandId hrow hmem (hcommand.trans hsame.symm)]
            at hterminal
          exact hstage hterminal

end MirrorCommandHandler
end CitPhysicalXR.Bridge
