import CitPhysicalXR.Bridge.Bridge
import CitPhysicalXR.Bridge.HandlerRules
import Mathlib.Logic.Function.Basic

/-! Lifecycle frames on their way to the server: the order in which a command's stages are
enqueued, sent and received, over every sequence of commands, connections and resends. -/
namespace CitPhysicalXR.Bridge
open Foundation Fabric

inductive AdapterClientFrame where
  | event (frame : AdapterEventFrame)
  | lifecycle (frame : AdapterCommandLifecycleFrame)

def AdapterClientFrame.frameId : AdapterClientFrame → Uuid
  | .event frame => frame.frameId
  | .lifecycle frame => frame.frameId

def deliveryRetryMs : ℤ := 5000

/-- The bridge and its connection: `wire` holds what was sent and has not arrived yet, `received`
what the server has received and `enqueued` every lifecycle row so far, each in order. -/
structure Delivery where
  outbox : BridgeOutbox
  inFlight : Uuid → Option ℤ
  wire : List AdapterClientFrame
  received : List AdapterClientFrame
  enqueued : List PendingLifecycleFrame

/-- What the receive loop and the poll loop do, and what the connection does. A flush may end
early, when the socket closes after some of its sends. -/
inductive DeliveryEvent where
  | handleCommand (frame : AdapterCommandFrame) (mapping : AgentMeshFabricMapping)
      (now : Instant) (clock : FabricCommandLifecycleStage → Instant) (crash : Option ℕ)
  | enqueueEvent (sourceKey : String) (frame : AdapterEventFrame) (receipt : BridgeEventReceipt)
      (createdAt : Instant)
  | register
  | flush (sessionId : String) (now : Instant) (sends : ℕ)
  | arrive
  | acknowledge (frameId : Uuid)

/-- The lifecycle rows that are new. -/
def BridgeOutbox.added (outbox outbox' : BridgeOutbox) : List PendingLifecycleFrame :=
  outbox'.lifecycles.rows.filter fun row =>
    row.frame.frameId ∉ outbox.lifecycles.rows.map (·.frame.frameId)

/-- The frames of a flush, the oldest events and then the oldest lifecycles. -/
def BridgeOutbox.pendingFrames (outbox : BridgeOutbox) :
    Except BridgeError (List AdapterClientFrame) := do
  let events ← outbox.pendingEvents 100
  let lifecycles ← outbox.pendingLifecycles 100
  return events.map (AdapterClientFrame.event ·.frame) ++
    lifecycles.map (AdapterClientFrame.lifecycle ·.frame)

namespace Delivery
variable (d : Delivery)

def withOutbox (outbox : BridgeOutbox) : Delivery :=
  { d with outbox, enqueued := d.enqueued ++ d.outbox.added outbox }

def send (now : Instant) (frame : AdapterClientFrame) : Delivery :=
  { d with
    wire := d.wire ++ [frame]
    inFlight := Function.update d.inFlight frame.frameId (some now.getTime) }

/-- The frame was sent a short while ago. -/
def lately (now : Instant) (frame : AdapterClientFrame) : Bool :=
  (d.inFlight frame.frameId).any fun lastSentAt =>
    decide (now.getTime - lastSentAt < deliveryRetryMs)

def sendPending (now : Instant) : ℕ → List AdapterClientFrame → Delivery → Delivery
  | _, [], d => d
  | sends, frame :: rest, d =>
    if d.lately now frame then sendPending now sends rest d
    else
      match sends with
      | 0 => d
      | sends + 1 => sendPending now sends rest (d.send now frame)

def flush (sessionId : String) (now : Instant) (sends : ℕ) : Delivery :=
  let outbox := d.outbox.discarded sessionId now
  match outbox.pendingFrames with
  | .error _ => { d with outbox }
  | .ok frames => sendPending now sends frames { d with outbox }

/-- `adapter.ack` is looked up among the events and among the lifecycles. -/
def acknowledgeFrames (frameId : Uuid) : BridgeM Unit := do
  let _ ← BridgeOutbox.acknowledgeFrame frameId
  let _ ← BridgeOutbox.acknowledgeLifecycleFrame frameId

def acknowledge (frameId : Uuid) : Delivery :=
  match acknowledgeFrames frameId (.boot d.outbox) with
  | .ok _ done =>
    { d with outbox := done.current, inFlight := Function.update d.inFlight frameId none }
  | .error _ done => { d with outbox := done.current }

/-- One event. The server acknowledges only what it has received; a new connection, of this
process or of the one after it, starts with nothing in flight. -/
def Leaves (sha256 : String → String) (d : Delivery) : DeliveryEvent → Delivery → Prop
  | .handleCommand frame mapping now clock crash, d' => ∃ outbox out,
    CitAgentMeshBridge.Leaves sha256 d.outbox (.handleCommand frame mapping now clock crash)
      outbox out ∧ d' = d.withOutbox outbox
  | .enqueueEvent sourceKey frame receipt createdAt, d' => ∃ outbox out,
    CitAgentMeshBridge.Leaves sha256 d.outbox (.enqueueEvent sourceKey frame receipt createdAt)
      outbox out ∧ d' = d.withOutbox outbox
  | .register, d' => d' = { d with inFlight := fun _ => none, wire := [] }
  | .flush sessionId now sends, d' => d' = d.flush sessionId now sends
  | .arrive, d' => ∃ frame wire, d.wire = frame :: wire ∧
    d' = { d with wire, received := d.received ++ [frame] }
  | .acknowledge frameId, d' =>
    frameId ∈ d.received.map (·.frameId) ∧ d' = d.acknowledge frameId

end Delivery

/-- The bridge from an empty database, and the server that it reports to. -/
def delivery (sha256 : String → String) : Machine Delivery DeliveryEvent Empty where
  Initial d := d = ⟨.empty, fun _ => none, [], [], []⟩
  Step d event d' _ := d.Leaves sha256 event d'

/-- Where a frame will stand that is enqueued at its reading of the clock. -/
def AdapterCommandLifecycleFrame.positionAt (clock : FabricCommandLifecycleStage → Instant)
    (frame : AdapterCommandLifecycleFrame) : String ×ₗ String :=
  toLex ((clock frame.lifecycle.stage).toISOString, frame.frameId.text)

structure Answered (sha256 : String → String) (frame : AdapterCommandFrame)
    (mapping : AgentMeshFabricMapping) (now : Instant) (base : BridgeOutbox)
    (frames : List AdapterCommandLifecycleFrame) : Prop where
  first : ¬ base.HasTerminal frame.command.commandId
  answers : ∃ stage, MirrorCommandHandler.Answers sha256 frame.command now frames stage
  result : ∃ d, MirrorCommandHandler.handle sha256 frame mapping now (.boot base) = .ok frames d

structure Enqueues (clock : FabricCommandLifecycleStage → Instant) (commandId : Uuid)
    (frames : List AdapterCommandLifecycleFrame) (base : BridgeOutbox)
    (new : List PendingLifecycleFrame) (outbox : BridgeOutbox) : Prop where
  rows : outbox.lifecycles.rows = base.lifecycles.rows ++ new
  kept : ∀ other, base.HasTerminal other → outbox.HasTerminal other
  frames : (new.map (·.frame)).Sublist frames
  created : ∀ row ∈ new, row.createdAt = clock row.frame.lifecycle.stage

section Handler
variable {sha256 : String → String} {frame : AdapterCommandFrame}
  {mapping : AgentMeshFabricMapping} {now : Instant}
  {clock : FabricCommandLifecycleStage → Instant} {base : BridgeOutbox}

variable {outbox : BridgeOutbox} {rest : List AdapterCommandLifecycleFrame}

theorem BridgeOutbox.HasTerminal.updated {other commandId : Uuid}
    (h : outbox.HasTerminal other) {stage : FabricCommandLifecycleStage}
    (hstage : stage ∈ terminalStages) (agentMeshCommandId : Option String) (updatedAt : Instant) :
    (outbox.updated commandId stage agentMeshCommandId updatedAt).HasTerminal other := by
  obtain ⟨row, hrow, hcommand, hterminal⟩ := h
  by_cases hsame : row.commandId = commandId
  · exact ⟨_, BridgeOutbox.mem_updated.mpr (.inl ⟨row, hrow, hsame, rfl⟩), hcommand, hstage⟩
  · exact ⟨row, BridgeOutbox.mem_updated.mpr (.inr ⟨hrow, hsame⟩), hcommand, hterminal⟩

theorem enqueues_invariant (clock : FabricCommandLifecycleStage → Instant) (commandId : Uuid)
    (base : BridgeOutbox) :
    MirrorCommandHandler.Invariant commandId (Enqueues clock commandId [] base []) where
  recorded outbox input hcommand hstage h := by
    refine ⟨h.rows, fun other hother => ?_, h.frames, h.created⟩
    obtain ⟨row, hrow, hterminal⟩ := h.kept other hother
    exact ⟨row, (UniqueTable.mem_insertOrIgnore _).mpr (.inl hrow), hterminal⟩
  updated outbox stage agentMeshCommandId updatedAt hstage h :=
    ⟨h.rows, fun other hother => (h.kept other hother).updated hstage _ _, h.frames, h.created⟩
  routed outbox routes h := ⟨h.rows, h.kept, h.frames, h.created⟩

/-- A database that the handling of a command goes through. -/
def Passes (sha256 : String → String) (frame : AdapterCommandFrame)
    (mapping : AgentMeshFabricMapping) (now : Instant)
    (clock : FabricCommandLifecycleStage → Instant) (base outbox : BridgeOutbox) : Prop :=
  Enqueues clock frame.command.commandId [] base [] outbox ∨ ∃ frames new,
    Answered sha256 frame mapping now base frames ∧
      outbox.HasTerminal frame.command.commandId ∧
      Enqueues clock frame.command.commandId frames base new outbox

/-- With the frames of `rest` still to be enqueued. -/
structure Enqueuing (clock : FabricCommandLifecycleStage → Instant) (commandId : Uuid)
    (frames : List AdapterCommandLifecycleFrame) (base : BridgeOutbox)
    (rest : List AdapterCommandLifecycleFrame) (outbox : BridgeOutbox) : Prop where
  terminal : outbox.HasTerminal commandId
  enqueues : ∃ new, Enqueues clock commandId frames base new outbox ∧
    (new.map (·.frame) ++ rest).Sublist frames

theorem Enqueuing.skip {commandId : Uuid} {frames : List AdapterCommandLifecycleFrame}
    {lifecycle : AdapterCommandLifecycleFrame}
    (h : Enqueuing clock commandId frames base (lifecycle :: rest) outbox) :
    Enqueuing clock commandId frames base rest outbox := by
  obtain ⟨hterminal, new, hnew, hframes⟩ := h
  refine ⟨hterminal, new, hnew, ?_⟩
  exact ((List.sublist_cons_self lifecycle rest).append_left _).trans hframes

theorem Enqueuing.insert {commandId : Uuid} {frames : List AdapterCommandLifecycleFrame}
    {lifecycle : AdapterCommandLifecycleFrame}
    (h : Enqueuing clock commandId frames base (lifecycle :: rest) outbox) :
    Enqueuing clock commandId frames base rest { outbox with
      lifecycles := outbox.lifecycles.insertOrIgnore
        { frame := lifecycle, createdAt := clock lifecycle.lifecycle.stage } } := by
  by_cases hclash : outbox.lifecycles.Clashes
      { frame := lifecycle, createdAt := clock lifecycle.lifecycle.stage }
  · rw [UniqueTable.insertOrIgnore, dif_pos hclash]
    exact h.skip
  · obtain ⟨hterminal, new, hnew, hframes⟩ := h
    let row : PendingLifecycleFrame :=
      { frame := lifecycle, createdAt := clock lifecycle.lifecycle.stage }
    have hrest : ((new ++ [row]).map (·.frame) ++ rest).Sublist frames := by
      simpa [row] using hframes
    refine ⟨hterminal, new ++ [row], ⟨?_, hnew.kept, ?_, ?_⟩, hrest⟩
    · rw [UniqueTable.insertOrIgnore, dif_neg hclash]
      change outbox.lifecycles.rows ++ [_] = _
      rw [hnew.rows, List.append_assoc]
    · exact (List.sublist_append_left _ _).trans hrest
    · intro row hrow
      rcases List.mem_append.mp hrow with hrow | hrow
      · exact hnew.created row hrow
      · obtain rfl := List.mem_singleton.mp hrow
        rfl

theorem Enqueuing.passes {frames : List AdapterCommandLifecycleFrame}
    (hanswered : Answered sha256 frame mapping now base frames)
    (h : Enqueuing clock frame.command.commandId frames base rest outbox) :
    Passes sha256 frame mapping now clock base outbox := by
  obtain ⟨hterminal, new, hnew, _⟩ := h
  exact .inr ⟨frames, new, hanswered, hterminal, hnew⟩

theorem enqueueLifecycle_passes {frames : List AdapterCommandLifecycleFrame}
    (hanswered : Answered sha256 frame mapping now base frames)
    (lifecycle : AdapterCommandLifecycleFrame) (rest : List AdapterCommandLifecycleFrame) :
    Effect.Triple
      (fun d => Durable.Always (Passes sha256 frame mapping now clock base) d ∧
        Enqueuing clock frame.command.commandId frames base (lifecycle :: rest) d.current)
      (BridgeOutbox.enqueueLifecycle lifecycle (clock lifecycle.lifecycle.stage)).discard
      (fun _ d => Durable.Always (Passes sha256 frame mapping now clock base) d ∧
        Enqueuing clock frame.command.commandId frames base rest d.current)
      (fun _ => Durable.Always (Passes sha256 frame mapping now clock base)) := by
  apply Effect.Triple.discard
  apply Effect.Triple.bind (Q := fun _ d =>
    Durable.Always (Passes sha256 frame mapping now clock base) d ∧
      Enqueuing clock frame.command.commandId frames base (lifecycle :: rest) d.current)
  · exact Durable.triple_read (fun _ _ hd _ => hd) fun _ _ hd _ => hd.1
  · intro _
    apply Effect.Triple.bind (Q := fun _ d =>
      Durable.Always (Passes sha256 frame mapping now clock base) d ∧
        Enqueuing clock frame.command.commandId frames base rest d.current)
    · apply Durable.triple_write
      · intro d s _ hd hf
        cases hf
        have hinserted := hd.2.insert
        exact ⟨hd.1.commit (hinserted.passes hanswered), hinserted⟩
      · exact fun _ _ hd _ => hd.1
    · intro _
      exact Durable.triple_read (fun _ _ hd _ => hd) fun _ _ hd _ => hd.1

theorem handleCommand_passes :
    Effect.Triple (· = .boot base) (CitAgentMeshBridge.handleCommand sha256 frame mapping now clock)
      (fun _ => Durable.Always (Passes sha256 frame mapping now clock base))
      (fun _ => Durable.Always (Passes sha256 frame mapping now clock base)) := by
  have hboot : Enqueues clock frame.command.commandId [] base [] base :=
    ⟨(List.append_nil _).symm, fun _ h => h, .refl _, fun _ h => absurd h List.not_mem_nil⟩
  have hresult : Effect.Triple (· = Durable.boot base)
      (MirrorCommandHandler.handle sha256 frame mapping now) _ _ := Effect.Triple.result
  have hhandled := hresult.and (MirrorCommandHandler.handle_settles
      (enqueues_invariant clock frame.command.commandId base) base)
  apply Effect.Triple.bind (hhandled.conseq ?_ (fun _ _ hd => hd) ?_)
  · intro frames d hd
    obtain ⟨hresult, halways, ⟨rfl, _⟩ | ⟨hfirst, row, hrow, hcommand, hanswers⟩⟩ := hd
    · exact halways.mono fun _ h => .inl h
    · have hanswered : Answered sha256 frame mapping now base frames :=
        ⟨hfirst, ⟨_, hanswers⟩, d, hresult⟩
      have hcurrent := halways.current
      refine Effect.Triple.conseq (Effect.Triple.forEach_rest
        (J := fun rest d => Durable.Always (Passes sha256 frame mapping now clock base) d ∧
          Enqueuing clock frame.command.commandId frames base rest d.current)
        (enqueueLifecycle_passes hanswered) frames) (fun _ hd => hd) (fun _ _ hd => hd.1)
        (fun _ _ hd => hd) d ⟨halways.mono fun _ h => .inl h, ⟨row, hrow, hcommand,
          hanswers.terminal⟩, [], ⟨hcurrent.rows, hcurrent.kept, List.nil_sublist _,
          hcurrent.created⟩, .refl _⟩
  · intro d hd
    rw [hd]
    exact ⟨rfl, Durable.always_boot hboot, rfl⟩
  · exact fun _ _ hd => hd.2.mono fun _ h => .inl h

theorem handleCommand_leaves {crash : Option ℕ} {out : List BridgeReport}
    (h : CitAgentMeshBridge.Leaves sha256 base (.handleCommand frame mapping now clock crash)
      outbox out) : Passes sha256 frame mapping now clock base outbox := by
  have hprogram : Effect.Triple (· = .boot base)
      (CitAgentMeshBridge.program sha256 (.handleCommand frame mapping now clock none))
      (fun _ => Durable.Always (Passes sha256 frame mapping now clock base))
      (fun _ => Durable.Always (Passes sha256 frame mapping now clock base)) := by
    apply Effect.Triple.bind handleCommand_passes
    intro _
    exact Effect.Triple.pure fun _ hd => hd
  have hpoints : Durable.Always (Passes sha256 frame mapping now clock base) (Effect.final
      (CitAgentMeshBridge.program sha256 (.handleCommand frame mapping now clock none)
        (.boot base))) := by
    have h := hprogram (.boot base) rfl
    split at h
    · rename_i hrun
      rw [hrun]
      exact h
    · rename_i hrun
      rw [hrun]
      exact h
  cases crash with
  | none =>
    obtain ⟨rfl, _⟩ := h
    exact hpoints.current
  | some commits => exact hpoints outbox (CitAgentMeshBridge.Leaves.of_crash sha256 h).1

theorem enqueueEvent_leaves {sourceKey : String} {eventFrame : AdapterEventFrame}
    {receipt : BridgeEventReceipt} {createdAt : Instant}
    {out : List BridgeReport}
    (h : CitAgentMeshBridge.Leaves sha256 base
      (.enqueueEvent sourceKey eventFrame receipt createdAt) outbox out) :
    outbox.lifecycles = base.lifecycles ∧ outbox.commands = base.commands := by
  have hkeeps : Keeps (fun outbox => outbox.lifecycles = base.lifecycles ∧
      outbox.commands = base.commands)
      (CitAgentMeshBridge.program sha256
        (.enqueueEvent sourceKey eventFrame receipt createdAt)) := by
    apply Effect.Triple.bind
    · apply Effect.Triple.bind read_keeps
      intro _
      refine Effect.Triple.bind (execute_keeps ?_) fun _ => read_keeps
      exact fun _ h => h
    · intro _
      exact Effect.Triple.pure fun _ hd => hd
  obtain ⟨rfl, _⟩ := h
  exact (hkeeps.final (Durable.always_boot ⟨rfl, rfl⟩)).current

end Handler
end CitPhysicalXR.Bridge
