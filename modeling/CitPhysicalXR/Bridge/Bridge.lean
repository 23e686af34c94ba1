import CitPhysicalXR.Bridge.CommandHandler
import CitPhysicalXR.Foundation.Transition

/-! The bridge process over its outbox: what the poll loop and the receive loop do to the
database, in any order, with a crash between any two commits of a command. -/
namespace CitPhysicalXR.Bridge
open Foundation Fabric

/-- One call on the outbox. A command may be cut short by a crash after some of its commits;
every other call commits at most once. `restart` opens the database again. -/
inductive BridgeCall where
  | enqueueEvent (sourceKey : String) (frame : AdapterEventFrame) (receipt : BridgeEventReceipt)
      (createdAt : Instant)
  | acknowledgeFrame (frameId : Uuid)
  | acknowledgeLifecycleFrame (frameId : Uuid)
  | discardUndeliverableFrames (sessionId : String) (at_ : Instant)
  | handleCommand (frame : AdapterCommandFrame) (mapping : AgentMeshFabricMapping)
      (now : Instant) (clock : FabricCommandLifecycleStage → Instant) (crash : Option ℕ)
  | restart

/-- What becomes known of a call: the frames that the fabric has acknowledged, and whether the
handling of a command went to its end. -/
inductive BridgeReport where
  | event (sourceKey : String)
  | lifecycle (commandId : Uuid) (stage : FabricCommandLifecycleStage)
  | handled (commandId : Uuid)
  | interrupted (commandId : Uuid)
  deriving DecidableEq

namespace CitAgentMeshBridge
variable (sha256 : String → String)

def enqueueAll (clock : FabricCommandLifecycleStage → Instant) :
    List AdapterCommandLifecycleFrame → BridgeM Unit :=
  Effect.forEach fun frame =>
    (BridgeOutbox.enqueueLifecycle frame (clock frame.lifecycle.stage)).discard

def handleCommand (frame : AdapterCommandFrame) (mapping : AgentMeshFabricMapping)
    (now : Instant) (clock : FabricCommandLifecycleStage → Instant) : BridgeM Unit := do
  let frames ← MirrorCommandHandler.handle sha256 frame mapping now
  enqueueAll clock frames

/-- A call without its crash. -/
def program : BridgeCall → BridgeM (List BridgeReport)
  | .enqueueEvent sourceKey frame receipt createdAt => do
    let _ ← BridgeOutbox.enqueueEvent sourceKey frame receipt createdAt
    return []
  | .acknowledgeFrame frameId => do
    let receipt ← BridgeOutbox.acknowledgeFrame frameId
    return receipt.toList.map fun receipt => .event receipt.sourceKey
  | .acknowledgeLifecycleFrame frameId => do
    let row ← BridgeOutbox.acknowledgeLifecycleFrame frameId
    return row.toList.map fun row =>
      .lifecycle row.frame.lifecycle.commandId row.frame.lifecycle.stage
  | .discardUndeliverableFrames sessionId at_ => do
    let _ ← BridgeOutbox.discardUndeliverableFrames sessionId at_
    return []
  | .handleCommand frame mapping now clock _ => do
    handleCommand sha256 frame mapping now clock
    return [.handled frame.command.commandId]
  | .restart => pure []

/-- What is known of a call that raised or that a crash cut short. -/
def interruption : BridgeCall → List BridgeReport
  | .handleCommand frame _ _ _ _ => [.interrupted frame.command.commandId]
  | _ => []

/-- The states that a call can leave behind, with what is then known of it. -/
def Leaves (outbox : BridgeOutbox) (call : BridgeCall) (outbox' : BridgeOutbox)
    (out : List BridgeReport) : Prop :=
  let result := program sha256 call (.boot outbox)
  match call with
  | .handleCommand _ _ _ _ (some commits) =>
    (Effect.final result).points[commits]? = some outbox' ∧ out = interruption call
  | _ => (Effect.final result).current = outbox' ∧
      out = (Effect.returned result).getD (interruption call)

theorem ends_of_triple {m : BridgeM (List BridgeReport)} {outbox : BridgeOutbox}
    {unfinished : List BridgeReport} {R : List BridgeReport → BridgeOutbox → Prop}
    (h : Effect.Triple (· = .boot outbox) m (fun out d => R out d.current)
      fun _ d => R unfinished d.current) :
    R ((Effect.returned (m (.boot outbox))).getD unfinished)
      (Effect.final (m (.boot outbox))).current := by
  have h := h (.boot outbox) rfl
  cases hrun : m (.boot outbox) with
  | ok out d =>
    rw [hrun] at h
    exact h
  | error e d =>
    rw [hrun] at h
    exact h

def after (outbox : BridgeOutbox) (call : BridgeCall) : BridgeOutbox :=
  (Effect.final (program sha256 call (.boot outbox))).current

def told (outbox : BridgeOutbox) (call : BridgeCall) : List BridgeReport :=
  (Effect.returned (program sha256 call (.boot outbox))).getD (interruption call)

theorem Leaves.of_crash {outbox outbox' : BridgeOutbox} {frame : AdapterCommandFrame}
    {mapping : AgentMeshFabricMapping} {now : Instant}
    {clock : FabricCommandLifecycleStage → Instant} {commits : ℕ} {out : List BridgeReport}
    (h : Leaves sha256 outbox (.handleCommand frame mapping now clock (some commits)) outbox' out) :
    outbox' ∈ (Effect.final
      (program sha256 (.handleCommand frame mapping now clock none) (.boot outbox))).points ∧
      out = [.interrupted frame.command.commandId] :=
  ⟨List.mem_of_getElem? h.1, h.2⟩

end CitAgentMeshBridge

def bridge (sha256 : String → String) : Machine BridgeOutbox BridgeCall BridgeReport where
  Initial outbox := outbox = .empty
  Step outbox call outbox' out := CitAgentMeshBridge.Leaves sha256 outbox call outbox' out

/-- A call that no crash cuts short. -/
def BridgeCall.Whole : BridgeCall → Prop
  | .handleCommand _ _ _ _ (some _) => False
  | _ => True

theorem CitAgentMeshBridge.leaves_after (sha256 : String → String) (call : BridgeCall)
    (h : call.Whole) (outbox : BridgeOutbox) :
    Leaves sha256 outbox call (after sha256 outbox call) (told sha256 outbox call) := by
  cases call with
  | handleCommand frame mapping now clock crash =>
    cases crash with
    | none => exact ⟨rfl, rfl⟩
    | some commits => exact h.elim
  | enqueueEvent sourceKey frame receipt createdAt => exact ⟨rfl, rfl⟩
  | acknowledgeFrame frameId => exact ⟨rfl, rfl⟩
  | acknowledgeLifecycleFrame frameId => exact ⟨rfl, rfl⟩
  | discardUndeliverableFrames sessionId at_ => exact ⟨rfl, rfl⟩
  | restart => exact ⟨rfl, rfl⟩

/-- Calls one after the other, with what became known of them. -/
def runCalls (sha256 : String → String) (calls : List BridgeCall) :
    BridgeOutbox × List BridgeReport :=
  calls.foldl (fun (outbox, reports) call => (CitAgentMeshBridge.after sha256 outbox call,
    reports ++ CitAgentMeshBridge.told sha256 outbox call)) (.empty, [])

theorem bridge_runs (sha256 : String → String) {calls : List BridgeCall}
    (hcalls : ∀ call ∈ calls, call.Whole) :
    ∃ trace, (bridge sha256).recording.Run trace (runCalls sha256 calls) := by
  induction calls using List.reverseRecOn with
  | nil => exact ⟨[], (.empty, []), ⟨rfl, rfl⟩, .nil⟩
  | append_singleton calls call ih =>
    obtain ⟨trace, s₀, h₀, hsteps⟩ := ih fun call hcall => hcalls call (by simp [hcall])
    have hleaves := CitAgentMeshBridge.leaves_after sha256 call (hcalls call (by simp))
      (runCalls sha256 calls).1
    rw [runCalls, List.foldl_append]
    exact ⟨_, s₀, h₀, hsteps.snoc ⟨hleaves, rfl⟩⟩

end CitPhysicalXR.Bridge
