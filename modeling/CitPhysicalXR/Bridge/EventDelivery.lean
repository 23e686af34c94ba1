import CitPhysicalXR.Bridge.FeedItems
import CitPhysicalXR.Bridge.Bridge
import CitPhysicalXR.Bridge.HandlerRules

/-! Delivery of events: whether a source key that the fabric has acknowledged can wait in the
outbox again. -/
namespace CitPhysicalXR.Bridge
open Foundation Fabric

structure OfEvents (I : BridgeOutbox → Prop) : Prop where
  commands : ∀ outbox commands, I outbox → I { outbox with commands }
  routes : ∀ outbox routes, I outbox → I { outbox with routes }
  lifecycles : ∀ outbox lifecycles, I outbox → I { outbox with lifecycles }

section Frame
variable {I : BridgeOutbox → Prop}

variable (hI : OfEvents I)
include hI

theorem OfEvents.invariant (commandId : Uuid) :
    MirrorCommandHandler.Invariant commandId I where
  recorded _ _ _ _ h := hI.commands _ _ h
  updated _ _ _ _ _ h := hI.commands _ _ h
  routed _ _ h := hI.routes _ _ h

theorem enqueueLifecycle_keeps (frame : AdapterCommandLifecycleFrame) (createdAt : Instant) :
    Keeps I (BridgeOutbox.enqueueLifecycle frame createdAt) := by
  apply Effect.Triple.bind read_keeps
  intro _
  apply Effect.Triple.bind (execute_keeps fun outbox h => hI.lifecycles outbox _ h)
  intro _
  exact read_keeps

variable (sha256 : String → String) (mapping : AgentMeshFabricMapping) (now : Instant)

theorem MirrorCommandHandler.handle_keeps (frame : AdapterCommandFrame) :
    Keeps I (handle sha256 frame mapping now) := by
  intro d hd
  have hsettles : Effect.Triple _ (handle sha256 frame mapping now) _ _ :=
    handle_settles (hI.invariant frame.command.commandId) d.current
  exact hsettles.conseq (fun _ hd => hd) (fun _ _ hd => hd.1) (fun _ _ hd => hd) d ⟨hd, rfl⟩

theorem handleCommand_keeps (frame : AdapterCommandFrame)
    (clock : FabricCommandLifecycleStage → Instant) :
    Keeps I (CitAgentMeshBridge.handleCommand sha256 frame mapping now clock) := by
  apply Effect.Triple.bind (MirrorCommandHandler.handle_keeps hI _ _ _ _)
  intro frames
  apply Effect.Triple.forEach
  intro lifecycle _
  exact Effect.Triple.discard (enqueueLifecycle_keeps hI _ _)

end Frame

/-- No event waits under a source key that is among the acknowledged ones. -/
def Undelivered (reports : List BridgeReport) (outbox : BridgeOutbox) : Prop :=
  ∀ row ∈ outbox.events, BridgeReport.event row.receipt.sourceKey ∉ reports

theorem undelivered_ofEvents (reports : List BridgeReport) : OfEvents (Undelivered reports) where
  commands _ _ h := h
  routes _ _ h := h
  lifecycles _ _ h := h

/-- The source keys whose frames were acknowledged, in order. -/
def deliveredKeys (reports : List BridgeReport) : List String :=
  reports.filterMap fun
    | .event sourceKey => some sourceKey
    | _ => none

theorem mem_deliveredKeys {reports : List BridgeReport} {sourceKey : String} :
    sourceKey ∈ deliveredKeys reports ↔ BridgeReport.event sourceKey ∈ reports := by
  rw [deliveredKeys, List.mem_filterMap]
  constructor
  · intro h
    obtain ⟨report, hreport, hkey⟩ := h
    split at hkey
    · cases hkey
      exact hreport
    · cases hkey
  · intro h
    exact ⟨_, h, rfl⟩

/-- The condition on a call: it does not enqueue a valid event under an acknowledged source
key, unless the frame or its message is one that waits already. -/
def FreshSource (state : BridgeOutbox × List BridgeReport) : BridgeCall → Prop
  | .enqueueEvent sourceKey frame _ _ => BridgeReport.event sourceKey ∈ state.2 →
      BridgeOutbox.checkEvent sourceKey frame ≠ .ok () ∨
      ∃ row ∈ state.1.events, row.frame.frameId = frame.frameId ∨
        row.frame.event.messageId = frame.event.messageId
  | _ => True

section Calls
variable {reports : List BridgeReport}

theorem enqueueEvent_undelivered {outbox : BridgeOutbox} {sourceKey : String}
    {frame : AdapterEventFrame} {receipt : BridgeEventReceipt} {createdAt : Instant}
    (hfresh : FreshSource (outbox, reports) (.enqueueEvent sourceKey frame receipt createdAt)) :
    Effect.Triple (fun d => d.current = outbox ∧ Undelivered reports outbox)
      (BridgeOutbox.enqueueEvent sourceKey frame receipt createdAt)
      (fun _ d => Undelivered reports d.current) (fun _ d => Undelivered reports d.current) := by
  apply Effect.Triple.bind (Q := fun _ d => d.current = outbox ∧ Undelivered reports outbox ∧
    BridgeOutbox.checkEvent sourceKey frame = .ok ())
  · apply Durable.triple_read
    · exact fun d _ hd hcheck => ⟨hd.1, hd.2, hcheck⟩
    · intro d _ hd _
      rw [hd.1]
      exact hd.2
  · intro _
    apply Effect.Triple.bind (Q := fun _ d => Undelivered reports d.current)
    · apply Durable.triple_write
      · intro d s _ hd hf
        obtain ⟨rfl, hd, hcheck⟩ := hd
        cases hf
        intro row hrow hreport
        rcases (UniqueTable.mem_insertOrIgnore _).mp hrow with hrow | ⟨rfl, hclash⟩
        · exact hd row hrow hreport
        · rcases hfresh hreport with hrefused | ⟨other, hother, hsame⟩
          · exact hrefused hcheck
          · apply hclash
            rcases hsame with hsame | hsame
            · exact ⟨other, hother, _, List.mem_cons_self, congrArg Sum.inl hsame⟩
            · exact ⟨other, hother, _, List.mem_cons_of_mem _ List.mem_cons_self,
                congrArg Sum.inl hsame⟩
      · intro d e _ hf
        cases hf
    · intro _
      exact Durable.triple_read (fun _ _ h _ => h) fun _ _ h _ => h

theorem acknowledgeFrame_undelivered (frameId : Uuid) :
    Effect.Triple (fun d => Undelivered reports d.current)
      (BridgeOutbox.acknowledgeFrame frameId)
      (fun receipt d => Undelivered (reports ++ receipt.toList.map (BridgeReport.event ·.sourceKey)) d.current ∧
        ∀ accepted ∈ receipt, BridgeReport.event accepted.sourceKey ∉ reports)
      (fun _ d => Undelivered reports d.current) := by
  apply Durable.triple_write
  · intro d s receipt hd hf
    split at hf
    · cases hf
      refine ⟨?_, fun _ h => by cases h⟩
      simpa using hd
    · rename_i row hrow
      obtain ⟨hmem, hframe⟩ := UniqueTable.find?_some _ hrow
      obtain ⟨accepted, hparse, hf⟩ := bind_eq_ok.mp hf
      obtain ⟨_, hparse⟩ := seq_eq_ok.mp hparse
      cases hparse
      cases hf
      refine ⟨?_, ?_⟩
      · intro other hother hreport
        obtain ⟨hother, hne⟩ := (UniqueTable.mem_delete _).mp hother
        rcases List.mem_append.mp hreport with hreport | hreport
        · exact hd other hother hreport
        · -- a row with the acknowledged source key is the acknowledged row
          have hkey : other.receipt.sourceKey = row.receipt.sourceKey := by
            simpa using hreport
          rw [PendingBridgeEvent.eq_of_sourceKey hother hmem hkey] at hne
          exact hne hframe
      · intro accepted haccepted
        cases haccepted
        exact hd row hmem
  · exact fun _ _ hd _ => hd

end Calls

section Runs
variable {sha256 : String → String} {reports : List BridgeReport} {outbox outbox' : BridgeOutbox}

variable (sha256 reports) in
theorem handleCommand_undelivered (frame : AdapterCommandFrame) (mapping : AgentMeshFabricMapping)
    (now : Instant) (clock : FabricCommandLifecycleStage → Instant) (crash : Option ℕ) :
    Effect.Triple (Durable.Always (Undelivered reports))
      (CitAgentMeshBridge.program sha256 (.handleCommand frame mapping now clock crash))
      (fun out d => Durable.Always (Undelivered reports) d ∧
        out = [.handled frame.command.commandId])
      (fun _ => Durable.Always (Undelivered reports)) := by
  apply Effect.Triple.bind
    (handleCommand_keeps (undelivered_ofEvents reports) sha256 mapping now frame clock)
  intro _
  exact Effect.Triple.pure fun _ h => ⟨h, rfl⟩

/-- What a call does to the source keys acknowledged so far: it puts none of them back, and
acknowledges none of them again. -/
structure Delivers (reports out : List BridgeReport) (outbox : BridgeOutbox) : Prop where
  undelivered : Undelivered (reports ++ out) outbox
  once : (deliveredKeys out).Nodup
  fresh : ∀ sourceKey ∈ deliveredKeys out, BridgeReport.event sourceKey ∉ reports

theorem Delivers.silent {out : List BridgeReport} (h : Undelivered reports outbox)
    (hout : ∀ sourceKey, BridgeReport.event sourceKey ∉ out) : Delivers reports out outbox := by
  have hnone : deliveredKeys out = [] := by
    rw [List.eq_nil_iff_forall_not_mem]
    exact fun sourceKey hkey => hout sourceKey (mem_deliveredKeys.mp hkey)
  refine ⟨?_, by simp [hnone], by simp [hnone]⟩
  intro row hrow hreport
  rcases List.mem_append.mp hreport with hreport | hreport
  · exact h row hrow hreport
  · exact hout _ hreport

theorem Delivers.interrupted {call : BridgeCall} (h : Undelivered reports outbox) :
    Delivers reports (CitAgentMeshBridge.interruption call) outbox := by
  refine .silent h fun sourceKey hkey => ?_
  cases call <;> simp [CitAgentMeshBridge.interruption] at hkey

theorem step_delivers {call : BridgeCall} {out : List BridgeReport}
    (hstep : CitAgentMeshBridge.Leaves sha256 outbox call outbox' out)
    (hfresh : FreshSource (outbox, reports) call) (h : Undelivered reports outbox) :
    Delivers reports out outbox' := by
  cases call with
  | enqueueEvent sourceKey frame receipt createdAt =>
    obtain ⟨rfl, rfl⟩ := hstep
    apply CitAgentMeshBridge.ends_of_triple (R := Delivers reports)
    apply Effect.Triple.bind (Q := fun _ d => Undelivered reports d.current)
    · refine (enqueueEvent_undelivered hfresh).conseq ?_ (fun _ _ h => h) fun _ _ h => .interrupted h
      intro d hd
      exact ⟨by rw [hd]; rfl, h⟩
    · intro _
      exact Effect.Triple.pure fun d hd => .silent hd (by simp)
  | acknowledgeFrame frameId =>
    obtain ⟨rfl, rfl⟩ := hstep
    apply CitAgentMeshBridge.ends_of_triple (R := Delivers reports)
    apply Effect.Triple.bind ((acknowledgeFrame_undelivered frameId).conseq ?_ (fun _ _ h => h)
      fun _ _ h => .interrupted h)
    · intro receipt
      apply Effect.Triple.pure
      intro d hd
      obtain ⟨hkeys, hnew⟩ := hd
      cases receipt with
      | none => exact ⟨hkeys, .nil, by simp [deliveredKeys]⟩
      | some accepted =>
        refine ⟨hkeys, List.nodup_singleton _, ?_⟩
        intro sourceKey hkey
        obtain rfl : sourceKey = accepted.sourceKey := by simpa [deliveredKeys] using hkey
        exact hnew accepted rfl
    · intro d hd
      rw [hd]
      exact h
  | acknowledgeLifecycleFrame frameId =>
    obtain ⟨rfl, rfl⟩ := hstep
    apply CitAgentMeshBridge.ends_of_triple (R := Delivers reports)
    apply Effect.Triple.bind (Q := fun _ d => Undelivered reports d.current)
    · apply Durable.triple_write
      · intro d s row hd hf
        cases hf
        rw [hd]
        exact h
      · intro d e _ hf
        cases hf
    · intro row
      exact Effect.Triple.pure fun d hd => .silent hd (by simp)
  | discardUndeliverableFrames sessionId at_ =>
    obtain ⟨rfl, rfl⟩ := hstep
    apply CitAgentMeshBridge.ends_of_triple (R := Delivers reports)
    apply Effect.Triple.bind (Q := fun _ d => Undelivered reports d.current)
    · apply Durable.triple_write
      · intro d s counts hd hf
        cases hf
        rw [hd]
        intro row hrow
        exact h row ((UniqueTable.mem_delete _).mp hrow).1
      · intro d e _ hf
        cases hf
    · intro counts
      exact Effect.Triple.pure fun d hd => .silent hd (by simp)
  | handleCommand frame mapping now clock crash =>
    have htriple := handleCommand_undelivered sha256 reports frame mapping now clock
    cases crash with
    | none =>
      obtain ⟨rfl, rfl⟩ := hstep
      apply CitAgentMeshBridge.ends_of_triple (R := Delivers reports)
      refine (htriple none).conseq ?_ ?_ fun _ d hd => .interrupted hd.current
      · intro d hd
        rw [hd]
        exact Durable.always_boot h
      · intro out d hd
        obtain ⟨hd, rfl⟩ := hd
        exact .silent hd.current (by simp)
    | some commits =>
      obtain ⟨hpoint, rfl⟩ := CitAgentMeshBridge.Leaves.of_crash sha256 hstep
      have hall := ((htriple none).conseq (fun _ hd => hd) (fun _ _ hd => hd.1)
        fun _ _ hd => hd).final (Durable.always_boot h)
      exact .silent (hall outbox' hpoint) (by simp)
  | restart =>
    obtain ⟨rfl, rfl⟩ := hstep
    exact .silent h fun _ hkey => List.not_mem_nil hkey

end Runs

/-- In a run that enqueues nothing anew under an acknowledged source key, an acknowledged key
never waits again, and none is acknowledged twice. -/
theorem delivered_at_most_once {sha256 : String → String}
    {trace : List (BridgeCall × List BridgeReport)} {state : BridgeOutbox × List BridgeReport}
    (hrun : ((bridge sha256).recording.restrict FreshSource).Run trace state) :
    (∀ row ∈ state.1.events, BridgeReport.event row.receipt.sourceKey ∉ Machine.outputs trace) ∧
      (deliveredKeys (Machine.outputs trace)).Nodup := by
  have hrecorded := hrun.of_restrict.recorded
  rw [← hrecorded]
  refine hrun.induct (P := fun _ state => Undelivered state.2 state.1 ∧
    (deliveredKeys state.2).Nodup) ?_ ?_
  · intro state hinit
    obtain ⟨hempty, hnone⟩ := hinit
    rw [hempty, hnone]
    exact ⟨fun row hrow => absurd hrow (UniqueTable.not_mem_empty row), .nil⟩
  · intro trace state call state' out _ ih hstep
    obtain ⟨hfresh, hleaves, hreports⟩ := hstep
    have hdelivers := step_delivers hleaves hfresh ih.1
    rw [hreports]
    refine ⟨hdelivers.undelivered, ?_⟩
    rw [deliveredKeys, List.filterMap_append]
    refine List.nodup_append.mpr ⟨ih.2, hdelivers.once, ?_⟩
    intro key hkey key' hkey' hsame
    rw [hsame] at hkey
    exact hdelivers.fresh key' hkey' (mem_deliveredKeys.mp hkey)

namespace FlightIntent

def capability : CapabilityIdentifier := flightSequenceIntentCapability

/-- The frame of the intent, built anew with its own ids each time the feed brings it. -/
def frame (frameId messageId : Fin (2 ^ 128)) : AdapterEventFrame where
  frameId := ⟨frameId⟩
  event := {
    messageId := ⟨messageId⟩
    topic := capability
    sourceNodeId := ⟨"agent-mesh.glasses-2", by decide⟩
    sourceCapability := capability
    siteId := ⟨"site-2", by decide⟩
    roomId := ⟨"room-2", by decide⟩
    sessionId := ⟨"lesson-2", by decide⟩
    participantId := none
    timestamp := 0
    monotonicTimestamp := 1
    sequence := 1
    correlationId := some "intent-1"
    causationId := some "mesh-command-1"
    confidence := some (.finite 1)
    ttlMs := 5000
    dataClassification := .operational
    payload := ⟨[("intent", .str "start"), ("inputModality", .str "voice"),
      ("deviceKind", .str "glasses")], by decide⟩ }
  sentAt := 0

def receipt : BridgeEventReceipt where
  messageId := ⟨0⟩
  sourceKey := ""
  kind := .intent
  agentMeshIntentId := some "intent-1"
  alreadyDispatched := false
  legacyDisplayDelivered := false

def sourceKey : String := "fleet-intent:intent-1"

def enqueued (frameId messageId : Fin (2 ^ 128)) : BridgeCall :=
  .enqueueEvent sourceKey (frame frameId messageId) receipt 0

def delivered : List BridgeCall := [enqueued 1 2, .acknowledgeFrame ⟨1⟩]

end FlightIntent

theorem delivered_at_most_once_flight : ∃ trace state,
    (deliveredKeys (Machine.outputs trace)).Nodup ∧
    ((bridge id).recording.restrict FreshSource).Run trace state := by
  let M := (bridge id).recording.restrict FreshSource
  let first := FlightIntent.enqueued 1 2
  let ack := BridgeCall.acknowledgeFrame ⟨1⟩
  have hfresh : FreshSource (.empty, []) first := by
    intro hreport
    cases hreport
  have hfirst : ∃ state, M.Step (.empty, []) first state
      (CitAgentMeshBridge.told id .empty first) :=
    ⟨(_, _), hfresh, CitAgentMeshBridge.leaves_after id first trivial .empty, rfl⟩
  obtain ⟨waiting, hfirst⟩ := hfirst
  have hack : ∃ state, M.Step waiting ack state (CitAgentMeshBridge.told id waiting.1 ack) :=
    ⟨(_, _), trivial, CitAgentMeshBridge.leaves_after id ack trivial waiting.1, rfl⟩
  obtain ⟨delivered, hack⟩ := hack
  have hrun : M.Run _ delivered :=
    ⟨(.empty, []), ⟨rfl, rfl⟩, (Machine.Steps.nil.snoc hfirst).snoc hack⟩
  exact ⟨_, delivered, (delivered_at_most_once hrun).2, hrun⟩

/-- The feed brings an acknowledged intent once more; it waits again under a new message id. -/
theorem delivered_again : ∃ trace state, (bridge id).recording.Run trace state ∧
    Machine.outputs trace = [.event FlightIntent.sourceKey] ∧
    ∃ row ∈ state.1.events, row.receipt.sourceKey = FlightIntent.sourceKey ∧
      row.frame.event.messageId = ⟨4⟩ := by
  have hcalls : ∀ call ∈ FlightIntent.delivered ++ [FlightIntent.enqueued 3 4], call.Whole := by
    simp [FlightIntent.delivered, FlightIntent.enqueued, BridgeCall.Whole]
  obtain ⟨trace, hrun⟩ := bridge_runs id hcalls
  have hstate : let state := runCalls id (FlightIntent.delivered ++ [FlightIntent.enqueued 3 4])
      state.2 = [.event FlightIntent.sourceKey] ∧ ∃ row ∈ state.1.events.rows,
        row.receipt.sourceKey = FlightIntent.sourceKey ∧ row.frame.event.messageId = ⟨4⟩ := by
    decide +kernel
  generalize runCalls id (FlightIntent.delivered ++ [FlightIntent.enqueued 3 4]) = state at *
  exact ⟨trace, state, hrun, hrun.recorded.symm.trans hstate.1, hstate.2⟩

end CitPhysicalXR.Bridge
