import CitPhysicalXR.Bridge.LifecycleDelivery
import CitPhysicalXR.Foundation.Execution
import CitPhysicalXR.Bridge.FeedItems

/-! The stages of a command reach the server in the order in which they were enqueued, while the
frames of a confirmed command are told apart by the clock or by their ids. -/
namespace CitPhysicalXR.Bridge
open Foundation Fabric

def PendingLifecycleFrame.commandId (row : PendingLifecycleFrame) : Uuid :=
  row.frame.lifecycle.commandId

theorem BridgeOutbox.added_eq {outbox outbox' : BridgeOutbox} {new : List PendingLifecycleFrame}
    (h : outbox'.lifecycles.rows = outbox.lifecycles.rows ++ new) : outbox.added outbox' = new := by
  have hkey : (fun row : PendingLifecycleFrame =>
      (.inl row.frame.frameId : Uuid ⊕ (Uuid × FabricCommandLifecycleStage))) ∈
        PendingLifecycleFrame.keys := List.mem_cons_self
  have hunique := outbox'.lifecycles.unique _ hkey
  rw [h, List.map_append, List.nodup_append] at hunique
  rw [added, h, List.filter_append, List.filter_eq_nil_iff.mpr, List.filter_eq_self.mpr,
    List.nil_append]
  · intro row hrow
    simp only [decide_eq_true_eq, List.mem_map, not_exists, not_and]
    intro other hother hsame
    exact hunique.2.2 _ (List.mem_map_of_mem hother) _ (List.mem_map_of_mem hrow)
      (congrArg Sum.inl hsame)
  · intro row hrow
    simp only [decide_eq_true_eq, not_not]
    exact List.mem_map_of_mem hrow

theorem MirrorCommandHandler.Answers.distinct {sha256 : String → String}
    {command : FabricResolvedCommand} {now : Instant} {frames : List AdapterCommandLifecycleFrame}
    {stage : FabricCommandLifecycleStage} (h : Answers sha256 command now frames stage) :
    frames.Pairwise fun first second => first.lifecycle.stage ≠ second.lifecycle.stage := by
  cases h with
  | single => exact List.pairwise_singleton _ _
  | confirmed =>
    refine List.pairwise_cons.mpr ⟨?_, List.pairwise_singleton _ _⟩
    intro second hsecond
    obtain rfl := List.mem_singleton.mp hsecond
    exact (by decide : FabricCommandLifecycleStage.accepted ≠ .succeeded)

/-- An element of two joined lists stands in the first one or in the second one. -/
theorem append_eq_append_cons {α : Type*} {first second before after : List α} {x : α}
    (h : first ++ second = before ++ x :: after) :
    (∃ middle, first = before ++ x :: middle) ∨
      ∃ middle, before = first ++ middle ∧ second = middle ++ x :: after := by
  obtain ⟨middle, hbefore, hsecond⟩ | ⟨middle, hfirst, hafter⟩ := List.append_eq_append_iff.mp h
  · exact .inr ⟨middle, hbefore, hsecond⟩
  · cases middle with
    | nil => exact .inr ⟨[], by simpa using hfirst.symm, by simpa using hafter.symm⟩
    | cons other middle =>
      obtain ⟨rfl, _⟩ := List.cons.inj hafter
      exact .inl ⟨middle, hfirst⟩

def SentBefore (first second : PendingLifecycleFrame) (frames : List AdapterClientFrame) : Prop :=
  ∀ before after, frames = before ++ AdapterClientFrame.lifecycle second.frame :: after →
    first.frame.frameId ∈ before.map (·.frameId)

section SentBefore
variable {first second : PendingLifecycleFrame} {frames rest : List AdapterClientFrame}
  {frame : AdapterClientFrame}

theorem SentBefore.front (h : SentBefore first second (frames ++ rest)) :
    SentBefore first second frames := by
  intro before after hsplit
  exact h before (after ++ rest) (by rw [hsplit, List.append_assoc, List.cons_append])

/-- A frame may be left out when one with its id stands in front of it. -/
theorem SentBefore.skip (h : SentBefore first second (frames ++ frame :: rest))
    (hsent : frame.frameId ∈ frames.map (·.frameId)) :
    SentBefore first second (frames ++ rest) := by
  intro before after hsplit
  obtain ⟨middle, hframes⟩ | ⟨middle, hbefore, hrest⟩ := append_eq_append_cons hsplit
  · exact h before (middle ++ frame :: rest) (by simp [hframes])
  · have hmem := h (frames ++ frame :: middle) after (by simp [hrest])
    rw [hbefore]
    simp only [List.map_append, List.map_cons, List.mem_append, List.mem_cons] at hmem ⊢
    rcases hmem with hmem | hsame | hmem
    · exact .inl hmem
    · exact .inl (hsame ▸ hsent)
    · exact .inr hmem

theorem sentBefore_of_not_mem (h : AdapterClientFrame.lifecycle second.frame ∉ frames) :
    SentBefore first second frames := by
  intro before after hsplit
  exact absurd (hsplit ▸ List.mem_append_right before List.mem_cons_self) h

end SentBefore

/-- What holds of two rows of one command, enqueued one after the other. -/
structure Delivery.Follows (d : Delivery) (first second : PendingLifecycleFrame) : Prop where
  position : first.position < second.position
  stage : first.frame.lifecycle.stage ≠ second.frame.lifecycle.stage
  session : first.frame.lifecycle.sessionId = second.frame.lifecycle.sessionId
  kept : second ∈ d.outbox.lifecycles → first ∈ d.outbox.lifecycles ∨
    first.frame.frameId ∈ d.received.map (·.frameId)
  sent : SentBefore first second (d.received ++ d.wire)

structure Delivery.InOrder (d : Delivery) : Prop where
  pending : d.outbox.lifecycles.rows.Sublist d.enqueued
  settled : ∀ row ∈ d.enqueued, d.outbox.HasTerminal row.commandId
  follows : d.enqueued.Pairwise fun first second =>
    first.commandId = second.commandId → d.Follows first second
  enqueued : ∀ frame, .lifecycle frame ∈ d.received ++ d.wire → ∃ row ∈ d.enqueued, row.frame = frame
  inFlight : ∀ frameId, (d.inFlight frameId).isSome →
    frameId ∈ (d.received ++ d.wire).map (·.frameId)

namespace Delivery
variable {d d' : Delivery}

theorem InOrder.eq_of_frame (h : d.InOrder) {row other : PendingLifecycleFrame}
    (hrow : row ∈ d.enqueued) (hother : other ∈ d.enqueued) (hframe : row.frame = other.frame) :
    row = other := by
  let Same (row other : PendingLifecycleFrame) : Prop := row.frame = other.frame → row = other
  have hsymm : Std.Symm Same := ⟨fun _ _ h hframe => (h hframe.symm).symm⟩
  have hpairs : d.enqueued.Pairwise Same := by
    refine h.follows.imp ?_
    intro row other hfollows hframe
    have hcommand : row.commandId = other.commandId := by
      rw [PendingLifecycleFrame.commandId, hframe, PendingLifecycleFrame.commandId]
    exact absurd (by rw [hframe]) (hfollows hcommand).stage
  have hall : Same row other :=
    List.Pairwise.forall_of_forall (fun _ _ _ => rfl) hpairs hrow hother
  exact hall hframe

theorem InOrder.mono (h : d.InOrder) (henqueued : d'.enqueued = d.enqueued)
    (hpending : d'.outbox.lifecycles.rows.Sublist d.outbox.lifecycles.rows)
    (hcommands : d'.outbox.commands = d.outbox.commands)
    (hfollows : ∀ first ∈ d.enqueued, ∀ second ∈ d.enqueued, d.Follows first second →
      d'.Follows first second)
    (hsent : ∀ frame, .lifecycle frame ∈ d'.received ++ d'.wire →
      .lifecycle frame ∈ d.received ++ d.wire)
    (hinFlight : ∀ frameId, (d'.inFlight frameId).isSome →
      frameId ∈ (d'.received ++ d'.wire).map (·.frameId)) : d'.InOrder where
  pending := henqueued ▸ hpending.trans h.pending
  settled row hrow := by
    have hsettled := h.settled row (henqueued ▸ hrow)
    rw [BridgeOutbox.HasTerminal, hcommands]
    exact hsettled
  follows := by
    rw [henqueued]
    refine h.follows.imp_of_mem ?_
    intro first second hfirst hsecond hfollows' hcommand
    exact hfollows first hfirst second hsecond (hfollows' hcommand)
  enqueued frame hframe := henqueued ▸ h.enqueued frame (hsent frame hframe)
  inFlight := hinFlight

theorem InOrder.enqueue (h : d.InOrder) {outbox : BridgeOutbox} {new : List PendingLifecycleFrame}
    (hrows : outbox.lifecycles.rows = d.outbox.lifecycles.rows ++ new)
    (hkept : ∀ commandId, d.outbox.HasTerminal commandId → outbox.HasTerminal commandId)
    (hnew : ∀ row ∈ new, ¬ d.outbox.HasTerminal row.commandId ∧ outbox.HasTerminal row.commandId)
    (horder : new.Pairwise fun first second => first.position < second.position ∧
      first.frame.lifecycle.stage ≠ second.frame.lifecycle.stage ∧
      first.frame.lifecycle.sessionId = second.frame.lifecycle.sessionId) :
    (d.withOutbox outbox).InOrder := by
  have hadded := BridgeOutbox.added_eq hrows
  have hfresh : ∀ row ∈ d.enqueued, ∀ other ∈ new, row.commandId ≠ other.commandId := by
    intro row hrow other hother hcommand
    exact (hnew other hother).1 (hcommand ▸ h.settled row hrow)
  have hmem : ∀ row, row ∈ outbox.lifecycles ↔ row ∈ d.outbox.lifecycles ∨ row ∈ new := by
    intro row
    rw [← UniqueTable.mem_rows, hrows, List.mem_append, UniqueTable.mem_rows]
  refine ⟨?_, ?_, ?_, ?_, h.inFlight⟩
  · rw [withOutbox, hadded, hrows]
    exact h.pending.append (.refl new)
  · intro row hrow
    rw [withOutbox, hadded] at hrow
    rcases List.mem_append.mp hrow with hrow | hrow
    · exact hkept _ (h.settled row hrow)
    · exact (hnew row hrow).2
  · rw [withOutbox, hadded, List.pairwise_append]
    refine ⟨?_, ?_, ?_⟩
    · refine h.follows.imp_of_mem ?_
      intro first second hfirst hsecond hfollows hcommand
      obtain ⟨hposition, hstage, hsession, hkept, hsent⟩ := hfollows hcommand
      refine ⟨hposition, hstage, hsession, ?_, hsent⟩
      intro hpending
      rcases (hmem second).mp hpending with hpending | hpending
      · exact (hkept hpending).imp_left fun hfirst => (hmem first).mpr (.inl hfirst)
      · exact absurd rfl (hfresh second hsecond second hpending)
    · refine horder.imp_of_mem ?_
      intro first second hfirst hsecond hpair _
      refine ⟨hpair.1, hpair.2.1, hpair.2.2, fun _ => .inl ((hmem first).mpr (.inr hfirst)), ?_⟩
      apply sentBefore_of_not_mem
      intro hsent
      obtain ⟨row, hrow, hframe⟩ := h.enqueued second.frame hsent
      apply hfresh row hrow second hsecond
      rw [PendingLifecycleFrame.commandId, hframe, PendingLifecycleFrame.commandId]
    · intro first hfirst second hsecond hcommand
      exact absurd hcommand (hfresh first hfirst second hsecond)
  · intro frame hframe
    obtain ⟨row, hrow, hsame⟩ := h.enqueued frame hframe
    exact ⟨row, List.mem_append_left _ hrow, hsame⟩

/-- The condition on an event: when the handler confirms a command with two frames, the clock
and their ids tell the first from the second. -/
def ConfirmsInOrder (sha256 : String → String) (d : Delivery) : DeliveryEvent → Prop
  | .handleCommand frame mapping now clock _ => ∀ accepted succeeded handled,
    MirrorCommandHandler.handle sha256 frame mapping now (.boot d.outbox) =
        .ok [accepted, succeeded] handled →
      accepted.positionAt clock < succeeded.positionAt clock
  | _ => True

variable {sha256 : String → String}

theorem InOrder.handleCommand (h : d.InOrder) {frame : AdapterCommandFrame}
    {mapping : AgentMeshFabricMapping} {now : Instant}
    {clock : FabricCommandLifecycleStage → Instant} {outbox : BridgeOutbox}
    (hclock : ∀ accepted succeeded handled,
      MirrorCommandHandler.handle sha256 frame mapping now (.boot d.outbox) =
          .ok [accepted, succeeded] handled →
        accepted.positionAt clock < succeeded.positionAt clock)
    (hpasses : Passes sha256 frame mapping now clock d.outbox outbox) :
    (d.withOutbox outbox).InOrder := by
  obtain hquiet | ⟨frames, new, hanswered, hterminal, hnew⟩ := hpasses
  · exact h.enqueue hquiet.rows hquiet.kept (fun _ hrow => absurd hrow List.not_mem_nil) .nil
  · obtain ⟨stage, hanswers⟩ := hanswered.answers
    have hframe : ∀ row ∈ new, ∃ stage report,
        row.frame = MirrorCommandHandler.lifecycleFrame sha256 frame.command stage now report :=
      fun row hrow => hanswers.frame_eq row.frame (hnew.frames.subset (List.mem_map_of_mem hrow))
    have hcommand : ∀ row ∈ new, row.commandId = frame.command.commandId := by
      intro row hrow
      obtain ⟨stage, report, hrow⟩ := hframe row hrow
      rw [PendingLifecycleFrame.commandId, hrow]
      rfl
    have hordered : frames.Pairwise fun first second =>
        first.positionAt clock < second.positionAt clock := by
      obtain ⟨handled, hresult⟩ := hanswered.result
      cases hanswers with
      | single => exact List.pairwise_singleton _ _
      | confirmed =>
        refine List.pairwise_cons.mpr ⟨?_, List.pairwise_singleton _ _⟩
        intro second hsecond
        obtain rfl := List.mem_singleton.mp hsecond
        exact hclock _ _ handled hresult
    have hpairs := List.pairwise_map.mp
      ((hordered.and hanswers.distinct).sublist hnew.frames)
    refine h.enqueue hnew.rows hnew.kept ?_ (hpairs.imp_of_mem ?_)
    · intro row hrow
      rw [hcommand row hrow]
      exact ⟨hanswered.first, hterminal⟩
    · intro first second hfirst hsecond hpair
      obtain ⟨_, _, hfirstFrame⟩ := hframe first hfirst
      obtain ⟨_, _, hsecondFrame⟩ := hframe second hsecond
      refine ⟨?_, hpair.2, ?_⟩
      · have hposition := hpair.1
        rw [AdapterCommandLifecycleFrame.positionAt, AdapterCommandLifecycleFrame.positionAt,
          ← hnew.created first hfirst, ← hnew.created second hsecond] at hposition
        exact hposition
      · rw [hfirstFrame, hsecondFrame]
        rfl

theorem InOrder.enqueueEvent (h : d.InOrder) {outbox : BridgeOutbox}
    (hsame : outbox.lifecycles = d.outbox.lifecycles ∧ outbox.commands = d.outbox.commands) :
    (d.withOutbox outbox).InOrder := by
  refine h.enqueue ?_ ?_ (fun _ hrow => absurd hrow List.not_mem_nil) .nil
  · rw [hsame.1, List.append_nil]
  · intro commandId hterminal
    rw [BridgeOutbox.HasTerminal, hsame.2]
    exact hterminal

theorem InOrder.register (h : d.InOrder) :
    InOrder { d with inFlight := fun _ => none, wire := [] } := by
  refine h.mono rfl (.refl _) rfl ?_ ?_ ?_
  · intro first _ second _ hfollows
    refine ⟨hfollows.position, hfollows.stage, hfollows.session, hfollows.kept, ?_⟩
    rw [List.append_nil]
    exact hfollows.sent.front
  · intro frame hframe
    rw [List.append_nil] at hframe
    exact List.mem_append_left _ hframe
  · intro frameId hsome
    cases hsome

theorem InOrder.arrive (h : d.InOrder) {frame : AdapterClientFrame}
    {wire : List AdapterClientFrame} (hwire : d.wire = frame :: wire) :
    InOrder { d with wire, received := d.received ++ [frame] } := by
  have hsame : d.received ++ [frame] ++ wire = d.received ++ d.wire := by
    rw [hwire, List.append_assoc, List.singleton_append]
  refine h.mono rfl (.refl _) rfl ?_ (fun _ hframe => hsame ▸ hframe)
    fun frameId hsome => hsame ▸ h.inFlight frameId hsome
  intro first _ second _ hfollows
  refine ⟨hfollows.position, hfollows.stage, hfollows.session, ?_, hsame ▸ hfollows.sent⟩
  intro hpending
  refine (hfollows.kept hpending).imp_right fun hreceived => ?_
  rw [List.map_append]
  exact List.mem_append_left _ hreceived

structure Acknowledged (frameId : Uuid) (base outbox : BridgeOutbox) : Prop where
  commands : outbox.commands = base.commands
  rows : outbox.lifecycles.rows.Sublist base.lifecycles.rows
  kept : ∀ row ∈ base.lifecycles, row.frame.frameId ≠ frameId → row ∈ outbox.lifecycles

theorem acknowledgeFrames_keeps (frameId : Uuid) (base : BridgeOutbox) :
    Keeps (Acknowledged frameId base) (acknowledgeFrames frameId) := by
  have hevent : Keeps (Acknowledged frameId base) (BridgeOutbox.acknowledgeFrame frameId) := by
    apply Durable.triple_write
    · intro d s _ hd hf
      split at hf
      · cases hf
        exact hd.commit hd.current
      · obtain ⟨receipt, _, hf⟩ := bind_eq_ok.mp hf
        cases hf
        exact hd.commit ⟨hd.current.commands, hd.current.rows, hd.current.kept⟩
    · exact fun _ _ hd _ => hd
  have hlifecycle : Keeps (Acknowledged frameId base)
      (BridgeOutbox.acknowledgeLifecycleFrame frameId) := by
    apply Durable.triple_write
    · intro d s _ hd hf
      cases hf
      refine hd.commit ⟨hd.current.commands, List.filter_sublist.trans hd.current.rows, ?_⟩
      intro row hrow hne
      exact (UniqueTable.mem_delete _).mpr ⟨hd.current.kept row hrow hne, hne⟩
    · exact fun _ _ hd _ => hd
  exact Effect.Triple.bind hevent fun _ => Effect.Triple.discard hlifecycle

structure Frame (frameId : Uuid) (d d' : Delivery) : Prop where
  enqueued : d'.enqueued = d.enqueued
  wire : d'.wire = d.wire
  received : d'.received = d.received
  inFlight : ∀ other, (d'.inFlight other).isSome → (d.inFlight other).isSome
  outbox : Acknowledged frameId d.outbox d'.outbox

theorem acknowledge_frame (d : Delivery) (frameId : Uuid) :
    Frame frameId d (d.acknowledge frameId) := by
  have hkeeps := acknowledgeFrames_keeps frameId d.outbox (.boot d.outbox)
    (Durable.always_boot ⟨rfl, .refl _, fun _ hrow _ => hrow⟩)
  unfold acknowledge
  split
  · rename_i hrun
    rw [hrun] at hkeeps
    refine ⟨rfl, rfl, rfl, ?_, hkeeps.current⟩
    intro other hsome
    by_cases hsame : other = frameId
    · simp [hsame] at hsome
    · simpa [Function.update_of_ne hsame] using hsome
  · rename_i hrun
    rw [hrun] at hkeeps
    exact ⟨rfl, rfl, rfl, fun _ hsome => hsome, hkeeps.current⟩

theorem InOrder.acknowledge (h : d.InOrder) {frameId : Uuid}
    (hreceived : frameId ∈ d.received.map (·.frameId)) : (d.acknowledge frameId).InOrder := by
  have hframe := acknowledge_frame d frameId
  refine h.mono hframe.enqueued hframe.outbox.rows hframe.outbox.commands ?_ ?_ ?_
  · intro first _ second _ hfollows
    refine ⟨hfollows.position, hfollows.stage, hfollows.session, ?_, ?_⟩
    · intro hpending
      rw [hframe.received]
      rcases hfollows.kept (hframe.outbox.rows.subset hpending) with hfirst | hfirst
      · by_cases hacknowledged : first.frame.frameId = frameId
        · exact .inr (hacknowledged ▸ hreceived)
        · exact .inl (hframe.outbox.kept first hfirst hacknowledged)
      · exact .inr hfirst
    · rw [hframe.wire, hframe.received]
      exact hfollows.sent
  · rw [hframe.wire, hframe.received]
    exact fun _ hlifecycle => hlifecycle
  · rw [hframe.wire, hframe.received]
    exact fun other hsome => h.inFlight other (hframe.inFlight other hsome)

theorem InOrder.discard (h : d.InOrder) (sessionId : String) (now : Instant) :
    InOrder { d with outbox := d.outbox.discarded sessionId now } := by
  refine h.mono rfl List.filter_sublist rfl ?_ (fun _ hframe => hframe) h.inFlight
  intro first _ second _ hfollows
  refine ⟨hfollows.position, hfollows.stage, hfollows.session, ?_, hfollows.sent⟩
  intro hpending
  obtain ⟨hsecond, hsession⟩ := (UniqueTable.mem_delete _).mp hpending
  -- the rows of a command are of one session, so they are discarded together
  refine (hfollows.kept hsecond).imp_left fun hfirst => (UniqueTable.mem_delete _).mpr ⟨hfirst, ?_⟩
  rw [hfollows.session]
  exact hsession

structure Sendable (d : Delivery) (rest : List AdapterClientFrame) : Prop where
  inOrder : d.InOrder
  follows : d.enqueued.Pairwise fun first second => first.commandId = second.commandId →
    SentBefore first second (d.received ++ d.wire ++ rest)
  enqueued : ∀ frame, .lifecycle frame ∈ rest → ∃ row ∈ d.enqueued, row.frame = frame

theorem Sendable.skip {frame : AdapterClientFrame} {rest : List AdapterClientFrame} {now : Instant}
    (h : d.Sendable (frame :: rest)) (hlately : d.lately now frame = true) : d.Sendable rest := by
  have hsent : frame.frameId ∈ (d.received ++ d.wire).map (·.frameId) := by
    apply h.inOrder.inFlight
    obtain ⟨lastSentAt, hsome, _⟩ := (Option.any_eq_true _ _).mp hlately
    rw [hsome]
    rfl
  refine ⟨h.inOrder, ?_, fun frame hframe => h.enqueued frame (List.mem_cons_of_mem _ hframe)⟩
  exact h.follows.imp fun hsentBefore hcommand => (hsentBefore hcommand).skip hsent

theorem Sendable.send {frame : AdapterClientFrame} {rest : List AdapterClientFrame}
    (h : d.Sendable (frame :: rest)) (now : Instant) : (d.send now frame).Sendable rest := by
  have hsent : d.received ++ (d.wire ++ [frame]) ++ rest = d.received ++ d.wire ++ frame :: rest := by
    simp
  have hmem : ∀ other, other ∈ d.received ++ (d.wire ++ [frame]) →
      other ∈ d.received ++ d.wire ∨ other = frame := by
    intro other hother
    simpa [or_assoc] using hother
  have hfollows : d.enqueued.Pairwise fun first second => first.commandId = second.commandId →
      SentBefore first second (d.received ++ (d.wire ++ [frame]) ++ rest) := by
    rw [hsent]
    exact h.follows
  refine ⟨⟨h.inOrder.pending, h.inOrder.settled, ?_, ?_, ?_⟩, hfollows, ?_⟩
  · refine (h.inOrder.follows.and hfollows).imp ?_
    intro first second hpair hcommand
    obtain ⟨hposition, hstage, hsession, hkept, _⟩ := hpair.1 hcommand
    exact ⟨hposition, hstage, hsession, hkept, (hpair.2 hcommand).front⟩
  · intro lifecycle hlifecycle
    rcases hmem _ hlifecycle with hlifecycle | hlifecycle
    · exact h.inOrder.enqueued lifecycle hlifecycle
    · exact h.enqueued lifecycle (hlifecycle ▸ List.mem_cons_self)
  · intro frameId hsome
    change frameId ∈ (d.received ++ (d.wire ++ [frame])).map (·.frameId)
    by_cases hsame : frameId = frame.frameId
    · simp [hsame]
    · have hbefore : (d.inFlight frameId).isSome := by
        simpa [Delivery.send, Function.update_of_ne hsame] using hsome
      have hbefore := h.inOrder.inFlight frameId hbefore
      rw [← List.append_assoc, List.map_append]
      exact List.mem_append_left _ hbefore
  · exact fun lifecycle hlifecycle => h.enqueued lifecycle (List.mem_cons_of_mem _ hlifecycle)

theorem Sendable.sendPending {now : Instant} {frames : List AdapterClientFrame} {sends : ℕ}
    (h : d.Sendable frames) : (sendPending now sends frames d).InOrder := by
  induction frames generalizing d sends with
  | nil => exact h.inOrder
  | cons frame rest ih =>
    unfold Delivery.sendPending
    split
    · rename_i hlately
      exact ih (h.skip hlately)
    · cases sends with
      | zero => exact h.inOrder
      | succ sends => exact ih (h.send now)

/-- A flush takes up the pending rows of each command in order. -/
theorem InOrder.sendable (h : d.InOrder) {frames : List AdapterClientFrame}
    (hframes : d.outbox.pendingFrames = .ok frames) : d.Sendable frames := by
  obtain ⟨events, _, hframes⟩ := bind_eq_ok.mp hframes
  obtain ⟨rows, hrows, hframes⟩ := bind_eq_ok.mp hframes
  cases hframes
  obtain ⟨_, hrows⟩ := seq_eq_ok.mp hrows
  have hrows := Except.ok.inj hrows
  have hpending : ∀ row ∈ rows, row ∈ d.outbox.lifecycles := by
    intro row hrow
    rw [← hrows] at hrow
    exact mem_orderedBy.mp (List.mem_of_mem_take hrow)
  refine ⟨h, ?_, ?_⟩
  · refine h.follows.imp_of_mem ?_
    intro first second _ hsecond hfollows hcommand before after hsplit
    have hfollows := hfollows hcommand
    obtain ⟨_, hsent⟩ | ⟨flushed, hbefore, hflush⟩ := append_eq_append_cons hsplit
    · exact hfollows.sent before _ hsent
    obtain ⟨_, hevents⟩ | ⟨others, hflushed, hlifecycles⟩ := append_eq_append_cons hflush
    · have hevent : AdapterClientFrame.lifecycle second.frame ∈
          events.map (AdapterClientFrame.event ·.frame) := by
        rw [hevents]
        simp
      obtain ⟨_, _, hevent⟩ := List.mem_map.mp hevent
      cases hevent
    -- the second row is in the flush, so the first one stands in front of it or was received
    obtain ⟨earlier, later, hsplitRows, hearlier, hlater⟩ := List.map_eq_append_iff.mp hlifecycles
    obtain ⟨row, later, rfl, hrow, _⟩ := List.map_eq_cons_iff.mp hlater
    have hmem : row ∈ d.outbox.lifecycles := hpending row (by simp [hsplitRows])
    have hsame : row = second := by
      refine h.eq_of_frame (h.pending.subset hmem) hsecond ?_
      injection hrow
    rw [hsame] at hmem hsplitRows
    rw [hbefore, hflushed, ← hearlier]
    simp only [List.map_append, List.map_map, List.mem_append]
    rcases hfollows.kept hmem with hfirst | hfirst
    · have hfront := mem_before_of_lt_take (hrows.trans hsplitRows) hfirst hfollows.position
      exact .inr (.inr (List.mem_map_of_mem hfront))
    · exact .inl (.inl hfirst)
  · intro frame hframe
    rcases List.mem_append.mp hframe with hframe | hframe
    · obtain ⟨_, _, hframe⟩ := List.mem_map.mp hframe
      cases hframe
    · obtain ⟨row, hrow, hframe⟩ := List.mem_map.mp hframe
      cases hframe
      exact ⟨row, h.pending.subset (hpending row hrow), rfl⟩

theorem InOrder.flush (h : d.InOrder) (sessionId : String) (now : Instant) (sends : ℕ) :
    (d.flush sessionId now sends).InOrder := by
  have hdiscard := h.discard sessionId now
  unfold Delivery.flush
  dsimp only
  split
  · exact hdiscard
  · rename_i frames hframes
    exact (hdiscard.sendable hframes).sendPending

theorem InOrder.step (h : d.InOrder) {event : DeliveryEvent} (hok : ConfirmsInOrder sha256 d event)
    (hstep : d.Leaves sha256 event d') : d'.InOrder := by
  cases event with
  | handleCommand frame mapping now clock crash =>
    obtain ⟨outbox, out, hleaves, rfl⟩ := hstep
    exact h.handleCommand hok (handleCommand_leaves hleaves)
  | enqueueEvent sourceKey frame receipt createdAt =>
    obtain ⟨outbox, out, hleaves, rfl⟩ := hstep
    exact h.enqueueEvent (enqueueEvent_leaves hleaves)
  | register =>
    obtain rfl := hstep
    exact h.register
  | flush sessionId now sends =>
    obtain rfl := hstep
    exact h.flush sessionId now sends
  | arrive =>
    obtain ⟨frame, wire, hwire, rfl⟩ := hstep
    exact h.arrive hwire
  | acknowledge frameId =>
    obtain ⟨hreceived, rfl⟩ := hstep
    exact h.acknowledge hreceived

theorem inOrder_run {trace : List (DeliveryEvent × List Empty)}
    (hrun : ((delivery sha256).restrict (ConfirmsInOrder sha256)).Run trace d) : d.InOrder := by
  refine hrun.induct (P := fun _ d => d.InOrder) ?_ ?_
  · intro d hinit
    cases hinit
    exact ⟨.refl _, fun _ h => absurd h List.not_mem_nil, .nil,
      fun _ h => absurd h List.not_mem_nil, fun _ h => nomatch h⟩
  · intro trace d event d' out _ h hstep
    exact h.step hstep.1 hstep.2

end Delivery

/-- While confirmed commands have their two frames told apart in order, the pending frames of
each command are listed as they were enqueued, and the server receives none of them before the
ones in front of it. -/
theorem stages_in_order {sha256 : String → String} {trace : List (DeliveryEvent × List Empty)}
    {d : Delivery}
    (hrun : ((delivery sha256).restrict (Delivery.ConfirmsInOrder sha256)).Run trace d) :
    d.outbox.lifecycles.rows.Sublist d.enqueued ∧
    (∀ limit rows, d.outbox.pendingLifecycles limit = .ok rows → ∀ commandId,
      rows.filter (·.commandId = commandId) <+:
        d.outbox.lifecycles.rows.filter (·.commandId = commandId)) ∧
    d.enqueued.Pairwise fun first second => first.commandId = second.commandId →
      SentBefore first second d.received := by
  have h := Delivery.inOrder_run hrun
  refine ⟨h.pending, ?_, ?_⟩
  · intro limit rows hrows commandId
    obtain ⟨_, hrows⟩ := seq_eq_ok.mp hrows
    cases hrows
    apply filter_take_orderedBy
    have hpending := (h.follows.sublist h.pending).sublist
      (List.filter_sublist (p := fun row => decide (row.commandId = commandId)))
    refine hpending.imp_of_mem ?_
    intro first second hfirst hsecond hfollows
    have hfirst := of_decide_eq_true (List.mem_filter.mp hfirst).2
    have hsecond := of_decide_eq_true (List.mem_filter.mp hsecond).2
    exact (hfollows (hfirst.trans hsecond.symm)).position
  · exact h.follows.imp fun hfollows hcommand => (hfollows hcommand).sent.front

namespace Glasses

def nodeId : Identifier := ⟨"agent-mesh.glasses-1", by decide⟩

/-- The completion that Agent Mesh has shown on the glasses. -/
def completion : AdapterEventFrame where
  frameId := ⟨6⟩
  event := {
    messageId := ⟨5⟩
    topic := agentOutputCapability
    sourceNodeId := nodeId
    sourceCapability := agentOutputCapability
    siteId := ⟨"site-4", by decide⟩
    roomId := ⟨"room-4", by decide⟩
    sessionId := ⟨"lesson-4", by decide⟩
    participantId := none
    timestamp := 0
    monotonicTimestamp := 1
    sequence := 1
    correlationId := some "completion-1"
    causationId := none
    confidence := some (.finite 1)
    ttlMs := 300000
    dataClassification := .source_code
    payload := ⟨[("outcome", .str "completed"), ("displayText", .str "Done")], by decide⟩ }
  sentAt := 0

/-- The digests of the texts that the handling of commands 1 and 2 hashes. -/
def sha256 (source : String) : String :=
  ([("Done", "11a6767d5674c7e45f7e00dc525762275b3a48491ad6045427d2609cc496c516"),
    ("frame:00000000-0000-0000-0000-000000000001:ACCEPTED",
      "829a332d234db6f3691e05ec2ad423dbd65bd333f9a9c10d8f254c49c2dcf901"),
    ("lifecycle:00000000-0000-0000-0000-000000000001:ACCEPTED",
      "d1abf418d5f465dcfda8ab475dcdc488c8cc5c8c5b4dc63e115ef4cb68593ed4"),
    ("frame:00000000-0000-0000-0000-000000000001:SUCCEEDED",
      "7cd52bff01f7a2ddd48d65a3d152db1aa2351d1cb2c4b1097a6311ee59451a12"),
    ("lifecycle:00000000-0000-0000-0000-000000000001:SUCCEEDED",
      "5c5f6de69510dbe0221920f77f858ff6242266f58cb70c1782eff41dbb5c3436"),
    ("frame:00000000-0000-0000-0000-000000000002:ACCEPTED",
      "15eee6c1d59c4bd79611a757782410f506e161c1db7a61b3725eaaaf164b54e4"),
    ("lifecycle:00000000-0000-0000-0000-000000000002:ACCEPTED",
      "66879599d7c185d73675328b2f8f4a01cc7c488dbcd672ddd09491ac8be66349"),
    ("frame:00000000-0000-0000-0000-000000000002:SUCCEEDED",
      "5bf4c21da8b985d9df5b574f8db8c051fd6503772be1460e8be08987566d0a29"),
    ("lifecycle:00000000-0000-0000-0000-000000000002:SUCCEEDED",
      "68b1bcbe85ce9d864616b53498d0bf0e6692ce3bbb30b410f5f8073e8dccf441")].lookup source).getD ""

def receipt : BridgeEventReceipt where
  messageId := ⟨5⟩
  sourceKey := "completion:completion-1"
  kind := .completion
  agentMeshSessionId := some "mesh-1"
  alreadyDispatched := false
  legacyDisplayDelivered := true
  semanticSha256 := some (sha256 "Done")

def command (commandId : Fin (2 ^ 128)) : FabricResolvedCommand where
  commandId := ⟨commandId⟩
  requestMessageId := ⟨7⟩
  sessionId := ⟨"lesson-4", by decide⟩
  targetNodeId := nodeId
  action := ⟨"display.text.render", by decide⟩
  parameters := ⟨[("text", .str "Done")], by decide⟩
  priority := .student_interaction
  idempotencyKey := "display-1"
  requestedAt := 0
  expiresAt := 5000000
  safetyProfile := ⟨"classroom-4", by decide⟩
  correlationId := "completion-1"
  causationId := some (Uuid.mk 5).text
  sourceNodeId := none

/-- The display is confirmed within one millisecond, and the frames are sent. -/
def events (commandId : Fin (2 ^ 128)) : List DeliveryEvent :=
  [.enqueueEvent "completion:completion-1" completion receipt 0,
    .handleCommand { frameId := ⟨8⟩, command := command commandId, sentAt := 0 }
      { nodes := [nodeId], agentSessionByNodeId := fun _ => none } 1000 (fun _ => 1000) none,
    .flush "lesson-4" 2000 100, .arrive, .arrive]

end Glasses

namespace Delivery

/-- The events that leave one state behind. -/
def next? (sha256 : String → String) (d : Delivery) :
    DeliveryEvent → Option (Delivery × List Empty)
  | .handleCommand frame mapping now clock none =>
    some (d.withOutbox (CitAgentMeshBridge.after sha256 d.outbox
      (.handleCommand frame mapping now clock none)), [])
  | .enqueueEvent sourceKey frame receipt createdAt =>
    some (d.withOutbox (CitAgentMeshBridge.after sha256 d.outbox
      (.enqueueEvent sourceKey frame receipt createdAt)), [])
  | .flush sessionId now sends => some (d.flush sessionId now sends, [])
  | .arrive =>
    match d.wire with
    | [] => none
    | frame :: wire => some ({ d with wire, received := d.received ++ [frame] }, [])
  | _ => none

theorem leaves_next {sha256 : String → String} {d : Delivery} {event : DeliveryEvent}
    {next : Delivery × List Empty} (h : d.next? sha256 event = some next) :
    (delivery sha256).Step d event next.1 next.2 := by
  unfold next? at h
  split at h
  · cases h
    exact ⟨_, _, CitAgentMeshBridge.leaves_after sha256 (.handleCommand _ _ _ _ none) trivial _,
      rfl⟩
  · cases h
    exact ⟨_, _, CitAgentMeshBridge.leaves_after sha256 (.enqueueEvent _ _ _ _) trivial _, rfl⟩
  · cases h
    rfl
  · split at h
    · cases h
    · rename_i frame wire hwire
      cases h
      exact ⟨frame, wire, hwire, rfl⟩
  · cases h

def confirmsInOrder (sha256 : String → String) (d : Delivery) : DeliveryEvent → Bool
  | .handleCommand frame mapping now clock _ =>
    (Effect.returned (MirrorCommandHandler.handle sha256 frame mapping now (.boot d.outbox))).all
      fun frames => decide (frames.Pairwise fun first second =>
        first.positionAt clock < second.positionAt clock)
  | _ => true

theorem confirmsInOrder_spec {sha256 : String → String} {d : Delivery} {event : DeliveryEvent}
    (h : d.confirmsInOrder sha256 event = true) : ConfirmsInOrder sha256 d event := by
  cases event with
  | handleCommand frame mapping now clock crash =>
    intro accepted succeeded handled hresult
    simp only [confirmsInOrder, hresult, Effect.returned, Option.all_some, decide_eq_true_eq] at h
    exact (List.pairwise_cons.mp h).1 succeeded List.mem_cons_self
  | enqueueEvent => trivial
  | register => trivial
  | flush => trivial
  | arrive => trivial
  | acknowledge => trivial

def stages (rows : List PendingLifecycleFrame) : List FabricCommandLifecycleStage :=
  rows.map (·.frame.lifecycle.stage)

def receivedStages (d : Delivery) : List FabricCommandLifecycleStage :=
  d.received.filterMap fun
    | .lifecycle frame => some frame.lifecycle.stage
    | .event _ => none

end Delivery

/-- The ids of the second command's frames are in order, so both arrive in one millisecond. -/
theorem stages_in_order_glasses : ∃ trace d, (delivery Glasses.sha256).Run trace d ∧
    d.receivedStages = [.accepted] ∧ Delivery.stages d.enqueued = [.accepted, .succeeded] ∧
    d.enqueued.Pairwise fun first second => first.commandId = second.commandId →
      SentBefore first second d.received := by
  have hrun : (Machine.execute (Delivery.next? Glasses.sha256)
      (fun d event => d.confirmsInOrder Glasses.sha256 event = true)
      ⟨.empty, fun _ => none, [], [], []⟩ (Glasses.events 2)).any fun last =>
        last.1.receivedStages = [.accepted] ∧
          Delivery.stages last.1.enqueued = [.accepted, .succeeded] := by
    decide +kernel
  obtain ⟨last, hlast, hstages⟩ := (Option.any_eq_true _ _).mp hrun
  obtain ⟨hreceived, henqueued⟩ := of_decide_eq_true hstages
  have hrun := (Machine.run_of_execute (M := delivery Glasses.sha256) rfl Delivery.leaves_next
    hlast).mono Delivery.confirmsInOrder_spec
  exact ⟨last.2, last.1, hrun.of_restrict, hreceived, henqueued, (stages_in_order hrun).2.2⟩

/-- The ids of the first command's frames are the other way round: the server is told that the
command has succeeded and has not been told that it was accepted. -/
theorem succeeded_overtakes : ∃ trace d, (delivery Glasses.sha256).Run trace d ∧
    Delivery.stages d.enqueued = [.accepted, .succeeded] ∧
    (d.outbox.pendingLifecycles 100).toOption.map Delivery.stages =
      some [.succeeded, .accepted] ∧ d.receivedStages = [.succeeded] := by
  have hrun : (Machine.execute (Delivery.next? Glasses.sha256) (fun _ _ => True)
      ⟨.empty, fun _ => none, [], [], []⟩ (Glasses.events 1)).any fun last =>
        Delivery.stages last.1.enqueued = [.accepted, .succeeded] ∧
        (last.1.outbox.pendingLifecycles 100).toOption.map Delivery.stages =
          some [.succeeded, .accepted] ∧ last.1.receivedStages = [.succeeded] := by
    decide +kernel
  obtain ⟨last, hlast, hstages⟩ := (Option.any_eq_true _ _).mp hrun
  have hrun := (Machine.run_of_execute (M := delivery Glasses.sha256) rfl Delivery.leaves_next
    hlast).of_restrict
  exact ⟨last.2, last.1, hrun, of_decide_eq_true hstages⟩

end CitPhysicalXR.Bridge
