import CitPhysicalXR.Bridge.FeedCursor

/-! Safety of the cursors: what is at or below a stored cursor has been enqueued, or was passed
over as an item that no node stands for. -/
namespace CitPhysicalXR.Bridge
open Foundation Fabric

/-- The event waits in the outbox, or the fabric has taken it from there. -/
def BridgeOutbox.Holds (outbox : BridgeOutbox) (sourceKey : String) : Prop :=
  (∃ row ∈ outbox.events, row.receipt.sourceKey = sourceKey) ∨
    ∃ row ∈ outbox.receipts, row.sourceKey = sourceKey

theorem BridgeOutbox.Holds.of_eventRow {outbox : BridgeOutbox} {sourceKey : String}
    {row found : PendingBridgeEvent} (h : outbox.eventRow sourceKey row = .ok found) :
    outbox.Holds sourceKey := by
  unfold eventRow at h
  split at h
  · rename_i pending hpending
    obtain ⟨hmem, hkey⟩ := UniqueTable.find?_some _ hpending
    exact .inl ⟨pending, hmem, hkey⟩
  · split at h
    · cases h
    · rename_i accepted haccepted
      obtain ⟨hmem, hkey⟩ := UniqueTable.find?_some _ haccepted
      exact .inr ⟨accepted, hmem, hkey⟩

/-- When `enqueueEvent` returns, its source key is held, and so is every key that was. -/
theorem BridgeOutbox.enqueueEvent_holds (outbox : BridgeOutbox) (sourceKey : String)
    (frame : AdapterEventFrame) (receipt : BridgeEventReceipt) (createdAt : Instant) :
    Effect.Triple (· = Durable.boot outbox) (enqueueEvent sourceKey frame receipt createdAt)
      (fun _ d => d.current.Holds sourceKey ∧ ∀ key, outbox.Holds key → d.current.Holds key)
      fun _ _ => True := by
  apply Effect.Triple.bind (Q := fun _ d => d.current = outbox)
  · apply Durable.triple_read
    · intro d _ hd _
      rw [hd]
      rfl
    · exact fun _ _ _ _ => trivial
  · intro _
    apply Effect.Triple.bind
      (Q := fun _ d => ∀ key, outbox.Holds key → d.current.Holds key)
    · apply Durable.triple_write
      · intro d s _ hd hf
        cases hf
        intro key hkey
        rw [hd]
        rcases hkey with ⟨row, hrow, hkey⟩ | haccepted
        · exact .inl ⟨row, (UniqueTable.mem_insertOrIgnore _).mpr (.inl hrow), hkey⟩
        · exact .inr haccepted
      · exact fun _ _ _ _ => trivial
    · intro _
      apply Durable.triple_read
      · exact fun d _ hd hrow => ⟨.of_eventRow hrow, hd⟩
      · exact fun _ _ _ _ => trivial

namespace CitAgentMeshBridge

/-- No commit so far has moved a cursor. -/
def Unmoved (cursors : FeedName → ℕ) : Durable BridgeDatabase → Prop :=
  Durable.Always fun db => db.cursor = cursors

structure Handling (cursors : FeedName → ℕ) (keys : List String) (d : Durable BridgeDatabase) :
    Prop where
  unmoved : Unmoved cursors d
  held : ∀ key ∈ keys, d.current.outbox.Holds key

section Programs
variable {cursors : FeedName → ℕ} {keys : List String}

theorem handling_read {α : Type} (f : BridgeDatabase → Except BridgeError α) :
    Effect.Triple (Handling cursors keys) (Durable.read f)
      (fun _ => Handling cursors keys) fun _ => Unmoved cursors :=
  Durable.triple_read (fun _ _ h _ => h) fun _ _ h _ => h.unmoved

theorem handling_pure {α : Type} {a : α} :
    Effect.Triple (Handling cursors keys) (pure a : FeedM α)
      (fun _ => Handling cursors keys) fun _ => Unmoved cursors :=
  Effect.Triple.pure fun _ h => h

theorem handling_nodeSequence (nodeId : Identifier) :
    Effect.Triple (Handling cursors keys) (BridgeDatabase.nextNodeSequence nodeId)
      (fun _ => Handling cursors keys) fun _ => Unmoved cursors := by
  apply Durable.triple_write
  · intro d s n h hf
    obtain ⟨_, hf⟩ := seq_eq_ok.mp hf
    cases hf
    refine ⟨h.unmoved.commit ?_, h.held⟩
    have hcursors := h.unmoved.current
    funext feed
    have hne : StateKey.cursor feed ≠ .nodeSequence nodeId := by simp
    have hkept := Function.update_of_ne hne (d.current.numbers (.nodeSequence nodeId) + 1)
      d.current.numbers
    exact hkept.trans (congrFun hcursors feed)
  · exact fun _ _ h _ => h.unmoved

theorem handling_validFrame (nodeId : Identifier) (frame : ℕ → AdapterEventFrame) :
    Effect.Triple (Handling cursors keys) (validFrame nodeId frame)
      (fun _ => Handling cursors keys) fun _ => Unmoved cursors := by
  apply Effect.Triple.bind (handling_nodeSequence nodeId)
  intro _
  exact handling_read _

theorem handling_enqueueEvent (sourceKey : String) (frame : AdapterEventFrame)
    (receipt : BridgeEventReceipt) (draw : Draw) :
    Effect.Triple (Handling cursors keys) (enqueueEvent sourceKey frame receipt draw)
      (fun _ => Handling cursors (sourceKey :: keys)) fun _ => Unmoved cursors := by
  apply Effect.Triple.discard
  apply Durable.triple_zoom
  intro d h
  have hunmoved (e : Durable BridgeOutbox) :
      Unmoved cursors (Durable.within (fun db outbox => { db with outbox }) d e) :=
    h.unmoved.within fun _ => h.unmoved.current
  refine (BridgeOutbox.enqueueEvent_holds d.current.outbox sourceKey frame receipt
    draw.now).conseq (fun _ he => he) ?_ ?_
  · intro _ e he
    refine ⟨hunmoved e, ?_⟩
    intro key hkey
    rcases List.mem_cons.mp hkey with rfl | hkey
    · exact he.1
    · exact he.2 key (h.held key hkey)
  · exact fun _ e _ => hunmoved e

theorem Handling.mono {more : List String} {d : Durable BridgeDatabase}
    (h : Handling cursors more d) (hkeys : ∀ key ∈ keys, key ∈ more) : Handling cursors keys d :=
  ⟨h.unmoved, fun key hkey => h.held key (hkeys key hkey)⟩

section Second
variable {c : Prop} [Decidable c]

theorem handling_secondFrame {frame : FeedM AdapterEventFrame}
    (h : Effect.Triple (Handling cursors keys) frame (fun _ => Handling cursors keys)
      fun _ => Unmoved cursors) :
    Effect.Triple (Handling cursors keys)
      (if c then pure none else do return some (← frame))
      (fun frame d => Handling cursors keys d ∧ (frame = none → c))
      fun _ => Unmoved cursors := by
  split
  · rename_i hc
    exact Effect.Triple.pure fun _ hd => ⟨hd, fun _ => hc⟩
  · apply Effect.Triple.bind h
    intro frame
    exact Effect.Triple.pure fun _ hd => ⟨hd, by simp⟩

theorem handling_enqueueIfMade (sourceKey : String) (receipt : BridgeEventReceipt) (draw : Draw)
    {frame : Option AdapterEventFrame} (hnone : frame = none → c) :
    Effect.Triple (Handling cursors keys) (enqueueIfMade sourceKey receipt draw frame)
      (fun _ => Handling cursors (if c then keys else sourceKey :: keys))
      fun _ => Unmoved cursors := by
  cases frame with
  | none =>
    rw [if_pos (hnone rfl)]
    exact handling_pure
  | some frame =>
    refine (handling_enqueueEvent sourceKey frame receipt draw).conseq (fun _ h => h) ?_
      fun _ _ h => h
    intro _ d h
    apply h.mono
    intro key hkey
    split at hkey
    · exact List.mem_cons_of_mem _ hkey
    · exact hkey

end Second

end Programs

section Items
variable (semanticSha256 : String → String) (rules : PhraseRules) (config : BridgeConfig)
  (mapping : FeedMapping) {cursors : FeedName → ℕ}

/-- A completion whose session has no route, or one to a node that is not registered. -/
def Unroutable (outbox : BridgeOutbox) : FeedItem → Prop
  | .completion item => completionNode mapping outbox item = none
  | _ => False

/-- All events of the item are in the outbox, or no node stands for it. -/
def Settled (outbox : BridgeOutbox) (item : FeedItem) : Prop :=
  Unroutable mapping outbox item ∨ ∀ key ∈ sourceKeys rules mapping item, outbox.Holds key

theorem handleDeviceControl_spec (item : AgentMeshDeviceControlInteraction) (draw : ItemDraw) :
    Effect.Triple (Handling cursors []) (handleDeviceControl semanticSha256 config mapping item draw)
      (fun _ => Handling cursors (sourceKeys rules mapping (.deviceControl item)))
      fun _ => Unmoved cursors := by
  apply Effect.Triple.bind (handling_read _)
  intro node
  apply Effect.Triple.bind (handling_validFrame _ _)
  intro frame
  exact handling_enqueueEvent _ _ _ _

theorem handleRing_spec (item : AgentMeshRingInteraction) (draw : ItemDraw) :
    Effect.Triple (Handling cursors []) (handleRing semanticSha256 config mapping item draw)
      (fun _ => Handling cursors (sourceKeys rules mapping (.ring item)))
      fun _ => Unmoved cursors := by
  apply Effect.Triple.bind (handling_read _)
  intro node
  apply Effect.Triple.bind (handling_validFrame _ _)
  intro frame
  apply Effect.Triple.bind (handling_enqueueEvent _ _ _ _)
  intro _
  apply Effect.Triple.bind (handling_secondFrame (handling_validFrame _ _))
  intro flight
  apply Effect.Triple.assume
  intro hnone
  refine (handling_enqueueIfMade _ _ _ hnone).conseq (fun _ h => h) ?_ fun _ _ h => h
  intro _ d h
  apply h.mono
  intro key hkey
  by_cases hgesture : item.gesture = .double_tap
  · simpa [sourceKeys, hgesture, or_comm] using hkey
  · simpa [sourceKeys, hgesture] using hkey

theorem handleIntent_spec (item : AgentMeshIntent) (draw : ItemDraw) :
    Effect.Triple (Handling cursors [])
      (handleIntent semanticSha256 rules config mapping item draw)
      (fun _ => Handling cursors (sourceKeys rules mapping (.intent item)))
      fun _ => Unmoved cursors := by
  apply Effect.Triple.bind (Q := fun node d => Handling cursors [] d ∧
    mapping.wearableNodeByDeviceId item.deviceId = some node)
  · apply Durable.triple_read
    · intro d node h hnode
      split at hnode
      · cases hnode
      · cases hnode
        exact ⟨h, ‹_›⟩
    · exact fun _ _ h _ => h.unmoved
  intro node
  apply Effect.Triple.assume
  intro hnode
  apply Effect.Triple.bind (handling_validFrame _ _)
  intro frame
  apply Effect.Triple.bind (handling_enqueueEvent _ _ _ _)
  intro _
  apply Effect.Triple.bind (handling_secondFrame (handling_validFrame _ _))
  intro flight
  apply Effect.Triple.assume
  intro hnone
  refine (handling_enqueueIfMade _ _ _ hnone).conseq (fun _ h => h) ?_ fun _ _ h => h
  intro _ d h
  apply h.mono
  intro key hkey
  cases hstarts : startsFlightSequence rules node item with
  | true => simpa [sourceKeys, hnode, hstarts, or_comm] using hkey
  | false => simpa [sourceKeys, hnode, hstarts] using hkey

structure Advanced (cursors : FeedName → ℕ) (item : FeedItem) (db : BridgeDatabase) : Prop where
  cursor : db.cursor = Function.update cursors item.feed item.sequence
  settled : Settled rules mapping db.outbox item

theorem setStateNumber_advances (item : FeedItem) :
    Effect.Triple (fun d => Unmoved cursors d ∧ Settled rules mapping d.current.outbox item)
      (BridgeDatabase.setStateNumber (.cursor item.feed) item.sequence)
      (fun _ d => Advanced rules mapping cursors item d.current ∧
        Durable.Always (fun db => db.cursor = cursors ∨ Advanced rules mapping cursors item db) d)
      fun _ => Durable.Always fun db =>
        db.cursor = cursors ∨ Advanced rules mapping cursors item db := by
  apply Durable.triple_write
  · intro d s _ h hf
    obtain ⟨_, hf⟩ := seq_eq_ok.mp hf
    cases hf
    obtain ⟨hunmoved, hsettled⟩ := h
    have hadvanced : Advanced rules mapping cursors item
        (d.current.setNumber (.cursor item.feed) item.sequence) := by
      refine ⟨?_, hsettled⟩
      rw [BridgeDatabase.cursor_setNumber, hunmoved.current]
    exact ⟨hadvanced, (hunmoved.mono fun _ h => .inl h).commit (.inr hadvanced)⟩
  · exact fun d _ h _ => h.1.mono fun _ h => .inl h

theorem handleCompletion_spec (item : AgentMeshCompletion) (draw : ItemDraw) :
    Effect.Triple (Handling cursors [])
      (handleCompletion semanticSha256 config mapping item draw)
      (fun _ d => Advanced rules mapping cursors (.completion item) d.current ∧
        Durable.Always (fun db => db.cursor = cursors ∨
          Advanced rules mapping cursors (.completion item) db) d)
      fun _ => Durable.Always fun db => db.cursor = cursors ∨
        Advanced rules mapping cursors (.completion item) db := by
  have hadvances : Effect.Triple (fun d => Unmoved cursors d ∧
      Settled rules mapping d.current.outbox (.completion item)) _ _ _ :=
    setStateNumber_advances rules mapping (.completion item)
  apply Effect.Triple.bind (Q := fun node d => Handling cursors [] d ∧
    (node = none → Unroutable mapping d.current.outbox (.completion item)))
  · apply Durable.triple_read
    · intro d node h hnode
      cases hnode
      exact ⟨h, fun hnone => hnone⟩
    · exact fun _ _ h _ => h.unmoved.mono fun _ h => .inl h
  intro node
  cases node with
  | none =>
    refine hadvances.conseq ?_ (fun _ _ h => h) fun _ _ h => h
    exact fun d h => ⟨h.1.unmoved, .inl (h.2 rfl)⟩
  | some nodeId =>
    have hcut (e : BridgeError) (d : Durable BridgeDatabase) (h : Unmoved cursors d) :
        Durable.Always (fun db => db.cursor = cursors ∨
          Advanced rules mapping cursors (.completion item) db) d :=
      h.mono fun _ h => .inl h
    apply Effect.Triple.bind (Q := fun _ => Handling cursors [])
    · have hframe : Effect.Triple (Handling cursors [])
          (completionEventFrame config item nodeId draw.first)
          (fun _ => Handling cursors []) fun _ => Unmoved cursors := by
        apply Effect.Triple.bind (handling_nodeSequence nodeId)
        intro sequence
        apply Effect.Triple.bind (handling_read _)
        intro correlation
        exact handling_read _
      exact hframe.conseq (fun _ h => h.1) (fun _ _ h => h) hcut
    intro frame
    apply Effect.Triple.bind ((handling_enqueueEvent _ _ _ _).conseq (fun _ h => h)
      (fun _ _ h => h) hcut)
    intro _
    refine hadvances.conseq ?_ (fun _ _ h => h) fun _ _ h => h
    intro d h
    exact ⟨h.unmoved, .inr h.held⟩

/-- What a handled item leaves: an enqueued item that waits for its acknowledgement, or a
completion with the cursor behind it. -/
def Passed (cursors : FeedName → ℕ) (item : FeedItem) (db : BridgeDatabase) : Prop :=
  if item.feed = .completion then Advanced rules mapping cursors item db
  else db.cursor = cursors ∧ Settled rules mapping db.outbox item

theorem handleItem_spec (item : FeedItem) (draw : ItemDraw) :
    Effect.Triple (Handling cursors [])
      (handleItem semanticSha256 rules config mapping draw item)
      (fun _ d => Passed rules mapping cursors item d.current ∧
        Durable.Always (fun db => db.cursor = cursors ∨ Advanced rules mapping cursors item db) d)
      fun _ => Durable.Always fun db =>
        db.cursor = cursors ∨ Advanced rules mapping cursors item db := by
  have hpassed {item : FeedItem} (hfeed : item.feed ≠ .completion) {d : Durable BridgeDatabase}
      (h : Handling cursors (sourceKeys rules mapping item) d) :
      Passed rules mapping cursors item d.current ∧
        Durable.Always (fun db => db.cursor = cursors ∨ Advanced rules mapping cursors item db)
          d := by
    refine ⟨?_, h.unmoved.mono fun _ h => .inl h⟩
    rw [Passed, if_neg hfeed]
    exact ⟨h.unmoved.current, .inr h.held⟩
  cases item with
  | ring item =>
    exact (handleRing_spec semanticSha256 rules config mapping item draw).conseq (fun _ h => h)
      (fun _ _ h => hpassed (by simp [FeedItem.feed]) h) fun _ _ h => h.mono fun _ h => .inl h
  | deviceControl item =>
    exact (handleDeviceControl_spec semanticSha256 rules config mapping item draw).conseq
      (fun _ h => h) (fun _ _ h => hpassed (by simp [FeedItem.feed]) h)
      fun _ _ h => h.mono fun _ h => .inl h
  | intent item =>
    exact (handleIntent_spec semanticSha256 rules config mapping item draw).conseq (fun _ h => h)
      (fun _ _ h => hpassed (by simp [FeedItem.feed]) h) fun _ _ h => h.mono fun _ h => .inl h
  | completion item =>
    refine (handleCompletion_spec semanticSha256 rules config mapping item draw).conseq
      (fun _ h => h) ?_ fun _ _ h => h
    intro _ d h
    have hfeed : (FeedItem.completion item).feed = .completion := rfl
    refine ⟨?_, h.2⟩
    rw [Passed, if_pos hfeed]
    exact h.1

theorem handling_boot (db : BridgeDatabase) : Handling db.cursor [] (.boot db) :=
  ⟨Durable.always_boot rfl, by simp⟩

end Items
end CitAgentMeshBridge

section Runs
variable (sha256 : String → String) (rules : PhraseRules) (config : BridgeConfig)
  (mesh : Set FeedItem)

/-- At some time of the run the item was settled. -/
def Kept (trace : List (ProcessEvent × List Empty)) (item : FeedItem) : Prop :=
  ∃ pre p, pre <+: trace ∧ (bridgeProcess sha256 rules config mesh).Run pre p ∧
    CitAgentMeshBridge.Settled rules p.mapping p.db.outbox item

/-- Every item of a feed up to a sequence was settled. -/
def SafeUpTo (trace : List (ProcessEvent × List Empty)) (feed : FeedName) (sequence : ℕ) : Prop :=
  ∀ item ∈ mesh, item.feed = feed → item.sequence ≤ sequence →
    Kept sha256 rules config mesh trace item

/-- The items of an answer that are still to be handled: what they leave out was settled. -/
structure Ahead (trace : List (ProcessEvent × List Empty)) (feed : FeedName)
    (rest : List FeedItem) : Prop where
  ascending : rest.Pairwise fun item later => item.sequence < later.sequence
  ofFeed : ∀ item ∈ rest, item.feed = feed
  kept : ∀ item ∈ mesh, item.feed = feed → ∀ last ∈ rest, item.sequence ≤ last.sequence →
    item ∈ rest ∨ Kept sha256 rules config mesh trace item

/-- What the position of the poll loop promises. -/
def PollInvariant (trace : List (ProcessEvent × List Empty)) : PollPosition → Prop
  | .stopped | .ready _ => True
  | .asked feed cursor => SafeUpTo sha256 rules config mesh trace feed cursor
  | .items feed rest => Ahead sha256 rules config mesh trace feed rest
  | .acknowledging item rest => Kept sha256 rules config mesh trace item ∧
      Ahead sha256 rules config mesh trace item.feed (item :: rest)

structure CursorInvariant (trace : List (ProcessEvent × List Empty)) (p : BridgeProcess) : Prop where
  cursors : ∀ feed, SafeUpTo sha256 rules config mesh trace feed (p.db.cursor feed)
  poll : PollInvariant sha256 rules config mesh trace p.poll

variable {sha256 rules config mesh}

variable {trace : List (ProcessEvent × List Empty)}

theorem Kept.mono {later : List (ProcessEvent × List Empty)} {item : FeedItem}
    (h : Kept sha256 rules config mesh trace item) (hlater : trace <+: later) :
    Kept sha256 rules config mesh later item := by
  obtain ⟨pre, p, hpre, hrun, hsettled⟩ := h
  exact ⟨pre, p, hpre.trans hlater, hrun, hsettled⟩

theorem SafeUpTo.mono {later : List (ProcessEvent × List Empty)} {feed : FeedName} {n : ℕ}
    (h : SafeUpTo sha256 rules config mesh trace feed n) (hlater : trace <+: later) :
    SafeUpTo sha256 rules config mesh later feed n :=
  fun item hitem hfeed hsequence => (h item hitem hfeed hsequence).mono hlater

theorem Ahead.mono {later : List (ProcessEvent × List Empty)} {feed : FeedName}
    {rest : List FeedItem} (h : Ahead sha256 rules config mesh trace feed rest)
    (hlater : trace <+: later) : Ahead sha256 rules config mesh later feed rest where
  ascending := h.ascending
  ofFeed := h.ofFeed
  kept item hitem hfeed last hlast hsequence :=
    (h.kept item hitem hfeed last hlast hsequence).imp_right (·.mono hlater)

theorem PollInvariant.mono {later : List (ProcessEvent × List Empty)} {poll : PollPosition}
    (h : PollInvariant sha256 rules config mesh trace poll) (hlater : trace <+: later) :
    PollInvariant sha256 rules config mesh later poll := by
  cases poll with
  | stopped => trivial
  | ready feed => trivial
  | asked feed cursor => exact SafeUpTo.mono h hlater
  | items feed rest => exact Ahead.mono h hlater
  | acknowledging item rest => exact ⟨h.1.mono hlater, h.2.mono hlater⟩

theorem Ahead.of_answer {feed : FeedName} {cursor : ℕ}
    {page : FeedPage} (h : SafeUpTo sha256 rules config mesh trace feed cursor)
    (hanswer : page.Answers mesh feed cursor) :
    Ahead sha256 rules config mesh trace feed page.items where
  ascending := hanswer.ascending
  ofFeed item hitem := (hanswer.published item hitem).2.1
  kept item hitem hfeed last hlast hsequence := by
    by_cases hbefore : item.sequence ≤ cursor
    · exact .inr (h item hitem hfeed hbefore)
    · exact .inl (hanswer.gapless item hitem hfeed (by omega) last hlast hsequence)

section Next
variable {trace : List (ProcessEvent × List Empty)} {feed : FeedName} {item : FeedItem}
  {rest : List FeedItem}

/-- A settled item may be passed by the cursor. -/
theorem Ahead.safe (h : Ahead sha256 rules config mesh trace feed (item :: rest))
    (hkept : Kept sha256 rules config mesh trace item) :
    SafeUpTo sha256 rules config mesh trace feed item.sequence := by
  intro other hother hfeed hsequence
  rcases h.kept other hother hfeed item List.mem_cons_self hsequence with hmem | hdone
  · rcases List.mem_cons.mp hmem with rfl | hmem
    · exact hkept
    · have hlater := List.rel_of_pairwise_cons h.ascending hmem
      omega
  · exact hdone

theorem Ahead.tail (h : Ahead sha256 rules config mesh trace feed (item :: rest))
    (hkept : Kept sha256 rules config mesh trace item) :
    Ahead sha256 rules config mesh trace feed rest where
  ascending := h.ascending.of_cons
  ofFeed other hother := h.ofFeed other (List.mem_cons_of_mem _ hother)
  kept other hother hfeed last hlast hsequence := by
    rcases h.kept other hother hfeed last (List.mem_cons_of_mem _ hlast) hsequence with hmem | hdone
    · rcases List.mem_cons.mp hmem with rfl | hmem
      · exact .inr hkept
      · exact .inl hmem
    · exact .inr hdone

end Next

theorem safe_update {cursors : FeedName → ℕ}
    {feed : FeedName} {n : ℕ} (h : ∀ feed, SafeUpTo sha256 rules config mesh trace feed (cursors feed))
    (hn : SafeUpTo sha256 rules config mesh trace feed n) (other : FeedName) :
    SafeUpTo sha256 rules config mesh trace other (Function.update cursors feed n other) := by
  by_cases hother : other = feed
  · subst hother
    rwa [Function.update_self]
  · rw [Function.update_of_ne hother]
    exact h other

/-- The handling of an item leaves cursors that are safe, also when it is cut short. -/
theorem handled_invariant {p p' : BridgeProcess}
    {item : FeedItem} {rest : List FeedItem} {feed : FeedName}
    {draw : CitAgentMeshBridge.ItemDraw} {crash : Option ℕ} {later : List (ProcessEvent × List Empty)}
    (h : CursorInvariant sha256 rules config mesh trace p) (hpoll : p.poll = .items feed (item :: rest))
    (hstep : HandledTo sha256 rules config p item rest draw crash p') (hlater : trace <+: later)
    (hrun : (bridgeProcess sha256 rules config mesh).Run later p') :
    CursorInvariant sha256 rules config mesh later p' := by
  have hspec : Effect.Triple (CitAgentMeshBridge.Handling p.db.cursor []) _ _ _ :=
    CitAgentMeshBridge.handleItem_spec sha256 rules config p.mapping item draw
  have hcursors (other : FeedName) :
      SafeUpTo sha256 rules config mesh later other (p.db.cursor other) :=
    (h.cursors other).mono hlater
  have hahead : Ahead sha256 rules config mesh later feed (item :: rest) := by
    have hahead := h.poll
    rw [hpoll] at hahead
    exact Ahead.mono hahead hlater
  have hfeed : item.feed = feed := hahead.ofFeed item List.mem_cons_self
  -- the state after the step is the one in which the item is settled
  have hkept {db : BridgeDatabase} {poll : PollPosition}
      (hsettled : CitAgentMeshBridge.Settled rules p.mapping db.outbox item)
      (hrun : (bridgeProcess sha256 rules config mesh).Run later { p with db := db, poll := poll }) :
      Kept sha256 rules config mesh later item :=
    ⟨later, _, List.prefix_rfl, hrun, hsettled⟩
  have hsafe {db : BridgeDatabase} {poll : PollPosition}
      (hdb : db.cursor = p.db.cursor ∨
        CitAgentMeshBridge.Advanced rules p.mapping p.db.cursor item db)
      (hrun : (bridgeProcess sha256 rules config mesh).Run later { p with db := db, poll := poll })
      (other : FeedName) : SafeUpTo sha256 rules config mesh later other (db.cursor other) := by
    rcases hdb with hdb | hdb
    · rw [hdb]
      exact hcursors other
    · rw [hdb.cursor, hfeed]
      exact safe_update hcursors (hahead.safe (hkept hdb.settled hrun)) other
  cases hstep with
  | done hok =>
    obtain ⟨hpassed, halways⟩ := hspec.of_ok (CitAgentMeshBridge.handling_boot p.db) hok
    refine ⟨hsafe halways.current hrun, ?_⟩
    unfold CitAgentMeshBridge.Passed at hpassed
    split at hpassed
    · rename_i hcompletion
      rw [if_pos hcompletion, ← hcompletion, hfeed]
      exact hahead.tail (hkept hpassed.settled hrun)
    · rename_i hcompletion
      rw [if_neg hcompletion]
      subst hfeed
      exact ⟨hkept hpassed.2 hrun, hahead⟩
  | raised herror =>
    have halways := hspec.of_error (CitAgentMeshBridge.handling_boot p.db) herror
    exact ⟨hsafe halways.current hrun, trivial⟩
  | cut hpoint =>
    have halways := (hspec.conseq (fun _ hd => hd) (fun _ _ hd => hd.2) fun _ _ hd => hd).final
      (CitAgentMeshBridge.handling_boot p.db)
    exact ⟨hsafe (halways _ (List.mem_of_getElem? hpoint)) hrun, trivial⟩

theorem step_invariant {later : List (ProcessEvent × List Empty)} {p p' : BridgeProcess}
    {event : ProcessEvent} (h : CursorInvariant sha256 rules config mesh trace p)
    (hstep : ProcessStep sha256 rules config mesh p event p') (hlater : trace <+: later)
    (hrun : (bridgeProcess sha256 rules config mesh).Run later p') :
    CursorInvariant sha256 rules config mesh later p' := by
  have hcursors (feed : FeedName) :
      SafeUpTo sha256 rules config mesh later feed (p.db.cursor feed) :=
    (h.cursors feed).mono hlater
  have hposition := PollInvariant.mono h.poll hlater
  cases hstep with
  | connected hpoll => exact ⟨hcursors, trivial⟩
  | @call call outbox out hother hleaves =>
    refine ⟨hcursors, ?_⟩
    show PollInvariant sha256 rules config mesh later (call.pollAfter p.poll)
    unfold BridgeCall.pollAfter
    split
    · trivial
    · trivial
    · exact hposition
  | @ask feed hpoll => exact ⟨hcursors, hcursors feed⟩
  | @empty feed cursor page hpoll hanswer hnone =>
    rw [hpoll] at hposition
    refine ⟨?_, trivial⟩
    intro other
    show SafeUpTo sha256 rules config mesh later other
      ((emptyAnswer p.db feed cursor page.nextCursor).cursor other)
    unfold emptyAnswer
    split
    · rw [BridgeDatabase.withCursor_eq page.safe, BridgeDatabase.cursor_setNumber]
      apply safe_update hcursors
      intro item hitem hfeed hsequence
      by_cases hbefore : item.sequence ≤ cursor
      · exact hposition item hitem hfeed hbefore
      · have hbeyond := hanswer.exhausted hnone item hitem hfeed (by omega)
        omega
    · exact hcursors other
  | answered hpoll hanswer hsome =>
    rw [hpoll] at hposition
    exact ⟨hcursors, .of_answer hposition hanswer⟩
  | handled hpoll hhandled => exact handled_invariant h hpoll hhandled hlater hrun
  | @acknowledged item rest hpoll =>
    rw [hpoll] at hposition
    obtain ⟨hkept, hahead⟩ := hposition
    refine ⟨?_, hahead.tail hkept⟩
    intro other
    show SafeUpTo sha256 rules config mesh later other
      ((p.db.withCursor item.feed item.sequence).cursor other)
    rw [BridgeDatabase.withCursor_eq item.sequence_le, BridgeDatabase.cursor_setNumber]
    exact safe_update hcursors (hahead.safe hkept) other
  | finished hpoll => exact ⟨hcursors, trivial⟩
  | failed => exact ⟨hcursors, trivial⟩

end Runs

/-- In every run, at every point of it, an item at or below the stored cursor of its feed was
settled at some earlier time: its events were put into the outbox, or no node stood for it. -/
theorem cursor_safe {sha256 : String → String} {rules : PhraseRules} {config : BridgeConfig}
    {mesh : Set FeedItem} {trace : List (ProcessEvent × List Empty)} {p : BridgeProcess}
    (hrun : (bridgeProcess sha256 rules config mesh).Run trace p) {item : FeedItem}
    (hitem : item ∈ mesh) (hcursor : item.sequence ≤ p.db.cursor item.feed) :
    ∃ pre q, pre <+: trace ∧ (bridgeProcess sha256 rules config mesh).Run pre q ∧
      CitAgentMeshBridge.Settled rules q.mapping q.db.outbox item := by
  have hinvariant : CursorInvariant sha256 rules config mesh trace p := by
    refine hrun.induct (P := CursorInvariant sha256 rules config mesh) ?_ ?_
    · intro p hinit
      obtain ⟨hempty, hstopped⟩ := hinit
      constructor
      · intro feed item _ _ hsequence
        rw [hempty] at hsequence
        have hpositive := item.sequence_pos
        have hzero : BridgeDatabase.empty.cursor feed = 0 := rfl
        omega
      · rw [hstopped]
        trivial
    · intro trace p event p' out hrun ih hstep
      have hprefix : trace <+: trace ++ [(event, out)] := List.prefix_append _ _
      obtain ⟨s₀, h₀, hsteps⟩ := hrun
      exact step_invariant ih hstep hprefix ⟨s₀, h₀, hsteps.snoc hstep⟩
  exact hinvariant.cursors item.feed item hitem rfl hcursor

namespace DoubleTap

def node : IntegrationNode where
  nodeId := ⟨"agentmesh-input-even-r1-glasses-1", by decide⟩
  pluginId := ⟨"cit.agent-mesh-bridge", by decide⟩
  pluginVersion := "0.1.0"
  runtimeVersion := "node-22"
  hostId := ⟨"host-1", by decide⟩
  siteId := ⟨"site-3", by decide⟩
  roomId := ⟨"room-3", by decide⟩
  displayName := "Even R1"
  connectionState := .connected
  healthState := .healthy
  physical := true
  simulated := false
  publishedCapabilities := []
  consumedCapabilities := []
  configurationSchema := .empty
  safetyClassification := .informational
  dataClassifications := [.operational]
  simulatorAvailable := false
  requiredPermissions := none
  lastSeenAt := 0
  metadata := .empty

def mapping : FeedMapping where
  nodes := [node.nodeId]
  agentSessionByNodeId _ := none
  wearableNodeByDeviceId _ := none
  companionNodeByParentDeviceId deviceId := if deviceId = "glasses-1" then some node else none

def config : BridgeConfig where
  siteId := ⟨"site-3", by decide⟩
  roomId := ⟨"room-3", by decide⟩
  fabricSessionId := ⟨"lesson-3", by decide⟩

def rules : PhraseRules := ⟨id, id⟩

def digest : String → String := fun _ => String.ofList (List.replicate 64 '0')

def item : FeedItem := .ring {
  interactionId := ⟨7⟩
  sequence := ⟨1, by decide, by decide⟩
  deviceId := "glasses-1"
  createdAt := 0
  gesture := .double_tap }

def page : FeedPage := ⟨[item], 1, by decide⟩

def draw : CitAgentMeshBridge.ItemDraw := ⟨⟨⟨1⟩, ⟨2⟩, 0⟩, ⟨⟨3⟩, ⟨4⟩, 0⟩⟩

theorem answers : page.Answers {item} .interaction 0 where
  published other hother := by
    obtain rfl : other = item := by simpa [page] using hother
    exact ⟨rfl, rfl, by decide⟩
  ascending := List.pairwise_singleton _ _
  gapless other hother _ _ _ _ _ := by simpa [page] using hother
  exhausted hnone := by simp [page] at hnone

theorem handled : ∃ d, CitAgentMeshBridge.handleItem digest rules config mapping draw item
    (.boot .empty) = .ok () d := by
  have hreturned : (Effect.returned (CitAgentMeshBridge.handleItem digest rules config mapping draw
      item (.boot .empty))).isSome = true := by
    decide +kernel
  cases hrun : CitAgentMeshBridge.handleItem digest rules config mapping draw item (.boot .empty) with
  | ok _ d => exact ⟨d, rfl⟩
  | error e d =>
    rw [hrun] at hreturned
    cases hreturned

/-- The tap is enqueued and acknowledged, and the cursor stands behind it. -/
theorem run : ∃ trace p, (bridgeProcess digest rules config {item}).Run trace p ∧
    item.sequence ≤ p.db.cursor item.feed := by
  obtain ⟨d, hd⟩ := handled
  let M := bridgeProcess digest rules config {item}
  let start : BridgeProcess := ⟨.empty, mapping, .stopped⟩
  let enqueued : BridgeProcess := ⟨d.current, mapping, .acknowledging item []⟩
  let passed : BridgeProcess := ⟨d.current.withCursor item.feed item.sequence, mapping,
    .items item.feed []⟩
  have hconnected : M.Step start (.connected mapping) ⟨.empty, mapping, .ready .interaction⟩ [] :=
    .connected rfl
  have hasked : M.Step ⟨.empty, mapping, .ready .interaction⟩ .ask
      ⟨.empty, mapping, .asked .interaction 0⟩ [] := .ask rfl
  have hanswered : M.Step ⟨.empty, mapping, .asked .interaction 0⟩ (.answered page)
      ⟨.empty, mapping, .items .interaction [item]⟩ [] :=
    .answered rfl answers (by simp [page])
  have hhandled : M.Step ⟨.empty, mapping, .items .interaction [item]⟩ (.handled draw none)
      enqueued [] := .handled rfl (.done hd)
  have hacknowledged : M.Step enqueued .acknowledged passed [] := .acknowledged rfl
  have hrun := ((((Machine.Steps.nil.snoc hconnected).snoc hasked).snoc hanswered).snoc
    hhandled).snoc hacknowledged
  refine ⟨_, passed, ⟨start, ⟨rfl, rfl⟩, hrun⟩, ?_⟩
  show item.sequence ≤ (d.current.withCursor item.feed item.sequence).cursor item.feed
  rw [BridgeDatabase.withCursor_eq item.sequence_le, BridgeDatabase.cursor_setNumber]
  simp

end DoubleTap

theorem cursor_safe_double_tap : ∃ trace p,
    (bridgeProcess DoubleTap.digest DoubleTap.rules DoubleTap.config {DoubleTap.item}).Run trace p ∧
    ∃ pre q, pre <+: trace ∧
      (bridgeProcess DoubleTap.digest DoubleTap.rules DoubleTap.config {DoubleTap.item}).Run pre q ∧
      CitAgentMeshBridge.Settled DoubleTap.rules q.mapping q.db.outbox DoubleTap.item := by
  obtain ⟨trace, p, hrun, hcursor⟩ := DoubleTap.run
  exact ⟨trace, p, hrun, cursor_safe hrun rfl hcursor⟩

end CitPhysicalXR.Bridge
