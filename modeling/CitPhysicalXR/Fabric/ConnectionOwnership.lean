import CitPhysicalXR.Fabric.AdapterConnections
import CitPhysicalXR.Foundation.Execution

/-! Who a node belongs to: the connection that registered it last, while it lives. -/
namespace CitPhysicalXR.Fabric
open Foundation

def ownerAfter (nodeId : String) (owner : Option ℕ) : ConnectionReport → Option ℕ
  | .installed connection nodeIds => if nodeId ∈ nodeIds then some connection else owner
  | .removed connection _ => if owner = some connection then none else owner
  | _ => owner

/-- The connection that was installed last for a node, unless it has been removed. -/
def ownerOf (history : List ConnectionReport) (nodeId : String) : Option ℕ :=
  history.foldl (ownerAfter nodeId) none

/-- A command goes to the owner of its node, a message is applied from the owner, and a removal
disconnects the nodes that the connection owns. -/
def Owned (history : List ConnectionReport) : ConnectionReport → Prop
  | .sent nodeId connection => ownerOf history nodeId = some connection
  | .applied _ nodeId connection => ownerOf history nodeId = some connection
  | .removed connection disconnected =>
    ∀ nodeId, nodeId ∈ disconnected ↔ ownerOf history nodeId = some connection
  | _ => True

def AllOwned (history : List ConnectionReport) : List ConnectionReport → Prop
  | [] => True
  | report :: out => Owned history report ∧ AllOwned (history ++ [report]) out

theorem AllOwned.append {history out more : List ConnectionReport} (h : AllOwned history out)
    (hmore : AllOwned (history ++ out) more) : AllOwned history (out ++ more) := by
  induction out generalizing history with
  | nil => simpa using hmore
  | cons report out ih =>
    refine ⟨h.1, ih h.2 ?_⟩
    rwa [List.append_assoc, List.singleton_append]

theorem AllOwned.at {history out pre post : List ConnectionReport} {report : ConnectionReport}
    (h : AllOwned history out) (hout : out = pre ++ report :: post) :
    Owned (history ++ pre) report := by
  induction pre generalizing history out with
  | nil =>
    subst hout
    simpa using h.1
  | cons first pre ih =>
    subst hout
    have hrest := ih h.2 rfl
    rwa [List.append_assoc, List.singleton_append] at hrest

theorem ownerOf_append (history out : List ConnectionReport) (nodeId : String) :
    ownerOf (history ++ out) nodeId = out.foldl (ownerAfter nodeId) (ownerOf history nodeId) := by
  simp [ownerOf]

/-- Reports of frames leave the owners alone. -/
def ConnectionReport.passes : ConnectionReport → Bool
  | .installed .. | .removed .. => false
  | _ => true

theorem ownerOf_passes {history out : List ConnectionReport}
    (hpasses : ∀ report ∈ out, report.passes = true) (nodeId : String) :
    ownerOf (history ++ out) nodeId = ownerOf history nodeId := by
  rw [ownerOf_append]
  generalize ownerOf history nodeId = owner
  induction out with
  | nil => rfl
  | cons report out ih =>
    have hsame : ownerAfter nodeId owner report = owner := by
      have hreport := hpasses report List.mem_cons_self
      cases report <;> first | rfl | cases hreport
    rw [List.foldl_cons, hsame]
    exact ih fun other hother => hpasses other (List.mem_cons_of_mem _ hother)

/-- A frame that has not been seen names no node that its connection has lost, and a send that
goes through goes to the connection that the map has for its node. -/
def Uncontested (s : AdapterConnections) : ConnectionEvent → Prop
  | .frame id frame _ => ∀ connection ∈ s.connections, connection.id = id →
    frame.frameId ∉ connection.seenFrameIds → ∀ nodeId ∈ frame.nodeIds,
      nodeId ∈ connection.nodeIds → s.connectionOf nodeId = some id
  | .send id _ => ∀ pending ∈ s.sends, pending.id = id → ∀ connection ∈ s.connections,
    connection.id = pending.connection → connection.closed = false →
      s.connectionOf pending.nodeId = some pending.connection
  | _ => True

instance (s : AdapterConnections) : DecidablePred (Uncontested s)
  | .frame id frame _ => inferInstanceAs (Decidable (∀ connection ∈ s.connections,
    connection.id = id → frame.frameId ∉ connection.seenFrameIds → ∀ nodeId ∈ frame.nodeIds,
      nodeId ∈ connection.nodeIds → s.connectionOf nodeId = some id))
  | .send id _ => inferInstanceAs (Decidable (∀ pending ∈ s.sends, pending.id = id →
    ∀ connection ∈ s.connections, connection.id = pending.connection →
      connection.closed = false → s.connectionOf pending.nodeId = some pending.connection))
  | .install .. | .proceed .. | .acknowledged .. | .remove _ | .dispatch _ | .stopNodes =>
    .isTrue trivial

structure Mapped (history : List ConnectionReport) (s : AdapterConnections) : Prop where
  owners : ∀ nodeId, s.connectionOf nodeId = ownerOf history nodeId
  registered : ∀ nodeId id, s.connectionOf nodeId = some id →
    ∃ connection ∈ s.connections, connection.id = id ∧ nodeId ∈ connection.nodeIds
  ids : (s.connections.map AdapterConnection.id).Nodup
  fresh : ∀ connection ∈ s.connections, connection.id < s.nextConnection

namespace AdapterConnections
variable {s s' : AdapterConnections}

theorem connection?_some {id : ℕ} {connection : AdapterConnection}
    (h : s.connection? id = some connection) :
    connection ∈ s.connections ∧ connection.id = id :=
  ⟨List.mem_of_find?_eq_some h, by simpa using List.find?_some h⟩

theorem connectionOf_mapped (id : ℕ) (nodeIds : List String) (nodeId : String) :
    ((s.mapped id nodeIds).get? nodeId).map NodeConnection.connection =
      if nodeId ∈ nodeIds then some id else s.connectionOf nodeId := by
  unfold mapped connectionOf
  generalize s.byNodeId = table
  induction nodeIds generalizing table with
  | nil => simp
  | cons first nodeIds ih =>
    rw [List.foldl_cons, ih]
    by_cases hrest : nodeId ∈ nodeIds
    · simp [hrest]
    · by_cases hfirst : nodeId = first
      · subst hfirst
        have hself := Table.get?_upsert_self (t := table) (⟨nodeId, id⟩ : NodeConnection)
        simp [hrest, hself]
      · have hother : (table.upsert ⟨first, id⟩).get? nodeId = table.get? nodeId :=
          Table.get?_upsert_of_ne hfirst
        simp [hrest, hfirst, hother]

/-- What a step does to a connection other than its number and nodes leaves the map alone. -/
structure SameOwners (s s' : AdapterConnections) : Prop where
  table : s'.byNodeId = s.byNodeId
  places : s'.connections.map (fun connection => (connection.id, connection.nodeIds)) =
    s.connections.map fun connection => (connection.id, connection.nodeIds)
  next : s'.nextConnection = s.nextConnection

theorem SameOwners.refl : SameOwners s s := ⟨rfl, rfl, rfl⟩

theorem SameOwners.trans {s'' : AdapterConnections} (h : SameOwners s s')
    (h' : SameOwners s' s'') : SameOwners s s'' :=
  ⟨h'.table.trans h.table, h'.places.trans h.places, h'.next.trans h.next⟩

theorem sameOwners_update {id : ℕ} {f : AdapterConnection → AdapterConnection}
    (hf : ∀ c, ((f c).id, (f c).nodeIds) = (c.id, c.nodeIds)) : SameOwners s (s.update id f) :=
  ⟨rfl, KeyedList.map_update hf, rfl⟩

theorem sameOwners_setPhase {id : ℕ} {phase : ConnectionPhase} :
    SameOwners s (s.setPhase id phase) := sameOwners_update fun _ => rfl

theorem sameOwners_closeNext {installer : ℕ} {replaced : List ℕ} {raises : Bool} :
    SameOwners s (s.closeNext installer replaced raises) := by
  unfold closeNext
  split
  · exact sameOwners_setPhase
  · refine .trans ?_ sameOwners_setPhase
    exact sameOwners_update fun _ => rfl

end AdapterConnections

namespace Mapped
variable {history : List ConnectionReport} {s s' : AdapterConnections}

theorem initial : Mapped [] {} where
  owners _ := rfl
  registered _ _ h := by cases h
  ids := List.nodup_nil
  fresh _ h := absurd h List.not_mem_nil

/-- A step that keeps the map, the connections and their nodes. -/
theorem same (h : Mapped history s) (hsame : AdapterConnections.SameOwners s s')
    {out : List ConnectionReport} (hpasses : ∀ report ∈ out, report.passes = true) :
    Mapped (history ++ out) s' := by
  have hof (nodeId : String) : s'.connectionOf nodeId = s.connectionOf nodeId := by
    unfold AdapterConnections.connectionOf
    rw [hsame.table]
  have hids : s'.connections.map AdapterConnection.id =
      s.connections.map AdapterConnection.id := by
    have hfst := congrArg (List.map Prod.fst) hsame.places
    simpa only [List.map_map, Function.comp_def] using hfst
  constructor
  · intro nodeId
    rw [hof, ownerOf_passes hpasses]
    exact h.owners nodeId
  · intro nodeId id hid
    rw [hof] at hid
    obtain ⟨connection, hmem, hconnection⟩ := h.registered nodeId id hid
    have hplace := List.mem_map_of_mem (f := fun c => (c.id, c.nodeIds)) hmem
    rw [← hsame.places] at hplace
    obtain ⟨after, hafter, heq⟩ := List.mem_map.mp hplace
    obtain ⟨hid', hnodes⟩ := Prod.mk.inj heq
    exact ⟨after, hafter, hid'.trans hconnection.1, hnodes ▸ hconnection.2⟩
  · rw [hids]
    exact h.ids
  · intro connection hmem
    have hid := List.mem_map_of_mem (f := AdapterConnection.id) hmem
    rw [hids] at hid
    obtain ⟨before, hbefore, heq⟩ := List.mem_map.mp hid
    rw [hsame.next, ← heq]
    exact h.fresh before hbefore

theorem quiet (h : Mapped history s) (hsame : AdapterConnections.SameOwners s s') :
    Mapped history s' := by
  rw [← List.append_nil history]
  exact h.same hsame (by simp)

/-- A registration makes its nodes those of the new connection. -/
theorem install (h : Mapped history s) (registration : Registration) (raises : Bool) :
    Mapped (history ++ [ConnectionReport.installed s.nextConnection registration.nodeIds])
      (s.install registration raises).1 := by
  have hbase : Mapped (history ++ [ConnectionReport.installed s.nextConnection registration.nodeIds])
      { s with
        byNodeId := s.mapped s.nextConnection registration.nodeIds
        connections := s.connections ++ [.new s.nextConnection registration.nodeIds]
        nextConnection := s.nextConnection + 1 } := by
    have hof := AdapterConnections.connectionOf_mapped (s := s) s.nextConnection
      registration.nodeIds
    constructor
    · intro nodeId
      refine (hof nodeId).trans ?_
      rw [ownerOf_append, h.owners nodeId]
      rfl
    · intro nodeId id hid
      have hid := (hof nodeId).symm.trans hid
      split at hid
      · cases hid
        exact ⟨_, List.mem_append_right _ (List.mem_singleton_self _), rfl, ‹_›⟩
      · obtain ⟨connection, hmem, hconnection⟩ := h.registered nodeId id hid
        exact ⟨connection, List.mem_append_left _ hmem, hconnection⟩
    · rw [List.map_append, List.map_singleton, List.nodup_append]
      refine ⟨h.ids, List.nodup_singleton _, ?_⟩
      intro id hid other hother hsame
      obtain ⟨connection, hmem, rfl⟩ := List.mem_map.mp hid
      have hnew := (List.mem_singleton.mp hother).symm.trans hsame.symm
      have hlt := h.fresh connection hmem
      exact absurd hnew (by simp only [AdapterConnection.new]; omega)
    · intro connection hmem
      rcases List.mem_append.mp hmem with hmem | hmem
      · exact Nat.lt_succ_of_lt (h.fresh connection hmem)
      · obtain rfl := List.mem_singleton.mp hmem
        exact Nat.lt_succ_self _
  exact hbase.quiet AdapterConnections.sameOwners_closeNext

theorem removed_iff (h : Mapped history s) {connection : AdapterConnection}
    (hmem : connection ∈ s.connections) (nodeId : String) :
    nodeId ∈ connection.nodeIds.filter
        (fun nodeId => decide (s.connectionOf nodeId = some connection.id)) ↔
      s.connectionOf nodeId = some connection.id := by
  rw [List.mem_filter, decide_eq_true_eq]
  constructor
  · intro hfound
    exact hfound.2
  · intro howner
    obtain ⟨other, hother, hid, hnode⟩ := h.registered nodeId connection.id howner
    obtain rfl := KeyedList.eq_of_key h.ids hother hmem hid
    exact ⟨hnode, howner⟩

theorem remove (h : Mapped history s) {connection : AdapterConnection}
    (hmem : connection ∈ s.connections) :
    Mapped (history ++ (s.remove connection).2) (s.remove connection).1 := by
  have hremoved := h.removed_iff hmem
  have hof (nodeId : String) : (s.remove connection).1.connectionOf nodeId =
      if s.connectionOf nodeId = some connection.id then none else s.connectionOf nodeId := by
    unfold AdapterConnections.remove AdapterConnections.connectionOf
    unfold AdapterConnections.connectionOf at hremoved
    generalize connection.nodeIds.filter _ = removed at hremoved ⊢
    rw [Table.get?_filterRows]
    cases hrow : s.byNodeId.get? nodeId with
    | none => rfl
    | some row =>
      have hiff := hremoved nodeId
      rw [hrow] at hiff
      obtain rfl := (Table.get?_some hrow).2
      by_cases hin : row.nodeId ∈ removed
      · rw [if_pos (hiff.mp hin)]
        simp [hin]
      · rw [if_neg fun howner => hin (hiff.mpr howner)]
        simp [hin]
  constructor
  · intro nodeId
    rw [hof, ownerOf_append, ← h.owners nodeId]
    rfl
  · intro nodeId id hid
    rw [hof] at hid
    split at hid
    · cases hid
    · rename_i hother
      obtain ⟨other, hmem', hid', hnode⟩ := h.registered nodeId id hid
      refine ⟨other, List.mem_filter.mpr ⟨hmem', ?_⟩, hid', hnode⟩
      rw [decide_eq_true_eq]
      intro hsame
      rw [hid, ← hid', hsame] at hother
      exact hother rfl
  · exact (List.filter_sublist.map _).nodup h.ids
  · intro other hother
    exact h.fresh other (List.mem_of_mem_filter hother)

end Mapped

namespace AdapterConnection
variable {c : AdapterConnection} {history : List ConnectionReport}

/-- The messages of a frame are applied from its own connection. -/
theorem handleHeartbeat_owned {reports : List (String × Bool)}
    (h : ∀ nodeId ∈ reports.map Prod.fst, nodeId ∈ c.nodeIds →
      ownerOf history nodeId = some c.id) :
    (∀ report ∈ (c.handleHeartbeat reports).1, report.passes = true) ∧
      AllOwned history (c.handleHeartbeat reports).1 := by
  induction reports generalizing history with
  | nil => exact ⟨by simp [handleHeartbeat], trivial⟩
  | cons first reports ih =>
    obtain ⟨nodeId, accepted⟩ := first
    unfold handleHeartbeat
    split
    · rename_i hnode
      have howner := h nodeId (by simp) hnode.1
      have hpasses : ∀ report ∈ [ConnectionReport.applied .health nodeId c.id],
          report.passes = true := by simp [ConnectionReport.passes]
      have hothers : ∀ other ∈ reports.map Prod.fst, other ∈ c.nodeIds →
          ownerOf (history ++ [ConnectionReport.applied .health nodeId c.id]) other = some c.id := by
        intro other hother hregistered
        rw [ownerOf_passes hpasses]
        exact h other (List.mem_cons_of_mem _ hother) hregistered
      have hrest := ih hothers
      refine ⟨?_, howner, hrest.2⟩
      intro report hreport
      rcases List.mem_cons.mp hreport with rfl | hreport
      · rfl
      · exact hrest.1 report hreport
    · exact ⟨by simp, trivial⟩

theorem handleMessage_owned {kind : MessageKind} {nodeId : String} {accepted duplicate : Bool}
    (h : duplicate = false → nodeId ∈ c.nodeIds → ownerOf history nodeId = some c.id) :
    (∀ report ∈ (c.handleMessage kind nodeId accepted duplicate).1, report.passes = true) ∧
      AllOwned history (c.handleMessage kind nodeId accepted duplicate).1 := by
  unfold handleMessage
  split
  · exact ⟨by simp, trivial⟩
  · rename_i hnode
    split
    · exact ⟨by simp, trivial⟩
    · rename_i hfresh
      split
      · refine ⟨by simp [ConnectionReport.passes], ?_, trivial⟩
        exact h (by simpa using hfresh) (not_not.mp hnode)
      · exact ⟨by simp, trivial⟩

theorem handle_owned {frame : AdapterFrame} {duplicate : Bool}
    (h : duplicate = false → ∀ nodeId ∈ frame.nodeIds, nodeId ∈ c.nodeIds →
      ownerOf history nodeId = some c.id) :
    (∀ report ∈ (c.handle frame duplicate).1, report.passes = true) ∧
      AllOwned history (c.handle frame duplicate).1 := by
  cases frame with
  | heartbeat frameId reports =>
    cases duplicate with
    | true => exact ⟨fun _ hreport => absurd hreport List.not_mem_nil, trivial⟩
    | false => exact handleHeartbeat_owned (h rfl)
  | event frameId nodeId accepted =>
    exact handleMessage_owned fun hfresh => h hfresh nodeId List.mem_cons_self
  | lifecycle frameId nodeId accepted =>
    exact handleMessage_owned fun hfresh => h hfresh nodeId List.mem_cons_self

end AdapterConnection

/-- What a step leaves behind. -/
def Upholds (history out : List ConnectionReport) (s' : AdapterConnections) : Prop :=
  Mapped (history ++ out) s' ∧ AllOwned history out

namespace Mapped
variable {history out : List ConnectionReport} {s s' : AdapterConnections}

/-- A step that reports nothing. -/
theorem upholds_quiet (h : Mapped history s) (hsame : AdapterConnections.SameOwners s s') :
    Upholds history [] s' := by
  refine ⟨?_, trivial⟩
  rw [List.append_nil]
  exact h.quiet hsame

theorem upholds_receive (h : Mapped history s) {c : AdapterConnection} {frame : AdapterFrame}
    {now : ℚ} (hc : c ∈ s.connections) (hok : Uncontested s (.frame c.id frame now)) :
    Upholds history (s.receive c frame now).2 (s.receive c frame now).1 := by
  simp only [AdapterConnections.receive]
  split
  · exact h.upholds_quiet AdapterConnections.sameOwners_setPhase
  · have howner : c.seenFrameIds.contains frame.frameId = false → ∀ nodeId ∈ frame.nodeIds,
        nodeId ∈ c.nodeIds → ownerOf history nodeId = some c.id := by
      intro hfresh nodeId hnode hregistered
      rw [← h.owners nodeId]
      exact hok c hc rfl (by simpa using hfresh) nodeId hnode hregistered
    obtain ⟨hpasses, howned⟩ := AdapterConnection.handle_owned howner
    refine ⟨h.same ?_ hpasses, howned⟩
    exact AdapterConnections.sameOwners_update fun _ => rfl

theorem upholds_remove (h : Mapped history s) {c : AdapterConnection} (hc : c ∈ s.connections) :
    Upholds history (s.remove c).2 (s.remove c).1 := by
  refine ⟨h.remove hc, ?_, trivial⟩
  intro nodeId
  rw [← h.owners nodeId]
  exact h.removed_iff hc nodeId

theorem upholds_send (h : Mapped history s) {pending : PendingSend} {raises : Bool}
    (hpending : pending ∈ s.sends) (hok : Uncontested s (.send pending.id raises)) :
    Upholds history (s.send pending raises).2 (s.send pending raises).1 := by
  simp only [AdapterConnections.send]
  by_cases hopen : ((s.connection? pending.connection).any
      fun connection => !connection.closed) = true ∧ raises = false
  · obtain ⟨connection, hfound, hclosed⟩ := (Option.any_eq_true ..).mp hopen.1
    obtain ⟨hmem, hid⟩ := AdapterConnections.connection?_some hfound
    have howner := hok pending hpending rfl connection hmem hid (by simpa using hclosed)
    rw [if_pos (by simp [hopen])]
    refine ⟨h.same ?_ (List.forall_mem_singleton.mpr rfl), ?_, trivial⟩
    · exact ⟨rfl, rfl, rfl⟩
    · exact (h.owners pending.nodeId).symm.trans howner
  · rw [if_neg (by simpa using hopen)]
    refine ⟨h.same ?_ (List.forall_mem_singleton.mpr rfl), trivial, trivial⟩
    exact ⟨rfl, rfl, rfl⟩

theorem step (h : Mapped history s) {e : ConnectionEvent} (hok : Uncontested s e)
    (hs : s.step e = some (s', out)) : Upholds history out s' := by
  cases e with
  | install registration raises =>
    cases hs
    exact ⟨h.install registration raises, trivial, trivial⟩
  | proceed id raises =>
    obtain ⟨connection, _, hs⟩ := Option.bind_eq_some_iff.mp hs
    split at hs
    · cases hs
      exact h.upholds_quiet AdapterConnections.sameOwners_setPhase
    · cases hs
      exact h.upholds_quiet AdapterConnections.sameOwners_closeNext
    · cases hs
  | frame id frame now =>
    obtain ⟨connection, hfound, hstep⟩ := Option.bind_eq_some_iff.mp hs
    obtain ⟨hmem, hid⟩ := AdapterConnections.connection?_some hfound
    subst hid
    split at hstep
    · obtain ⟨rfl, rfl⟩ := Prod.mk.inj (Option.some.inj hstep)
      exact h.upholds_receive hmem hok
    · cases hstep
  | acknowledged id raises =>
    obtain ⟨connection, _, hs⟩ := Option.bind_eq_some_iff.mp hs
    split at hs
    · cases hs
      exact h.upholds_quiet AdapterConnections.sameOwners_setPhase
    · cases hs
  | remove id =>
    obtain ⟨connection, hfound, hs⟩ := Option.map_eq_some_iff.mp hs
    cases hs
    exact h.upholds_remove (AdapterConnections.connection?_some hfound).1
  | dispatch nodeId =>
    simp only [AdapterConnections.step] at hs
    split at hs
    · cases hs
      exact ⟨h.same .refl (by simp [ConnectionReport.passes]), trivial, trivial⟩
    · cases hs
      exact h.upholds_quiet ⟨rfl, rfl, rfl⟩
  | stopNodes =>
    cases hs
    exact h.upholds_quiet ⟨rfl, rfl, rfl⟩
  | send id raises =>
    obtain ⟨pending, hfound, hsent⟩ := Option.map_eq_some_iff.mp hs
    have hpending := List.mem_of_find?_eq_some hfound
    have hid : pending.id = id := by simpa using List.find?_some hfound
    subst hid
    obtain ⟨rfl, rfl⟩ := Prod.mk.inj hsent
    exact h.upholds_send hpending hok

end Mapped

/-- In every run without a contested step: whenever a frame is sent for a node, it is sent on the
connection that registered the node last and lives; whenever a message about a node is applied, it
comes from that connection; and a removal disconnects exactly the nodes of its connection. -/
theorem owners_respected {trace : List (ConnectionEvent × List ConnectionReport)}
    {s : AdapterConnections} (hrun : (adapterConnections.restrict Uncontested).Run trace s)
    {pre post : List ConnectionReport} {report : ConnectionReport}
    (htrace : Machine.outputs trace = pre ++ report :: post) : Owned pre report := by
  have h : Upholds [] (Machine.outputs trace) s := by
    refine hrun.induct (P := fun trace s => Upholds [] (Machine.outputs trace) s) ?_ ?_
    · intro s hinit
      rw [show s = {} from hinit]
      exact ⟨Mapped.initial, trivial⟩
    · intro trace s e s' out _ ih hstep
      obtain ⟨hmapped, howned⟩ := ih
      rw [List.nil_append] at hmapped
      obtain ⟨hmapped', howned'⟩ := hmapped.step hstep.1 hstep.2
      rw [Machine.outputs_append, Machine.outputs_singleton]
      refine ⟨hmapped', howned.append ?_⟩
      rwa [List.nil_append]
  exact h.2.at htrace

def lampRegistration : Registration where
  nodeIds := ["lamp"]
  nonempty := by simp
  nodup := by simp

/-- A lamp reports an event, and a command is sent to it. -/
theorem owners_respected_lamp : ∃ trace s,
    (adapterConnections.restrict Uncontested).Run trace s ∧
      Machine.outputs trace = [ConnectionReport.installed 0 ["lamp"], .applied .event "lamp" 0] ++
        ConnectionReport.sent "lamp" 0 :: [] ∧
      Owned [.installed 0 ["lamp"], .applied .event "lamp" 0] (.sent "lamp" 0) := by
  have hexec : ((Machine.execute AdapterConnections.step Uncontested {}
      [.install lampRegistration false, .proceed 0 false,
        .frame 0 (.event "frame-1" "lamp" true) 0, .dispatch "lamp", .send 0 false]).any
      fun last => decide (Machine.outputs last.2 =
        [.installed 0 ["lamp"], .applied .event "lamp" 0, .sent "lamp" 0])) = true := by
    decide
  obtain ⟨last, hlast, hend⟩ := (Option.any_eq_true ..).mp hexec
  have hrun := Machine.run_of_execute (M := adapterConnections) rfl id hlast
  have houtputs := of_decide_eq_true hend
  exact ⟨_, _, hrun, houtputs, owners_respected hrun houtputs⟩

/-- The lamp registers again while its first connection waits for a frame: the event that arrives
there is applied. -/
theorem owner_bypassed : ∃ trace s pre report post, adapterConnections.Run trace s ∧
    Machine.outputs trace = pre ++ report :: post ∧ ¬Owned pre report := by
  have hexec : ((Machine.execute AdapterConnections.step (fun _ _ => True) {}
      [.install lampRegistration false, .proceed 0 false, .install lampRegistration false,
        .frame 0 (.event "frame-1" "lamp" true) 0]).any fun last =>
      decide (Machine.outputs last.2 =
        [.installed 0 ["lamp"], .installed 1 ["lamp"], .applied .event "lamp" 0])) = true := by
    decide
  obtain ⟨last, hlast, hend⟩ := (Option.any_eq_true ..).mp hexec
  have hrun := (Machine.run_of_execute (M := adapterConnections) rfl id hlast).of_restrict
  refine ⟨_, _, [.installed 0 ["lamp"], .installed 1 ["lamp"]], .applied .event "lamp" 0, [],
    hrun, of_decide_eq_true hend, ?_⟩
  have howner : ownerOf [.installed 0 ["lamp"], .installed 1 ["lamp"]] "lamp" = some 1 := by
    decide
  intro howned
  exact absurd (howner.symm.trans howned) (by decide)

end CitPhysicalXR.Fabric
