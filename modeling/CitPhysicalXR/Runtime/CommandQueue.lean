import CitPhysicalXR.Foundation.BinaryHeap
import CitPhysicalXR.Foundation.OrderedRows
import CitPhysicalXR.Foundation.Transition
import CitPhysicalXR.Runtime.Lanes
import Mathlib.Data.Prod.Lex

/-! The command queue: a bounded heap of the whole room, from which items are taken at the top,
by device, or all at once. -/
namespace CitPhysicalXR.Runtime
open Foundation

/-- Items compare by rank, and by arrival within a rank. -/
def QueueItem.key (item : QueueItem) : ℕ ×ₗ ℕ := toLex (item.priority, item.tiebreak)

theorem QueueItem.before_iff {first second : QueueItem} :
    first.before second = true ↔ first.key < second.key := by
  simp [before, key, Prod.Lex.toLex_lt_toLex]

namespace CommandQueue

structure State where
  heap : Array QueueItem
  counter : ℕ

def sorted (items : List QueueItem) : List QueueItem := orderedBy QueueItem.key items

namespace State
variable (q : State)

/-- `push`; a full queue sheds the command. -/
def push (depth : ℕ) (command : DeviceCommandIntent) (priority : CommandPriority) (waiter : ℕ) :
    Option (QueueItem × State) :=
  if depth ≤ q.heap.size then none
  else
    let item : QueueItem := {
      priority := priority.rank
      tiebreak := q.counter
      command := command
      waiter := waiter }
    some (item, ⟨BinaryHeap.heappush QueueItem.key q.heap item, q.counter + 1⟩)

def pop : Option (QueueItem × State) :=
  (BinaryHeap.heappop QueueItem.key q.heap).map fun (item, rest) => (item, { q with heap := rest })

/-- `pop_for`: the best item of a device is removed from the list, which is made a heap again. -/
def popFor (deviceId : String) : Option (QueueItem × State) :=
  (CommandQueue.popFor deviceId q.heap.toList).map fun (item, rest) =>
    (item, { q with heap := BinaryHeap.heapify QueueItem.key rest.toArray })

def take : Option String → List QueueItem × State
  | none => (sorted q.heap.toList, { q with heap := #[] })
  | some deviceId =>
    let items := sorted (taken (some deviceId) q.heap.toList)
    if items.isEmpty then (items, q)
    else (items, { q with
      heap := BinaryHeap.heapify QueueItem.key (kept (some deviceId) q.heap.toList).toArray })

end State

inductive QueueEvent where
  | push (command : DeviceCommandIntent) (priority : CommandPriority) (waiter : ℕ)
  | pop
  | popFor (deviceId : String)
  | take (deviceId : Option String)

inductive QueueReport where
  | pushed (item : QueueItem)
  | full
  | removed (item : QueueItem)

def QueueReport.pushed? : QueueReport → Option QueueItem
  | .pushed item => some item
  | _ => none

def QueueReport.removed? : QueueReport → Option QueueItem
  | .removed item => some item
  | _ => none

/-- What an operation leaves when it may find nothing. -/
def State.removing (q : State) : Option (QueueItem × State) → State × List QueueReport
  | none => (q, [])
  | some (item, after) => (after, [.removed item])

def State.after (depth : ℕ) (q : State) : QueueEvent → State × List QueueReport
  | .push command priority waiter =>
    match q.push depth command priority waiter with
    | none => (q, [.full])
    | some (item, after) => (after, [.pushed item])
  | .pop => q.removing q.pop
  | .popFor deviceId => q.removing (q.popFor deviceId)
  | .take deviceId => ((q.take deviceId).2, (q.take deviceId).1.map .removed)

end CommandQueue

open CommandQueue in
def commandQueue (depth : ℕ) : Machine State QueueEvent QueueReport where
  Initial q := q = ⟨#[], 0⟩
  Step q event q' out := q.after depth event = (q', out)

namespace CommandQueue

/-- The items that a trace has pushed, in the order of their arrival. -/
def pushed (trace : List (QueueEvent × List QueueReport)) : List QueueItem :=
  (Machine.outputs trace).filterMap QueueReport.pushed?

/-- The items that a trace has returned. -/
def removed (trace : List (QueueEvent × List QueueReport)) : List QueueItem :=
  (Machine.outputs trace).filterMap QueueReport.removed?

variable {deviceId : String} {items arrived left : List QueueItem} {depth : ℕ}
  {out : List QueueReport}

theorem best_least {item : QueueItem}
    (h : best deviceId items = some item) : ∀ other ∈ items,
      other.command.deviceId = deviceId → item.key ≤ other.key := by
  induction items generalizing item with
  | nil => cases h
  | cons first items ih =>
    unfold best at h
    intro other hother hdevice
    split at h
    · rename_i hskip
      rcases List.mem_cons.mp hother with rfl | hother
      · exact absurd hdevice hskip
      · exact ih h other hother hdevice
    · split at h
      · rename_i hnone
        obtain rfl := Option.some.inj h
        rcases List.mem_cons.mp hother with rfl | hother
        · exact le_rfl
        · exact absurd hdevice (best_none hnone other hother)
      · rename_i candidate hbest
        have hleast := ih hbest
        split at h
        · rename_i hbefore
          obtain rfl := Option.some.inj h
          rcases List.mem_cons.mp hother with rfl | hother
          · exact (QueueItem.before_iff.mp hbefore).le
          · exact hleast other hother hdevice
        · rename_i hnot
          obtain rfl := Option.some.inj h
          rcases List.mem_cons.mp hother with rfl | hother
          · exact le_rfl
          · have hle : first.key ≤ candidate.key :=
              not_lt.mp fun hlt => hnot (QueueItem.before_iff.mpr hlt)
            exact hle.trans (hleast other hother hdevice)

/-- What an operation takes from the queue: nothing is lost, and of the items of one device
none is left behind that goes first. -/
structure Takes (q q' : State) (items : List QueueItem) : Prop where
  perm : q.heap.toList.Perm (items ++ q'.heap.toList)
  counter : q'.counter = q.counter
  heap : BinaryHeap.IsHeap QueueItem.key q'.heap
  order : ∀ before item after, items = before ++ item :: after → ∀ other ∈ q.heap.toList,
    other.command.deviceId = item.command.deviceId → other.key < item.key → other ∈ before

variable {q q' : State} {item : QueueItem}

theorem Takes.single (hperm : q.heap.toList.Perm (item :: q'.heap.toList))
    (hcounter : q'.counter = q.counter) (hheap : BinaryHeap.IsHeap QueueItem.key q'.heap)
    (hleast : ∀ other ∈ q.heap.toList, other.command.deviceId = item.command.deviceId →
      item.key ≤ other.key) : Takes q q' [item] := by
  refine ⟨hperm, hcounter, hheap, ?_⟩
  intro before found after hsplit other hother hdevice hlt
  obtain ⟨_, hfound⟩ | ⟨_, _, hnil⟩ := List.cons_eq_append_iff.mp hsplit
  · obtain rfl := (List.cons.inj hfound).1
    exact absurd hlt (not_lt.mpr (hleast other hother hdevice))
  · simp at hnil

theorem pop_takes (hheap : BinaryHeap.IsHeap QueueItem.key q.heap)
    (h : q.pop = some (item, q')) : Takes q q' [item] := by
  obtain ⟨⟨found, rest⟩, hpop, heq⟩ := Option.map_eq_some_iff.mp h
  cases heq
  obtain ⟨hperm, hrest, hleast⟩ := BinaryHeap.heappop_spec hheap hpop
  exact .single hperm rfl hrest fun other hother _ => hleast other hother

theorem popFor_takes (hties : (q.heap.toList.map QueueItem.tiebreak).Nodup)
    (h : q.popFor deviceId = some (item, q')) :
    item.command.deviceId = deviceId ∧ Takes q q' [item] := by
  obtain ⟨⟨found, rest⟩, hpop, heq⟩ := Option.map_eq_some_iff.mp h
  cases heq
  obtain ⟨hperm, hdevice⟩ := CommandQueue.popFor_perm hties hpop
  obtain ⟨_, hbest, hfound⟩ := Option.map_eq_some_iff.mp hpop
  obtain rfl := (Prod.mk.inj hfound).1
  refine ⟨hdevice, .single ?_ rfl (BinaryHeap.heapify_heap _) ?_⟩
  · exact hperm.trans ((BinaryHeap.heapify_toList_perm rest).symm.cons _)
  · intro other hother hsame
    exact best_least hbest other hother (hsame.trans hdevice)

theorem sorted_perm (items : List QueueItem) : (sorted items).Perm items := orderedBy_perm items

theorem isHeap_empty : BinaryHeap.IsHeap QueueItem.key #[] :=
  fun _ _ _ _ hp => absurd hp (Nat.not_lt_zero _)

theorem taken_kept (deviceId : Option String) (items : List QueueItem) :
    items.Perm (taken deviceId items ++ kept deviceId items) :=
  (List.filter_append_perm _ items).symm

theorem take_takes (hheap : BinaryHeap.IsHeap QueueItem.key q.heap) (deviceId : Option String) :
    Takes q (q.take deviceId).2 (q.take deviceId).1 := by
  cases deviceId with
  | none =>
    refine ⟨?_, rfl, isHeap_empty, ?_⟩
    · simpa [State.take] using (sorted_perm q.heap.toList).symm
    · intro before found after hsplit other hother _ hlt
      exact mem_before_of_lt hsplit hother hlt
  | some deviceId =>
    unfold State.take
    dsimp only
    split
    · rename_i hempty
      rw [List.isEmpty_iff.mp hempty]
      refine ⟨.refl _, rfl, hheap, ?_⟩
      intro before found after hsplit
      simp at hsplit
    · refine ⟨?_, rfl, BinaryHeap.heapify_heap _, ?_⟩
      · have hsplit := taken_kept (some deviceId) q.heap.toList
        exact hsplit.trans
          ((sorted_perm _).symm.append (BinaryHeap.heapify_toList_perm _).symm)
      · intro before found after hsplit other hother hdevice hlt
        have hsplit : sorted (taken (some deviceId) q.heap.toList) = before ++ found :: after :=
          hsplit
        have hfound : found ∈ taken (some deviceId) q.heap.toList := by
          rw [← (sorted_perm _).mem_iff, hsplit]
          simp
        have hdevice' : found.command.deviceId = deviceId := by
          simpa [taken] using (List.mem_filter.mp hfound).2
        refine mem_before_of_lt hsplit (List.mem_filter.mpr ⟨hother, ?_⟩) hlt
        simp [hdevice, hdevice']

/-- What an event does: it takes items, or pushes one when there is room. -/
inductive Effect (depth : ℕ) (q q' : State) : List QueueReport → Prop
  | push (item : QueueItem) (hroom : q.heap.size < depth) (htie : item.tiebreak = q.counter)
      (hcounter : q'.counter = q.counter + 1)
      (hperm : q'.heap.toList.Perm (item :: q.heap.toList))
      (hheap : BinaryHeap.IsHeap QueueItem.key q'.heap) : Effect depth q q' [.pushed item]
  | full (hfull : depth ≤ q.heap.size) (hsame : q' = q) : Effect depth q q' [.full]
  | takes (items : List QueueItem) (h : Takes q q' items) :
      Effect depth q q' (items.map .removed)

theorem Takes.none (hheap : BinaryHeap.IsHeap QueueItem.key q.heap) : Takes q q [] := by
  refine ⟨.refl _, rfl, hheap, ?_⟩
  intro before found after hsplit
  simp at hsplit

theorem removing_effect {result : Option (QueueItem × State)}
    (hheap : BinaryHeap.IsHeap QueueItem.key q.heap)
    (htakes : ∀ item after, result = some (item, after) → Takes q after [item])
    (h : q.removing result = (q', out)) : Effect depth q q' out := by
  cases result with
  | none =>
    cases h
    exact .takes [] (.none hheap)
  | some found =>
    obtain ⟨item, after⟩ := found
    cases h
    exact .takes [item] (htakes item q' rfl)

theorem step_effect {event : QueueEvent}
    (hheap : BinaryHeap.IsHeap QueueItem.key q.heap)
    (hties : (q.heap.toList.map QueueItem.tiebreak).Nodup)
    (hstep : q.after depth event = (q', out)) : Effect depth q q' out := by
  cases event with
  | push command priority waiter =>
    simp only [State.after, State.push] at hstep
    by_cases hfull : depth ≤ q.heap.size
    · rw [if_pos hfull] at hstep
      cases hstep
      exact .full hfull rfl
    · rw [if_neg hfull] at hstep
      cases hstep
      exact .push _ (not_le.mp hfull) rfl rfl (BinaryHeap.heappush_perm _ _)
        (BinaryHeap.heappush_heap hheap _)
  | pop => exact removing_effect hheap (fun _ _ hpop => pop_takes hheap hpop) hstep
  | popFor deviceId =>
    exact removing_effect hheap (fun _ _ hpop => (popFor_takes hties hpop).2) hstep
  | take deviceId =>
    cases hstep
    exact .takes _ (take_takes hheap deviceId)

/-- The items in the queue are those that were pushed and have not left; they came in the order
of their numbers. -/
structure Kept (depth : ℕ) (arrived left : List QueueItem) (q : State) : Prop where
  heap : BinaryHeap.IsHeap QueueItem.key q.heap
  conserved : arrived.Perm (left ++ q.heap.toList)
  arrival : arrived.Pairwise fun first second => first.tiebreak < second.tiebreak
  numbered : ∀ item ∈ arrived, item.tiebreak < q.counter
  depth : q.heap.size ≤ depth

theorem pushed_removed (items : List QueueItem) :
    (items.map QueueReport.removed).filterMap QueueReport.pushed? = [] ∧
      (items.map QueueReport.removed).filterMap QueueReport.removed? = items := by
  constructor
  · exact List.filterMap_eq_nil_iff.mpr fun report hreport => by
      obtain ⟨item, _, rfl⟩ := List.mem_map.mp hreport
      rfl
  · rw [List.filterMap_map]
    exact List.filterMap_some

theorem Kept.distinct (h : Kept depth arrived left q) :
    (arrived.map QueueItem.tiebreak).Nodup :=
  (List.pairwise_map.mpr h.arrival).imp fun hlt => Nat.ne_of_lt hlt

theorem Kept.ties (h : Kept depth arrived left q) :
    (q.heap.toList.map QueueItem.tiebreak).Nodup := by
  have hall := (h.conserved.map QueueItem.tiebreak).nodup_iff.mp h.distinct
  rw [List.map_append] at hall
  exact (List.nodup_append.mp hall).2.1

theorem Kept.effect
    (h : Kept depth arrived left q) (heffect : Effect depth q q' out) :
    Kept depth (arrived ++ out.filterMap QueueReport.pushed?)
      (left ++ out.filterMap QueueReport.removed?) q' := by
  cases heffect with
  | push item hroom htie hcounter hperm hheap =>
    have hpushed : [QueueReport.pushed item].filterMap QueueReport.pushed? = [item] := rfl
    have hremoved : [QueueReport.pushed item].filterMap QueueReport.removed? = [] := rfl
    rw [hpushed, hremoved, List.append_nil]
    refine ⟨hheap, ?_, ?_, ?_, ?_⟩
    · have hqueued : (left ++ q'.heap.toList).Perm (left ++ q.heap.toList ++ [item]) := by
        rw [List.append_assoc]
        exact (hperm.trans (List.perm_append_singleton item _).symm).append_left left
      exact (h.conserved.append_right [item]).trans hqueued.symm
    · rw [List.pairwise_append]
      refine ⟨h.arrival, List.pairwise_singleton _ item, ?_⟩
      intro earlier hearlier latest hlatest
      obtain rfl := List.mem_singleton.mp hlatest
      rw [htie]
      exact h.numbered earlier hearlier
    · intro other hother
      rw [hcounter]
      rcases List.mem_append.mp hother with hother | hother
      · exact Nat.lt_succ_of_lt (h.numbered other hother)
      · obtain rfl := List.mem_singleton.mp hother
        omega
    · have hlength := hperm.length_eq
      simp only [Array.length_toList, List.length_cons] at hlength
      omega
  | full hfull hsame =>
    subst hsame
    have hpushed : [QueueReport.full].filterMap QueueReport.pushed? = [] := rfl
    have hremoved : [QueueReport.full].filterMap QueueReport.removed? = [] := rfl
    rw [hpushed, hremoved, List.append_nil, List.append_nil]
    exact h
  | takes items htakes =>
    obtain ⟨hpushed, hremoved⟩ := pushed_removed items
    rw [hpushed, hremoved, List.append_nil]
    refine ⟨htakes.heap, ?_, h.arrival, ?_, ?_⟩
    · rw [List.append_assoc]
      exact h.conserved.trans (htakes.perm.append_left left)
    · rw [htakes.counter]
      exact h.numbered
    · have hlength := htakes.perm.length_eq
      have hdepth := h.depth
      simp only [Array.length_toList, List.length_append] at hlength
      omega

theorem kept_run {trace : List (QueueEvent × List QueueReport)}
    (hrun : (commandQueue depth).Run trace q) : Kept depth (pushed trace) (removed trace) q := by
  refine hrun.induct (P := fun trace q => Kept depth (pushed trace) (removed trace) q) ?_ ?_
  · intro q hinit
    cases hinit
    exact ⟨isHeap_empty, .refl _, .nil, fun _ h => absurd h List.not_mem_nil, Nat.zero_le _⟩
  · intro trace q event q' out _ h hstep
    have hafter := h.effect (step_effect h.heap h.ties hstep)
    rw [pushed, removed, Machine.outputs_append, Machine.outputs_singleton,
      List.filterMap_append, List.filterMap_append]
    exact hafter

/-- An item leaves when every item of its device that goes first and was pushed before has
left. -/
def LeavesInOrder (trace : List (QueueEvent × List QueueReport)) : Prop :=
  ∀ pre event out post, trace = pre ++ (event, out) :: post →
    ∀ before item after, out.filterMap QueueReport.removed? = before ++ item :: after →
      ∀ other ∈ pushed pre, other.command.deviceId = item.command.deviceId →
        other.before item = true → other ∈ removed pre ++ before

theorem leaves_in_order {trace : List (QueueEvent × List QueueReport)}
    (hrun : (commandQueue depth).Run trace q) : LeavesInOrder trace := by
  intro pre event out post htrace before item after hout other hother hdevice hbefore
  obtain ⟨q₀, hinit, hsteps⟩ := hrun
  rw [htrace] at hsteps
  obtain ⟨mid, hpre, hpost⟩ := hsteps.split
  have hpost : (commandQueue depth).Steps mid ([(event, out)] ++ post) q := hpost
  obtain ⟨next, hstep, _⟩ := hpost.split
  have hkept := kept_run (q := mid) ⟨q₀, hinit, hpre⟩
  rcases List.mem_append.mp (hkept.conserved.mem_iff.mp hother) with hleft | hqueued
  · exact List.mem_append_left _ hleft
  · apply List.mem_append_right
    cases step_effect hkept.heap hkept.ties (Machine.Steps.single_iff.mp hstep) with
    | push =>
      have hnone : [] = before ++ item :: after := hout
      simp at hnone
    | full =>
      have hnone : [] = before ++ item :: after := hout
      simp at hnone
    | takes items htakes =>
      rw [(pushed_removed items).2] at hout
      exact htakes.order before item after hout other hqueued hdevice
        (QueueItem.before_iff.mp hbefore)

/-- What a caller may conclude from what an operation returns. -/
def Answers (q q' : State) (items : List QueueItem) : QueueEvent → Prop
  | .push _ _ _ => items = []
  | .pop => items = [] → q.heap = #[]
  | .popFor deviceId => (∀ item ∈ items, item.command.deviceId = deviceId) ∧
    (items = [] → ∀ item ∈ q.heap.toList, item.command.deviceId ≠ deviceId)
  | .take none => q'.heap = #[]
  | .take (some deviceId) => (∀ item ∈ items, item.command.deviceId = deviceId) ∧
    ∀ item ∈ q'.heap.toList, item.command.deviceId ≠ deviceId

theorem mem_taken :
    item ∈ taken (some deviceId) items ↔ item ∈ items ∧ item.command.deviceId = deviceId := by
  simp [taken]

theorem mem_kept :
    item ∈ kept (some deviceId) items ↔ item ∈ items ∧ item.command.deviceId ≠ deviceId := by
  simp [kept]

theorem take_answers (deviceId : Option String) :
    Answers q (q.take deviceId).2 (q.take deviceId).1 (.take deviceId) := by
  cases deviceId with
  | none => rfl
  | some deviceId =>
    unfold State.take Answers
    dsimp only
    have hdevice : ∀ item ∈ sorted (taken (some deviceId) q.heap.toList),
        item.command.deviceId = deviceId := by
      intro item hitem
      exact (mem_taken.mp ((sorted_perm _).mem_iff.mp hitem)).2
    split
    · rename_i hempty
      refine ⟨hdevice, ?_⟩
      intro item hitem hsame
      have hmem := (sorted_perm _).mem_iff.mpr (mem_taken.mpr ⟨hitem, hsame⟩)
      rw [List.isEmpty_iff.mp hempty] at hmem
      cases hmem
    · refine ⟨hdevice, ?_⟩
      intro item hitem
      exact (mem_kept.mp ((BinaryHeap.heapify_toList_perm _).mem_iff.mp hitem)).2

theorem step_answers {event : QueueEvent}
    (hties : (q.heap.toList.map QueueItem.tiebreak).Nodup)
    (hstep : q.after depth event = (q', out)) :
    Answers q q' (out.filterMap QueueReport.removed?) event := by
  cases event with
  | push command priority waiter =>
    simp only [State.after] at hstep
    split at hstep
    · cases hstep
      rfl
    · cases hstep
      rfl
  | pop =>
    cases hpop : q.pop with
    | none =>
      intro _
      exact BinaryHeap.heappop_none.mp (Option.map_eq_none_iff.mp hpop)
    | some found =>
      simp only [State.after, hpop] at hstep
      cases hstep
      intro hnone
      cases hnone
  | popFor deviceId =>
    cases hpop : q.popFor deviceId with
    | none =>
      simp only [State.after, hpop] at hstep
      cases hstep
      refine ⟨fun _ h => absurd h List.not_mem_nil, fun _ => ?_⟩
      exact CommandQueue.popFor_none (Option.map_eq_none_iff.mp hpop)
    | some found =>
      obtain ⟨item, after⟩ := found
      simp only [State.after, hpop] at hstep
      cases hstep
      refine ⟨?_, fun hnone => nomatch hnone⟩
      intro other hother
      obtain rfl := List.mem_singleton.mp hother
      exact (popFor_takes hties hpop).1
  | take deviceId =>
    cases hstep
    rw [(pushed_removed _).2]
    exact take_answers deviceId

theorem commandQueue_runs (depth : ℕ) (events : List QueueEvent) :
    ∃ trace q, trace.map Prod.fst = events ∧ (commandQueue depth).Run trace q := by
  induction events using List.reverseRecOn with
  | nil => exact ⟨[], ⟨#[], 0⟩, rfl, _, rfl, .nil⟩
  | append_singleton events event ih =>
    obtain ⟨trace, q, hevents, q₀, hinit, hsteps⟩ := ih
    refine ⟨trace ++ [(event, (q.after depth event).2)], (q.after depth event).1, ?_, q₀, hinit,
      hsteps.snoc rfl⟩
    rw [List.map_append, hevents]
    rfl

end CommandQueue

open CommandQueue in
/-- In every run each pushed item is in the queue or was returned once, the items of a device
leave by rank and arrival, and the queue never exceeds its depth. -/
theorem command_queue_lawful {depth : ℕ} {trace : List (QueueEvent × List QueueReport)}
    {q : State} (hrun : (commandQueue depth).Run trace q) :
    (pushed trace).Perm (removed trace ++ q.heap.toList) ∧ (pushed trace).Nodup ∧
    (pushed trace).Pairwise (fun first second => first.tiebreak < second.tiebreak) ∧
    LeavesInOrder trace ∧ q.heap.size ≤ depth ∧
    ∀ event q' out, (commandQueue depth).Step q event q' out →
      Answers q q' (out.filterMap QueueReport.removed?) event := by
  have hkept := kept_run hrun
  refine ⟨hkept.conserved, .of_map _ hkept.distinct, hkept.arrival, leaves_in_order hrun,
    hkept.depth, ?_⟩
  exact fun event q' out hstep => step_answers hkept.ties hstep

def queuedCommand (deviceId : String) : DeviceCommandIntent where
  commandId := "command"
  sessionId := "lesson-1"
  deviceId := deviceId
  capability := "light.rgb"
  action := "set"
  arguments := .empty
  source := .studentBlocks
  issuedAt := 0
  expiresAt := 10
  idempotencyKey := "key"
  safetyContext := ⟨"simulation-only", false, none, none⟩

open CommandQueue in
/-- A full queue sheds the third command, and is emptied by device and as a whole. -/
theorem command_queue_lawful_pair : ∃ trace q,
    trace.map Prod.fst = [.push (queuedCommand "robot") .studentCommand 0,
      .push (queuedCommand "drone") .programStop 1, .push (queuedCommand "robot") .programStop 2,
      .popFor "robot", .take none] ∧
    (commandQueue 2).Run trace q ∧ (pushed trace).Perm (removed trace ++ q.heap.toList) ∧
    LeavesInOrder trace ∧ q.heap.size ≤ 2 := by
  obtain ⟨trace, q, hevents, hrun⟩ := commandQueue_runs 2 [
    .push (queuedCommand "robot") .studentCommand 0,
    .push (queuedCommand "drone") .programStop 1, .push (queuedCommand "robot") .programStop 2,
    .popFor "robot", .take none]
  obtain ⟨hperm, _, _, horder, hdepth, _⟩ := command_queue_lawful hrun
  exact ⟨trace, q, hevents, hrun, hperm, horder, hdepth⟩

end CitPhysicalXR.Runtime
