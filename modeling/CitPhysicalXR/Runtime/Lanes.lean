import CitPhysicalXR.Foundation.Execution
import CitPhysicalXR.Foundation.KeyedList
import CitPhysicalXR.Runtime.Protocol
import Mathlib.Logic.Function.Basic

/-! Concurrent submissions: one queue for the room, and one lane for a device, made when it is
needed and dropped when its last user leaves. -/
namespace CitPhysicalXR.Runtime
open Foundation

structure QueueItem where
  priority : ℕ
  tiebreak : ℕ
  command : DeviceCommandIntent
  waiter : ℕ

namespace QueueItem

/-- The order of the queue: by rank, and by age within a rank. -/
def before (first second : QueueItem) : Bool :=
  decide (first.priority < second.priority) ||
    (decide (first.priority = second.priority) && decide (first.tiebreak < second.tiebreak))

end QueueItem

namespace CommandQueue

def maxDepth : ℕ := 256

/-- The first of the items for a device. -/
def best (deviceId : String) : List QueueItem → Option QueueItem
  | [] => none
  | item :: items =>
    if item.command.deviceId ≠ deviceId then best deviceId items
    else
      match best deviceId items with
      | none => some item
      | some other => if other.before item then some other else some item

/-- The highest-ranked queued item for one device, and the rest of the queue. -/
def popFor (deviceId : String) (items : List QueueItem) : Option (QueueItem × List QueueItem) :=
  (best deviceId items).map fun item =>
    (item, items.eraseP fun other =>
      decide (other.priority = item.priority ∧ other.tiebreak = item.tiebreak))

def taken (deviceId : Option String) (items : List QueueItem) : List QueueItem :=
  items.filter fun item => deviceId.all fun device => decide (item.command.deviceId = device)

def kept (deviceId : Option String) (items : List QueueItem) : List QueueItem :=
  items.filter fun item => !deviceId.all fun device => decide (item.command.deviceId = device)

variable {deviceId : String} {items : List QueueItem}

theorem best_none (h : best deviceId items = none) :
    ∀ item ∈ items, item.command.deviceId ≠ deviceId := by
  induction items with
  | nil => simp
  | cons first items ih =>
    unfold best at h
    split at h
    · rename_i hother
      intro item hitem
      rcases List.mem_cons.mp hitem with rfl | hitem
      · exact hother
      · exact ih h item hitem
    · split at h
      · cases h
      · split at h <;> cases h

theorem best_some {item : QueueItem}
    (h : best deviceId items = some item) : item ∈ items ∧ item.command.deviceId = deviceId := by
  induction items generalizing item with
  | nil => cases h
  | cons first items ih =>
    unfold best at h
    split at h
    · obtain ⟨hmem, hdevice⟩ := ih h
      exact ⟨List.mem_cons_of_mem _ hmem, hdevice⟩
    · rename_i hdevice
      have hfirst : first ∈ first :: items ∧ first.command.deviceId = deviceId :=
        ⟨List.mem_cons_self, by simpa using hdevice⟩
      split at h
      · cases h
        exact hfirst
      · rename_i other hother
        split at h
        · cases h
          obtain ⟨hmem, hsame⟩ := ih hother
          exact ⟨List.mem_cons_of_mem _ hmem, hsame⟩
        · cases h
          exact hfirst

/-- The item that is popped is taken out, and nothing else. -/
theorem popFor_perm {rest : List QueueItem} {item : QueueItem}
    (hties : (items.map QueueItem.tiebreak).Nodup)
    (h : popFor deviceId items = some (item, rest)) :
    items.Perm (item :: rest) ∧ item.command.deviceId = deviceId := by
  obtain ⟨found, hbest, heq⟩ := Option.map_eq_some_iff.mp h
  cases heq
  obtain ⟨hmem, hdevice⟩ := best_some hbest
  refine ⟨?_, hdevice⟩
  obtain ⟨first, before, after, _, hfirst, hitems, hrest⟩ :=
    List.exists_of_eraseP hmem (p := fun other =>
      decide (other.priority = item.priority ∧ other.tiebreak = item.tiebreak)) (by simp)
  have hfound : first = item := by
    refine List.inj_on_of_nodup_map hties ?_ hmem (of_decide_eq_true hfirst).2
    rw [hitems]
    simp
  rw [hrest, hitems, hfound]
  exact List.perm_middle

theorem popFor_none
    (h : popFor deviceId items = none) : ∀ item ∈ items, item.command.deviceId ≠ deviceId :=
  best_none (Option.map_eq_none_iff.mp h)

end CommandQueue

inductive Answer (δ : Type) where
  | dispatched (result : δ)
  | raised (error : String)
  /-- A `BaseException` left the dispatch, in the submission that ran it. -/
  | interrupted (runner : ℕ)
  | discarded

inductive DispatchEnd (δ : Type) where
  | returned (result : δ)
  | exception (error : String)
  | baseException

inductive SubmitPhase where
  | locking (lane : ℕ)
  | dispatching (lane : ℕ) (item : QueueItem)
  | awaiting
  | ended

/-- A call of `submit` with its future. -/
structure SubmitTask (δ : Type) where
  id : ℕ
  command : DeviceCommandIntent
  phase : SubmitPhase
  answer : Option (Answer δ)

def SubmitPhase.lane? : SubmitPhase → Option ℕ
  | .locking lane | .dispatching lane _ => some lane
  | .awaiting | .ended => none

def SubmitTask.lane? {δ : Type} (task : SubmitTask δ) : Option ℕ :=
  match task.phase with
  | .locking lane | .dispatching lane _ => some lane
  | .awaiting | .ended => none

def SubmitTask.running? {δ : Type} (task : SubmitTask δ) : Option QueueItem :=
  match task.phase with
  | .dispatching _ item => some item
  | _ => none

structure DeviceLane where
  users : ℕ := 0
  locked : Bool := false

structure Lanes (δ : Type) where
  queue : List QueueItem := []
  counter : ℕ := 0
  objects : ℕ → DeviceLane := fun _ => {}
  lanes : String → Option ℕ := fun _ => none
  nextLane : ℕ := 0
  tasks : List (SubmitTask δ) := []
  nextTask : ℕ := 0

inductive LaneReport (δ : Type) where
  | queued (task : ℕ) (command : DeviceCommandIntent)
  /-- The queue is full. -/
  | shed (task : ℕ)
  | answered (task : ℕ) (command : DeviceCommandIntent) (answer : Answer δ)
  | returned (task : ℕ) (answer : Answer δ)
  /-- The submission ends with the `BaseException` of a dispatch that it ran for `waiter`. -/
  | interrupted (task waiter : ℕ)
  | cancelled (task : ℕ)

inductive LaneEvent (δ : Type) where
  | submit (command : DeviceCommandIntent)
  | acquire (task : ℕ)
  | finish (task : ℕ) (outcome : DispatchEnd δ)
  | return (task : ℕ)
  | cancel (task : ℕ)
  | discard (deviceId : Option String)

namespace Lanes
variable {δ : Type} (s : Lanes δ)

def task? (id : ℕ) : Option (SubmitTask δ) := s.tasks.find? fun task => task.id = id

def setPhase (id : ℕ) (phase : SubmitPhase) : Lanes δ :=
  { s with tasks := KeyedList.update SubmitTask.id id (fun task => { task with phase }) s.tasks }

/-- `resolve` and `fail`: a future is set once. -/
def resolve (item : QueueItem) (answer : Answer δ) : Lanes δ :=
  { s with
    tasks := KeyedList.update SubmitTask.id item.waiter
      (fun task => { task with answer := task.answer.or (some answer) }) s.tasks }

/-- The report of a future that is set. -/
def resolved (item : QueueItem) (answer : Answer δ) : List (LaneReport δ) :=
  if s.tasks.any fun task => decide (task.id = item.waiter) && task.answer.isNone then
    [.answered item.waiter item.command answer]
  else []

/-- A submission leaves a lane, which is dropped with its last user. -/
def leave (deviceId : String) (lane : ℕ) (unlock : Bool) : Lanes δ :=
  let object := s.objects lane
  let users := object.users - 1
  { s with
    objects := Function.update s.objects lane
      { users := users, locked := object.locked && !unlock }
    lanes := if users = 0 then Function.update s.lanes deviceId none else s.lanes }

/-- The loop of `_drain` with the lock held. -/
def drain (task : SubmitTask δ) (lane : ℕ) : Lanes δ :=
  match CommandQueue.popFor task.command.deviceId s.queue with
  | none => (s.leave task.command.deviceId lane true).setPhase task.id .awaiting
  | some (item, rest) => { s with queue := rest }.setPhase task.id (.dispatching lane item)

def enterLane (deviceId : String) : Lanes δ × ℕ :=
  match s.lanes deviceId with
  | some lane =>
    ({ s with
      objects := Function.update s.objects lane
        { s.objects lane with users := (s.objects lane).users + 1 } }, lane)
  | none =>
    ({ s with
      objects := Function.update s.objects s.nextLane { users := 1 }
      lanes := Function.update s.lanes deviceId (some s.nextLane)
      nextLane := s.nextLane + 1 }, s.nextLane)

def submit (command : DeviceCommandIntent) : Lanes δ × List (LaneReport δ) :=
  if CommandQueue.maxDepth ≤ s.queue.length then
    ({ s with nextTask := s.nextTask + 1 }, [.shed s.nextTask])
  else
    let (entered, lane) := s.enterLane command.deviceId
    ({ entered with
      queue := s.queue ++ [⟨(classifyPriority command).rank, s.counter, command, s.nextTask⟩]
      counter := s.counter + 1
      tasks := s.tasks ++ [⟨s.nextTask, command, .locking lane, none⟩]
      nextTask := s.nextTask + 1 }, [.queued s.nextTask command])

/-- The end of a dispatch: its submission goes on with the next item, or a `BaseException`
leaves it. -/
def finish (task : SubmitTask δ) (lane : ℕ) (item : QueueItem) :
    DispatchEnd δ → Lanes δ × List (LaneReport δ)
  | .returned result =>
    ((s.resolve item (.dispatched result)).drain task lane, s.resolved item (.dispatched result))
  | .exception error =>
    ((s.resolve item (.raised error)).drain task lane, s.resolved item (.raised error))
  | .baseException =>
    (((s.resolve item (.interrupted task.id)).leave task.command.deviceId lane true).setPhase
      task.id .ended, s.resolved item (.interrupted task.id) ++ [.interrupted task.id item.waiter])

/-- `CancelledError` in a submission. -/
def cancel (task : SubmitTask δ) : Option (Lanes δ × List (LaneReport δ)) :=
  match task.phase with
  | .locking lane =>
    some ((s.leave task.command.deviceId lane false).setPhase task.id .ended, [.cancelled task.id])
  | .dispatching lane item =>
    some (((s.resolve item (.interrupted task.id)).leave task.command.deviceId lane true).setPhase
      task.id .ended, s.resolved item (.interrupted task.id) ++ [.cancelled task.id])
  | .awaiting => some (s.setPhase task.id .ended, [.cancelled task.id])
  | .ended => none

def resolveAll (items : List QueueItem) : Lanes δ :=
  items.foldl (fun s item => s.resolve item .discarded) s

/-- `_discard`: the submissions of discarded commands are answered. -/
def discard (deviceId : Option String) : Lanes δ × List (LaneReport δ) :=
  let items := CommandQueue.taken deviceId s.queue
  ({ s with queue := CommandQueue.kept deviceId s.queue }.resolveAll items,
    items.flatMap fun item => s.resolved item .discarded)

def step : LaneEvent δ → Option (Lanes δ × List (LaneReport δ))
  | .submit command => some (s.submit command)
  | .acquire id =>
    match s.task? id with
    | some task =>
      match task.phase with
      | .locking lane =>
        if (s.objects lane).locked then none
        else
          let held := { s with
            objects := Function.update s.objects lane { s.objects lane with locked := true } }
          some (held.drain task lane, [])
      | _ => none
    | none => none
  | .finish id outcome =>
    match s.task? id with
    | some task =>
      match task.phase with
      | .dispatching lane item => some (s.finish task lane item outcome)
      | _ => none
    | none => none
  | .return id =>
    match s.task? id with
    | some task =>
      match task.phase, task.answer with
      | .awaiting, some answer => some (s.setPhase id .ended, [.returned id answer])
      | _, _ => none
    | none => none
  | .cancel id => (s.task? id).bind s.cancel
  | .discard deviceId => some (s.discard deviceId)

end Lanes

/-- The submissions to a runtime, in every interleaving. -/
def lanes (δ : Type) : Machine (Lanes δ) (LaneEvent δ) (LaneReport δ) where
  Initial s := s = {}
  Step s e s' out := s.step e = some (s', out)

end CitPhysicalXR.Runtime
