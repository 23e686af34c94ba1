import CitPhysicalXR.Runtime.LaneSafety

/-! What becomes of a queued submission: its command is run by whichever submission holds the
lane, and its own future is set once, with the outcome of its own command. -/
namespace CitPhysicalXR.Runtime
open Foundation
variable {δ : Type}

/-- The steps in which no submission fails in place of another: one that is cancelled, or that a
`BaseException` leaves, is not running the command of a caller who still waits. -/
def Unhijacked (s : Lanes δ) : LaneEvent δ → Prop
  | .cancel id => ∀ task ∈ s.tasks, task.id = id → ∀ item ∈ task.running?,
      item.waiter = id ∨ ∀ caller ∈ s.tasks, caller.id = item.waiter → caller.phase = .ended
  | .finish id .baseException => ∀ task ∈ s.tasks, task.id = id → ∀ item ∈ task.running?,
      item.waiter = id
  | _ => True

/-- The answers that a submission was given. -/
def answersOf (id : ℕ) (out : List (LaneReport δ)) : List (Answer δ) :=
  out.filterMap fun report =>
    match report with
    | .answered task _ answer => if task = id then some answer else none
    | _ => none

@[simp] theorem answersOf_append (id : ℕ) (out more : List (LaneReport δ)) :
    answersOf id (out ++ more) = answersOf id out ++ answersOf id more :=
  List.filterMap_append ..

/-- The queued items and the ones that are being run. -/
def Lanes.pending (s : Lanes δ) : List QueueItem :=
  s.queue ++ s.tasks.filterMap SubmitTask.running?

structure Tracked (out : List (LaneReport δ)) (s : Lanes δ) (pending : List QueueItem) : Prop where
  once : (pending.map QueueItem.waiter).Nodup
  callers : ∀ item ∈ pending, ∃ task ∈ s.tasks, task.id = item.waiter ∧
    task.command = item.command ∧ task.answer = none
  placed : ∀ task ∈ s.tasks, task.answer = none → task.phase ≠ .ended →
    ∃ item ∈ pending, item.waiter = task.id
  answers : ∀ task ∈ s.tasks, answersOf task.id out = task.answer.toList
  unknown : ∀ id, s.nextTask ≤ id → answersOf id out = []
  known : ∀ id command, LaneReport.queued id command ∈ out → ∃ task ∈ s.tasks, task.id = id ∧
    task.command = command
  commands : ∀ id command answer, .answered id command answer ∈ out →
    ∃ task ∈ s.tasks, task.id = id ∧ task.command = command
  returned : ∀ id answer, .returned id answer ∈ out → answersOf id out = [answer]
  left : ∀ task ∈ s.tasks, task.phase = .ended → task.answer = none → .cancelled task.id ∈ out
  awaited : ∀ task ∈ s.tasks, task.phase = .awaiting → task.answer ≠ none
  own : ∀ id command runner, .answered id command (.interrupted runner) ∈ out →
    runner = id ∨ .cancelled id ∈ out
  interrupted : ∀ id waiter, .interrupted id waiter ∈ out → waiter = id

namespace Tracked
variable {out : List (LaneReport δ)} {s s' : Lanes δ} {pending pending' : List QueueItem}
  {task : SubmitTask δ}

theorem initial : Tracked [] ({} : Lanes δ) [] := by
  constructor <;> simp [answersOf]

theorem perm (h : Tracked out s pending) (hperm : pending.Perm pending') :
    Tracked out s pending' := by
  refine { h with once := ?_, callers := ?_, placed := ?_ }
  · exact (hperm.map _).nodup_iff.mp h.once
  · exact fun item hitem => h.callers item (hperm.mem_iff.mpr hitem)
  · intro task htask hanswer hphase
    obtain ⟨item, hitem, hwaiter⟩ := h.placed task htask hanswer hphase
    exact ⟨item, hperm.mem_iff.mp hitem, hwaiter⟩

/-- The account reads the submissions and no lane. -/
theorem of_tasks (h : Tracked out s pending) (s' : Lanes δ) (htasks : s'.tasks = s.tasks)
    (hnext : s.nextTask ≤ s'.nextTask) : Tracked out s' pending := by
  constructor
  · exact h.once
  · rw [htasks]
    exact h.callers
  · rw [htasks]
    exact h.placed
  · rw [htasks]
    exact h.answers
  · exact fun id hid => h.unknown id (hnext.trans hid)
  · rw [htasks]
    exact h.known
  · rw [htasks]
    exact h.commands
  · exact h.returned
  · rw [htasks]
    exact h.left
  · rw [htasks]
    exact h.awaited
  · exact h.own
  · exact h.interrupted

theorem report (h : Tracked out s pending) (report : LaneReport δ)
    (hanswers : ∀ id, answersOf id [report] = [])
    (hqueued : ∀ id command, report ≠ .queued id command)
    (hreturned : ∀ id answer, report = .returned id answer → answersOf id out = [answer])
    (hinterrupted : ∀ id waiter, report = .interrupted id waiter → waiter = id) :
    Tracked (out ++ [report]) s pending := by
  have hplain {id : ℕ} {command : DeviceCommandIntent} {answer : Answer δ}
      (hmem : .answered id command answer ∈ out ++ [report]) :
      .answered id command answer ∈ out := by
    rcases List.mem_append.mp hmem with hmem | hmem
    · exact hmem
    · obtain rfl := List.mem_singleton.mp hmem
      simpa [answersOf] using hanswers id
  have hsame (id : ℕ) : answersOf id (out ++ [report]) = answersOf id out := by
    rw [answersOf_append, hanswers, List.append_nil]
  refine ⟨h.once, h.callers, h.placed, ?_, ?_, ?_, ?_, ?_, ?_, h.awaited, ?_, ?_⟩
  · intro task htask
    rw [hsame]
    exact h.answers task htask
  · intro id hid
    rw [hsame]
    exact h.unknown id hid
  · intro id command hmem
    rcases List.mem_append.mp hmem with hmem | hmem
    · exact h.known id command hmem
    · exact absurd (List.mem_singleton.mp hmem).symm (hqueued id command)
  · exact fun id command answer hmem => h.commands id command answer (hplain hmem)
  · intro id answer hmem
    rw [hsame]
    rcases List.mem_append.mp hmem with hmem | hmem
    · exact h.returned id answer hmem
    · exact hreturned id answer (List.mem_singleton.mp hmem).symm
  · intro task htask hphase hanswer
    exact List.mem_append_left _ (h.left task htask hphase hanswer)
  · intro id command runner hmem
    rcases h.own id command runner (hplain hmem) with hown | hcancelled
    · exact .inl hown
    · exact .inr (List.mem_append_left _ hcancelled)
  · intro id waiter hmem
    rcases List.mem_append.mp hmem with hmem | hmem
    · exact h.interrupted id waiter hmem
    · exact hinterrupted id waiter (List.mem_singleton.mp hmem).symm

/-- A submission goes on to another place. -/
theorem setPhase (h : Tracked out s pending) (hshape : LaneShape s)
    (htask : task ∈ s.tasks) (hphase : task.phase ≠ .ended) (phase : SubmitPhase)
    (hawaiting : phase = .awaiting → task.answer ≠ none)
    (hended : phase = .ended → task.answer = none → .cancelled task.id ∈ out) :
    Tracked out (s.setPhase task.id phase) pending := by
  have hmem {t : SubmitTask δ} (ht : t ∈ (s.setPhase task.id phase).tasks) :
      t = { task with phase } ∨ t ∈ s.tasks ∧ t.id ≠ task.id := hshape.mem_setPhase htask ht
  have hkeep (t : SubmitTask δ) (ht : t ∈ s.tasks) :
      ∃ after ∈ (s.setPhase task.id phase).tasks, after.id = t.id ∧
        after.command = t.command ∧ after.answer = t.answer := by
    refine ⟨_, KeyedList.mem_update.mpr ⟨t, ht, rfl⟩, ?_⟩
    split <;> exact ⟨rfl, rfl, rfl⟩
  refine ⟨h.once, ?_, ?_, ?_, h.unknown, ?_, ?_, h.returned, ?_, ?_, h.own, h.interrupted⟩
  · intro item hitem
    obtain ⟨caller, hcaller, hid, hcommand, hanswer⟩ := h.callers item hitem
    obtain ⟨after, hafter, hid', hcommand', hanswer'⟩ := hkeep caller hcaller
    exact ⟨after, hafter, hid'.trans hid, hcommand'.trans hcommand, hanswer'.trans hanswer⟩
  · intro t ht hanswer hgoes
    rcases hmem ht with rfl | ⟨hold, _⟩
    · exact h.placed task htask hanswer hphase
    · exact h.placed t hold hanswer hgoes
  · intro t ht
    rcases hmem ht with rfl | ⟨hold, _⟩
    · exact h.answers task htask
    · exact h.answers t hold
  · intro id command hqueued
    obtain ⟨t, ht, hid, hcommand⟩ := h.known id command hqueued
    obtain ⟨after, hafter, hid', hcommand', _⟩ := hkeep t ht
    exact ⟨after, hafter, hid'.trans hid, hcommand'.trans hcommand⟩
  · intro id command answer hanswered
    obtain ⟨t, ht, hid, hcommand⟩ := h.commands id command answer hanswered
    obtain ⟨after, hafter, hid', hcommand', _⟩ := hkeep t ht
    exact ⟨after, hafter, hid'.trans hid, hcommand'.trans hcommand⟩
  · intro t ht hend hanswer
    rcases hmem ht with rfl | ⟨hold, _⟩
    · exact hended hend hanswer
    · exact h.left t hold hend hanswer
  · intro t ht hwait
    rcases hmem ht with rfl | ⟨hold, _⟩
    · exact hawaiting hwait
    · exact h.awaited t hold hwait

theorem resolved_eq (h : Tracked out s pending) {item : QueueItem} (hitem : item ∈ pending)
    (answer : Answer δ) :
    s.resolved item answer = [.answered item.waiter item.command answer] := by
  obtain ⟨caller, hcaller, hid, _, hanswer⟩ := h.callers item hitem
  unfold Lanes.resolved
  rw [if_pos]
  exact List.any_eq_true.mpr ⟨caller, hcaller, by simp [hid, hanswer]⟩

/-- The future of a pending item's caller is set, and the item is no longer pending. -/
theorem resolve {item : QueueItem} (h : Tracked out s (item :: pending))
    (hshape : LaneShape s) (answer : Answer δ)
    (hown : ∀ runner, answer = .interrupted runner →
      runner = item.waiter ∨ .cancelled item.waiter ∈ out) :
    Tracked (out ++ s.resolved item answer) (s.resolve item answer) pending := by
  rw [h.resolved_eq List.mem_cons_self]
  obtain ⟨caller, hcaller, hid, hcommand, hnone⟩ := h.callers item List.mem_cons_self
  have honce := h.once
  rw [List.map_cons, List.nodup_cons] at honce
  have hmem {t : SubmitTask δ} (ht : t ∈ (s.resolve item answer).tasks) :
      t = { caller with answer := some answer } ∨ t ∈ s.tasks ∧ t.id ≠ item.waiter := by
    obtain ⟨a, ha, rfl⟩ := KeyedList.mem_update.mp ht
    split
    · rename_i hwaiter
      obtain rfl := hshape.eq_of_id ha hcaller (hwaiter.trans hid.symm)
      left
      simp [hnone]
    · exact .inr ⟨ha, ‹_›⟩
  have hkeep (t : SubmitTask δ) (ht : t ∈ s.tasks) :
      ∃ after ∈ (s.resolve item answer).tasks, after.id = t.id ∧ after.command = t.command ∧
        (t.id ≠ item.waiter → after.answer = t.answer) := by
    refine ⟨_, KeyedList.mem_update.mpr ⟨t, ht, rfl⟩, ?_⟩
    split
    · exact ⟨rfl, rfl, fun hne => absurd ‹_› hne⟩
    · exact ⟨rfl, rfl, fun _ => rfl⟩
  have hnew (id : ℕ) : answersOf id [LaneReport.answered item.waiter item.command answer] =
      if item.waiter = id then [answer] else [] := by
    unfold answersOf
    simp only [List.filterMap_cons, List.filterMap_nil]
    split <;> rename_i hsome <;> split at hsome <;> simp_all
  have hother (id : ℕ) (hne : item.waiter ≠ id) :
      answersOf id (out ++ [LaneReport.answered item.waiter item.command answer]) =
        answersOf id out := by
    rw [answersOf_append, hnew, if_neg hne, List.append_nil]
  have hunanswered : answersOf item.waiter out = [] := by
    rw [← hid, h.answers caller hcaller, hnone]
    rfl
  refine ⟨honce.2, ?_, ?_, ?_, ?_, ?_, ?_, ?_, ?_, ?_, ?_, ?_⟩
  · intro other hmemOther
    have hne : other.waiter ≠ item.waiter := fun hsame =>
      honce.1 (hsame ▸ List.mem_map_of_mem hmemOther)
    obtain ⟨t, ht, htid, htcommand, htnone⟩ :=
      h.callers other (List.mem_cons_of_mem _ hmemOther)
    obtain ⟨after, hafter, hid', hcommand', hanswer'⟩ := hkeep t ht
    exact ⟨after, hafter, hid'.trans htid, hcommand'.trans htcommand,
      (hanswer' (htid ▸ hne)).trans htnone⟩
  · intro t ht hanswer hgoes
    rcases hmem ht with rfl | ⟨hold, hne⟩
    · cases hanswer
    · obtain ⟨other, hother, hwaiter⟩ := h.placed t hold hanswer hgoes
      rcases List.mem_cons.mp hother with rfl | hother
      · exact absurd hwaiter.symm hne
      · exact ⟨other, hother, hwaiter⟩
  · intro t ht
    rcases hmem ht with rfl | ⟨hold, hne⟩
    · show answersOf caller.id _ = _
      rw [hid, answersOf_append, hunanswered, hnew, if_pos rfl]
      rfl
    · rw [hother t.id (Ne.symm hne)]
      exact h.answers t hold
  · intro id hid'
    have hne : item.waiter ≠ id := by
      rintro rfl
      have hlt := hshape.fresh caller hcaller
      have hge : s.nextTask ≤ item.waiter := hid'
      omega
    rw [hother id hne]
    exact h.unknown id hid'
  · intro id command hqueued
    rcases List.mem_append.mp hqueued with hqueued | hqueued
    · obtain ⟨t, ht, htid, htcommand⟩ := h.known id command hqueued
      obtain ⟨after, hafter, hid', hcommand', _⟩ := hkeep t ht
      exact ⟨after, hafter, hid'.trans htid, hcommand'.trans htcommand⟩
    · cases List.mem_singleton.mp hqueued
  · intro id command other hanswered
    rcases List.mem_append.mp hanswered with hanswered | hanswered
    · obtain ⟨t, ht, htid, htcommand⟩ := h.commands id command other hanswered
      obtain ⟨after, hafter, hid', hcommand', _⟩ := hkeep t ht
      exact ⟨after, hafter, hid'.trans htid, hcommand'.trans htcommand⟩
    · cases List.mem_singleton.mp hanswered
      obtain ⟨after, hafter, hid', hcommand', _⟩ := hkeep caller hcaller
      exact ⟨after, hafter, hid'.trans hid, hcommand'.trans hcommand⟩
  · intro id other hreturned
    rcases List.mem_append.mp hreturned with hreturned | hreturned
    · have hold := h.returned id other hreturned
      have hne : item.waiter ≠ id := by
        rintro rfl
        rw [hunanswered] at hold
        cases hold
      rw [hother id hne]
      exact hold
    · cases List.mem_singleton.mp hreturned
  · intro t ht hend hanswer
    rcases hmem ht with rfl | ⟨hold, _⟩
    · cases hanswer
    · exact List.mem_append_left _ (h.left t hold hend hanswer)
  · intro t ht hwait
    rcases hmem ht with rfl | ⟨hold, _⟩
    · exact Option.some_ne_none _
    · exact h.awaited t hold hwait
  · intro id command runner hanswered
    rcases List.mem_append.mp hanswered with hanswered | hanswered
    · rcases h.own id command runner hanswered with hsame | hcancelled
      · exact .inl hsame
      · exact .inr (List.mem_append_left _ hcancelled)
    · cases List.mem_singleton.mp hanswered
      rcases hown runner rfl with hsame | hcancelled
      · exact .inl hsame
      · exact .inr (List.mem_append_left _ hcancelled)
  · intro id waiter hinterrupted
    rcases List.mem_append.mp hinterrupted with hinterrupted | hinterrupted
    · exact h.interrupted id waiter hinterrupted
    · cases List.mem_singleton.mp hinterrupted

theorem submit (h : Tracked out s pending) (hshape : LaneShape s) (item : QueueItem)
    (lane : ℕ) (htasks : s'.tasks = s.tasks ++ [⟨s.nextTask, item.command, .locking lane, none⟩])
    (hnext : s'.nextTask = s.nextTask + 1) (hwaiter : item.waiter = s.nextTask) :
    Tracked (out ++ [LaneReport.queued s.nextTask item.command]) s' (pending ++ [item]) := by
  have hold {t : SubmitTask δ} (ht : t ∈ s.tasks) : t ∈ s'.tasks := by
    rw [htasks]
    exact List.mem_append_left _ ht
  have hself : (⟨s.nextTask, item.command, .locking lane, none⟩ : SubmitTask δ) ∈ s'.tasks := by
    simp [htasks]
  have hmem {t : SubmitTask δ} (ht : t ∈ s'.tasks) :
      t ∈ s.tasks ∨ t = ⟨s.nextTask, item.command, .locking lane, none⟩ := by
    rw [htasks] at ht
    simpa using ht
  have hanswers (id : ℕ) : answersOf id (out ++ [LaneReport.queued s.nextTask item.command]) =
      answersOf id out := by
    rw [answersOf_append]
    exact List.append_nil _
  have hplain {report : LaneReport δ} (hkind : ∀ id command, report ≠ .queued id command)
      (hreport : report ∈ out ++ [LaneReport.queued s.nextTask item.command]) : report ∈ out := by
    rcases List.mem_append.mp hreport with hreport | hreport
    · exact hreport
    · exact absurd (List.mem_singleton.mp hreport) (hkind _ _)
  refine ⟨?_, ?_, ?_, ?_, ?_, ?_, ?_, ?_, ?_, ?_, ?_, ?_⟩
  · rw [List.map_append]
    refine List.nodup_append'.mpr ⟨h.once, List.nodup_singleton _, ?_⟩
    intro waiter hin hnew
    obtain ⟨other, hother, rfl⟩ := List.mem_map.mp hin
    obtain ⟨caller, hcaller, hid, _⟩ := h.callers other hother
    have hlt := hshape.fresh caller hcaller
    simp at hnew
    omega
  · intro other hother
    rcases List.mem_append.mp hother with hother | hother
    · obtain ⟨caller, hcaller, hspec⟩ := h.callers other hother
      exact ⟨caller, hold hcaller, hspec⟩
    · obtain rfl := List.mem_singleton.mp hother
      exact ⟨_, hself, hwaiter.symm, rfl, rfl⟩
  · intro t ht hanswer hphase
    rcases hmem ht with ht | rfl
    · obtain ⟨other, hother, hspec⟩ := h.placed t ht hanswer hphase
      exact ⟨other, List.mem_append_left _ hother, hspec⟩
    · exact ⟨item, by simp, hwaiter⟩
  · intro t ht
    rw [hanswers]
    rcases hmem ht with ht | rfl
    · exact h.answers t ht
    · exact h.unknown _ le_rfl
  · intro id hid
    rw [hanswers]
    exact h.unknown id (by omega)
  · intro id command hqueued
    rcases List.mem_append.mp hqueued with hqueued | hqueued
    · obtain ⟨t, ht, hspec⟩ := h.known id command hqueued
      exact ⟨t, hold ht, hspec⟩
    · cases List.mem_singleton.mp hqueued
      exact ⟨_, hself, rfl, rfl⟩
  · intro id command answer hanswered
    obtain ⟨t, ht, hspec⟩ := h.commands id command answer (hplain (by simp) hanswered)
    exact ⟨t, hold ht, hspec⟩
  · intro id answer hreturned
    rw [hanswers]
    exact h.returned id answer (hplain (by simp) hreturned)
  · intro t ht hend hanswer
    rcases hmem ht with ht | rfl
    · exact List.mem_append_left _ (h.left t ht hend hanswer)
    · cases hend
  · intro t ht hwait
    rcases hmem ht with ht | rfl
    · exact h.awaited t ht hwait
    · cases hwait
  · intro id command runner hanswered
    rcases h.own id command runner (hplain (by simp) hanswered) with hsame | hcancelled
    · exact .inl hsame
    · exact .inr (List.mem_append_left _ hcancelled)
  · exact fun id waiter hinterrupted => h.interrupted id waiter (hplain (by simp) hinterrupted)

theorem resolveAll {items : List QueueItem} (h : Tracked out s (items ++ pending))
    (hshape : LaneShape s) :
    Tracked (out ++ items.flatMap fun item =>
        [LaneReport.answered item.waiter item.command .discarded])
      (s.resolveAll items) pending := by
  induction items generalizing s out with
  | nil =>
    rw [List.flatMap_nil, List.append_nil]
    exact h
  | cons item items ih =>
    have hfirst := Tracked.resolve h hshape .discarded (by simp)
    rw [h.resolved_eq List.mem_cons_self] at hfirst
    have hrest := ih hfirst (hshape.resolve item .discarded)
    rw [List.append_assoc] at hrest
    exact hrest

/-- The loop of the submission that holds the lock goes on with the items that are pending
besides the one it has run. -/
theorem drain (h : Tracked out s pending) (hshape : LaneShape s) (hqueue : QueueShape s)
    (htask : task ∈ s.tasks) {lane : ℕ} (hlane : task.lane? = some lane)
    (hothers : ∀ other ∈ s.tasks, ∀ item, other.phase = .dispatching lane item →
      other.id = task.id)
    (others : List QueueItem) (hpending : pending.Perm (s.queue ++ others))
    (hrunning : (s.tasks.filterMap SubmitTask.running?).Perm
      (task.running?.toList ++ others))
    (hdone : ∀ item ∈ pending, task.running? ≠ some item) :
    Tracked out (s.drain task lane) (s.drain task lane).pending := by
  have hgoing : task.phase ≠ .ended := by
    intro hended
    simp [SubmitTask.lane?, hended] at hlane
  -- what runs after the submission has gone on to another place
  have hafter (phase : SubmitPhase) :
      ((s.setPhase task.id phase).tasks.filterMap SubmitTask.running?).Perm
        (({ task with phase } : SubmitTask δ).running?.toList ++ others) := by
    have hperm := KeyedList.filterMap_update_perm hshape.ids htask (fun t => { t with phase })
      SubmitTask.running?
    have hswap := (hperm.trans (hrunning.append_left _)).trans
      (List.perm_append_comm_assoc _ _ _)
    exact (List.perm_append_left_iff _).mp hswap
  unfold Lanes.drain
  split
  · rename_i hpop
    have hanswered : task.answer ≠ none := by
      intro hnone
      obtain ⟨item, hitem, hwaiter⟩ := h.placed task htask hnone hgoing
      obtain ⟨caller, hcaller, hid, hcommand, _⟩ := h.callers item hitem
      obtain rfl := hshape.eq_of_id hcaller htask (hid.trans hwaiter)
      rcases List.mem_append.mp (hpending.mem_iff.mp hitem) with hqueued | hruns
      · exact CommandQueue.popFor_none hpop item hqueued (by rw [hcommand])
      · have hin := hrunning.mem_iff.mpr (List.mem_append_right _ hruns)
        obtain ⟨other, hother, hrun⟩ := List.mem_filterMap.mp hin
        obtain ⟨lane', hphase⟩ := SubmitTask.running?_some hrun
        have hdevice := (hshape.running other hother lane' item hphase).2
        have hcurrent := hshape.current other hother lane' (SubmitTask.lane?_dispatching hphase)
        rw [← hdevice, ← hcommand, hshape.current caller htask lane hlane] at hcurrent
        obtain rfl := Option.some.inj hcurrent
        have hsame := hshape.eq_of_id hother htask (hothers other hother item hphase)
        rw [hsame] at hrun
        exact hdone item hitem hrun
    have hmoved := (h.setPhase hshape htask hgoing .awaiting (fun _ => hanswered)
      (by rintro ⟨⟩)).of_tasks ((s.leave task.command.deviceId lane true).setPhase task.id
        .awaiting)
      rfl le_rfl
    refine hmoved.perm (hpending.trans ?_)
    exact (hafter .awaiting).symm.append_left _
  · rename_i item rest hpop
    have hpopped := (CommandQueue.popFor_perm hqueue.ties hpop).1
    have hmoved := (h.setPhase hshape htask hgoing (.dispatching lane item) (by rintro ⟨⟩)
      (by rintro ⟨⟩)).of_tasks ({ s with queue := rest }.setPhase task.id (.dispatching lane item))
      rfl le_rfl
    refine hmoved.perm (hpending.trans ?_)
    show (s.queue ++ others).Perm
      (rest ++ (s.setPhase task.id (.dispatching lane item)).tasks.filterMap SubmitTask.running?)
    have hnext := (hafter (.dispatching lane item)).append_left rest
    refine List.Perm.trans ?_ hnext.symm
    have hmiddle : (rest ++ item :: others).Perm (item :: (rest ++ others)) := List.perm_middle
    exact (hpopped.append_right others).trans hmiddle.symm

private theorem pending_run (htask : task ∈ s.tasks) {item : QueueItem}
    {lane : ℕ} (hphase : task.phase = .dispatching lane item) :
    ∃ others, (s.tasks.filterMap SubmitTask.running?).Perm (item :: others) ∧
      s.pending.Perm (item :: (s.queue ++ others)) := by
  have hrun : task.running? = some item := by
    unfold SubmitTask.running?
    rw [hphase]
  have hmem : item ∈ s.tasks.filterMap SubmitTask.running? :=
    List.mem_filterMap.mpr ⟨task, htask, hrun⟩
  obtain ⟨before, after, hsplit⟩ := List.append_of_mem hmem
  refine ⟨before ++ after, ?_, ?_⟩
  · rw [hsplit]
    exact List.perm_middle
  · unfold Lanes.pending
    rw [hsplit]
    exact (List.perm_middle.append_left s.queue).trans List.perm_middle

/-- The submission after the future of its item's caller was set. -/
private theorem resolved_task (s : Lanes δ) (htask : task ∈ s.tasks) (item : QueueItem)
    (answer : Answer δ) :
    ∃ after ∈ (s.resolve item answer).tasks, after.id = task.id ∧ after.command = task.command ∧
      after.phase = task.phase ∧ (item.waiter = task.id → after.answer ≠ none) := by
  refine ⟨_, KeyedList.mem_update.mpr ⟨task, htask, rfl⟩, ?_⟩
  split
  · refine ⟨rfl, rfl, rfl, fun _ => ?_⟩
    cases task.answer <;> simp
  · rename_i hne
    exact ⟨rfl, rfl, rfl, fun hsame => absurd hsame.symm hne⟩

private theorem resolve_running (s : Lanes δ) (item : QueueItem) (answer : Answer δ) :
    (s.resolve item answer).tasks.filterMap SubmitTask.running? =
      s.tasks.filterMap SubmitTask.running? :=
  KeyedList.filterMap_update fun _ => rfl

private theorem finish (h : Tracked out s s.pending) (hshape : LaneShape s)
    (hqueue : QueueShape s) (htask : task ∈ s.tasks) {lane : ℕ} {item : QueueItem}
    (hphase : task.phase = .dispatching lane item) {answer : Answer δ}
    (hplain : ∀ runner, answer ≠ .interrupted runner) :
    Tracked (out ++ s.resolved item answer) ((s.resolve item answer).drain task lane)
      ((s.resolve item answer).drain task lane).pending := by
  obtain ⟨others, hrunning, hpending⟩ := pending_run htask hphase
  have htracked := h.perm hpending
  have hresolved := htracked.resolve hshape answer
    fun runner heq => absurd heq (hplain runner)
  obtain ⟨after, hafter, hid, hcommand, hsame, _⟩ := resolved_task s htask item answer
  have hdispatching := hsame.trans hphase
  have hrun : after.running? = some item := by
    unfold SubmitTask.running?
    rw [hdispatching]
  have hshape' := hshape.resolve item answer
  have hdrain : (s.resolve item answer).drain task lane =
      (s.resolve item answer).drain after lane := by
    unfold Lanes.drain
    rw [hid, hcommand]
  rw [hdrain]
  refine hresolved.drain hshape' ⟨hqueue.ties, hqueue.older⟩ hafter
    (SubmitTask.lane?_dispatching hdispatching) (hshape'.only hafter hdispatching) others
    (.refl _) ?_ ?_
  · rw [resolve_running, hrun]
    exact hrunning
  · intro other hother heq
    rw [hrun] at heq
    obtain rfl := Option.some.inj heq
    have honce := htracked.once
    rw [List.map_cons, List.nodup_cons] at honce
    exact honce.1 (List.mem_map_of_mem hother)

private theorem resolveAll_running (s : Lanes δ) (items : List QueueItem) :
    (s.resolveAll items).tasks.filterMap SubmitTask.running? =
      s.tasks.filterMap SubmitTask.running? := by
  induction items generalizing s with
  | nil => rfl
  | cons item items ih => exact (ih (s.resolve item .discarded)).trans (resolve_running s item _)

/-- A submission ends while it runs an item, whose caller is failed. -/
private theorem interrupt (h : Tracked out s s.pending) (hshape : LaneShape s)
    (htask : task ∈ s.tasks) {lane : ℕ} {item : QueueItem}
    (hphase : task.phase = .dispatching lane item)
    (hown : task.id = item.waiter ∨ .cancelled item.waiter ∈ out) {report : LaneReport δ}
    (hreport : report = .cancelled task.id ∨
      item.waiter = task.id ∧ report = .interrupted task.id item.waiter) :
    Tracked (out ++ (s.resolved item (.interrupted task.id) ++ [report]))
      (((s.resolve item (.interrupted task.id)).leave task.command.deviceId lane true).setPhase
        task.id .ended)
      (((s.resolve item (.interrupted task.id)).leave task.command.deviceId lane true).setPhase
        task.id .ended).pending := by
  obtain ⟨others, hrunning, hpending⟩ := pending_run htask hphase
  have hresolved := (h.perm hpending).resolve hshape (.interrupted task.id) (by
    intro runner heq
    cases heq
    exact hown)
  obtain ⟨after, hafter, hid, _, hsame, hanswered⟩ :=
    resolved_task s htask item (.interrupted task.id)
  have hdispatching := hsame.trans hphase
  have hshape' := hshape.resolve item (.interrupted task.id)
  have hreported := hresolved.report report
    (by rcases hreport with rfl | ⟨_, rfl⟩ <;> intro _ <;> rfl)
    (by rcases hreport with rfl | ⟨_, rfl⟩ <;> simp)
    (by rcases hreport with rfl | ⟨_, rfl⟩ <;> simp)
    (by
      rcases hreport with rfl | ⟨hsameId, rfl⟩
      · simp
      · intro id waiter heq
        cases heq
        exact hsameId)
  have hended := hreported.setPhase hshape' hafter (by rw [hdispatching]; rintro ⟨⟩) .ended
    (by rintro ⟨⟩) (by
      intro _ hnone
      rcases hreport with rfl | ⟨hsameId, _⟩
      · rw [hid]
        simp
      · exact absurd hnone (hanswered hsameId))
  have hperm := KeyedList.filterMap_update_perm hshape'.ids hafter
    (fun t => { t with phase := .ended }) SubmitTask.running?
  have hrun : after.running? = some item := by
    unfold SubmitTask.running?
    rw [hdispatching]
  rw [hrun, resolve_running] at hperm
  have hrest := (List.perm_cons item).mp (hperm.trans hrunning)
  rw [hid] at hended hrest
  rw [← List.append_assoc]
  refine (hended.of_tasks (((s.resolve item (.interrupted task.id)).leave
    task.command.deviceId lane true).setPhase task.id .ended) rfl le_rfl).perm ?_
  exact (hrest.append_left s.queue).symm

/-- A submission that runs no item ends. -/
private theorem end_idle (h : Tracked out s s.pending) (hshape : LaneShape s)
    (htask : task ∈ s.tasks) (hgoing : task.phase ≠ .ended) (hidle : task.running? = none)
    {report : LaneReport δ} (hreport : report = .cancelled task.id ∨
      ∃ answer, task.answer = some answer ∧ report = .returned task.id answer)
    (htasks : s'.tasks = (s.setPhase task.id .ended).tasks) (hnext : s'.nextTask = s.nextTask)
    (hqueue : s'.queue = s.queue) : Tracked (out ++ [report]) s' s'.pending := by
  have hreported := h.report report
    (by rcases hreport with rfl | ⟨_, _, rfl⟩ <;> intro _ <;> rfl)
    (by rcases hreport with rfl | ⟨_, _, rfl⟩ <;> simp)
    (by
      rcases hreport with rfl | ⟨answer, hanswer, rfl⟩
      · simp
      · intro id other heq
        cases heq
        rw [h.answers task htask, hanswer]
        rfl)
    (by rcases hreport with rfl | ⟨_, _, rfl⟩ <;> simp)
  have hended := hreported.setPhase hshape htask hgoing .ended (by rintro ⟨⟩) (by
    intro _ hnone
    rcases hreport with rfl | ⟨answer, hanswer, _⟩
    · simp
    · rw [hnone] at hanswer
      cases hanswer)
  have hperm := KeyedList.filterMap_update_perm hshape.ids htask
    (fun t => { t with phase := .ended }) SubmitTask.running?
  rw [hidle] at hperm
  refine (hended.of_tasks s' htasks hnext.ge).perm ?_
  show (s.queue ++ _).Perm (s'.queue ++ s'.tasks.filterMap SubmitTask.running?)
  rw [hqueue, htasks]
  exact hperm.symm.append_left _

/-- Every step in which no submission fails in place of another keeps the account. -/
theorem step (h : Tracked out s s.pending) (hshape : LaneShape s) (hqueue : QueueShape s)
    {e : LaneEvent δ} {reports : List (LaneReport δ)} (hok : Unhijacked s e)
    (hs : s.step e = some (s', reports)) : Tracked (out ++ reports) s' s'.pending := by
  cases Lanes.stepped hs with
  | submit command =>
    unfold Lanes.submit
    split
    · have hreported := h.report (.shed s.nextTask) (fun _ => rfl) (by simp) (by simp) (by simp)
      exact hreported.of_tasks _ rfl (Nat.le_succ _)
    · have hspec := hshape.enterLane_spec command.deviceId
      generalize s.enterLane command.deviceId = entered at hspec ⊢
      obtain ⟨entered, lane⟩ := entered
      obtain ⟨htasks, _⟩ := hspec
      simp only at htasks ⊢
      refine (h.submit hshape
        ⟨(classifyPriority command).rank, s.counter, command, s.nextTask⟩ lane rfl rfl rfl).perm ?_
      unfold Lanes.pending
      simp only [List.filterMap_append, List.append_assoc]
      refine List.Perm.append_left _ ?_
      simp [SubmitTask.running?, List.filterMap_cons]
  | acquire task htask lane hphase hfree =>
    rw [List.append_nil]
    obtain ⟨hheld, hnone⟩ := hshape.acquired hfree
    have hrun : task.running? = none := by
      unfold SubmitTask.running?
      rw [hphase]
    have htracked := h.of_tasks ({ s with
      objects := Function.update s.objects lane { s.objects lane with locked := true } })
      rfl le_rfl
    refine htracked.drain hheld ⟨hqueue.ties, hqueue.older⟩ htask
      (SubmitTask.lane?_locking hphase) ?_ (s.tasks.filterMap SubmitTask.running?)
      (.refl _) ?_ ?_
    · exact fun other hother item hdispatching => absurd hdispatching (hnone other hother item)
    · rw [hrun]
      exact .refl _
    · intro item _
      simp [hrun]
  | finish task htask lane item hphase outcome answer hanswer =>
    refine h.finish hshape hqueue htask hphase ?_
    rintro runner rfl
    cases outcome <;> cases hanswer
  | interrupt task htask lane item hphase =>
    have hrun : task.running? = some item := by
      unfold SubmitTask.running?
      rw [hphase]
    have hsame : item.waiter = task.id := hok task htask rfl item hrun
    exact h.interrupt hshape htask hphase (.inl hsame.symm) (.inr ⟨hsame, rfl⟩)
  | cancelRun task htask lane item hphase =>
    have hrun : task.running? = some item := by
      unfold SubmitTask.running?
      rw [hphase]
    refine h.interrupt hshape htask hphase ?_ (.inl rfl)
    rcases hok task htask rfl item hrun with hsame | hgone
    · exact .inl hsame.symm
    · have hpending : item ∈ s.pending :=
        List.mem_append_right _ (List.mem_filterMap.mpr ⟨task, htask, hrun⟩)
      obtain ⟨caller, hcaller, hid, _, hnone⟩ := h.callers item hpending
      exact .inr (hid ▸ h.left caller hcaller (hgone caller hcaller hid) hnone)
  | cancelLock task htask lane hphase =>
    have hrun : task.running? = none := by
      unfold SubmitTask.running?
      rw [hphase]
    exact h.end_idle hshape htask (by rw [hphase]; rintro ⟨⟩) hrun (.inl rfl) rfl rfl rfl
  | cancelWait task htask hphase =>
    have hrun : task.running? = none := by
      unfold SubmitTask.running?
      rw [hphase]
    exact h.end_idle hshape htask (by rw [hphase]; rintro ⟨⟩) hrun (.inl rfl) rfl rfl rfl
  | ret task htask answer hphase hanswer =>
    have hrun : task.running? = none := by
      unfold SubmitTask.running?
      rw [hphase]
    exact h.end_idle hshape htask (by rw [hphase]; rintro ⟨⟩) hrun (.inr ⟨answer, hanswer, rfl⟩)
      rfl rfl rfl
  | discard deviceId =>
    have hsplit : s.pending.Perm (CommandQueue.taken deviceId s.queue ++
        (CommandQueue.kept deviceId s.queue ++ s.tasks.filterMap SubmitTask.running?)) := by
      rw [← List.append_assoc]
      exact (List.filter_append_perm _ s.queue).symm.append_right _
    have hreports : (s.discard deviceId).2 = (CommandQueue.taken deviceId s.queue).flatMap
        fun item => [.answered item.waiter item.command .discarded] := by
      refine List.flatMap_congr fun item hitem => ?_
      exact h.resolved_eq (List.mem_append_left _ (List.mem_filter.mp hitem).1) _
    have htracked := ((h.perm hsplit).of_tasks
      ({ s with queue := CommandQueue.kept deviceId s.queue }) rfl le_rfl).resolveAll
      (hshape.queue _)
    rw [hreports]
    refine htracked.perm ?_
    unfold Lanes.pending
    rw [show (s.discard deviceId).1 = Lanes.resolveAll _ _ from rfl, resolveAll_running,
      (QueueShape.resolveAll_queue _ _).1]

end Tracked

theorem submissions_tracked {trace : List (LaneEvent δ × List (LaneReport δ))} {s : Lanes δ}
    (hrun : ((lanes δ).restrict Unhijacked).Run trace s) :
    LaneShape s ∧ Tracked (Machine.outputs trace) s s.pending := by
  refine ⟨(lanes_invariant hrun.of_restrict.reachable).1, ?_⟩
  refine hrun.induct (P := fun trace s => Tracked (Machine.outputs trace) s s.pending) ?_ ?_
  · rintro s rfl
    exact .initial
  · intro trace s e s' out hrun ih hstep
    obtain ⟨hshape, hqueue⟩ := lanes_invariant hrun.of_restrict.reachable
    rw [Machine.outputs_append, Machine.outputs_singleton]
    exact ih.step hshape hqueue hstep.1 hstep.2

/-- In every run in which no submission fails in place of another: a queued submission is given
at most one answer, which is that of its own command and no exception of another submission;
what it returns is that answer; no submission ends with an exception of another's command; and
as long as it was not cancelled it has its answer, or holds or awaits the lane of its device.
When a device has no lane, nobody waits for a command that is queued for it. -/
theorem submissions_complete {trace : List (LaneEvent δ × List (LaneReport δ))} {s : Lanes δ}
    (hrun : ((lanes δ).restrict Unhijacked).Run trace s) :
    (∀ id command, LaneReport.queued id command ∈ Machine.outputs trace →
      (answersOf id (Machine.outputs trace)).length ≤ 1 ∧
      (∀ other answer, .answered id other answer ∈ Machine.outputs trace → other = command ∧
        ∀ runner, answer = .interrupted runner →
          runner = id ∨ .cancelled id ∈ Machine.outputs trace) ∧
      (∀ answer, .returned id answer ∈ Machine.outputs trace →
        answersOf id (Machine.outputs trace) = [answer]) ∧
      (∀ waiter, .interrupted id waiter ∈ Machine.outputs trace → waiter = id) ∧
      (.cancelled id ∈ Machine.outputs trace ∨
        (answersOf id (Machine.outputs trace)).length = 1 ∨
        ∃ task ∈ s.tasks, task.id = id ∧ ∃ lane, task.lane? = some lane ∧
          s.lanes command.deviceId = some lane)) ∧
    ∀ deviceId, s.lanes deviceId = none → ∀ item ∈ s.queue,
      item.command.deviceId = deviceId → ∀ caller ∈ s.tasks, caller.id = item.waiter →
        caller.phase = .ended := by
  obtain ⟨hshape, h⟩ := submissions_tracked hrun
  have hlane {task : SubmitTask δ} (htask : task ∈ s.tasks) (hnone : task.answer = none)
      (hgoing : task.phase ≠ .ended) : ∃ lane, task.lane? = some lane ∧
        s.lanes task.command.deviceId = some lane := by
    obtain ⟨lane, hlane⟩ : ∃ lane, task.lane? = some lane := by
      unfold SubmitTask.lane?
      cases hphase : task.phase with
      | locking lane => exact ⟨lane, rfl⟩
      | dispatching lane item => exact ⟨lane, rfl⟩
      | awaiting => exact absurd hnone (h.awaited task htask hphase)
      | ended => exact absurd hphase hgoing
    exact ⟨lane, hlane, hshape.current task htask lane hlane⟩
  refine ⟨?_, ?_⟩
  · intro id command hqueued
    obtain ⟨task, htask, rfl, rfl⟩ := h.known id command hqueued
    have hanswers := h.answers task htask
    refine ⟨?_, ?_, fun answer => h.returned task.id answer,
      fun waiter => h.interrupted task.id waiter, ?_⟩
    · rw [hanswers]
      cases task.answer <;> simp
    · intro other answer hanswered
      obtain ⟨asked, hasked, hid, rfl⟩ := h.commands task.id other answer hanswered
      refine ⟨by rw [hshape.eq_of_id hasked htask hid], ?_⟩
      rintro runner rfl
      exact h.own task.id _ runner hanswered
    · cases hanswer : task.answer with
      | some answer =>
        right
        left
        rw [hanswers, hanswer]
        rfl
      | none =>
        by_cases hended : task.phase = .ended
        · exact .inl (h.left task htask hended hanswer)
        · exact .inr (.inr ⟨task, htask, rfl, hlane htask hanswer hended⟩)
  · intro deviceId hnone item hitem hdevice caller hcaller hid
    obtain ⟨found, hfound, hsame, hcommand, hanswer⟩ :=
      h.callers item (List.mem_append_left _ hitem)
    obtain rfl := hshape.eq_of_id hfound hcaller (hsame.trans hid.symm)
    by_contra hgoing
    obtain ⟨lane, _, hcurrent⟩ := hlane hfound hanswer hgoing
    rw [hcommand, hdevice, hnone] at hcurrent
    cases hcurrent

private def interruptedBy : LaneReport Unit → Bool
  | .answered 1 _ (.interrupted 0) => true
  | _ => false

/-- The caller that holds the lane is cancelled while it runs the command of another, whose
submission fails with the cancellation. -/
theorem submission_hijacked : ∃ trace s command, (lanes Unit).Run trace s ∧
    .answered 1 command (.interrupted 0) ∈ Machine.outputs trace ∧
    .cancelled 1 ∉ Machine.outputs trace := by
  have hexec : ((Machine.execute (@Lanes.step Unit) (fun _ _ => True) {}
      [.submit (lessonCommand "robot" .quest), .submit (lessonCommand "robot" .quest),
        .acquire 0, .finish 0 (.returned ()), .cancel 0]).any fun last =>
      (Machine.outputs last.2).any interruptedBy && !(Machine.outputs last.2).any fun report =>
        match report with
        | .cancelled 1 => true
        | _ => false) = true := by decide
  obtain ⟨last, hlast, hend⟩ := (Option.any_eq_true ..).mp hexec
  have hrun := (Machine.run_of_execute (M := lanes Unit) rfl id hlast).of_restrict
  simp only [Bool.and_eq_true, Bool.not_eq_true'] at hend
  obtain ⟨report, hreport, hkind⟩ := List.any_eq_true.mp hend.1
  unfold interruptedBy at hkind
  split at hkind
  · rename_i command
    refine ⟨_, _, command, hrun, hreport, fun hcancelled => ?_⟩
    have hnone := List.any_eq_false.mp hend.2 _ hcancelled
    simp at hnone
  · cases hkind

private def isSubmit (e : LaneEvent Unit) : Bool :=
  match e with
  | .submit _ | .acquire _ | .finish _ (.returned _) => true
  | _ => false

private def isQueued : LaneReport Unit → Bool
  | .queued 1 _ => true
  | _ => false

/-- Two submissions, of which the first runs both commands. -/
theorem submissions_complete_pair : ∃ trace s command,
    ((lanes Unit).restrict Unhijacked).Run trace s ∧
    LaneReport.queued 1 command ∈ Machine.outputs trace ∧
    (answersOf 1 (Machine.outputs trace)).length ≤ 1 := by
  have hexec : ((Machine.execute (@Lanes.step Unit) (fun _ e => isSubmit e = true) {}
      [.submit (lessonCommand "robot" .quest), .submit (lessonCommand "robot" .quest),
        .acquire 0, .finish 0 (.returned ()), .finish 0 (.returned ())]).any fun last =>
      (Machine.outputs last.2).any isQueued) = true := by decide
  obtain ⟨last, hlast, hend⟩ := (Option.any_eq_true ..).mp hexec
  have hrun := Machine.run_of_execute (M := lanes Unit) rfl id hlast
  have hallowed : ((lanes Unit).restrict Unhijacked).Run last.2 last.1 := by
    refine hrun.mono fun {s e} hsubmit => ?_
    unfold isSubmit at hsubmit
    split at hsubmit
    · trivial
    · trivial
    · trivial
    · cases hsubmit
  obtain ⟨report, hreport, hkind⟩ := List.any_eq_true.mp hend
  unfold isQueued at hkind
  split at hkind
  · rename_i command
    exact ⟨_, _, command, hallowed, hreport,
      ((submissions_complete hallowed).1 1 command hreport).1⟩
  · cases hkind

end CitPhysicalXR.Runtime
