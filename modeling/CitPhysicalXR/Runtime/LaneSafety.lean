import CitPhysicalXR.Runtime.Lanes

/-! Mutual exclusion of a device's dispatches: the lane that a submission has entered stays the
lane of its device until the submission leaves it. -/
namespace CitPhysicalXR.Runtime
open Foundation

/-- What the lanes see of a submission. -/
def SubmitTask.place {δ : Type} (task : SubmitTask δ) : ℕ × DeviceCommandIntent × SubmitPhase :=
  (task.id, task.command, task.phase)

structure LaneShape {δ : Type} (s : Lanes δ) : Prop where
  ids : (s.tasks.map SubmitTask.id).Nodup
  fresh : ∀ task ∈ s.tasks, task.id < s.nextTask
  current : ∀ task ∈ s.tasks, ∀ lane, task.lane? = some lane →
    s.lanes task.command.deviceId = some lane
  owned : ∀ deviceId lane, s.lanes deviceId = some lane → lane < s.nextLane ∧
    ∀ other, s.lanes other = some lane → other = deviceId
  users : ∀ deviceId lane, s.lanes deviceId = some lane →
    (s.objects lane).users = (s.tasks.filterMap SubmitTask.lane?).count lane
  running : ∀ task ∈ s.tasks, ∀ lane item, task.phase = .dispatching lane item →
    (s.objects lane).locked = true ∧ item.command.deviceId = task.command.deviceId
  alone : ∀ task ∈ s.tasks, ∀ other ∈ s.tasks, ∀ lane item item',
    task.phase = .dispatching lane item → other.phase = .dispatching lane item' →
      task.id = other.id

@[simp] theorem Lanes.setPhase_ids {δ : Type} (s : Lanes δ) (id : ℕ) (phase : SubmitPhase) :
    (s.setPhase id phase).tasks.map SubmitTask.id = s.tasks.map SubmitTask.id :=
  KeyedList.map_update fun _ => rfl

namespace LaneShape
variable {δ : Type} {s s' : Lanes δ} {task : SubmitTask δ} {lane : ℕ}

theorem initial : LaneShape ({} : Lanes δ) := by
  constructor <;> simp

theorem eq_of_id (h : LaneShape s) {first second : SubmitTask δ} (hfirst : first ∈ s.tasks)
    (hsecond : second ∈ s.tasks) (hid : first.id = second.id) : first = second :=
  KeyedList.eq_of_key h.ids hfirst hsecond hid

theorem mem_setPhase (h : LaneShape s) (htask : task ∈ s.tasks) {phase : SubmitPhase}
    {t : SubmitTask δ} (ht : t ∈ (s.setPhase task.id phase).tasks) :
    t = { task with phase } ∨ t ∈ s.tasks ∧ t.id ≠ task.id := by
  obtain ⟨a, ha, rfl⟩ := KeyedList.mem_update.mp ht
  split
  · rename_i hid
    obtain rfl := h.eq_of_id ha htask hid
    exact .inl rfl
  · exact .inr ⟨ha, ‹_›⟩

theorem users_pos (h : LaneShape s) (htask : task ∈ s.tasks) (hlane : task.lane? = some lane) :
    (s.objects lane).users = (s.tasks.filterMap SubmitTask.lane?).count lane ∧
      0 < (s.objects lane).users := by
  have hcurrent := h.current task htask lane hlane
  have husers := h.users _ lane hcurrent
  refine ⟨husers, ?_⟩
  rw [husers, List.count_pos_iff, List.mem_filterMap]
  exact ⟨task, htask, hlane⟩

/-- Nothing that the lanes see has changed. -/
theorem of_tasks (h : LaneShape s)
    (htasks : s'.tasks.map SubmitTask.place = s.tasks.map SubmitTask.place)
    (hobjects : s'.objects = s.objects) (hlanes : s'.lanes = s.lanes)
    (hnextLane : s'.nextLane = s.nextLane) (hnextTask : s.nextTask ≤ s'.nextTask) :
    LaneShape s' := by
  have hmem (t : SubmitTask δ) (ht : t ∈ s'.tasks) :
      ∃ before ∈ s.tasks, before.id = t.id ∧ before.command = t.command ∧
        before.phase = t.phase := by
    have hin := htasks ▸ List.mem_map_of_mem (f := SubmitTask.place) ht
    obtain ⟨before, hbefore, heq⟩ := List.mem_map.mp hin
    simp only [SubmitTask.place, Prod.mk.injEq] at heq
    exact ⟨before, hbefore, heq⟩
  have hids : s'.tasks.map SubmitTask.id = s.tasks.map SubmitTask.id := by
    have := congrArg (List.map Prod.fst) htasks
    simpa [List.map_map, Function.comp_def, SubmitTask.place] using this
  have hcounts : s'.tasks.filterMap SubmitTask.lane? = s.tasks.filterMap SubmitTask.lane? := by
    have := congrArg (List.filterMap fun t : ℕ × DeviceCommandIntent × SubmitPhase =>
      t.2.2.lane?) htasks
    simp only [List.filterMap_map] at this
    exact this
  have hlane? {before t : SubmitTask δ} (hphase : before.phase = t.phase) :
      before.lane? = t.lane? := by
    unfold SubmitTask.lane?
    rw [hphase]
  refine ⟨hids ▸ h.ids, ?_, ?_, ?_, ?_, ?_, ?_⟩
  · intro t ht
    obtain ⟨before, hbefore, hid, _⟩ := hmem t ht
    have hlt := h.fresh before hbefore
    omega
  · intro t ht lane hlane
    obtain ⟨before, hbefore, _, hcommand, hphase⟩ := hmem t ht
    rw [hlanes, ← hcommand]
    exact h.current before hbefore lane (hlane? hphase ▸ hlane)
  · rw [hlanes, hnextLane]
    exact h.owned
  · rw [hlanes, hobjects, hcounts]
    exact h.users
  · intro t ht lane item hphase
    obtain ⟨before, hbefore, _, hcommand, hsame⟩ := hmem t ht
    rw [hobjects, ← hcommand]
    exact h.running before hbefore lane item (hsame.trans hphase)
  · intro t ht u hu lane item item' htp hup
    obtain ⟨before, hbefore, hid, _, hsame⟩ := hmem t ht
    obtain ⟨before', hbefore', hid', _, hsame'⟩ := hmem u hu
    rw [← hid, ← hid']
    exact h.alone before hbefore before' hbefore' lane item item' (hsame.trans htp)
      (hsame'.trans hup)

theorem resolve (h : LaneShape s) (item : QueueItem) (answer : Answer δ) :
    LaneShape (s.resolve item answer) :=
  h.of_tasks (KeyedList.map_update fun _ => rfl) rfl rfl rfl le_rfl

theorem queue (h : LaneShape s) (queue : List QueueItem) : LaneShape { s with queue } :=
  h.of_tasks rfl rfl rfl rfl le_rfl

/-- The submission that leaves its lane, which it held alone if it unlocks it. -/
theorem leave (h : LaneShape s) (htask : task ∈ s.tasks) (hlane : task.lane? = some lane)
    (unlock : Bool) {phase : SubmitPhase} (hphase : phase = .awaiting ∨ phase = .ended)
    (hothers : unlock = true → ∀ other ∈ s.tasks, ∀ item, other.phase = .dispatching lane item →
      other.id = task.id) :
    LaneShape ((s.leave task.command.deviceId lane unlock).setPhase task.id phase) := by
  have hcurrent := h.current task htask lane hlane
  obtain ⟨husers, hpos⟩ := h.users_pos htask hlane
  have hnone : ({ task with phase } : SubmitTask δ).lane? = none := by
    rcases hphase with rfl | rfl <;> rfl
  have hcounts (l : ℕ) : ([lane] : List ℕ).count l +
      ((KeyedList.update SubmitTask.id task.id (fun t => { t with phase }) s.tasks).filterMap
        SubmitTask.lane?).count l = (s.tasks.filterMap SubmitTask.lane?).count l := by
    have hperm := KeyedList.filterMap_update_perm h.ids htask (fun t => { t with phase })
      SubmitTask.lane?
    rw [hlane, hnone] at hperm
    rw [← List.count_append]
    exact hperm.count_eq l
  -- a submission that stays in a lane keeps the lane of its device
  have hkept (other : SubmitTask δ) (hother : other ∈ s.tasks) (hne : other.id ≠ task.id) (l : ℕ)
      (hl : other.lane? = some l) :
      (s.leave task.command.deviceId lane unlock).lanes other.command.deviceId = some l := by
    have hsame := h.current other hother l hl
    simp only [Lanes.leave]
    split
    · rename_i hlast
      rw [Function.update_of_ne]
      · exact hsame
      · intro hdevice
        rw [hdevice, hcurrent] at hsame
        obtain rfl := Option.some.inj hsame
        have hcount := hcounts lane
        have hin : lane ∈ (KeyedList.update SubmitTask.id task.id (fun t => { t with phase })
            s.tasks).filterMap SubmitTask.lane? := by
          refine List.mem_filterMap.mpr ⟨other, KeyedList.mem_update.mpr ⟨other, hother, ?_⟩, hl⟩
          rw [if_neg hne]
        have hpositive := List.count_pos_iff.mpr hin
        simp at hcount
        omega
    · exact hsame
  have hlanes (d : String) (l : ℕ)
      (hl : (s.leave task.command.deviceId lane unlock).lanes d = some l) :
      s.lanes d = some l := by
    simp only [Lanes.leave] at hl
    split at hl
    · by_cases hd : d = task.command.deviceId
      · rw [hd, Function.update_self] at hl
        cases hl
      · rwa [Function.update_of_ne hd] at hl
    · exact hl
  have hobject (l : ℕ) (hne : l ≠ lane) :
      (s.leave task.command.deviceId lane unlock).objects l = s.objects l :=
    Function.update_of_ne hne _ _
  have hidle {l : ℕ} {item : QueueItem} :
      ({ task with phase } : SubmitTask δ).phase ≠ .dispatching l item := by
    rcases hphase with rfl | rfl <;> nofun
  have hmem {t : SubmitTask δ} (ht : t ∈ ((s.leave task.command.deviceId lane unlock).setPhase
      task.id phase).tasks) : t = { task with phase } ∨ t ∈ s.tasks ∧ t.id ≠ task.id :=
    h.mem_setPhase htask ht
  refine ⟨?_, ?_, ?_, ?_, ?_, ?_, ?_⟩
  · rw [Lanes.setPhase_ids]
    exact h.ids
  · intro t ht
    rcases hmem ht with rfl | ⟨ht, _⟩
    · exact h.fresh task htask
    · exact h.fresh t ht
  · intro t ht l hl
    rcases hmem ht with rfl | ⟨ht, hne⟩
    · rw [hnone] at hl
      cases hl
    · exact hkept t ht hne l hl
  · intro d l hl
    obtain ⟨hlt, hunique⟩ := h.owned d l (hlanes d l hl)
    exact ⟨hlt, fun other hother => hunique other (hlanes other l hother)⟩
  · intro d l hl
    have hcount := hcounts l
    by_cases hsame : l = lane
    · subst hsame
      have hobj : ((s.leave task.command.deviceId l unlock).objects l).users =
          (s.objects l).users - 1 := by
        simp [Lanes.leave]
      show ((s.leave task.command.deviceId l unlock).objects l).users = _
      rw [hobj, husers]
      simp at hcount
      show _ = List.count l ((KeyedList.update _ _ _ s.tasks).filterMap _)
      omega
    · show ((s.leave task.command.deviceId lane unlock).objects l).users = _
      rw [hobject l hsame, h.users d l (hlanes d l hl), ← hcount]
      have hzero : ([lane] : List ℕ).count l = 0 := by
        simpa [List.count_eq_zero] using hsame
      rw [hzero, Nat.zero_add]
      rfl
  · intro t ht l item hdispatching
    rcases hmem ht with rfl | ⟨hold, hne⟩
    · exact absurd hdispatching hidle
    · obtain ⟨hlocked, hdevice⟩ := h.running t hold l item hdispatching
      refine ⟨?_, hdevice⟩
      show ((s.leave task.command.deviceId lane unlock).objects l).locked = true
      by_cases hsame : l = lane
      · subst hsame
        cases unlock with
        | true => exact absurd (hothers rfl t hold item hdispatching) hne
        | false => simp [Lanes.leave, hlocked]
      · rw [hobject l hsame]
        exact hlocked
  · intro t ht u hu l item item' htp hup
    rcases hmem ht with rfl | ⟨ht, _⟩
    · exact absurd htp hidle
    · rcases hmem hu with rfl | ⟨hu, _⟩
      · exact absurd hup hidle
      · exact h.alone t ht u hu l item item' htp hup

/-- The holder of a lane's lock starts a dispatch. -/
theorem begin (h : LaneShape s) (htask : task ∈ s.tasks) (hlane : task.lane? = some lane)
    (hlocked : (s.objects lane).locked = true)
    (hothers : ∀ other ∈ s.tasks, ∀ item, other.phase = .dispatching lane item →
      other.id = task.id)
    {item : QueueItem} (hdevice : item.command.deviceId = task.command.deviceId) :
    LaneShape (s.setPhase task.id (.dispatching lane item)) := by
  have hcounts (l : ℕ) : ((s.setPhase task.id (.dispatching lane item)).tasks.filterMap
      SubmitTask.lane?).count l = (s.tasks.filterMap SubmitTask.lane?).count l := by
    have hperm := KeyedList.filterMap_update_perm h.ids htask
      (fun t => { t with phase := .dispatching lane item }) SubmitTask.lane?
    rw [hlane] at hperm
    have hcount := hperm.count_eq l
    rw [List.count_append, List.count_append] at hcount
    exact Nat.add_left_cancel hcount
  have hmem {t : SubmitTask δ}
      (ht : t ∈ (s.setPhase task.id (.dispatching lane item)).tasks) :
      t = { task with phase := .dispatching lane item } ∨ t ∈ s.tasks ∧ t.id ≠ task.id :=
    h.mem_setPhase htask ht
  refine ⟨?_, ?_, ?_, h.owned, ?_, ?_, ?_⟩
  · rw [Lanes.setPhase_ids]
    exact h.ids
  · intro t ht
    rcases hmem ht with rfl | ⟨hold, _⟩
    · exact h.fresh task htask
    · exact h.fresh t hold
  · intro t ht l hl
    rcases hmem ht with rfl | ⟨hold, _⟩
    · cases hl
      exact h.current task htask lane hlane
    · exact h.current t hold l hl
  · intro d l hl
    rw [hcounts]
    exact h.users d l hl
  · intro t ht l other hdispatching
    rcases hmem ht with rfl | ⟨hold, _⟩
    · cases hdispatching
      exact ⟨hlocked, hdevice⟩
    · exact h.running t hold l other hdispatching
  · intro t ht u hu l first second htp hup
    rcases hmem ht with rfl | ⟨htold, _⟩
    · rcases hmem hu with rfl | ⟨huold, _⟩
      · rfl
      · cases htp
        exact (hothers u huold second hup).symm
    · rcases hmem hu with rfl | ⟨huold, _⟩
      · cases hup
        exact hothers t htold first htp
      · exact h.alone t htold u huold l first second htp hup

theorem drain (h : LaneShape s) (hties : (s.queue.map QueueItem.tiebreak).Nodup)
    (htask : task ∈ s.tasks) (hlane : task.lane? = some lane)
    (hlocked : (s.objects lane).locked = true)
    (hothers : ∀ other ∈ s.tasks, ∀ item, other.phase = .dispatching lane item →
      other.id = task.id) : LaneShape (s.drain task lane) := by
  unfold Lanes.drain
  split
  · exact h.leave htask hlane true (.inl rfl) fun _ => hothers
  · rename_i item rest hpop
    exact (h.queue rest).begin htask hlane hlocked hothers
      (CommandQueue.popFor_perm hties hpop).2

/-- The lane of a device before a submission joins its users. -/
theorem enterLane_spec (h : LaneShape s) (deviceId : String) :
    (s.enterLane deviceId).1.tasks = s.tasks ∧ (s.enterLane deviceId).1.queue = s.queue ∧
      (s.enterLane deviceId).1.nextTask = s.nextTask ∧
      (s.enterLane deviceId).1.lanes deviceId = some (s.enterLane deviceId).2 ∧
      (∀ d, d ≠ deviceId → (s.enterLane deviceId).1.lanes d = s.lanes d) ∧
      (∀ l, s.lanes deviceId = some l → (s.enterLane deviceId).2 = l) ∧
      (∀ l, l ≠ (s.enterLane deviceId).2 →
        (s.enterLane deviceId).1.objects l = s.objects l) ∧
      ((s.enterLane deviceId).1.objects (s.enterLane deviceId).2).users =
        (s.tasks.filterMap SubmitTask.lane?).count (s.enterLane deviceId).2 + 1 ∧
      ((s.enterLane deviceId).1.objects (s.enterLane deviceId).2).locked =
        ((s.lanes deviceId).any fun l => (s.objects l).locked) ∧
      (s.enterLane deviceId).2 < (s.enterLane deviceId).1.nextLane ∧
      s.nextLane ≤ (s.enterLane deviceId).1.nextLane ∧
      (s.lanes deviceId = none → (s.enterLane deviceId).2 = s.nextLane) := by
  unfold Lanes.enterLane
  cases hcurrent : s.lanes deviceId with
  | some lane =>
    have husers := h.users deviceId lane hcurrent
    have hlt := (h.owned deviceId lane hcurrent).1
    refine ⟨rfl, rfl, rfl, hcurrent, fun _ _ => rfl, ?_, ?_, ?_, ?_, hlt, le_rfl, nofun⟩
    · intro l hl
      exact Option.some.inj hl
    · intro l hl
      exact Function.update_of_ne hl _ _
    · simp [husers]
    · simp
  | none =>
    have hunused : (s.tasks.filterMap SubmitTask.lane?).count s.nextLane = 0 := by
      rw [List.count_eq_zero, List.mem_filterMap]
      rintro ⟨task, htask, hlane⟩
      exact absurd (h.owned _ _ (h.current task htask _ hlane)).1 (lt_irrefl _)
    refine ⟨rfl, rfl, rfl, Function.update_self .., ?_, nofun, ?_, ?_, ?_, Nat.lt_succ_self _,
      Nat.le_succ _, fun _ => rfl⟩
    · intro d hd
      exact Function.update_of_ne hd _ _
    · intro l hl
      exact Function.update_of_ne hl _ _
    · simp [hunused]
    · simp

theorem submit (h : LaneShape s) (command : DeviceCommandIntent) :
    LaneShape (s.submit command).1 := by
  unfold Lanes.submit
  split
  · exact h.of_tasks rfl rfl rfl rfl (Nat.le_succ _)
  · have hspec := h.enterLane_spec command.deviceId
    generalize s.enterLane command.deviceId = entered at hspec ⊢
    obtain ⟨entered, lane⟩ := entered
    obtain ⟨htasks, _, hnext, hlane, hother, hsame, hobject, husers, hlocked, hlt, hle, hfresh⟩ :=
      hspec
    simp only at htasks hnext hlane hother hsame hobject husers hlocked hlt hle hfresh ⊢
    -- the lane was not in use by another device
    have hfree (d : String) (hd : d ≠ command.deviceId) (hl : s.lanes d = some lane) : False := by
      cases hcurrent : s.lanes command.deviceId with
      | some l =>
        obtain rfl := hsame l hcurrent
        exact hd ((h.owned _ _ hcurrent).2 d hl)
      | none =>
        rw [hfresh hcurrent] at hl
        exact absurd (h.owned d _ hl).1 (lt_irrefl _)
    have hmem {t : SubmitTask δ} (ht : t ∈ s.tasks ++
        [(⟨s.nextTask, command, .locking lane, none⟩ : SubmitTask δ)]) :
        t ∈ s.tasks ∨ t = ⟨s.nextTask, command, .locking lane, none⟩ := by
      simpa using ht
    have hkept (t : SubmitTask δ) (ht : t ∈ s.tasks) (l : ℕ) (hl : t.lane? = some l) :
        entered.lanes t.command.deviceId = some l := by
      have hold := h.current t ht l hl
      by_cases hd : t.command.deviceId = command.deviceId
      · rw [hd, hlane, hsame l (hd ▸ hold)]
      · rw [hother _ hd]
        exact hold
    refine ⟨?_, ?_, ?_, ?_, ?_, ?_, ?_⟩
    · rw [List.map_append]
      refine List.nodup_append'.mpr ⟨h.ids, List.nodup_singleton _, ?_⟩
      intro id hid hnew
      obtain ⟨t, ht, rfl⟩ := List.mem_map.mp hid
      have hlt := h.fresh t ht
      simp at hnew
      omega
    · intro t ht
      rcases hmem ht with ht | rfl
      · exact Nat.lt_succ_of_lt (h.fresh t ht)
      · exact Nat.lt_succ_self _
    · intro t ht l hl
      rcases hmem ht with ht | rfl
      · exact hkept t ht l hl
      · cases hl
        exact hlane
    · intro d l hl
      by_cases hd : d = command.deviceId
      · subst hd
        obtain rfl : lane = l := by simpa [hlane] using hl
        refine ⟨hlt, fun d' hd' => ?_⟩
        by_contra hne
        rw [hother d' hne] at hd'
        exact hfree d' hne hd'
      · rw [hother d hd] at hl
        obtain ⟨hold, hunique⟩ := h.owned d l hl
        refine ⟨hold.trans_le hle, fun d' hd' => ?_⟩
        by_cases hc : d' = command.deviceId
        · subst hc
          obtain rfl : lane = l := by simpa [hlane] using hd'
          exact (hfree d hd hl).elim
        · rw [hother d' hc] at hd'
          exact hunique d' hd'
    · intro d l hl
      rw [List.filterMap_append, List.count_append]
      show (entered.objects l).users = _
      by_cases hl' : l = lane
      · subst hl'
        rw [husers]
        simp [SubmitTask.lane?]
      · have hd : d ≠ command.deviceId := by
          rintro rfl
          exact hl' (by simpa [hlane, eq_comm] using hl)
        rw [hother d hd] at hl
        rw [hobject l hl', h.users d l hl]
        have hzero : List.count l ([(⟨s.nextTask, command, .locking lane, none⟩ :
            SubmitTask δ)].filterMap SubmitTask.lane?) = 0 := by
          simp [SubmitTask.lane?, List.count_eq_zero, hl']
        rw [hzero, Nat.add_zero]
    · intro t ht l item hdispatching
      rcases hmem ht with hprev | rfl
      · obtain ⟨hheld, hdevice⟩ := h.running t hprev l item hdispatching
        refine ⟨?_, hdevice⟩
        show (entered.objects l).locked = true
        by_cases hl' : l = lane
        · subst hl'
          have hlane? : t.lane? = some l := by
            unfold SubmitTask.lane?
            rw [hdispatching]
          have hold := h.current t hprev l hlane?
          have hd : t.command.deviceId = command.deviceId := by
            by_contra hne
            exact hfree _ hne hold
          rw [hlocked, ← hd, hold]
          exact hheld
        · rw [hobject l hl']
          exact hheld
      · cases hdispatching
    · intro t ht u hu l item item' htp hup
      rcases hmem ht with ht | rfl
      · rcases hmem hu with hu | rfl
        · exact h.alone t ht u hu l item item' htp hup
        · cases hup
      · cases htp

theorem resolveAll (h : LaneShape s) (items : List QueueItem) : LaneShape (s.resolveAll items) := by
  induction items generalizing s with
  | nil => exact h
  | cons item items ih => exact ih (h.resolve item .discarded)

end LaneShape

theorem Lanes.task?_some {δ : Type} {s : Lanes δ} {id : ℕ} {task : SubmitTask δ}
    (h : s.task? id = some task) : task ∈ s.tasks ∧ task.id = id :=
  ⟨List.mem_of_find?_eq_some h, by simpa using List.find?_some h⟩

def DispatchEnd.answer? {δ : Type} : DispatchEnd δ → Option (Answer δ)
  | .returned result => some (.dispatched result)
  | .exception error => some (.raised error)
  | .baseException => none

/-- The steps, with the submissions that take them. -/
inductive Lanes.Stepped {δ : Type} (s : Lanes δ) :
    LaneEvent δ → Lanes δ → List (LaneReport δ) → Prop
  | submit (command) : Stepped s (.submit command) (s.submit command).1 (s.submit command).2
  | acquire (task) (htask : task ∈ s.tasks) (lane) (hphase : task.phase = .locking lane)
      (hfree : (s.objects lane).locked = false) :
      Stepped s (.acquire task.id) (drain { s with
        objects := Function.update s.objects lane { s.objects lane with locked := true } }
        task lane) []
  | finish (task) (htask : task ∈ s.tasks) (lane item)
      (hphase : task.phase = .dispatching lane item) (outcome answer)
      (hanswer : outcome.answer? = some answer) :
      Stepped s (.finish task.id outcome) ((s.resolve item answer).drain task lane)
        (s.resolved item answer)
  | interrupt (task) (htask : task ∈ s.tasks) (lane item)
      (hphase : task.phase = .dispatching lane item) :
      Stepped s (.finish task.id .baseException)
        (((s.resolve item (.interrupted task.id)).leave task.command.deviceId lane true).setPhase
          task.id .ended)
        (s.resolved item (.interrupted task.id) ++ [LaneReport.interrupted task.id item.waiter])
  | cancelRun (task) (htask : task ∈ s.tasks) (lane item)
      (hphase : task.phase = .dispatching lane item) :
      Stepped s (.cancel task.id)
        (((s.resolve item (.interrupted task.id)).leave task.command.deviceId lane true).setPhase
          task.id .ended)
        (s.resolved item (.interrupted task.id) ++ [LaneReport.cancelled task.id])
  | cancelLock (task) (htask : task ∈ s.tasks) (lane) (hphase : task.phase = .locking lane) :
      Stepped s (.cancel task.id)
        ((s.leave task.command.deviceId lane false).setPhase task.id .ended) [.cancelled task.id]
  | cancelWait (task) (htask : task ∈ s.tasks) (hphase : task.phase = .awaiting) :
      Stepped s (.cancel task.id) (s.setPhase task.id .ended) [.cancelled task.id]
  | ret (task) (htask : task ∈ s.tasks) (answer) (hphase : task.phase = .awaiting)
      (hanswer : task.answer = some answer) :
      Stepped s (.return task.id) (s.setPhase task.id .ended) [.returned task.id answer]
  | discard (deviceId) : Stepped s (.discard deviceId) (s.discard deviceId).1 (s.discard deviceId).2

theorem Lanes.stepped {δ : Type} {s s' : Lanes δ} {e : LaneEvent δ} {out : List (LaneReport δ)}
    (hs : s.step e = some (s', out)) : s.Stepped e s' out := by
  cases e with
  | submit command =>
    obtain ⟨rfl, rfl⟩ := Prod.mk.inj (Option.some.inj hs)
    exact .submit command
  | acquire id =>
    simp only [Lanes.step] at hs
    split at hs
    · rename_i task hfind
      obtain ⟨htask, rfl⟩ := Lanes.task?_some hfind
      split at hs
      · rename_i lane hphase
        split at hs
        · cases hs
        · rename_i hfree
          cases hs
          exact .acquire task htask lane hphase (by simpa using hfree)
      · cases hs
    · cases hs
  | finish id outcome =>
    simp only [Lanes.step] at hs
    split at hs
    · rename_i task hfind
      obtain ⟨htask, rfl⟩ := Lanes.task?_some hfind
      split at hs
      · rename_i lane item hphase
        cases outcome with
        | returned result =>
          cases hs
          exact .finish task htask lane item hphase (.returned result) _ rfl
        | exception error =>
          cases hs
          exact .finish task htask lane item hphase (.exception error) _ rfl
        | baseException =>
          cases hs
          exact .interrupt task htask lane item hphase
      · cases hs
    · cases hs
  | «return» id =>
    simp only [Lanes.step] at hs
    split at hs
    · rename_i task hfind
      obtain ⟨htask, rfl⟩ := Lanes.task?_some hfind
      split at hs
      · rename_i answer hphase hanswer
        cases hs
        exact .ret task htask answer hphase hanswer
      · cases hs
    · cases hs
  | cancel id =>
    obtain ⟨task, hfind, hcancel⟩ := Option.bind_eq_some_iff.mp hs
    obtain ⟨htask, rfl⟩ := Lanes.task?_some hfind
    unfold Lanes.cancel at hcancel
    split at hcancel
    · rename_i lane hphase
      cases hcancel
      exact .cancelLock task htask lane hphase
    · rename_i lane item hphase
      cases hcancel
      exact .cancelRun task htask lane item hphase
    · rename_i hphase
      cases hcancel
      exact .cancelWait task htask hphase
    · cases hcancel
  | discard deviceId =>
    obtain ⟨rfl, rfl⟩ := Prod.mk.inj (Option.some.inj hs)
    exact .discard deviceId

structure QueueShape {δ : Type} (s : Lanes δ) : Prop where
  ties : (s.queue.map QueueItem.tiebreak).Nodup
  older : ∀ item ∈ s.queue, item.tiebreak < s.counter

namespace QueueShape
variable {δ : Type} {s s' : Lanes δ}

theorem initial : QueueShape ({} : Lanes δ) := ⟨List.nodup_nil, nofun⟩

theorem of_sublist (h : QueueShape s) (hqueue : s'.queue.Sublist s.queue)
    (hcounter : s'.counter = s.counter) : QueueShape s' where
  ties := h.ties.sublist (hqueue.map _)
  older item hitem := hcounter ▸ h.older item (hqueue.subset hitem)

theorem drain (h : QueueShape s) (task : SubmitTask δ) (lane : ℕ) :
    QueueShape (s.drain task lane) := by
  unfold Lanes.drain
  split
  · exact h.of_sublist (List.Sublist.refl _) rfl
  · rename_i item rest hpop
    obtain ⟨_, _, heq⟩ := Option.map_eq_some_iff.mp hpop
    obtain ⟨_, rfl⟩ := Prod.mk.inj heq
    exact h.of_sublist (List.eraseP_sublist ..) rfl

theorem submit (h : QueueShape s) (command : DeviceCommandIntent) :
    QueueShape (s.submit command).1 := by
  unfold Lanes.submit
  split
  · exact h.of_sublist (List.Sublist.refl _) rfl
  · refine ⟨?_, ?_⟩
    · simp only [List.map_append, List.map_cons, List.map_nil]
      refine List.nodup_append'.mpr ⟨h.ties, List.nodup_singleton _, ?_⟩
      intro tie htie hnew
      obtain ⟨item, hitem, rfl⟩ := List.mem_map.mp htie
      have hlt := h.older item hitem
      simp at hnew
      omega
    · intro item hitem
      rcases List.mem_append.mp hitem with hitem | hitem
      · exact Nat.lt_succ_of_lt (h.older item hitem)
      · obtain rfl := List.mem_singleton.mp hitem
        exact Nat.lt_succ_self _

theorem resolveAll_queue (s : Lanes δ) (items : List QueueItem) :
    (s.resolveAll items).queue = s.queue ∧ (s.resolveAll items).counter = s.counter := by
  induction items generalizing s with
  | nil => exact ⟨rfl, rfl⟩
  | cons item items ih => exact ih (s.resolve item .discarded)

theorem step (h : QueueShape s) {e : LaneEvent δ} {out : List (LaneReport δ)}
    (hs : s.step e = some (s', out)) : QueueShape s' := by
  cases Lanes.stepped hs with
  | submit command => exact h.submit command
  | acquire task htask lane hphase hfree =>
    refine QueueShape.drain ?_ task lane
    exact h.of_sublist (.refl _) rfl
  | finish task htask lane item hphase outcome answer =>
    refine QueueShape.drain ?_ task lane
    exact h.of_sublist (.refl _) rfl
  | interrupt task htask lane item hphase => exact h.of_sublist (.refl _) rfl
  | cancelRun task htask lane item hphase => exact h.of_sublist (.refl _) rfl
  | cancelLock task htask lane hphase => exact h.of_sublist (.refl _) rfl
  | cancelWait task htask hphase => exact h.of_sublist (.refl _) rfl
  | ret task htask answer hphase hanswer => exact h.of_sublist (.refl _) rfl
  | discard deviceId =>
    obtain ⟨hqueue, hcounter⟩ := resolveAll_queue
      ({ s with queue := CommandQueue.kept deviceId s.queue } : Lanes δ)
      (CommandQueue.taken deviceId s.queue)
    refine h.of_sublist ?_ hcounter
    show List.Sublist (Lanes.resolveAll _ _).queue _
    rw [hqueue]
    exact List.filter_sublist

end QueueShape

theorem SubmitTask.lane?_locking {δ : Type} {task : SubmitTask δ} {lane : ℕ}
    (h : task.phase = .locking lane) : task.lane? = some lane := by
  unfold SubmitTask.lane?
  rw [h]

theorem SubmitTask.lane?_dispatching {δ : Type} {task : SubmitTask δ} {lane : ℕ}
    {item : QueueItem} (h : task.phase = .dispatching lane item) : task.lane? = some lane := by
  unfold SubmitTask.lane?
  rw [h]

theorem SubmitTask.running?_some {δ : Type} {task : SubmitTask δ} {item : QueueItem}
    (h : task.running? = some item) : ∃ lane, task.phase = .dispatching lane item := by
  unfold SubmitTask.running? at h
  split at h
  · rename_i lane found hphase
    cases h
    exact ⟨lane, hphase⟩
  · cases h

namespace LaneShape
variable {δ : Type} {s s' : Lanes δ} {task : SubmitTask δ} {lane : ℕ}

/-- A lane whose lock is free runs no dispatch, so that its next holder is alone. -/
theorem acquired (h : LaneShape s) (hfree : (s.objects lane).locked = false) :
    LaneShape { s with
      objects := Function.update s.objects lane { s.objects lane with locked := true } } ∧
      ∀ other ∈ s.tasks, ∀ item, other.phase ≠ .dispatching lane item := by
  have hnone : ∀ other ∈ s.tasks, ∀ item, other.phase ≠ .dispatching lane item := by
    intro other hother item hdispatching
    have hlocked := (h.running other hother lane item hdispatching).1
    rw [hfree] at hlocked
    cases hlocked
  refine ⟨⟨h.ids, h.fresh, h.current, h.owned, ?_, ?_, h.alone⟩, hnone⟩
  · intro d l hl
    rw [← h.users d l hl]
    by_cases hsame : l = lane
    · subst hsame
      simp
    · simp [Function.update_of_ne hsame]
  · intro t ht l item hdispatching
    obtain ⟨hlocked, hdevice⟩ := h.running t ht l item hdispatching
    refine ⟨?_, hdevice⟩
    have hne : l ≠ lane := by
      rintro rfl
      exact hnone t ht item hdispatching
    simpa [Function.update_of_ne hne] using hlocked

/-- The submission that runs a dispatch is the only one to run one on its lane. -/
theorem only (h : LaneShape s) (htask : task ∈ s.tasks) {item : QueueItem}
    (hphase : task.phase = .dispatching lane item) :
    ∀ other ∈ s.tasks, ∀ item', other.phase = .dispatching lane item' → other.id = task.id :=
  fun other hother item' hother' => h.alone other hother task htask lane item' item hother' hphase

/-- The future of a dispatch's caller is set, and the loop goes on. -/
theorem resolve_drain (h : LaneShape s) (hqueue : QueueShape s) (htask : task ∈ s.tasks)
    {item : QueueItem} (hphase : task.phase = .dispatching lane item) (answer : Answer δ) :
    LaneShape ((s.resolve item answer).drain task lane) := by
  have hresolved := h.resolve item answer
  have hmem : ∃ after ∈ (s.resolve item answer).tasks, after.id = task.id ∧
      after.command = task.command ∧ after.phase = task.phase := by
    refine ⟨_, KeyedList.mem_update.mpr ⟨task, htask, rfl⟩, ?_⟩
    split <;> exact ⟨rfl, rfl, rfl⟩
  obtain ⟨after, hafter, hid, hcommand, hsame⟩ := hmem
  have hdrain : (s.resolve item answer).drain task lane =
      (s.resolve item answer).drain after lane := by
    unfold Lanes.drain
    rw [hid, hcommand]
  rw [hdrain]
  have hdispatching := hsame.trans hphase
  exact hresolved.drain hqueue.ties hafter (SubmitTask.lane?_dispatching hdispatching)
    (h.running task htask lane item hphase).1 (hresolved.only hafter hdispatching)

/-- A `BaseException` takes the submission out of its lane. -/
theorem resolve_leave (h : LaneShape s) (htask : task ∈ s.tasks) {item : QueueItem}
    (hphase : task.phase = .dispatching lane item) (answer : Answer δ) :
    LaneShape (((s.resolve item answer).leave task.command.deviceId lane true).setPhase
      task.id .ended) := by
  have hresolved := h.resolve item answer
  obtain ⟨after, hafter, hid, hcommand, hsame⟩ :
      ∃ after ∈ (s.resolve item answer).tasks, after.id = task.id ∧
        after.command = task.command ∧ after.phase = task.phase := by
    refine ⟨_, KeyedList.mem_update.mpr ⟨task, htask, rfl⟩, ?_⟩
    split <;> exact ⟨rfl, rfl, rfl⟩
  have hdispatching := hsame.trans hphase
  have hleft := hresolved.leave hafter
    (SubmitTask.lane?_dispatching hdispatching) true (.inr rfl)
    fun _ => hresolved.only hafter hdispatching
  rwa [hid, hcommand] at hleft

/-- A submission that waits for its future is in no lane. -/
theorem end_awaiting (h : LaneShape s) (htask : task ∈ s.tasks)
    (hphase : task.phase = .awaiting) : LaneShape (s.setPhase task.id .ended) := by
  have hidle : task.lane? = none := by
    unfold SubmitTask.lane?
    rw [hphase]
  have hcounts (l : ℕ) : ((s.setPhase task.id .ended).tasks.filterMap SubmitTask.lane?).count l =
      (s.tasks.filterMap SubmitTask.lane?).count l := by
    have hperm := KeyedList.filterMap_update_perm h.ids htask
      (fun t => { t with phase := .ended }) SubmitTask.lane?
    rw [hidle] at hperm
    exact hperm.count_eq l
  refine ⟨?_, ?_, ?_, h.owned, ?_, ?_, ?_⟩
  · rw [Lanes.setPhase_ids]
    exact h.ids
  · intro t ht
    rcases h.mem_setPhase htask ht with rfl | ⟨hold, _⟩
    · exact h.fresh task htask
    · exact h.fresh t hold
  · intro t ht l hl
    rcases h.mem_setPhase htask ht with rfl | ⟨hold, _⟩
    · cases hl
    · exact h.current t hold l hl
  · intro d l hl
    rw [hcounts]
    exact h.users d l hl
  · intro t ht l item hdispatching
    rcases h.mem_setPhase htask ht with rfl | ⟨hold, _⟩
    · cases hdispatching
    · exact h.running t hold l item hdispatching
  · intro t ht u hu l item item' htp hup
    rcases h.mem_setPhase htask ht with rfl | ⟨htold, _⟩
    · cases htp
    · rcases h.mem_setPhase htask hu with rfl | ⟨huold, _⟩
      · cases hup
      · exact h.alone t htold u huold l item item' htp hup

theorem step (h : LaneShape s) (hqueue : QueueShape s) {e : LaneEvent δ}
    {out : List (LaneReport δ)} (hs : s.step e = some (s', out)) : LaneShape s' := by
  cases Lanes.stepped hs with
  | submit command => exact h.submit command
  | acquire task htask lane hphase hfree =>
    obtain ⟨hheld, hnone⟩ := h.acquired hfree
    refine hheld.drain hqueue.ties htask (SubmitTask.lane?_locking hphase) (by simp) ?_
    exact fun other hother item hdispatching => absurd hdispatching (hnone other hother item)
  | finish task htask lane item hphase outcome answer _ =>
    exact h.resolve_drain hqueue htask hphase answer
  | interrupt task htask lane item hphase => exact h.resolve_leave htask hphase _
  | cancelRun task htask lane item hphase => exact h.resolve_leave htask hphase _
  | cancelLock task htask lane hphase =>
    exact h.leave htask (SubmitTask.lane?_locking hphase) false (.inr rfl) nofun
  | cancelWait task htask hphase => exact h.end_awaiting htask hphase
  | ret task htask answer hphase _ => exact h.end_awaiting htask hphase
  | discard deviceId => exact (h.queue _).resolveAll _

end LaneShape

theorem lanes_invariant {δ : Type} {s : Lanes δ} (h : (lanes δ).Reachable s) :
    LaneShape s ∧ QueueShape s := by
  refine h.invariant (P := fun s => LaneShape s ∧ QueueShape s) ?_ ?_
  · rintro s rfl
    exact ⟨.initial, .initial⟩
  · intro s e s' out ⟨hshape, hqueue⟩ hstep
    exact ⟨hshape.step hqueue hstep, hqueue.step hstep⟩

/-- In every interleaving, at every moment: submissions that run commands of one device are the
same submission, and submissions for one device that hold or await a lane share the lane object,
which is the one that a new submission would find. -/
theorem device_exclusive {δ : Type} {trace : List (LaneEvent δ × List (LaneReport δ))}
    {s : Lanes δ} (hrun : (lanes δ).Run trace s) :
    (∀ task ∈ s.tasks, ∀ other ∈ s.tasks, ∀ item item', task.running? = some item →
      other.running? = some item' → item.command.deviceId = item'.command.deviceId →
        task = other) ∧
    ∀ task ∈ s.tasks, ∀ other ∈ s.tasks, ∀ lane lane', task.lane? = some lane →
      other.lane? = some lane' → task.command.deviceId = other.command.deviceId →
        lane = lane' ∧ s.lanes task.command.deviceId = some lane := by
  obtain ⟨h, _⟩ := lanes_invariant hrun.reachable
  have hsame : ∀ task ∈ s.tasks, ∀ other ∈ s.tasks, ∀ lane lane', task.lane? = some lane →
      other.lane? = some lane' → task.command.deviceId = other.command.deviceId →
        lane = lane' ∧ s.lanes task.command.deviceId = some lane := by
    intro task htask other hother lane lane' hlane hlane' hdevice
    have hcurrent := h.current task htask lane hlane
    have hcurrent' := h.current other hother lane' hlane'
    rw [← hdevice, hcurrent] at hcurrent'
    exact ⟨Option.some.inj hcurrent', hcurrent⟩
  refine ⟨?_, hsame⟩
  intro task htask other hother item item' hrunning hrunning' hdevice
  obtain ⟨lane, hphase⟩ := SubmitTask.running?_some hrunning
  obtain ⟨lane', hphase'⟩ := SubmitTask.running?_some hrunning'
  have hown := (h.running task htask lane item hphase).2
  have hown' := (h.running other hother lane' item' hphase').2
  obtain ⟨rfl, _⟩ := hsame task htask other hother lane lane'
    (SubmitTask.lane?_dispatching hphase) (SubmitTask.lane?_dispatching hphase')
    (hown.symm.trans (hdevice.trans hown'))
  exact h.eq_of_id htask hother (h.alone task htask other hother lane item item' hphase hphase')

def lessonCommand (deviceId : String) (source : Source) : DeviceCommandIntent where
  commandId := "command"
  sessionId := "lesson"
  deviceId := deviceId
  capability := "drive.velocity"
  action := "run"
  arguments := .empty
  source := source
  issuedAt := 0
  expiresAt := 10
  idempotencyKey := "key"
  safetyContext := ⟨"classroom", true, none, none⟩

/-- Two submissions for one robot: the first runs its command, the second awaits the lane. -/
theorem device_exclusive_robot : ∃ trace s, (lanes Unit).Run trace s ∧
    (s.tasks.filterMap SubmitTask.lane?).length = 2 ∧
    ∀ task ∈ s.tasks, ∀ other ∈ s.tasks, ∀ item item', task.running? = some item →
      other.running? = some item' → item.command.deviceId = item'.command.deviceId →
        task = other := by
  have hexec : ((Machine.execute (@Lanes.step Unit) (fun _ _ => True) {}
      [.submit (lessonCommand "robot" .quest), .submit (lessonCommand "robot" .instructor),
        .acquire 0]).any fun last =>
      decide ((last.1.tasks.filterMap SubmitTask.lane?).length = 2)) = true := by
    decide
  obtain ⟨last, hlast, hend⟩ := (Option.any_eq_true ..).mp hexec
  have hrun := (Machine.run_of_execute (M := lanes Unit) rfl id hlast).of_restrict
  exact ⟨_, _, hrun, of_decide_eq_true hend, (device_exclusive hrun).1⟩

end CitPhysicalXR.Runtime
