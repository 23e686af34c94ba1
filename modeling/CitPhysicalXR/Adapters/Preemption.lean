import CitPhysicalXR.Adapters.GroundShape
import CitPhysicalXR.Foundation.Execution

/-! Whether a handled stop preempts a running demonstration: that no velocity reaches the robot
after it until a motion is accepted again, and that its last motion call is a stop. -/
namespace CitPhysicalXR.Adapters
open Foundation Fabric

def ReceivePhase.handlesStop : ReceivePhase → Bool
  | .stopping (.finish handled) | .direct handled => handled
  | .moving .stop => true
  | _ => false

/-- The steps under which a stop preempts. A frame that goes to the robot past the demonstration
finds none running; a stop command is not answered from the replay cache; the stop that handles
a frame or a command reaches the robot; and the velocity call of a cancelled demonstration is
not left to a thread. -/
def Preemptible (profile : GroundProfile) (s : GroundState) : GroundEvent → Prop
  | .stopFrame => profile.stopsDirectly = true → s.demo = none
  | .command action _ replayed => replayed = true → action ≠ groundStop
  | .demoStop .receive connected => s.receive.handlesStop = true →
      profile.callsStop connected = true ∨ s.motion = some .stop
  | .finish .receive outcome _ _ _ => s.receive.handlesStop = true → outcome ≠ .swallowed
  | .cancelled call _ _ => call ≠ .detached
  | _ => True

/-- After a handled stop nothing is left that could move the robot. -/
structure HaltedSafe (s : GroundState) : Prop where
  motion : s.halted = true → s.motion = some .stop
  demo : s.halted = true → s.demo = none
  accepted : s.halted = true → s.lock = some .receive →
    ∀ forward right clockwise, s.receive ≠ .moving (.drive forward right clockwise)
  direct : s.receive = .direct true → s.demo = none
  detached : s.detached = none

namespace HaltedSafe
variable {profile : GroundProfile} {s s' : GroundState}

theorem initial : HaltedSafe {} := ⟨(by rintro ⟨⟩), (by rintro ⟨⟩), (by rintro ⟨⟩), (by rintro ⟨⟩),
  rfl⟩

/-- A step that moves neither the robot nor the tasks keeps the halt. -/
theorem of_eq (h : HaltedSafe s) (hhalted : s'.halted = s.halted) (hmotion : s'.motion = s.motion)
    (hdemo : s'.demo = s.demo) (hreceive : s'.receive = s.receive)
    (hlock : s'.lock = some .receive → s.lock = some .receive)
    (hdetached : s'.detached = s.detached) : HaltedSafe s' where
  motion hh := hmotion ▸ h.motion (hhalted ▸ hh)
  demo hh := hdemo ▸ h.demo (hhalted ▸ hh)
  accepted hh hl := by
    rw [hreceive]
    exact h.accepted (hhalted ▸ hh) (hlock hl)
  direct hr := hdemo ▸ h.direct (hreceive ▸ hr)
  detached := hdetached ▸ h.detached

/-- While a demonstration is running no stop counts as handled. -/
theorem of_demo (hdemo : s.demo ≠ none) (h : HaltedSafe s) (hhalted : s'.halted = s.halted)
    (hreceive : s'.receive = s.receive) (hdetached : s'.detached = none) : HaltedSafe s' := by
  have hrunning : ¬ s.halted = true := fun hh => hdemo (h.demo hh)
  refine ⟨fun hh => absurd (hhalted ▸ hh) hrunning, fun hh => absurd (hhalted ▸ hh) hrunning,
    fun hh => absurd (hhalted ▸ hh) hrunning, ?_, hdetached⟩
  intro hr
  exact absurd (h.direct (hreceive ▸ hr)) hdemo

theorem toReceive (h : HaltedSafe s) (hlock : s.lock ≠ some .receive) {phase : ReceivePhase}
    (hphase : phase = .direct true → s.demo = none) :
    HaltedSafe { s with receive := phase } where
  motion := h.motion
  demo := h.demo
  accepted _ hl := absurd hl hlock
  direct := hphase
  detached := h.detached

theorem proceed (h : HaltedSafe s) (hlock : s.lock ≠ some .receive) {next : AfterCancel}
    (hfinish : next = .finish true → s.motion = some .stop ∧ s.demo = none) :
    HaltedSafe (s.proceed profile next) := by
  cases next with
  | execute action parameters =>
    obtain ⟨phase, hproceed, hphase⟩ := s.proceed_execute profile action parameters
    rw [hproceed]
    refine h.toReceive hlock fun hdirect => ?_
    rcases hphase with rfl | rfl | ⟨_, _, rfl⟩ <;> cases hdirect
  | start => exact ⟨(by rintro ⟨⟩), (by rintro ⟨⟩), (by rintro ⟨⟩), (by rintro ⟨⟩), h.detached⟩
  | finish handled =>
    cases handled with
    | false =>
      have hhalted : (s.proceed profile (.finish false)).halted = s.halted := by
        simp [GroundState.proceed]
      refine ⟨fun hh => h.motion (hhalted ▸ hh), fun hh => h.demo (hhalted ▸ hh), ?_,
        (by rintro ⟨⟩),
        h.detached⟩
      exact fun _ hl => absurd hl hlock
    | true =>
      obtain ⟨hmotion, hdemo⟩ := hfinish rfl
      exact ⟨fun _ => hmotion, fun _ => hdemo, fun _ hl => absurd hl hlock, (by rintro ⟨⟩),
        h.detached⟩

theorem beginCancel (h : HaltedSafe s) (hlock : s.lock ≠ some .receive) {force : Bool}
    {next : AfterCancel} (hnext : force = false → next ≠ .finish true) :
    HaltedSafe (s.beginCancel profile force next) := by
  unfold GroundState.beginCancel
  split
  · exact ⟨h.motion, h.demo, fun _ hl => absurd hl hlock, (by rintro ⟨⟩), h.detached⟩
  · split
    · exact h.toReceive hlock (by rintro ⟨⟩)
    · rename_i hforce
      exact h.proceed hlock fun hfinish => absurd hfinish (hnext (by simpa using hforce))

theorem recover (h : HaltedSafe s) (hlock : s.lock ≠ some .receive) (recovers : Bool) :
    HaltedSafe (s.recover profile recovers) := by
  unfold GroundState.recover
  split
  · split
    · exact h.toReceive hlock (by rintro ⟨⟩)
    · exact h.beginCancel hlock (by rintro ⟨⟩)
  · exact h.toReceive hlock (by rintro ⟨⟩)

theorem abandon (h : HaltedSafe s) (hlock : s.lock ≠ some .receive) (next : AfterCancel)
    (recovers : Bool) : HaltedSafe (s.abandon profile next recovers) := by
  cases next with
  | execute action parameters => exact h.recover hlock recovers
  | start => exact h.recover hlock recovers
  | finish handled => exact h.toReceive hlock (by rintro ⟨⟩)

/-- A call that did not reach the robot, or reached it as a stop, is over. -/
theorem release (h : HaltedSafe s) {motion : Option Motion}
    (hmotion : motion = none ∨ motion = some .stop) : HaltedSafe (s.release motion) where
  motion hh := by
    rcases hmotion with rfl | rfl
    · exact h.motion hh
    · rfl
  demo := h.demo
  accepted _ hl := nomatch hl
  direct := h.direct
  detached := h.detached

theorem clearVelocity (h : HaltedSafe s) : HaltedSafe s.clearVelocity :=
  h.of_eq rfl rfl rfl rfl id rfl

private theorem stop_or_none (reached : Bool) :
    (if reached then some Motion.stop else none) = none ∨
      (if reached then some Motion.stop else none) = some Motion.stop := by
  cases reached
  · exact .inl rfl
  · exact .inr rfl

private theorem takeStopFrame (h : HaltedSafe s) (hlock : s.lock ≠ some .receive)
    (hok : profile.stopsDirectly = true → s.demo = none) :
    HaltedSafe (s.takeStopFrame profile) := by
  unfold GroundState.takeStopFrame
  split
  · exact h.toReceive hlock fun _ => hok ‹_›
  · exact h.beginCancel hlock (by rintro ⟨⟩)

private theorem takeCommand (h : HaltedSafe s) (hlock : s.lock ≠ some .receive) {action : String}
    {parameters : JsonObject} {replayed : Bool} (hok : replayed = true → action ≠ groundStop) :
    HaltedSafe (s.takeCommand profile action parameters replayed) := by
  unfold GroundState.takeCommand
  split
  · split
    · refine h.of_eq ?_ rfl rfl rfl id rfl
      simp [hok ‹_›]
    · exact h
  · split
    · split
      · exact h
      · exact h.beginCancel hlock (by simp)
    · split
      · exact h
      · split
        · exact h.beginCancel hlock (by simp)
        · exact h.proceed hlock (by rintro ⟨⟩)

/-- The receive loop after its `_demo_stop`; a stop that it handles has reached the robot. -/
private theorem afterDemoStop_receive (h : HaltedSafe s) {next : AfterCancel}
    (hreceive : s.receive = .stopping next) (hlock : s.lock ≠ some .receive)
    (hdemo : s.demo = none) (hfinish : next = .finish true → s.motion = some .stop) :
    HaltedSafe (s.afterDemoStop profile .receive) := by
  simp only [GroundState.afterDemoStop, hreceive]
  exact h.proceed hlock fun hnext => ⟨hfinish hnext, hdemo⟩

private theorem afterDemoStop_demonstration (h : HaltedSafe s) (hdemo : s.demo ≠ none) :
    HaltedSafe (s.afterDemoStop profile .demonstration) := by
  unfold GroundState.afterDemoStop
  simp only []
  split
  · exact of_demo hdemo h rfl rfl h.detached
  · exact of_demo hdemo h rfl rfl h.detached

private theorem finishDemoStop_demonstration (h : HaltedSafe s) (hdemo : s.demo ≠ none)
    {outcome : Outcome} (hs : s.finishDemoStop profile .demonstration outcome = some s') :
    HaltedSafe s' := by
  cases outcome with
  | returned =>
    cases hs
    exact ((h.release (.inr rfl)).clearVelocity).afterDemoStop_demonstration hdemo
  | raised reached recovers =>
    cases hs
    have hreleased := h.release (stop_or_none reached)
    unfold GroundState.demoStopRaised
    simp only []
    split
    · exact of_demo (s := s.release _) hdemo hreleased rfl rfl hreleased.detached
    · exact of_demo (s := s.release _) hdemo hreleased rfl rfl hreleased.detached
  | swallowed =>
    simp only [GroundState.finishDemoStop] at hs
    split at hs
    · cases hs
      exact ((h.release (.inl rfl)).clearVelocity).afterDemoStop_demonstration hdemo
    · cases hs

private theorem finishDemoStop_receive (h : HaltedSafe s) {next : AfterCancel}
    (hreceive : s.receive = .stopping next) (hdemo : s.demo = none) {outcome : Outcome}
    (hok : s.receive.handlesStop = true → outcome ≠ .swallowed)
    (hs : s.finishDemoStop profile .receive outcome = some s') : HaltedSafe s' := by
  cases outcome with
  | returned =>
    cases hs
    exact ((h.release (.inr rfl)).clearVelocity).afterDemoStop_receive hreceive (by rintro ⟨⟩) hdemo
      fun _ => rfl
  | raised reached recovers =>
    cases hs
    simp only [GroundState.demoStopRaised, GroundState.release_receive, hreceive]
    exact (h.release (stop_or_none reached)).abandon (by rintro ⟨⟩) next recovers
  | swallowed =>
    simp only [GroundState.finishDemoStop] at hs
    split at hs
    · cases hs
      refine ((h.release (.inl rfl)).clearVelocity).afterDemoStop_receive hreceive (by rintro ⟨⟩)
        hdemo ?_
      intro hnext
      rw [hreceive, hnext] at hok
      exact absurd rfl (hok rfl)
    · cases hs

/-- The receive loop is done with its call, which has not moved the robot. -/
private theorem idle (h : HaltedSafe s) (hmotion : s'.motion = s.motion ∨ s'.motion = some .stop)
    (hhalted : s'.halted = s.halted) (hdemo : s'.demo = s.demo) (hlock : s'.lock = none)
    (hreceive : s'.receive = .idle) (hdetached : s'.detached = s.detached) : HaltedSafe s' where
  motion hh := by
    rcases hmotion with hm | hm
    · rw [hm]
      exact h.motion (hhalted ▸ hh)
    · exact hm
  demo hh := hdemo ▸ h.demo (hhalted ▸ hh)
  accepted _ hl := by simp [hlock] at hl
  direct hr := by simp [hreceive] at hr
  detached := hdetached ▸ h.detached

/-- The receive loop has handled a stop that reached the robot. -/
private theorem halt (hdemo : s'.demo = none) (hmotion : s'.motion = some .stop)
    (hlock : s'.lock = none) (hreceive : s'.receive = .idle) (hdetached : s'.detached = none) :
    HaltedSafe s' where
  motion _ := hmotion
  demo _ := hdemo
  accepted _ hl := by simp [hlock] at hl
  direct hr := by simp [hreceive] at hr
  detached := hdetached

/-- A velocity call of the receive loop is over, for which the halt was lifted. -/
private theorem moved (h : HaltedSafe s) (hrunning : ¬ s.halted = true)
    (hhalted : s'.halted = s.halted) (hlock : s'.lock = none)
    (hreceive : s'.receive ≠ .direct true) (hdetached : s'.detached = s.detached) :
    HaltedSafe s' where
  motion hh := absurd (hhalted ▸ hh) hrunning
  demo hh := absurd (hhalted ▸ hh) hrunning
  accepted _ hl := by simp [hlock] at hl
  direct hr := absurd hr hreceive
  detached := hdetached ▸ h.detached

private theorem finishReceive (h : HaltedSafe s) (hshape : GroundShape s)
    (hlock : s.lock = some .receive) {outcome : Outcome} {now : ℚ} {speed : ℤ}
    (hok : s.receive.handlesStop = true → outcome ≠ .swallowed)
    (hs : s.finishReceive profile outcome now speed = some s') : HaltedSafe s' := by
  unfold GroundState.finishReceive at hs
  split at hs
  all_goals rename_i hreceive
  · exact h.finishDemoStop_receive hreceive (hshape.owns (by rw [hreceive]; rfl)).1 hok hs
  · cases hs
    exact halt (hshape.owns (by rw [hreceive]; rfl)).1 rfl rfl rfl h.detached
  · rw [hreceive] at hok
    exact absurd rfl (hok rfl)
  · cases hs
    exact (h.release (stop_or_none _)).recover (by rintro ⟨⟩) _
  · cases hs
    have hrunning : ¬ s.halted = true := fun hh => h.accepted hh hlock _ _ _ hreceive
    rw [GroundState.recordVelocity_eq]
    exact h.moved hrunning rfl rfl (by rintro ⟨⟩) rfl
  · cases hs
    have hrunning : ¬ s.halted = true := fun hh => h.accepted hh hlock _ _ _ hreceive
    have hreleased (motion : Option Motion) : HaltedSafe (s.release motion) :=
      h.moved hrunning rfl rfl (by simp [hreceive]) rfl
    exact (hreleased _).recover (by rintro ⟨⟩) _
  · cases hs
    exact ⟨fun _ => rfl, h.demo, fun _ _ => by simp, (by rintro ⟨⟩), h.detached⟩
  · cases hs
    exact (h.release (stop_or_none _)).recover (by rintro ⟨⟩) _
  · cases hs
    exact h.idle (.inl rfl) rfl rfl rfl rfl rfl
  · cases hs
    exact (h.release (.inl rfl)).recover (by rintro ⟨⟩) _
  · cases hs
    exact h.idle (.inl rfl) rfl rfl rfl rfl rfl
  · cases hs
    exact (h.release (.inl rfl)).recover (by rintro ⟨⟩) _
  · rename_i handled
    cases hs
    cases handled with
    | true => exact halt (h.direct hreceive) rfl rfl rfl h.detached
    | false => exact h.idle (.inr rfl) (by simp) rfl rfl rfl rfl
  · rename_i handled
    split at hs
    · cases hs
      cases handled with
      | true =>
        rw [hreceive] at hok
        exact absurd rfl (hok rfl)
      | false => exact h.idle (.inl rfl) (by simp) rfl rfl rfl rfl
    · cases hs
  · cases hs
    exact (h.release (stop_or_none _)).idle (.inl rfl) rfl rfl rfl rfl rfl
  · cases hs

private theorem finishDemonstration (h : HaltedSafe s) {outcome : Outcome} {now : ℚ} {speed : ℤ}
    {last : Bool} (hs : s.finishDemonstration profile outcome now speed last = some s') :
    HaltedSafe s' := by
  unfold GroundState.finishDemonstration at hs
  split at hs
  all_goals rename_i hdemo
  · obtain ⟨command, _, rfl⟩ := Option.map_eq_some_iff.mp hs
    rw [GroundState.recordVelocity_eq]
    exact of_demo (by simp [hdemo]) h rfl rfl h.detached
  · obtain ⟨command, _, rfl⟩ := Option.map_eq_some_iff.mp hs
    exact of_demo (by simp [hdemo]) h rfl rfl h.detached
  · exact h.finishDemoStop_demonstration (by simp [hdemo]) hs
  · exact h.finishDemoStop_demonstration (by simp [hdemo]) hs
  · cases hs

private theorem finishTick (h : HaltedSafe s) {outcome : Outcome}
    (hs : s.finishTick outcome = some s') : HaltedSafe s' := by
  cases outcome with
  | returned =>
    cases hs
    exact (h.release (.inr rfl)).of_eq rfl rfl rfl rfl id rfl
  | raised reached recovers =>
    cases hs
    exact (h.release (stop_or_none reached)).of_eq rfl rfl rfl rfl id rfl
  | swallowed => cases hs

private theorem finishCall (h : HaltedSafe s) (hshape : GroundShape s) {task : Task}
    {outcome : Outcome} {now : ℚ} {speed : ℤ} {last : Bool}
    (hok : Preemptible profile s (.finish task outcome now speed last))
    (hs : s.finishCall profile task outcome now speed last = some s') : HaltedSafe s' := by
  unfold GroundState.finishCall at hs
  split at hs
  · rename_i hlock
    cases task with
    | receive => exact h.finishReceive hshape hlock hok hs
    | demonstration =>
      simp only at hs
      split at hs
      · cases hs
      · exact h.finishDemonstration hs
    | tick => exact h.finishTick hs
  · cases hs

/-- A step of another task than the receive loop's, to its call or its stop. -/
private theorem ofLock (h : HaltedSafe s) {task : Task} (hother : task ≠ .receive) :
    HaltedSafe { s with lock := some task } where
  motion := h.motion
  demo := h.demo
  accepted _ hl := absurd (Option.some.inj hl) hother
  direct := h.direct
  detached := h.detached

private theorem takeLock (h : HaltedSafe s) (task : Task) : HaltedSafe (s.takeLock task) where
  motion hh := h.motion (by simp [GroundState.takeLock] at hh; exact hh.1)
  demo hh := h.demo (by simp [GroundState.takeLock] at hh; exact hh.1)
  accepted hh hl forward right clockwise hreceive := by
    obtain rfl : task = .receive := by simpa [GroundState.takeLock] using hl
    have hmoving : s.receive = .moving (.drive forward right clockwise) := hreceive
    simp [GroundState.takeLock, hmoving] at hh
  direct := h.direct
  detached := h.detached

/-- `_demo_stop` of the receive loop: its call begins, or there is no robot to call. -/
private theorem demoStop_receive (profile : GroundProfile) (h : HaltedSafe s) {next : AfterCancel}
    (hreceive : s.receive = .stopping next) (hdemo : s.demo = none) (hlock : s.lock = none)
    {connected : Bool} (hok : Preemptible profile s (.demoStop .receive connected)) :
    HaltedSafe (if profile.callsStop connected then { s with lock := some Task.receive }
      else s.clearVelocity.afterDemoStop profile .receive) := by
  split
  · refine ⟨h.motion, h.demo, fun _ _ _ _ _ hr => ?_, h.direct, h.detached⟩
    have hr : s.receive = _ := hr
    rw [hreceive] at hr
    cases hr
  · rename_i hcalls
    refine h.clearVelocity.afterDemoStop_receive hreceive (by simp [hlock]) hdemo ?_
    intro hnext
    rcases hok (by rw [hreceive, hnext]; rfl) with hyes | hmotion
    · exact absurd hyes hcalls
    · exact hmotion

private theorem demoStop (h : HaltedSafe s) (hshape : GroundShape s) {task : Task}
    {connected : Bool} (hok : Preemptible profile s (.demoStop task connected))
    (hs : s.step profile (.demoStop task connected) = some s') : HaltedSafe s' := by
  simp only [GroundState.step] at hs
  split at hs
  · rename_i hwants
    obtain ⟨hlock, hwants⟩ := hwants
    cases task with
    | receive =>
      obtain ⟨next, hreceive⟩ : ∃ next, s.receive = .stopping next := by
        simp only [GroundState.wantsStop] at hwants
        cases hreceive : s.receive with
        | stopping next => exact ⟨next, rfl⟩
        | _ => simp [hreceive] at hwants
      have hdemo := (hshape.owns (by rw [hreceive]; rfl)).1
      have hnext := h.demoStop_receive profile hreceive hdemo hlock hok
      split at hs <;> rename_i hcalls <;> cases hs
      · simpa only [if_pos hcalls] using hnext
      · simpa only [if_neg hcalls] using hnext
    | demonstration =>
      have hdemo : s.demo ≠ none := by
        intro hnone
        simp [GroundState.wantsStop, hnone] at hwants
      split at hs
      · cases hs
        exact h.ofLock (by rintro ⟨⟩)
      · cases hs
        exact h.clearVelocity.afterDemoStop_demonstration hdemo
    | tick => simp [GroundState.wantsStop] at hwants
  · cases hs

/-- Every allowed step keeps the halt safe. -/
theorem step (h : HaltedSafe s) (hshape : GroundShape s) {e : GroundEvent}
    (hok : Preemptible profile s e) (hs : s.step profile e = some s') : HaltedSafe s' := by
  have hfree (hidle : s.receive = .idle) : s.lock ≠ some .receive := by
    intro hl
    simpa [hidle, ReceivePhase.calls] using hshape.lock hl
  cases e with
  | stopFrame =>
    simp only [GroundState.step] at hs
    split at hs
    · cases hs
      exact h.takeStopFrame (hfree (by simpa using ‹_›)) hok
    · cases hs
  | command action parameters replayed =>
    simp only [GroundState.step] at hs
    split at hs
    · cases hs
      exact h.takeCommand (hfree (by simpa using ‹_›)) hok
    · cases hs
  | joined =>
    simp only [GroundState.step] at hs
    split at hs
    · rename_i next hreceive hdemo
      cases hs
      refine h.toReceive ?_ (by rintro ⟨⟩)
      intro hl
      simpa [hreceive, ReceivePhase.calls] using hshape.lock hl
    · cases hs
  | call task =>
    simp only [GroundState.step] at hs
    split at hs
    · cases hs
      exact h.takeLock task
    · cases hs
  | demoStop task connected => exact h.demoStop hshape hok hs
  | finish task outcome now speed last => exact h.finishCall hshape hok hs
  | wake =>
    simp only [GroundState.step, GroundState.wakeDemonstration] at hs
    split at hs
    · cases hs
    · split at hs
      all_goals rename_i hdemo
      · cases hs
        exact of_demo (by simp [hdemo]) h rfl rfl h.detached
      · cases hs
        exact of_demo (by simp [hdemo]) h rfl rfl h.detached
      · cases hs
        exact of_demo (by simp [hdemo]) h rfl rfl h.detached
      · cases hs
  | cancelled call now speed =>
    simp only [GroundState.step, GroundState.cancelDemonstration] at hs
    split at hs
    · rename_i phase _ hdemo
      cases hs
      have hcall : (s.cancelCall profile call now speed).detached = none ∧
          (s.cancelCall profile call now speed).halted = s.halted := by
        unfold GroundState.cancelCall
        split
        · exact ⟨h.detached, rfl⟩
        · split
          · exact ⟨h.detached, rfl⟩
          · exact ⟨h.detached, rfl⟩
          · exact absurd rfl hok
          · exact ⟨h.detached, rfl⟩
          · exact absurd rfl hok
      have hreceive := (s.cancelCall_eq profile call now speed).1
      exact of_demo (by simp [hdemo]) h hcall.2 hreceive hcall.1
    · cases hs
  | landed now =>
    obtain ⟨command, hdetached, rfl⟩ := Option.map_eq_some_iff.mp hs
    rw [h.detached] at hdetached
    cases hdetached
  | tick now =>
    simp only [GroundState.step, GroundState.deadmanTick] at hs
    split at hs
    · cases hs
    · cases hs
      exact h.of_eq rfl rfl rfl rfl id rfl

end HaltedSafe

inductive GroundBridge where
  | wonder (model : WonderRobotModel)
  | sphero
  | roboMaster

def GroundBridge.profile : GroundBridge → GroundProfile
  | .wonder model => wonderProfile model
  | .sphero => spheroProfile
  | .roboMaster => roboMasterProfile

/-- The robot in the runs whose steps let a stop preempt. -/
def preemptibleRobot (profile : GroundProfile) : Machine GroundState GroundEvent Unit :=
  (groundRobot profile).restrict (Preemptible profile)

theorem preemptible_invariant {profile : GroundProfile} {s : GroundState}
    (h : (preemptibleRobot profile).Reachable s) : GroundShape s ∧ HaltedSafe s := by
  refine h.invariant (P := fun s => GroundShape s ∧ HaltedSafe s) ?_ ?_
  · rintro s rfl
    exact ⟨.initial, .initial⟩
  · intro s e s' out ⟨hshape, hsafe⟩ ⟨hok, hs, _⟩
    exact ⟨hshape.step hs, hsafe.step hshape hok hs⟩

/-- In every run of a ground robot whose steps let a stop preempt, from a handled stop on until
a motion is accepted: the last motion call that reached the robot is a stop, and no
demonstration is left, nor a call in a thread, that could still drive it. -/
theorem stop_preempts (bridge : GroundBridge) {trace : List (GroundEvent × List Unit)}
    {s : GroundState} (hrun : (preemptibleRobot bridge.profile).Run trace s)
    (hhalted : s.halted = true) :
    s.motion = some .stop ∧ s.demo = none ∧ s.detached = none := by
  have hsafe := (preemptible_invariant hrun.reachable).2
  exact ⟨hsafe.motion hhalted, hsafe.demo hhalted, hsafe.detached⟩

/-- The robot after a list of events that each meet a condition. -/
def GroundState.exec (profile : GroundProfile) (ok : GroundState → GroundEvent → Prop)
    [∀ s, DecidablePred (ok s)] (events : List GroundEvent) :
    Option (GroundState × List (GroundEvent × List Unit)) :=
  Machine.execute (fun s e => (s.step profile e).map fun s' => (s', [])) ok {} events

theorem GroundState.exec_run {profile : GroundProfile} {ok : GroundState → GroundEvent → Prop}
    [∀ s, DecidablePred (ok s)] {events : List GroundEvent}
    {last : GroundState × List (GroundEvent × List Unit)}
    (h : GroundState.exec profile ok events = some last) :
    ((groundRobot profile).restrict ok).Run last.2 last.1 := by
  refine Machine.run_of_execute (M := groundRobot profile) rfl ?_ h
  intro s e next hnext
  obtain ⟨s', hs, rfl⟩ := Option.map_eq_some_iff.mp hnext
  exact ⟨hs, rfl⟩

instance (profile : GroundProfile) (s : GroundState) : DecidablePred (Preemptible profile s)
  | .stopFrame => inferInstanceAs (Decidable (_ → _))
  | .command _ _ _ => inferInstanceAs (Decidable (_ → _))
  | .demoStop .receive _ => inferInstanceAs (Decidable (_ → _))
  | .finish .receive _ _ _ _ => inferInstanceAs (Decidable (_ → _))
  | .cancelled _ _ _ => inferInstanceAs (Decidable (_ ≠ _))
  | .demoStop .demonstration _ | .demoStop .tick _ | .finish .demonstration _ _ _ _
  | .finish .tick _ _ _ _ | .joined | .call _ | .wake | .landed _ | .tick _ =>
    inferInstanceAs (Decidable True)

private def tenCentimetres : JsonObject :=
  ⟨[("distanceMeters", .float (.finite (1 / 10)))], by simp⟩

private def firstPulse : List GroundEvent :=
  [GroundEvent.command groundDemonstration tenCentimetres false, .wake, .call .demonstration,
    .finish .demonstration .returned 0 0 false]

/-- The stop frame of a RoboMaster is handled, and the next pulse drives the robot on. -/
theorem stop_undone : ∃ trace s, (groundRobot roboMasterProfile).Run trace s ∧
    s.halted = true ∧ s.motion ≠ some .stop := by
  have hexec : ((GroundState.exec roboMasterProfile (fun _ _ => True) (firstPulse ++
      [GroundEvent.stopFrame, .call .receive, .finish .receive .returned 1 0 false,
        .wake, .call .demonstration, .finish .demonstration .returned 2 0 false])).any fun last =>
      last.1.halted && decide (last.1.motion ≠ some .stop)) = true := by decide +kernel
  obtain ⟨last, hlast, hend⟩ := (Option.any_eq_true ..).mp hexec
  refine ⟨_, _, (GroundState.exec_run hlast).of_restrict, ?_⟩
  simpa using hend

/-- A Sphero BOLT cancels the demonstration and stops. -/
theorem stop_preempts_sphero : ∃ trace s,
    (preemptibleRobot GroundBridge.sphero.profile).Run trace s ∧
      s.motion = some .stop ∧ s.demo = none ∧ s.detached = none := by
  have hexec : ((GroundState.exec spheroProfile (Preemptible spheroProfile) (firstPulse ++
      [GroundEvent.stopFrame, .cancelled .dropped 1 0, .demoStop .demonstration true,
        .finish .demonstration .returned 1 0 false, .joined, .demoStop .receive true,
        .finish .receive .returned 1 0 false])).any fun last => last.1.halted) = true := by
    decide +kernel
  obtain ⟨last, hlast, hhalted⟩ := (Option.any_eq_true ..).mp hexec
  have hrun := GroundState.exec_run hlast
  exact ⟨_, _, hrun, stop_preempts .sphero hrun hhalted⟩

end CitPhysicalXR.Adapters
