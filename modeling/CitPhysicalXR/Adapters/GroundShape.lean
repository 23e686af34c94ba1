import CitPhysicalXR.Adapters.GroundRobot

/-! How the three tasks of a ground robot exclude each other: while the receive loop moves the
robot no demonstration is running, and the lock is held by a task that is in a call. -/
namespace CitPhysicalXR.Adapters
open Foundation Fabric

namespace ReceivePhase

/-- The receive loop moves the robot, which no demonstration may do meanwhile. -/
def owns : ReceivePhase → Bool
  | .stopping _ | .moving _ | .aiming => true
  | .idle | .joining _ | .quiet | .direct _ => false

/-- The receive loop is in a call of the transport, or before one. -/
def calls : ReceivePhase → Bool
  | .stopping _ | .moving _ | .aiming | .quiet | .direct _ => true
  | .idle | .joining _ => false

end ReceivePhase

/-- A command goes on to nothing, to a call that does not move the robot, or, if it supersedes
a demonstration, to a motion. -/
theorem GroundState.proceed_execute (profile : GroundProfile) (s : GroundState) (action : String)
    (parameters : JsonObject) :
    ∃ phase, s.proceed profile (.execute action parameters) = { s with receive := phase } ∧
      (phase = .idle ∨ phase = .quiet ∨
        action ∈ profile.supersedes ∧ ∃ motion, phase = .moving motion) := by
  simp only [GroundState.proceed]
  cases hplan : profile.plan action parameters with
  | error _ => exact ⟨.idle, rfl, .inl rfl⟩
  | ok call =>
    cases hmotion : call.motion? with
    | none => exact ⟨.quiet, by simp [hmotion], .inr (.inl rfl)⟩
    | some motion =>
      refine ⟨.moving motion, by simp [hmotion], .inr (.inr ⟨?_, motion, rfl⟩)⟩
      by_contra haction
      rw [profile.quiet action parameters call haction hplan] at hmotion
      cases hmotion

/-- The exclusion of the tasks. -/
structure GroundShape (s : GroundState) : Prop where
  /-- Only the receive loop that joins it knows a demonstration that is not registered. -/
  alive : s.demo ≠ none → s.registered = true ∨ ∃ next, s.receive = .joining next
  joining : ∀ next, s.receive = .joining next → s.registered = false
  owns : s.receive.owns = true → s.demo = none ∧ s.registered = false
  lock : s.lock = some .receive → s.receive.calls = true

namespace GroundShape
variable {profile : GroundProfile} {s : GroundState}

theorem initial : GroundShape {} where
  alive h := absurd rfl h
  joining _ h := by cases h
  owns h := by cases h
  lock h := by cases h

/-- The receive loop may go on with any motion when no demonstration is left. -/
theorem proceed (hdemo : s.demo = none) (hregistered : s.registered = false)
    (hlock : s.lock ≠ some .receive) (next : AfterCancel) :
    GroundShape (s.proceed profile next) := by
  cases next with
  | execute action parameters =>
    obtain ⟨phase, hproceed, hphase⟩ := s.proceed_execute profile action parameters
    rw [hproceed]
    refine ⟨fun h => absurd hdemo h, ?_, fun _ => ⟨hdemo, hregistered⟩, fun h => absurd h hlock⟩
    rintro next hr
    rcases hphase with rfl | rfl | ⟨_, motion, rfl⟩ <;> cases hr
  | start =>
    exact ⟨fun _ => .inl rfl, nofun, nofun,
      fun h => absurd h hlock⟩
  | finish handled =>
    exact ⟨fun h => absurd hdemo h, nofun, nofun,
      fun h => absurd h hlock⟩

/-- A state whose receive loop is not in a motion and does not join. -/
theorem settled (halive : s.demo ≠ none → s.registered = true)
    (hjoining : ∀ next, s.receive ≠ .joining next) (howns : s.receive.owns = false)
    (hlock : s.lock ≠ some .receive) : GroundShape s where
  alive hdemo := .inl (halive hdemo)
  joining next hr := absurd hr (hjoining next)
  owns h := by simp [howns] at h
  lock h := absurd h hlock

theorem beginCancel (halive : s.demo ≠ none → s.registered = true)
    (hlock : s.lock ≠ some .receive) (force : Bool) (next : AfterCancel) :
    GroundShape (s.beginCancel profile force next) := by
  unfold GroundState.beginCancel
  split
  · exact ⟨fun _ => .inr ⟨next, rfl⟩, fun _ _ => rfl, nofun,
      fun h => absurd h hlock⟩
  · rename_i hregistered
    have hregistered : s.registered = false := by simpa using hregistered
    have hdemo : s.demo = none := by
      by_contra hdemo
      simp [halive hdemo] at hregistered
    split
    · exact ⟨fun h => absurd hdemo h, nofun, fun _ => ⟨hdemo, hregistered⟩,
        fun h => absurd h hlock⟩
    · exact proceed hdemo hregistered hlock next

theorem recover (halive : s.demo ≠ none → s.registered = true)
    (hlock : s.lock ≠ some .receive) (recovers : Bool) :
    GroundShape (s.recover profile recovers) := by
  unfold GroundState.recover
  split
  · split
    · exact settled halive nofun rfl hlock
    · exact beginCancel halive hlock true _
  · exact settled halive nofun rfl hlock

theorem abandon (halive : s.demo ≠ none → s.registered = true)
    (hlock : s.lock ≠ some .receive) (next : AfterCancel) (recovers : Bool) :
    GroundShape (s.abandon profile next recovers) := by
  cases next with
  | execute action parameters => exact recover halive hlock recovers
  | start => exact recover halive hlock recovers
  | finish handled => exact settled halive nofun rfl hlock

/-- The tasks see the same exclusion when only the robot and the record of its velocity change. -/
theorem of_eq {s' : GroundState} (h : GroundShape s) (hregistered : s'.registered = s.registered)
    (hdemo : s'.demo = s.demo) (hreceive : s'.receive = s.receive)
    (hlock : s'.lock = some .receive → s.lock = some .receive ∨ s.receive.calls = true) :
    GroundShape s' where
  alive hd := by
    rw [hregistered, hreceive]
    exact h.alive (hdemo ▸ hd)
  joining next hr := by
    rw [hregistered]
    exact h.joining next (hreceive ▸ hr)
  owns ho := by
    rw [hdemo, hregistered]
    exact h.owns (hreceive ▸ ho)
  lock hl := by
    rw [hreceive]
    rcases hlock hl with hold | hcalls
    · exact h.lock hold
    · exact hcalls

/-- A step of the demonstration that leaves it running, or ends and unregisters it. -/
theorem of_demonstration {s' : GroundState} (h : GroundShape s) (hdemo : s.demo ≠ none)
    (hreceive : s'.receive = s.receive)
    (hregistered : s'.registered = s.registered ∨ s'.registered = false ∧ s'.demo = none)
    (hlock : s'.lock = some .receive → s.lock = some .receive) : GroundShape s' where
  alive hd := by
    rcases hregistered with hr | ⟨_, hnone⟩
    · rw [hr, hreceive]
      exact h.alive hdemo
    · exact absurd hnone hd
  joining next hr := by
    rcases hregistered with hregistered | ⟨hregistered, _⟩
    · rw [hregistered]
      exact h.joining next (hreceive ▸ hr)
    · exact hregistered
  owns ho := absurd (h.owns (hreceive ▸ ho)).1 hdemo
  lock hl := by
    rw [hreceive]
    exact h.lock (hlock hl)

end GroundShape

namespace GroundState
variable (profile : GroundProfile) (s : GroundState)

@[simp] theorem clearVelocity_receive : s.clearVelocity.receive = s.receive := rfl
@[simp] theorem clearVelocity_demo : s.clearVelocity.demo = s.demo := rfl
@[simp] theorem clearVelocity_registered : s.clearVelocity.registered = s.registered := rfl
@[simp] theorem clearVelocity_lock : s.clearVelocity.lock = s.lock := rfl
@[simp] theorem clearVelocity_motion : s.clearVelocity.motion = s.motion := rfl
@[simp] theorem clearVelocity_halted : s.clearVelocity.halted = s.halted := rfl
@[simp] theorem clearVelocity_detached : s.clearVelocity.detached = s.detached := rfl

@[simp] theorem release_receive (motion : Option Motion) :
    (s.release motion).receive = s.receive := rfl
@[simp] theorem release_demo (motion : Option Motion) : (s.release motion).demo = s.demo := rfl
@[simp] theorem release_registered (motion : Option Motion) :
    (s.release motion).registered = s.registered := rfl
@[simp] theorem release_lock (motion : Option Motion) : (s.release motion).lock = none := rfl
@[simp] theorem release_motion (motion : Option Motion) :
    (s.release motion).motion = motion.or s.motion := rfl
@[simp] theorem release_halted (motion : Option Motion) :
    (s.release motion).halted = s.halted := rfl
@[simp] theorem release_detached (motion : Option Motion) :
    (s.release motion).detached = s.detached := rfl

theorem recordVelocity_eq (command : DriveCommand) (now : ℚ) :
    s.recordVelocity profile command now = { s with
      velocityActive := (s.recordVelocity profile command now).velocityActive
      lastVelocityAt := (s.recordVelocity profile command now).lastVelocityAt } := by
  unfold recordVelocity
  split <;> rfl

theorem cancelCall_eq (call : CancelledCall) (now : ℚ) (speed : ℤ) :
    (s.cancelCall profile call now speed).receive = s.receive ∧
      (s.cancelCall profile call now speed).registered = s.registered ∧
      ((s.cancelCall profile call now speed).lock = s.lock ∨
        (s.cancelCall profile call now speed).lock = none) := by
  unfold cancelCall
  split
  · exact ⟨rfl, rfl, .inl rfl⟩
  · split <;> exact ⟨rfl, rfl, .inr rfl⟩

end GroundState

namespace GroundShape
variable {profile : GroundProfile} {s s' : GroundState}

/-- A receive loop that is about to move, or to call, has no demonstration behind it that is
not registered. -/
theorem registered_of_not_joining (h : GroundShape s)
    (hjoining : ∀ next, s.receive ≠ .joining next) : s.demo ≠ none → s.registered = true := by
  intro hdemo
  rcases h.alive hdemo with hr | ⟨next, hr⟩
  · exact hr
  · exact absurd hr (hjoining next)

private theorem takeStopFrame (h : GroundShape s) (hidle : s.receive = .idle) :
    GroundShape (s.takeStopFrame profile) := by
  have halive := h.registered_of_not_joining (by simp [hidle])
  have hlock : s.lock ≠ some .receive := fun hl => by simpa [hidle, ReceivePhase.calls] using h.lock hl
  unfold GroundState.takeStopFrame
  split
  · exact settled halive nofun rfl hlock
  · exact beginCancel halive hlock true _

/-- A command that does not supersede a demonstration does not move the robot. -/
private theorem proceed_quiet (h : GroundShape s) (hidle : s.receive = .idle) {action : String}
    (haction : action ∉ profile.supersedes) (parameters : JsonObject) :
    GroundShape (s.proceed profile (.execute action parameters)) := by
  have halive := h.registered_of_not_joining (by simp [hidle])
  have hlock : s.lock ≠ some .receive := fun hl => by simpa [hidle, ReceivePhase.calls] using h.lock hl
  obtain ⟨phase, hproceed, hphase⟩ := s.proceed_execute profile action parameters
  rw [hproceed]
  rcases hphase with rfl | rfl | ⟨hmoves, _⟩
  · exact settled halive nofun rfl hlock
  · exact settled halive nofun rfl hlock
  · exact absurd hmoves haction

private theorem takeCommand (h : GroundShape s) (hidle : s.receive = .idle) (action : String)
    (parameters : JsonObject) (replayed : Bool) :
    GroundShape (s.takeCommand profile action parameters replayed) := by
  have halive := h.registered_of_not_joining (by simp [hidle])
  have hlock : s.lock ≠ some .receive := fun hl => by simpa [hidle, ReceivePhase.calls] using h.lock hl
  unfold GroundState.takeCommand
  split
  · split
    · exact h.of_eq rfl rfl rfl .inl
    · exact h
  · split
    · split
      · exact h
      · exact beginCancel halive hlock false _
    · split
      · exact h
      · split
        · exact beginCancel halive hlock false _
        · exact proceed_quiet h hidle ‹_› parameters

/-- The receive loop after its `_demo_stop`, in a state that released the lock. -/
private theorem afterDemoStop_receive (hnext : ∃ next, s.receive = .stopping next)
    (hdemo : s.demo = none) (hregistered : s.registered = false) (hlock : s.lock ≠ some .receive) :
    GroundShape (s.afterDemoStop profile .receive) := by
  obtain ⟨next, hreceive⟩ := hnext
  simp only [GroundState.afterDemoStop, hreceive]
  exact proceed hdemo hregistered hlock next

private theorem demoStopRaised_receive (hnext : ∃ next, s.receive = .stopping next)
    (hdemo : s.demo = none) (hlock : s.lock ≠ some .receive) (recovers : Bool) :
    GroundShape (s.demoStopRaised profile .receive recovers) := by
  obtain ⟨next, hreceive⟩ := hnext
  simp only [GroundState.demoStopRaised, hreceive]
  exact abandon (fun h => absurd hdemo h) hlock next recovers

/-- The demonstration after its `_demo_stop` is pausing, or it is done. -/
private theorem afterDemoStop_demonstration (h : GroundShape s) (hdemo : s.demo ≠ none)
    (hlock : s.lock ≠ some .receive) : GroundShape (s.afterDemoStop profile .demonstration) := by
  unfold GroundState.afterDemoStop
  simp only []
  split
  · exact h.of_demonstration hdemo rfl (.inl rfl) fun hl => absurd hl hlock
  · exact h.of_demonstration hdemo rfl (.inr ⟨rfl, rfl⟩) fun hl => absurd hl hlock

private theorem demoStopRaised_demonstration (h : GroundShape s) (hdemo : s.demo ≠ none)
    (hlock : s.lock ≠ some .receive) (recovers : Bool) :
    GroundShape (s.demoStopRaised profile .demonstration recovers) := by
  unfold GroundState.demoStopRaised
  simp only []
  split
  · exact h.of_demonstration hdemo rfl (.inl rfl) fun hl => absurd hl hlock
  · exact h.of_demonstration hdemo rfl (.inr ⟨rfl, rfl⟩) fun hl => absurd hl hlock

/-- A call ends: the lock is free, and the tasks stand where they stood. -/
private theorem release (h : GroundShape s) (motion : Option Motion) :
    GroundShape (s.release motion) :=
  h.of_eq rfl rfl rfl fun hl => nomatch hl

private theorem clearVelocity (h : GroundShape s) : GroundShape s.clearVelocity :=
  h.of_eq rfl rfl rfl .inl

private theorem finishDemoStop_receive (h : GroundShape s)
    (hnext : ∃ next, s.receive = .stopping next) {outcome : Outcome}
    (hs : s.finishDemoStop profile .receive outcome = some s') : GroundShape s' := by
  obtain ⟨hdemo, hregistered⟩ := h.owns (by
    obtain ⟨next, hreceive⟩ := hnext
    rw [hreceive]
    rfl)
  cases outcome with
  | returned =>
    cases hs
    exact afterDemoStop_receive hnext hdemo hregistered nofun
  | raised reached recovers =>
    cases hs
    exact demoStopRaised_receive (s := s.release _) hnext hdemo nofun recovers
  | swallowed =>
    simp only [GroundState.finishDemoStop] at hs
    split at hs
    · cases hs
      exact afterDemoStop_receive hnext hdemo hregistered nofun
    · cases hs

private theorem finishDemoStop_demonstration (h : GroundShape s) (hdemo : s.demo ≠ none)
    {outcome : Outcome} (hs : s.finishDemoStop profile .demonstration outcome = some s') :
    GroundShape s' := by
  cases outcome with
  | returned =>
    cases hs
    exact afterDemoStop_demonstration (h.release _).clearVelocity hdemo nofun
  | raised reached recovers =>
    cases hs
    exact demoStopRaised_demonstration (h.release _) hdemo nofun recovers
  | swallowed =>
    simp only [GroundState.finishDemoStop] at hs
    split at hs
    · cases hs
      exact afterDemoStop_demonstration (h.release _).clearVelocity hdemo nofun
    · cases hs

private theorem finishReceive (h : GroundShape s) {outcome : Outcome} {now : ℚ} {speed : ℤ}
    (hs : s.finishReceive profile outcome now speed = some s') : GroundShape s' := by
  have hlast (hjoining : ∀ next, s.receive ≠ .joining next) (motion : Option Motion)
      (recovers : Bool) : GroundShape ((s.release motion).recover profile recovers) :=
    recover (s := s.release motion) (h.registered_of_not_joining hjoining) nofun recovers
  have hidle {t : GroundState} (hjoining : ∀ next, s.receive ≠ .joining next)
      (hdemo : t.demo = s.demo) (hregistered : t.registered = s.registered)
      (hlock : t.lock = none) (hreceive : t.receive = .idle) : GroundShape t := by
    have halive := h.registered_of_not_joining hjoining
    rw [← hdemo, ← hregistered] at halive
    exact settled halive (by simp [hreceive]) (by rw [hreceive]; rfl) (by simp [hlock])
  unfold GroundState.finishReceive at hs
  split at hs
  all_goals rename_i hreceive
  · exact h.finishDemoStop_receive ⟨_, hreceive⟩ hs
  · cases hs
    exact hidle (by simp [hreceive]) rfl rfl rfl rfl
  · split at hs
    · cases hs
      exact hidle (by simp [hreceive]) rfl rfl rfl rfl
    · cases hs
  · cases hs
    exact hlast (by simp [hreceive]) _ _
  · cases hs
    rw [GroundState.recordVelocity_eq]
    exact hidle (by simp [hreceive]) rfl rfl rfl rfl
  · cases hs
    exact hlast (by simp [hreceive]) _ _
  · cases hs
    obtain ⟨hdemo, hregistered⟩ := h.owns (by rw [hreceive]; rfl)
    exact ⟨fun hd => absurd hdemo hd, nofun, fun _ => ⟨hdemo, hregistered⟩, fun _ => rfl⟩
  · cases hs
    exact hlast (by simp [hreceive]) _ _
  · cases hs
    exact hidle (by simp [hreceive]) rfl rfl rfl rfl
  · cases hs
    exact hlast (by simp [hreceive]) _ _
  · cases hs
    exact hidle (by simp [hreceive]) rfl rfl rfl rfl
  · cases hs
    exact hlast (by simp [hreceive]) _ _
  · cases hs
    exact hidle (by simp [hreceive]) rfl rfl rfl rfl
  · split at hs
    · cases hs
      exact hidle (by simp [hreceive]) rfl rfl rfl rfl
    · cases hs
  · cases hs
    exact hidle (by simp [hreceive]) rfl rfl rfl rfl
  · cases hs

private theorem finishDemonstration (h : GroundShape s) {outcome : Outcome} {now : ℚ} {speed : ℤ}
    {last : Bool} (hs : s.finishDemonstration profile outcome now speed last = some s') :
    GroundShape s' := by
  unfold GroundState.finishDemonstration at hs
  split at hs
  all_goals rename_i hdemo
  · obtain ⟨command, _, rfl⟩ := Option.map_eq_some_iff.mp hs
    rw [GroundState.recordVelocity_eq]
    exact h.of_demonstration (by simp [hdemo]) rfl (.inl rfl) nofun
  · obtain ⟨command, _, rfl⟩ := Option.map_eq_some_iff.mp hs
    exact h.of_demonstration (by simp [hdemo]) rfl (.inl rfl) nofun
  · exact h.finishDemoStop_demonstration (by simp [hdemo]) hs
  · exact h.finishDemoStop_demonstration (by simp [hdemo]) hs
  · cases hs

private theorem finishTick (h : GroundShape s) {outcome : Outcome}
    (hs : s.finishTick outcome = some s') : GroundShape s' := by
  cases outcome with
  | returned =>
    cases hs
    exact h.of_eq rfl rfl rfl nofun
  | raised reached recovers =>
    cases hs
    exact h.of_eq rfl rfl rfl nofun
  | swallowed => cases hs

private theorem finishCall (h : GroundShape s) {task : Task} {outcome : Outcome} {now : ℚ}
    {speed : ℤ} {last : Bool} (hs : s.finishCall profile task outcome now speed last = some s') :
    GroundShape s' := by
  unfold GroundState.finishCall at hs
  split at hs
  · cases task with
    | receive => exact h.finishReceive hs
    | demonstration =>
      simp only at hs
      split at hs
      · cases hs
      · exact h.finishDemonstration hs
    | tick => exact h.finishTick hs
  · cases hs

private theorem demoStop (h : GroundShape s) {task : Task} {connected : Bool}
    (hs : s.step profile (.demoStop task connected) = some s') : GroundShape s' := by
  unfold GroundState.step at hs
  simp only at hs
  split at hs
  · rename_i hwants
    obtain ⟨hlock, hwants⟩ := hwants
    have hfree : s.lock ≠ some .receive := by simp [hlock]
    cases task with
    | receive =>
      have hnext : ∃ next, s.receive = .stopping next := by
        simp only [GroundState.wantsStop] at hwants
        cases hreceive : s.receive with
        | stopping next => exact ⟨next, rfl⟩
        | _ => simp [hreceive] at hwants
      obtain ⟨hdemo, hregistered⟩ := h.owns (by
        obtain ⟨next, hreceive⟩ := hnext
        rw [hreceive]
        rfl)
      split at hs
      · cases hs
        refine h.of_eq rfl rfl rfl fun _ => .inr ?_
        obtain ⟨next, hreceive⟩ := hnext
        rw [hreceive]
        rfl
      · cases hs
        exact afterDemoStop_receive (s := s.clearVelocity) hnext hdemo hregistered hfree
    | demonstration =>
      have hdemo : s.demo ≠ none := by
        intro hnone
        simp [GroundState.wantsStop, hnone] at hwants
      split at hs
      · cases hs
        exact h.of_eq rfl rfl rfl nofun
      · cases hs
        exact afterDemoStop_demonstration h.clearVelocity hdemo hfree
    | tick => simp [GroundState.wantsStop] at hwants
  · cases hs

/-- Every step keeps the exclusion of the tasks. -/
theorem step (h : GroundShape s) {e : GroundEvent} (hs : s.step profile e = some s') :
    GroundShape s' := by
  cases e with
  | stopFrame =>
    simp only [GroundState.step] at hs
    split at hs
    · cases hs
      exact h.takeStopFrame (by simpa using ‹_›)
    · cases hs
  | command action parameters replayed =>
    simp only [GroundState.step] at hs
    split at hs
    · cases hs
      exact h.takeCommand (by simpa using ‹_›) action parameters replayed
    · cases hs
  | joined =>
    simp only [GroundState.step] at hs
    split at hs
    · rename_i next hreceive hdemo
      cases hs
      have hregistered := h.joining next hreceive
      refine ⟨fun hd => absurd hdemo hd, nofun, fun _ => ⟨hdemo, hregistered⟩, fun _ => rfl⟩
    · cases hs
  | call task =>
    simp only [GroundState.step] at hs
    split at hs
    · rename_i hcall
      cases hs
      refine h.of_eq rfl rfl rfl fun hl => .inr ?_
      obtain rfl : task = .receive := by simpa [GroundState.takeLock] using hl
      have hwants := hcall.2
      simp only [GroundState.wantsCall] at hwants
      cases hreceive : s.receive <;> simp [hreceive, ReceivePhase.calls] at hwants ⊢
    · cases hs
  | demoStop task connected => exact h.demoStop hs
  | finish task outcome now speed last => exact h.finishCall hs
  | wake =>
    simp only [GroundState.step, GroundState.wakeDemonstration] at hs
    split at hs
    · cases hs
    · split at hs
      all_goals rename_i hdemo
      · cases hs
        exact h.of_demonstration (by simp [hdemo]) rfl (.inl rfl) id
      · cases hs
        exact h.of_demonstration (by simp [hdemo]) rfl (.inl rfl) id
      · cases hs
        exact h.of_demonstration (by simp [hdemo]) rfl (.inl rfl) id
      · cases hs
  | cancelled call now speed =>
    simp only [GroundState.step, GroundState.cancelDemonstration] at hs
    split at hs
    · rename_i phase _ hdemo
      cases hs
      have hcall := s.cancelCall_eq profile call now speed
      refine h.of_demonstration (by simp [hdemo]) hcall.1 (.inl hcall.2.1) ?_
      intro hl
      rcases hcall.2.2 with hlock | hlock
      · exact hlock ▸ hl
      · rw [hlock] at hl
        cases hl
    · cases hs
  | landed now =>
    obtain ⟨command, _, rfl⟩ := Option.map_eq_some_iff.mp hs
    exact h.of_eq rfl rfl rfl .inl
  | tick now =>
    simp only [GroundState.step, GroundState.deadmanTick] at hs
    split at hs
    · cases hs
    · cases hs
      exact h.of_eq rfl rfl rfl .inl

end GroundShape
end CitPhysicalXR.Adapters
