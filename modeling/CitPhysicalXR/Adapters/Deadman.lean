import CitPhysicalXR.Adapters.Preemption

/-! The deadman of the ground robots: as long as every velocity that takes effect also returns to
its handler, a robot that moves is stopped by the first tick that comes late enough. -/
namespace CitPhysicalXR.Adapters
open Foundation Fabric

inductive DeadmanHandler where
  | wonder (model : WonderRobotModel)
  | sphero
  | ollie

namespace DeadmanHandler

def profile : DeadmanHandler → GroundProfile
  | wonder model => wonderProfile model
  | sphero => spheroProfile
  | ollie => ollieProfile

theorem recordsVelocity (handler : DeadmanHandler) : handler.profile.recordsVelocity = true := by
  cases handler <;> rfl

theorem swallowsStop (handler : DeadmanHandler) : handler.profile.swallowsStop = false := by
  cases handler <;> rfl

end DeadmanHandler

namespace GroundState

/-- `_velocity_active` and `_last_velocity_at`. -/
def velocityRecord (s : GroundState) : Bool × Option ℚ := (s.velocityActive, s.lastVelocityAt)

/-- The last motion call at the robot was a stop or a zero velocity. -/
def Still (s : GroundState) : Prop :=
  s.motion = some .stop ∨
    ∃ command at_, s.motion = some (.drive command at_) ∧ command.isZero = true

/-- A velocity other than zero at the robot is on record, with the time of its call. -/
def Recorded (s : GroundState) : Prop :=
  ∀ command at_, s.motion = some (.drive command at_) → command.isZero = false →
    s.velocityRecord = (true, some at_)

end GroundState

/-- What the steps have to meet: a velocity that takes effect is zero or its call returns, to a
handler that takes it for motion, and no `_demo_stop` goes without its call while a velocity is
active. -/
def Attended (profile : GroundProfile) (s : GroundState) : GroundEvent → Prop
  | .finish task .returned _ speed _ => ∀ command, s.driving profile speed task = some command →
    command.isZero = true ∨ command.registers = true
  | .finish task (.raised true _) _ speed _ => ∀ command,
    s.driving profile speed task = some command → command.isZero = true
  | .cancelled .reached _ speed => s.lock = some .demonstration → ∀ command,
    s.driving profile speed .demonstration = some command → command.isZero = true
  | .landed _ => ∀ command, s.detached = some command → command.isZero = true
  | .demoStop _ connected => profile.callsStop connected = true ∨ s.velocityActive = false
  | _ => True

namespace GroundState

/-- Only what the tasks do next has changed, and the receive loop does not aim. -/
structure GoesOn (s s' : GroundState) : Prop where
  motion : s'.motion = s.motion
  record : s'.velocityRecord = s.velocityRecord
  receive : s'.receive ≠ .aiming

namespace GoesOn
variable (profile : GroundProfile) (s : GroundState)

theorem refl {s : GroundState} (hreceive : s.receive ≠ .aiming) : GoesOn s s :=
  ⟨rfl, rfl, hreceive⟩

theorem proceed (next : AfterCancel) : GoesOn s (s.proceed profile next) := by
  cases next with
  | execute action parameters =>
    obtain ⟨phase, hproceed, hphase⟩ := s.proceed_execute profile action parameters
    rw [hproceed]
    refine ⟨rfl, rfl, ?_⟩
    intro haiming
    obtain rfl | rfl | ⟨_, motion, rfl⟩ := hphase <;> cases haiming
  | start => exact ⟨rfl, rfl, by simp [GroundState.proceed]⟩
  | finish handled => exact ⟨rfl, rfl, by simp [GroundState.proceed]⟩

theorem beginCancel (force : Bool) (next : AfterCancel) :
    GoesOn s (s.beginCancel profile force next) := by
  unfold GroundState.beginCancel
  split
  · exact ⟨rfl, rfl, by simp⟩
  · split
    · exact ⟨rfl, rfl, by simp⟩
    · exact proceed profile s next

theorem recover (recovers : Bool) : GoesOn s (s.recover profile recovers) := by
  unfold GroundState.recover
  split
  · split
    · exact ⟨rfl, rfl, by simp⟩
    · exact beginCancel profile s true _
  · exact ⟨rfl, rfl, by simp⟩

theorem abandon (next : AfterCancel) (recovers : Bool) :
    GoesOn s (s.abandon profile next recovers) := by
  cases next with
  | execute action parameters => exact recover profile s recovers
  | start => exact recover profile s recovers
  | finish handled => exact ⟨rfl, rfl, by simp [GroundState.abandon]⟩

theorem takeStopFrame : GoesOn s (s.takeStopFrame profile) := by
  unfold GroundState.takeStopFrame
  split
  · exact ⟨rfl, rfl, by simp⟩
  · exact beginCancel profile s true _

theorem takeCommand (hreceive : s.receive ≠ .aiming) (action : String) (parameters : JsonObject)
    (replayed : Bool) : GoesOn s (s.takeCommand profile action parameters replayed) := by
  unfold GroundState.takeCommand
  split
  · split
    · exact ⟨rfl, rfl, hreceive⟩
    · exact refl hreceive
  · split
    · split
      · exact refl hreceive
      · exact beginCancel profile s false _
    · split
      · exact refl hreceive
      · split
        · exact beginCancel profile s false _
        · exact proceed profile s _

theorem afterDemoStop (hreceive : s.receive ≠ .aiming) (task : Task) :
    GoesOn s (s.afterDemoStop profile task) := by
  cases task with
  | receive =>
    simp only [GroundState.afterDemoStop]
    split
    · exact proceed profile s _
    · exact refl hreceive
  | demonstration =>
    simp only [GroundState.afterDemoStop]
    split <;> exact ⟨rfl, rfl, hreceive⟩
  | tick => exact refl hreceive

theorem demoStopRaised (hreceive : s.receive ≠ .aiming) (task : Task) (recovers : Bool) :
    GoesOn s (s.demoStopRaised profile task recovers) := by
  cases task with
  | receive =>
    simp only [GroundState.demoStopRaised]
    split
    · exact abandon profile s _ recovers
    · exact refl hreceive
  | demonstration =>
    simp only [GroundState.demoStopRaised]
    split <;> exact ⟨rfl, rfl, hreceive⟩
  | tick => exact refl hreceive

end GoesOn

inductive RecordStep (profile : GroundProfile) (s : GroundState) (s' : GroundState) :
    GroundEvent → Prop
  | kept {e : GroundEvent} (hmotion : s'.motion = s.motion)
      (hrecord : s'.velocityRecord = s.velocityRecord) : RecordStep profile s s' e
  /-- A stop has reached the robot, and its call is not over or has raised. -/
  | stopped {e : GroundEvent} (hmotion : s'.motion = some .stop)
      (hrecord : s'.velocityRecord = s.velocityRecord) : RecordStep profile s s' e
  /-- A velocity has reached the robot, and its call did not return. -/
  | moved {e : GroundEvent} (command : DriveCommand) (at_ : ℚ)
      (hzero : Attended profile s e → command.isZero = true)
      (hmotion : s'.motion = some (.drive command at_))
      (hrecord : s'.velocityRecord = s.velocityRecord) : RecordStep profile s s' e
  /-- The call of a stop has returned. -/
  | cleared {task : Task} {now : ℚ} {speed : ℤ} {last : Bool}
      (hmotion : s'.motion = some .stop ∨ s.receive = .aiming ∧ s'.motion = s.motion)
      (hrecord : s'.velocityRecord = (false, none)) :
      RecordStep profile s s' (.finish task .returned now speed last)
  /-- The call of a velocity has returned. -/
  | driven {task : Task} {now : ℚ} {speed : ℤ} {last : Bool} (command : DriveCommand)
      (hlock : s.lock = some task) (hdriving : s.driving profile speed task = some command)
      (hmotion : s'.motion = some (.drive command now))
      (hrecord : s'.velocityRecord =
        (command.registers, if command.registers then some now else none)) :
      RecordStep profile s s' (.finish task .returned now speed last)
  /-- `_demo_stop` has cleared the record without a call. -/
  | unconnected {task : Task} {connected : Bool} (hlock : s.lock = none)
      (hcalls : profile.callsStop connected = false) (hmotion : s'.motion = s.motion)
      (hrecord : s'.velocityRecord = (false, none)) :
      RecordStep profile s s' (.demoStop task connected)

/-- A reset of the aim starts with a stop and keeps the lock. -/
def AimStep (s s' : GroundState) : Prop :=
  s'.receive = .aiming →
    s.receive = .aiming ∧ s'.lock = s.lock ∨ s'.motion = some .stop ∧ s'.lock = some .receive

section Steps
variable {profile : GroundProfile} {s s' : GroundState}

theorem recordVelocity_motion (command : DriveCommand) (now : ℚ) :
    (s.recordVelocity profile command now).motion = s.motion := by
  unfold recordVelocity
  split <;> rfl

theorem recordVelocity_record (hrecords : profile.recordsVelocity = true)
    (command : DriveCommand) (now : ℚ) :
    (s.recordVelocity profile command now).velocityRecord =
      (command.registers, if command.registers then some now else none) := by
  rw [recordVelocity, if_pos hrecords]
  rfl

theorem recordStep_raisedStop {e : GroundEvent} {reached : Bool}
    (hgoes : GoesOn (s.release (if reached then some .stop else none)) s') :
    RecordStep profile s s' e := by
  cases reached with
  | true => exact .stopped hgoes.motion hgoes.record
  | false => exact .kept hgoes.motion hgoes.record

variable {last : Bool} {now : ℚ} {speed : ℤ}

theorem recordStep_raisedDrive {task : Task} {reached recovers : Bool}
    {command : DriveCommand} (hdriving : s.driving profile speed task = some command)
    (hgoes : GoesOn (s.release (if reached then some (.drive command now) else none)) s') :
    RecordStep profile s s' (.finish task (.raised reached recovers) now speed last) := by
  cases reached with
  | true => exact .moved command now (fun hok => hok command hdriving) hgoes.motion hgoes.record
  | false => exact .kept hgoes.motion hgoes.record

theorem finishDemoStop_record (hswallows : profile.swallowsStop = false)
    (hreceive : s.receive ≠ .aiming) {task : Task} {outcome : Outcome}
    (h : s.finishDemoStop profile task outcome = some s') :
    RecordStep profile s s' (.finish task outcome now speed last) ∧ AimStep s s' := by
  cases outcome with
  | returned =>
    obtain rfl := Option.some.inj h
    have hgoes := GoesOn.afterDemoStop profile (s.release (some .stop)).clearVelocity hreceive task
    exact ⟨.cleared (.inl hgoes.motion) hgoes.record,
      fun haiming => absurd haiming hgoes.receive⟩
  | raised reached recovers =>
    obtain rfl := Option.some.inj h
    have hgoes := GoesOn.demoStopRaised profile
      (s.release (if reached then some .stop else none)) hreceive task recovers
    exact ⟨recordStep_raisedStop hgoes, fun haiming => absurd haiming hgoes.receive⟩
  | swallowed =>
    rw [finishDemoStop, if_neg (by simp [hswallows])] at h
    cases h

theorem driving_receive {forward right clockwise : PyFloat}
    (hreceive : s.receive = .moving (.drive forward right clockwise)) :
    s.driving profile speed .receive = some (profile.driveOf forward right clockwise speed) := by
  simp only [driving, hreceive]

/-- A call of the receive loop. -/
theorem finishReceive_record (hrecords : profile.recordsVelocity = true)
    (hswallows : profile.swallowsStop = false) (hlock : s.lock = some .receive)
    {outcome : Outcome}
    (h : s.finishReceive profile outcome now speed = some s') :
    RecordStep profile s s' (.finish .receive outcome now speed last) ∧ AimStep s s' := by
  have hrecovers (motion : Option Motion) (recovers : Bool) :
      AimStep s ((s.release motion).recover profile recovers) := fun haiming =>
    absurd haiming (GoesOn.recover profile (s.release motion) recovers).receive
  have hidle {t : GroundState} (hreceive : t.receive = .idle) : AimStep s t := by
    intro haiming
    cases hreceive.symm.trans haiming
  unfold finishReceive at h
  split at h
  all_goals rename_i hreceive
  · exact finishDemoStop_record hswallows (by simp [hreceive]) h
  · obtain rfl := Option.some.inj h
    exact ⟨.cleared (.inl rfl) rfl, hidle rfl⟩
  · rw [if_neg (by simp [hswallows])] at h
    cases h
  · obtain rfl := Option.some.inj h
    exact ⟨recordStep_raisedStop (GoesOn.recover profile _ _),
      hrecovers _ _⟩
  · obtain rfl := Option.some.inj h
    refine ⟨.driven _ hlock (driving_receive hreceive) ?_ ?_, hidle rfl⟩
    · exact recordVelocity_motion _ _
    · exact recordVelocity_record hrecords _ _
  · obtain rfl := Option.some.inj h
    exact ⟨recordStep_raisedDrive (driving_receive hreceive) (GoesOn.recover profile _ _),
      hrecovers _ _⟩
  · obtain rfl := Option.some.inj h
    exact ⟨.stopped rfl rfl, fun _ => .inr ⟨rfl, hlock⟩⟩
  · obtain rfl := Option.some.inj h
    exact ⟨recordStep_raisedStop (GoesOn.recover profile _ _),
      hrecovers _ _⟩
  · obtain rfl := Option.some.inj h
    exact ⟨.cleared (.inr ⟨hreceive, rfl⟩) rfl, hidle rfl⟩
  · obtain rfl := Option.some.inj h
    have hgoes := GoesOn.recover profile (s.release none) ‹Bool›
    exact ⟨.kept hgoes.motion hgoes.record, hrecovers _ _⟩
  · obtain rfl := Option.some.inj h
    exact ⟨.kept rfl rfl, hidle rfl⟩
  · obtain rfl := Option.some.inj h
    have hgoes := GoesOn.recover profile (s.release none) ‹Bool›
    exact ⟨.kept hgoes.motion hgoes.record, hrecovers _ _⟩
  · obtain rfl := Option.some.inj h
    exact ⟨.stopped rfl rfl, hidle rfl⟩
  · rw [if_neg (by simp [hswallows])] at h
    cases h
  · obtain rfl := Option.some.inj h
    exact ⟨recordStep_raisedStop ⟨rfl, rfl, by simp⟩, hidle rfl⟩
  · cases h

theorem finishDemonstration_record (hrecords : profile.recordsVelocity = true)
    (hswallows : profile.swallowsStop = false) (hlock : s.lock = some .demonstration)
    (hreceive : s.receive ≠ .aiming) {outcome : Outcome}
    (h : s.finishDemonstration profile outcome now speed last = some s') :
    RecordStep profile s s' (.finish .demonstration outcome now speed last) ∧ AimStep s s' := by
  unfold finishDemonstration at h
  split at h
  · obtain ⟨command, hdriving, rfl⟩ := Option.map_eq_some_iff.mp h
    refine ⟨.driven command hlock hdriving ?_ ?_, ?_⟩
    · exact recordVelocity_motion _ _
    · exact recordVelocity_record hrecords _ _
    · intro haiming
      rw [recordVelocity_eq] at haiming
      exact absurd haiming hreceive
  · obtain ⟨command, hdriving, rfl⟩ := Option.map_eq_some_iff.mp h
    exact ⟨recordStep_raisedDrive hdriving ⟨rfl, rfl, hreceive⟩,
      fun haiming => absurd haiming hreceive⟩
  · exact finishDemoStop_record hswallows hreceive h
  · exact finishDemoStop_record hswallows hreceive h
  · cases h

theorem finishTick_record (hreceive : s.receive ≠ .aiming) {outcome : Outcome}
    (h : s.finishTick outcome = some s') :
    RecordStep profile s s' (.finish .tick outcome now speed last) ∧ AimStep s s' := by
  cases outcome with
  | returned =>
    obtain rfl := Option.some.inj h
    exact ⟨.cleared (.inl rfl) rfl, fun haiming => absurd haiming hreceive⟩
  | raised reached recovers =>
    obtain rfl := Option.some.inj h
    exact ⟨recordStep_raisedStop ⟨rfl, rfl, hreceive⟩, fun haiming => absurd haiming hreceive⟩
  | swallowed => cases h

theorem cancelCall_record (call : CancelledCall) (now : ℚ) (speed : ℤ)
    (hmotion : s'.motion = (s.cancelCall profile call now speed).motion)
    (hrecord : s'.velocityRecord = (s.cancelCall profile call now speed).velocityRecord) :
    RecordStep profile s s' (.cancelled call now speed) := by
  unfold cancelCall at hmotion hrecord
  by_cases hlock : s.lock = some .demonstration
  · simp only [hlock, ne_eq, not_true_eq_false, if_false] at hmotion hrecord
    cases hdriving : s.driving profile speed .demonstration with
    | none =>
      rw [hdriving] at hmotion hrecord
      cases call with
      | dropped => exact .kept hmotion hrecord
      | reached => exact .stopped hmotion hrecord
      | detached => exact .kept hmotion hrecord
    | some command =>
      rw [hdriving] at hmotion hrecord
      cases call with
      | dropped => exact .kept hmotion hrecord
      | reached =>
        exact .moved command now (fun hok => hok hlock command hdriving) hmotion hrecord
      | detached => exact .kept hmotion hrecord
  · rw [if_pos hlock] at hmotion hrecord
    exact .kept hmotion hrecord

/-- Every step, while a reset of the aim holds the lock. -/
theorem step_record (hrecords : profile.recordsVelocity = true)
    (hswallows : profile.swallowsStop = false)
    (haim : s.receive = .aiming → s.lock = some .receive) {e : GroundEvent}
    (h : s.step profile e = some s') : RecordStep profile s s' e ∧ AimStep s s' := by
  have hgoesOn {e : GroundEvent} {t : GroundState} (hgoes : GoesOn s t) :
      RecordStep profile s t e ∧ AimStep s t :=
    ⟨.kept hgoes.motion hgoes.record, fun haiming => absurd haiming hgoes.receive⟩
  have hother {task : Task} (hlock : s.lock = some task) (htask : task ≠ .receive) :
      s.receive ≠ .aiming := by
    intro haiming
    exact htask (Option.some.inj (hlock.symm.trans (haim haiming)))
  have hunlocked (hlock : s.lock = none) : s.receive ≠ .aiming := by
    intro haiming
    cases hlock.symm.trans (haim haiming)
  cases e with
  | stopFrame =>
    simp only [step] at h
    split at h
    · obtain rfl := Option.some.inj h
      exact hgoesOn (GoesOn.takeStopFrame profile s)
    · cases h
  | command action parameters replayed =>
    simp only [step] at h
    split at h
    · rename_i hidle
      obtain rfl := Option.some.inj h
      exact hgoesOn (GoesOn.takeCommand profile s (by simp [hidle]) action parameters replayed)
    · cases h
  | joined =>
    simp only [step] at h
    split at h
    · obtain rfl := Option.some.inj h
      exact hgoesOn ⟨rfl, rfl, by simp⟩
    · cases h
  | call task =>
    simp only [step] at h
    split at h
    · rename_i hfree
      obtain rfl := Option.some.inj h
      exact hgoesOn ⟨rfl, rfl, hunlocked hfree.1⟩
    · cases h
  | demoStop task connected =>
    simp only [step] at h
    split at h
    · rename_i hfree
      have hreceive := hunlocked hfree.1
      split at h
      · obtain rfl := Option.some.inj h
        exact hgoesOn ⟨rfl, rfl, hreceive⟩
      · rename_i hcalls
        obtain rfl := Option.some.inj h
        have hgoes := GoesOn.afterDemoStop profile s.clearVelocity hreceive task
        exact ⟨.unconnected hfree.1 (by simpa using hcalls) hgoes.motion hgoes.record,
          fun haiming => absurd haiming hgoes.receive⟩
    · cases h
  | finish task outcome now speed last =>
    simp only [step, finishCall] at h
    split at h
    · rename_i hlock
      cases task with
      | receive => exact finishReceive_record hrecords hswallows hlock h
      | demonstration =>
        simp only at h
        split at h
        · cases h
        · exact finishDemonstration_record hrecords hswallows hlock (hother hlock (by simp)) h
      | tick => exact finishTick_record (hother hlock (by simp)) h
    · cases h
  | wake =>
    simp only [step, wakeDemonstration] at h
    split at h
    · cases h
    · split at h
      · obtain rfl := Option.some.inj h
        exact ⟨.kept rfl rfl, fun haiming => .inl ⟨haiming, rfl⟩⟩
      · obtain rfl := Option.some.inj h
        exact ⟨.kept rfl rfl, fun haiming => .inl ⟨haiming, rfl⟩⟩
      · obtain rfl := Option.some.inj h
        exact ⟨.kept rfl rfl, fun haiming => .inl ⟨haiming, rfl⟩⟩
      · cases h
  | cancelled call now speed =>
    simp only [step, cancelDemonstration] at h
    split at h
    · obtain rfl := Option.some.inj h
      refine ⟨cancelCall_record call now speed rfl rfl, ?_⟩
      intro haiming
      have hreceive : s.receive = .aiming :=
        (s.cancelCall_eq profile call now speed).1.symm.trans haiming
      refine .inl ⟨hreceive, ?_⟩
      change (s.cancelCall profile call now speed).lock = s.lock
      unfold cancelCall
      rw [if_pos (by simp [haim hreceive])]
    · cases h
  | landed now =>
    obtain ⟨command, hdetached, rfl⟩ := Option.map_eq_some_iff.mp h
    exact ⟨.moved command now (fun hok => hok command hdetached) rfl rfl,
      fun haiming => .inl ⟨haiming, rfl⟩⟩
  | tick now =>
    simp only [step, deadmanTick] at h
    split at h
    · cases h
    · obtain rfl := Option.some.inj h
      exact ⟨.kept rfl rfl, fun haiming => .inl ⟨haiming, rfl⟩⟩

end Steps

/-- What holds as long as every step is attended. -/
structure Watched (s : GroundState) : Prop where
  recorded : s.Recorded
  aiming : s.receive = .aiming → s.lock = some .receive ∧ s.Still

namespace Watched
variable {profile : GroundProfile} {s s' : GroundState} {e : GroundEvent}

theorem initial : Watched {} := ⟨nofun, nofun⟩

/-- An attended step leaves the record of a moving robot right, and clears it only when the call
of a stop or of a zero velocity returns. -/
theorem step (h : Watched s) (hrecords : profile.recordsVelocity = true)
    (hswallows : profile.swallowsStop = false) (hok : Attended profile s e)
    (hs : s.step profile e = some s') :
    Watched s' ∧ (s.velocityActive = true → s'.velocityActive = false →
      s'.Still ∧ ∃ task now speed last, e = .finish task .returned now speed last) := by
  obtain ⟨hstep, haim⟩ := step_record hrecords hswallows (fun haiming => (h.aiming haiming).1) hs
  have hactive (hrecord : s'.velocityRecord = s.velocityRecord) :
      s'.velocityActive = s.velocityActive := congrArg Prod.fst hrecord
  -- the lock is that of the aim, and what the step does to the motion decides the rest
  have hkeeps (hstill : s.receive = .aiming → s'.Still) (haiming : s'.receive = .aiming) :
      s'.lock = some .receive ∧ s'.Still := by
    obtain ⟨hreceive, hlock⟩ | ⟨hmotion, hlock⟩ := haim haiming
    · exact ⟨hlock.trans (h.aiming hreceive).1, hstill hreceive⟩
    · exact ⟨hlock, .inl hmotion⟩
  cases hstep with
  | kept hmotion hrecord =>
    refine ⟨⟨?_, hkeeps ?_⟩, ?_⟩
    · intro command at_ hdrive hzero
      rw [hrecord]
      exact h.recorded command at_ (hmotion ▸ hdrive) hzero
    · intro hreceive
      unfold Still
      rw [hmotion]
      exact (h.aiming hreceive).2
    · intro hbefore hafter
      rw [hactive hrecord, hbefore] at hafter
      cases hafter
  | stopped hmotion hrecord =>
    refine ⟨⟨?_, hkeeps fun _ => .inl hmotion⟩, ?_⟩
    · intro command at_ hdrive _
      cases hmotion.symm.trans hdrive
    · intro hbefore hafter
      rw [hactive hrecord, hbefore] at hafter
      cases hafter
  | moved command at_ hzero hmotion hrecord =>
    have hzero := hzero hok
    refine ⟨⟨?_, hkeeps fun _ => .inr ⟨command, at_, hmotion, hzero⟩⟩, ?_⟩
    · intro command' at_' hdrive hnonzero
      cases hmotion.symm.trans hdrive
      cases hzero.symm.trans hnonzero
    · intro hbefore hafter
      rw [hactive hrecord, hbefore] at hafter
      cases hafter
  | cleared hmotion hrecord =>
    have hstill : s'.Still := by
      obtain hstop | ⟨hreceive, hsame⟩ := hmotion
      · exact .inl hstop
      · unfold Still
        rw [hsame]
        exact (h.aiming hreceive).2
    refine ⟨⟨?_, hkeeps fun _ => hstill⟩, fun _ _ => ⟨hstill, _, _, _, _, rfl⟩⟩
    intro command at_ hdrive hnonzero
    obtain hstop | ⟨command', at_', hdrive', hzero⟩ := hstill
    · cases hstop.symm.trans hdrive
    · cases hdrive'.symm.trans hdrive
      cases hzero.symm.trans hnonzero
  | driven command hlock hdriving hmotion hrecord =>
    have hregisters := hok command hdriving
    refine ⟨⟨?_, hkeeps ?_⟩, ?_⟩
    · intro command' at_ hdrive hnonzero
      cases hmotion.symm.trans hdrive
      rw [hrecord, hregisters.resolve_left (by simp [hnonzero])]
      rfl
    · intro hreceive
      -- the receive loop has the lock and is not in a velocity
      obtain rfl := Option.some.inj (hlock.symm.trans (h.aiming hreceive).1)
      simp only [driving, hreceive] at hdriving
      cases hdriving
    · intro _ hafter
      have hquiet : command.registers = false := (congrArg Prod.fst hrecord).symm.trans hafter
      refine ⟨.inr ⟨command, _, hmotion, ?_⟩, _, _, _, _, rfl⟩
      exact hregisters.resolve_right (by simp [hquiet])
  | unconnected hlock hcalls hmotion hrecord =>
    have hinactive : s.velocityActive = false := by
      obtain hcalled | hinactive := hok
      · cases hcalls.symm.trans hcalled
      · exact hinactive
    refine ⟨⟨?_, hkeeps ?_⟩, ?_⟩
    · intro command at_ hdrive hnonzero
      have hbefore := h.recorded command at_ (hmotion ▸ hdrive) hnonzero
      cases hinactive.symm.trans (congrArg Prod.fst hbefore)
    · intro hreceive
      cases hlock.symm.trans (h.aiming hreceive).1
    · intro hbefore _
      cases hinactive.symm.trans hbefore

end Watched

theorem Recorded.late_tick {profile : GroundProfile} {s : GroundState}
    (hrecords : profile.recordsVelocity = true) (h : s.Recorded) {command : DriveCommand}
    {at_ now : ℚ} (hmotion : s.motion = some (.drive command at_))
    (hnonzero : command.isZero = false) (hlate : profile.deadmanSeconds ≤ now - at_) :
    s.ticking = true ∨ (s.step profile (.tick now)).any (·.ticking) = true := by
  obtain ⟨hactive, hlast⟩ := Prod.mk.inj (h command at_ hmotion hnonzero)
  cases hticking : s.ticking with
  | true => exact .inl rfl
  | false =>
    refine .inr ?_
    simp [step, deadmanTick, hticking, hrecords, hactive, hlast, hlate]

end GroundState

def attendedRobot (profile : GroundProfile) : Machine GroundState GroundEvent Unit :=
  (groundRobot profile).restrict (Attended profile)

theorem attended_watched (handler : DeadmanHandler) {s : GroundState}
    (h : (attendedRobot handler.profile).Reachable s) : s.Watched := by
  refine h.invariant ?_ ?_
  · rintro s rfl
    exact .initial
  · intro s e s' out hwatched hstep
    exact (hwatched.step handler.recordsVelocity handler.swallowsStop hstep.1 hstep.2.1).1

/-- In every run whose steps are attended: a velocity at the robot is on record with its time, so
that a tick at or after the deadman interval goes on to a stop; and a step clears the active state
only where the call of a stop or of a zero velocity returns. -/
theorem deadman_watches (handler : DeadmanHandler) {trace : List (GroundEvent × List Unit)}
    {s : GroundState} (hrun : (attendedRobot handler.profile).Run trace s) :
    (∀ command at_, s.motion = some (.drive command at_) → command.isZero = false →
      s.velocityActive = true ∧ s.lastVelocityAt = some at_ ∧
      ∀ now, handler.profile.deadmanSeconds ≤ now - at_ →
        s.ticking = true ∨ (s.step handler.profile (.tick now)).any (·.ticking) = true) ∧
    ∀ e s', Attended handler.profile s e → s.step handler.profile e = some s' →
      s.velocityActive = true → s'.velocityActive = false →
      s'.Still ∧ ∃ task now speed last, e = .finish task .returned now speed last := by
  have hwatched := attended_watched handler hrun.reachable
  constructor
  · intro command at_ hmotion hnonzero
    obtain ⟨hactive, hlast⟩ := Prod.mk.inj (hwatched.recorded command at_ hmotion hnonzero)
    refine ⟨hactive, hlast, ?_⟩
    intro now hlate
    exact hwatched.recorded.late_tick handler.recordsVelocity hmotion hnonzero hlate
  · intro e s' hok hs
    exact (hwatched.step handler.recordsVelocity handler.swallowsStop hok hs).2

instance (profile : GroundProfile) (s : GroundState) : DecidablePred (Attended profile s)
  | .finish task .returned _ speed _ => inferInstanceAs (Decidable (∀ command ∈
    s.driving profile speed task, command.isZero = true ∨ command.registers = true))
  | .finish task (.raised true _) _ speed _ => inferInstanceAs (Decidable (∀ command ∈
    s.driving profile speed task, command.isZero = true))
  | .cancelled .reached _ speed => inferInstanceAs (Decidable (_ → ∀ command ∈
    s.driving profile speed .demonstration, command.isZero = true))
  | .landed _ => inferInstanceAs (Decidable (∀ command ∈ s.detached, command.isZero = true))
  | .demoStop _ _ => inferInstanceAs (Decidable (_ ∨ _))
  | .finish _ .swallowed _ _ _ | .finish _ (.raised false _) _ _ _ | .cancelled .dropped _ _
  | .cancelled .detached _ _ | .stopFrame | .command _ _ _ | .joined | .call _ | .wake
  | .tick _ => inferInstanceAs (Decidable True)

private def slowly : JsonObject :=
  ⟨[("forwardMetersPerSecond", .float (.finite (2 / 10))),
    ("rightMetersPerSecond", .float (.finite 0)),
    ("clockwiseRadiansPerSecond", .float (.finite 0))], by simp⟩

/-- A velocity takes effect at a Dash and raises, the safe stop that follows fails, and no tick
will ever stop the robot. -/
theorem deadman_asleep : ∃ trace s command at_, (groundRobot (wonderProfile .dash)).Run trace s ∧
    s.motion = some (.drive command at_) ∧ command.isZero = false ∧ s.velocityActive = false ∧
    ∀ now s', s.step (wonderProfile .dash) (.tick now) = some s' → s'.ticking = false := by
  have hexec : ((GroundState.exec (wonderProfile .dash) (fun _ _ => True)
      [.command groundVelocity slowly false, .call .receive,
        .finish .receive (.raised true true) 1 0 false, .demoStop .receive true,
        .finish .receive (.raised false true) 2 0 false]).any fun last =>
      decide (last.1.motion = some (.drive (.wheels (.finite (2 / 10)) (.finite 0) (.finite 0)) 1) ∧
        last.1.velocityActive = false)) = true := by decide +kernel
  obtain ⟨last, hlast, hend⟩ := (Option.any_eq_true ..).mp hexec
  obtain ⟨hmotion, hinactive⟩ := of_decide_eq_true hend
  refine ⟨_, _, _, _, (GroundState.exec_run hlast).of_restrict, hmotion, by decide +kernel, hinactive, ?_⟩
  intro now s' hs
  simp only [GroundState.step, GroundState.deadmanTick, hinactive, Bool.false_and] at hs
  split at hs
  · cases hs
  · obtain rfl := Option.some.inj hs
    rfl

/-- A Dash that drives, and its watch. -/
theorem deadman_watches_dash : ∃ trace s command,
    (attendedRobot (DeadmanHandler.wonder .dash).profile).Run trace s ∧
      s.motion = some (.drive command 1) ∧ s.lastVelocityAt = some 1 := by
  have hexec : ((GroundState.exec (wonderProfile .dash) (Attended (wonderProfile .dash))
      [.command groundVelocity slowly false, .call .receive,
        .finish .receive .returned 1 0 false]).any fun last =>
      decide (last.1.motion =
        some (.drive (.wheels (.finite (2 / 10)) (.finite 0) (.finite 0)) 1))) = true := by
    decide +kernel
  obtain ⟨last, hlast, hmotion⟩ := (Option.any_eq_true ..).mp hexec
  have hmotion := of_decide_eq_true hmotion
  have hrun := GroundState.exec_run hlast
  have hwatches := (deadman_watches (.wonder .dash) hrun).1 _ 1 hmotion (by decide +kernel)
  exact ⟨_, _, _, hrun, hmotion, hwatches.2.1⟩

end CitPhysicalXR.Adapters
