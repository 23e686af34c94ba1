import CitPhysicalXR.Camera.AutomaticImports
import CitPhysicalXR.Foundation.Execution

/-! The pacing of the automatic imports. The last activity spaces the attempts while no import
outlasts the pause of the loop; a refused start leaves no pause before the next one. -/
namespace CitPhysicalXR.Camera
open Foundation

structure KeepsDistance (interval : ℚ) (before : List CameraReport) (time : ℚ) : Prop where
  attempts : ∀ earlier, .attempt earlier ∈ before → earlier + interval ≤ time
  manual : ∀ number, .started number false ∈ before →
    ∃ ended, .ended number ended ∈ before ∧ ended + interval ≤ time

/-- Every automatic attempt keeps its distance. -/
def Paced (interval : ℚ) (reports : List CameraReport) : Prop :=
  ∀ before time after, reports = before ++ .attempt time :: after →
    KeepsDistance interval before time

namespace CameraImports

/-- The loop is started once, before any import, and no import task is left when it is about to
make an attempt. -/
def Undisturbed (s : CameraImports × List CameraReport) (e : CameraStep) : Prop :=
  (e.action = .startLoop → s.1.lastActivity = none ∧ s.2 = []) ∧
  (e.action = .clear → s.1.loop = .clearing s.1.lastActivity → s.1.task = none)

/-- No earlier than some activity before. -/
def SeenBy (s : CameraImports) (time : ℚ) : Prop :=
  ∃ last, s.lastActivity = some last ∧ time ≤ last

/-- A pause that ends no sooner than the interval after the activity that it goes by; the first
one goes by none. -/
def Pauses (interval : ℚ) (s : CameraImports) (marker : Option ℚ) (wakeAt : ℚ) : Prop :=
  if s.firstRun then marker = none else ∀ last, marker = some last → last + interval ≤ wakeAt

def IsDue (interval : ℚ) (s : CameraImports) : Prop :=
  match s.loop with
  | .publishing delay marker => Pauses interval s marker (s.now + delay)
  | .sleeping wakeAt marker => Pauses interval s marker wakeAt
  | .clearing marker => Pauses interval s marker s.now
  | _ => True

/-- A start that waits for the lock has been called in the past, and whatever came in between
was an activity. -/
def IsPending (s : CameraImports) : Prop :=
  ∀ calledAt, s.loop = .starting calledAt → calledAt ≤ s.now ∧
    (s.task ≠ none ∨ s.holder = some .manualStart → s.SeenBy calledAt)

/-- The loop has called `start_import` in its round. -/
def InStart (s : CameraImports) : Prop :=
  (∃ calledAt, s.loop = .starting calledAt) ∨ s.loop = .probing ∨ ∃ number, s.loop = .waiting number

structure Spaced (interval : ℚ) (s : CameraImports) (reports : List CameraReport) : Prop where
  paced : Paced interval reports
  past : ∀ last, s.lastActivity = some last → last ≤ s.now
  attempts : s.loop ≠ .stopped → ∀ time, .attempt time ∈ reports →
    s.SeenBy time ∨ s.loop = .starting time
  ended : ∀ number time, .ended number time ∈ reports → s.SeenBy time
  started : ∀ number automatic, .started number automatic ∈ reports →
    (∃ time, .ended number time ∈ reports) ∨ s.task = some ⟨number, false⟩
  due : IsDue interval s
  pending : IsPending s
  later : InStart s → s.firstRun = false
  probing : s.loop = .probing → s.holder = some .automaticStart
  exclusive : s.holder = some .manualStart ∨ s.holder = some .automaticStart → s.task = none

theorem Paced.snoc {interval : ℚ} {reports : List CameraReport} (h : Paced interval reports)
    {report : CameraReport} (hreport : ∀ time, report = .attempt time →
      KeepsDistance interval reports time) : Paced interval (reports ++ [report]) := by
  intro before time after hsplit
  rcases List.eq_nil_or_concat after with rfl | ⟨front, last, rfl⟩
  · obtain ⟨rfl, hlast⟩ := List.append_inj' hsplit rfl
    exact hreport time (List.singleton_inj.mp hlast)
  · have hlonger : reports ++ [report] = (before ++ .attempt time :: front) ++ [last] := by
      simpa using hsplit
    obtain ⟨rfl, -⟩ := List.append_inj' hlonger rfl
    exact h before time front rfl

section Steps
variable {schedule : ImportSchedule} {interval : ℚ} {s s' : CameraImports}
  {reports out : List CameraReport}

/-- Time passes. -/
theorem Spaced.advance (h : Spaced interval s reports) {now : ℚ} (hnow : s.now ≤ now) :
    Spaced interval { s with now := now } reports := by
  refine ⟨h.paced, fun last hlast => (h.past last hlast).trans hnow, h.attempts, h.ended, h.started,
    ?_, ?_, h.later, h.probing, h.exclusive⟩
  · have hdue := h.due
    unfold IsDue Pauses at hdue ⊢
    dsimp only
    split at hdue
    · split at hdue
      · rename_i hfirst
        rw [if_pos hfirst]
        exact hdue
      · rename_i hfirst
        rw [if_neg hfirst]
        intro last hlast
        have := hdue last hlast
        linarith
    · exact hdue
    · split at hdue
      · rename_i hfirst
        rw [if_pos hfirst]
        exact hdue
      · rename_i hfirst
        rw [if_neg hfirst]
        intro last hlast
        have := hdue last hlast
        linarith
    · trivial
  · intro calledAt hloop
    obtain ⟨hpast, hseen⟩ := h.pending calledAt hloop
    exact ⟨hpast.trans hnow, hseen⟩

theorem SeenBy.le_now (h : Spaced interval s reports) {time : ℚ} (hseen : s.SeenBy time) :
    time ≤ s.now := by
  obtain ⟨last, hlast, hle⟩ := hseen
  exact hle.trans (h.past last hlast)

theorem Spaced.attempt_le (h : Spaced interval s reports) (hrunning : s.loop ≠ .stopped) {time : ℚ}
    (hattempt : .attempt time ∈ reports) : time ≤ s.now := by
  rcases h.attempts hrunning time hattempt with hseen | hstarting
  · exact hseen.le_now h
  · exact (h.pending time hstarting).1

theorem Spaced.attempt_seen (h : Spaced interval s reports) (hrunning : s.loop ≠ .stopped)
    (hstarting : ∀ calledAt, s.loop ≠ .starting calledAt) {time : ℚ}
    (hattempt : .attempt time ∈ reports) : s.SeenBy time :=
  (h.attempts hrunning time hattempt).resolve_right (hstarting time)

theorem Spaced.beginRound (h : Spaced schedule.automaticInterval s reports)
    (hseen : ∀ time, .attempt time ∈ reports → s.SeenBy time) (holder : Option LockHolder)
    (hholder : holder = some .manualStart ∨ holder = some .automaticStart → s.task = none) :
    Spaced schedule.automaticInterval
      ({ s with firstRun := false, holder := holder }.beginRound schedule) reports := by
  refine ⟨h.paced, h.past, fun _ time hattempt => .inl (hseen time hattempt), h.ended, h.started,
    ?_, ?_, fun _ => rfl, ?_, hholder⟩
  · intro last hlast
    have hlast' : s.lastActivity = some last := hlast
    simp only [CameraImports.beginRound, delay, hlast']
    have := le_max_right 0 (schedule.automaticInterval - (s.now - last))
    simp only [Bool.false_eq_true, if_false]
    linarith
  · intro calledAt hloop
    cases hloop
  · intro hloop
    cases hloop

theorem Spaced.stop (h : Spaced interval s reports) (holder : Option LockHolder)
    (hholder : holder = none ∨ holder = s.holder) :
    Spaced interval { s with loop := .stopped, holder := holder } reports := by
  refine ⟨h.paced, h.past, fun hrunning => absurd rfl hrunning, h.ended, h.started, trivial, ?_, ?_,
    ?_, ?_⟩
  · intro calledAt hloop
    cases hloop
  · rintro (⟨calledAt, hloop⟩ | hloop | ⟨number, hloop⟩) <;> cases hloop
  · intro hloop
    cases hloop
  · rcases hholder with rfl | rfl
    · rintro (hheld | hheld) <;> cases hheld
    · exact h.exclusive

theorem Spaced.hold (h : Spaced interval s reports) (holder : Option LockHolder)
    (hidle : s.loop ≠ .probing) (hholder : holder = none ∨ holder = some .snapshot) :
    Spaced interval { s with holder := holder } reports := by
  refine ⟨h.paced, h.past, h.attempts, h.ended, h.started, h.due, ?_, h.later,
    fun hloop => absurd hloop hidle, ?_⟩
  · intro calledAt hloop
    obtain ⟨hpast, hseen⟩ := h.pending calledAt hloop
    refine ⟨hpast, ?_⟩
    rintro (htask | hheld)
    · exact hseen (.inl htask)
    · rcases hholder with rfl | rfl <;> cases hheld
  · rcases hholder with rfl | rfl <;> rintro (hheld | hheld) <;> cases hheld

/-- An attempt that is due, with no import left, keeps its distance. -/
theorem Spaced.attempt (h : Spaced interval s reports)
    (hloop : s.loop = .clearing s.lastActivity) (htask : s.task = none)
    (hholder : s.holder = none) :
    Spaced interval { s with firstRun := false, loop := .starting s.now }
      (reports ++ [.attempt s.now]) := by
  have hrunning : s.loop ≠ .stopped := by simp [hloop]
  have hstarting (calledAt : ℚ) : s.loop ≠ .starting calledAt := by simp [hloop]
  have hdue : Pauses interval s s.lastActivity s.now := by
    have hdue := h.due
    unfold IsDue at hdue
    rwa [hloop] at hdue
  -- whatever the last activity has seen is an interval ago
  have hdistance (time : ℚ) (hseen : s.SeenBy time) : time + interval ≤ s.now := by
    obtain ⟨last, hlast, hle⟩ := hseen
    unfold Pauses at hdue
    split at hdue
    · rw [hdue] at hlast
      cases hlast
    · have := hdue last hlast
      linarith
  refine ⟨?_, h.past, ?_, ?_, ?_, trivial, ?_, fun _ => rfl, ?_, ?_⟩
  · apply Paced.snoc h.paced
    intro time htime
    cases htime
    constructor
    · intro earlier hearlier
      exact hdistance earlier (h.attempt_seen hrunning hstarting hearlier)
    · intro number hstarted
      rcases h.started number false hstarted with ⟨time, hended⟩ | hrunning
      · exact ⟨time, hended, hdistance time (h.ended number time hended)⟩
      · rw [htask] at hrunning
        cases hrunning
  · intro _ time hattempt
    rcases List.mem_append.mp hattempt with hold | hnew
    · exact .inl (h.attempt_seen hrunning hstarting hold)
    · cases List.mem_singleton.mp hnew
      exact .inr rfl
  · intro number time hended
    rcases List.mem_append.mp hended with hold | hnew
    · exact h.ended number time hold
    · cases List.mem_singleton.mp hnew
  · intro number automatic hstarted
    rcases List.mem_append.mp hstarted with hold | hnew
    · rcases h.started number automatic hold with ⟨time, hended⟩ | hrunning
      · exact .inl ⟨time, List.mem_append_left _ hended⟩
      · exact .inr hrunning
    · cases List.mem_singleton.mp hnew
  · intro calledAt hcalled
    cases hcalled
    refine ⟨le_rfl, ?_⟩
    rintro (hleft | hheld)
    · exact absurd htask hleft
    · rw [hholder] at hheld
      cases hheld
  · intro hprobing
    cases hprobing
  · intro hheld
    exact htask

/-- An activity now sees everything before. -/
theorem Spaced.touch (h : Spaced interval s reports) (task : Option ImportTask)
    (holder : Option LockHolder) (loop : LoopPhase)
    (hloop : loop = s.loop ∨ (loop = .probing ∧ InStart s))
    (hholder : loop = .probing → holder = some .automaticStart)
    (hexclusive : holder = some .manualStart ∨ holder = some .automaticStart → task = none)
    (hstarted : ∀ number automatic, .started number automatic ∈ reports →
      (∃ time, .ended number time ∈ reports) ∨ task = some ⟨number, false⟩) :
    Spaced interval { s with
      lastActivity := some s.now, task := task, holder := holder, loop := loop } reports := by
  have hlater : InStart { s with
      lastActivity := some s.now, task := task, holder := holder, loop := loop } →
      s.firstRun = false := by
    intro hin
    rcases hloop with rfl | ⟨-, hstart⟩
    · exact h.later hin
    · exact h.later hstart
  refine ⟨h.paced, ?_, ?_, ?_, hstarted, ?_, ?_, hlater, hholder, hexclusive⟩
  · intro last hlast
    cases hlast
    exact le_rfl
  · intro hrunning time hattempt
    have hactive : s.loop ≠ .stopped := by
      rcases hloop with rfl | ⟨-, hstart⟩
      · exact hrunning
      · rcases hstart with ⟨calledAt, hphase⟩ | hphase | ⟨number, hphase⟩ <;> simp [hphase]
    exact .inl ⟨s.now, rfl, h.attempt_le hactive hattempt⟩
  · intro number time hended
    exact ⟨s.now, rfl, (h.ended number time hended).le_now h⟩
  · rcases hloop with rfl | ⟨rfl, -⟩
    · exact h.due
    · trivial
  · intro calledAt hcalled
    rcases hloop with rfl | ⟨rfl, -⟩
    · have hpast := (h.pending calledAt hcalled).1
      exact ⟨hpast, fun _ => ⟨s.now, rfl, hpast⟩⟩
    · cases hcalled

theorem Spaced.reportEnd (h : Spaced interval s reports) {number : ℕ} {time : ℚ}
    (hseen : s.SeenBy time) : Spaced interval s (reports ++ [.ended number time]) := by
  have hpaced : Paced interval (reports ++ [.ended number time]) :=
    Paced.snoc h.paced fun _ heq => by cases heq
  refine ⟨hpaced, h.past, ?_, ?_, ?_, h.due, h.pending, h.later, h.probing, h.exclusive⟩
  · intro hrunning earlier hattempt
    rcases List.mem_append.mp hattempt with hold | hnew
    · exact h.attempts hrunning earlier hold
    · cases List.mem_singleton.mp hnew
  · intro other earlier hended
    rcases List.mem_append.mp hended with hold | hnew
    · exact h.ended other earlier hold
    · cases List.mem_singleton.mp hnew
      exact hseen
  · intro other automatic hstarted
    rcases List.mem_append.mp hstarted with hold | hnew
    · rcases h.started other automatic hold with ⟨earlier, hended⟩ | hrunning
      · exact .inl ⟨earlier, List.mem_append_left _ hended⟩
      · exact .inr hrunning
    · cases List.mem_singleton.mp hnew

theorem Spaced.beginImport (h : Spaced interval s reports) (automatic : Bool)
    (hholder : s.holder = some .manualStart ∨ s.holder = some .automaticStart)
    (hmanual : automatic = false → s.holder = some .manualStart)
    (hautomatic : automatic = true → s.loop = .probing) :
    Spaced interval (s.beginImport automatic).1 (reports ++ (s.beginImport automatic).2) := by
  have htask := h.exclusive hholder
  have hpaced : Paced interval (reports ++ (s.beginImport automatic).2) :=
    Paced.snoc h.paced fun _ heq => by cases heq
  refine ⟨hpaced, h.past, ?_, ?_, ?_, ?_, ?_, ?_, ?_, ?_⟩
  · intro hrunning time hattempt
    rcases List.mem_append.mp hattempt with hold | hnew
    · cases automatic with
      | false => exact h.attempts hrunning time hold
      | true =>
        have hprobing := hautomatic rfl
        exact .inl (h.attempt_seen (by simp [hprobing]) (by simp [hprobing]) hold)
    · cases List.mem_singleton.mp hnew
  · intro number time hended
    rcases List.mem_append.mp hended with hold | hnew
    · exact h.ended number time hold
    · cases List.mem_singleton.mp hnew
  · intro number other hstarted
    rcases List.mem_append.mp hstarted with hold | hnew
    · rcases h.started number other hold with ⟨time, hended⟩ | hrunning
      · exact .inl ⟨time, List.mem_append_left _ hended⟩
      · rw [htask] at hrunning
        cases hrunning
    · cases List.mem_singleton.mp hnew
      exact .inr rfl
  · cases automatic with
    | false => exact h.due
    | true => trivial
  · intro calledAt hcalled
    cases automatic with
    | false =>
      obtain ⟨hpast, hseen⟩ := h.pending calledAt hcalled
      exact ⟨hpast, fun _ => hseen (.inr (hmanual rfl))⟩
    | true => cases hcalled
  · intro hin
    cases automatic with
    | false => exact h.later hin
    | true => exact h.later (.inr (.inl (hautomatic rfl)))
  · intro hprobing
    cases automatic with
    | false =>
      have hheld := h.probing hprobing
      rw [hmanual rfl] at hheld
      cases hheld
    | true => cases hprobing
  · rintro (hheld | hheld) <;> cases hheld

theorem Spaced.endTask (h : Spaced interval s reports) {task : ImportTask}
    (htask : s.task = some task) (hreported : ∃ time, .ended task.number time ∈ reports) :
    Spaced interval { s with task := some { task with ended := true } } reports := by
  refine ⟨h.paced, h.past, h.attempts, h.ended, ?_, h.due, ?_, h.later, h.probing, ?_⟩
  · intro number automatic hstarted
    rcases h.started number automatic hstarted with hover | hrunning
    · exact .inl hover
    · rw [htask] at hrunning
      cases hrunning
      exact .inl hreported
  · intro calledAt hcalled
    obtain ⟨hpast, hseen⟩ := h.pending calledAt hcalled
    exact ⟨hpast, fun _ => hseen (.inl (by simp [htask]))⟩
  · intro hheld
    rw [h.exclusive hheld] at htask
    cases htask

theorem Spaced.taskDone (h : Spaced interval s reports) {task : ImportTask}
    (htask : s.task = some task) (hended : task.ended = true) :
    Spaced interval { s with task := none } reports := by
  refine ⟨h.paced, h.past, h.attempts, h.ended, ?_, h.due, ?_, h.later, h.probing, fun _ => rfl⟩
  · intro number automatic hstarted
    rcases h.started number automatic hstarted with hover | hrunning
    · exact .inl hover
    · rw [htask] at hrunning
      cases hrunning
      cases hended
  · intro calledAt hcalled
    obtain ⟨hpast, hseen⟩ := h.pending calledAt hcalled
    refine ⟨hpast, ?_⟩
    rintro (hleft | hheld)
    · exact absurd rfl hleft
    · exact hseen (.inr hheld)

theorem Spaced.pause (h : Spaced interval s reports) (loop : LoopPhase)
    (hrunning : s.loop ≠ .stopped) (hstarting : ∀ calledAt, s.loop ≠ .starting calledAt)
    (hloop : (∃ wakeAt marker, loop = .sleeping wakeAt marker) ∨ ∃ marker, loop = .clearing marker)
    (hdue : IsDue interval { s with loop := loop }) :
    Spaced interval { s with loop := loop } reports := by
  refine ⟨h.paced, h.past, ?_, h.ended, h.started, hdue, ?_, ?_, ?_, h.exclusive⟩
  · exact fun _ time hattempt => .inl (h.attempt_seen hrunning hstarting hattempt)
  · intro calledAt hcalled
    rcases hloop with ⟨_, _, rfl⟩ | ⟨_, rfl⟩ <;> cases hcalled
  · rcases hloop with ⟨_, _, rfl⟩ | ⟨_, rfl⟩ <;>
      rintro (⟨calledAt, hcalled⟩ | hcalled | ⟨number, hcalled⟩) <;> cases hcalled
  · intro hprobing
    rcases hloop with ⟨_, _, rfl⟩ | ⟨_, rfl⟩ <;> cases hprobing

theorem Spaced.startLoop (h : Spaced interval s reports) (hactivity : s.lastActivity = none)
    (hreports : reports = []) :
    Spaced interval ({ s with firstRun := true }.beginRound schedule) reports := by
  subst hreports
  refine ⟨h.paced, h.past, ?_, h.ended, h.started, hactivity, ?_, ?_, ?_, h.exclusive⟩
  · intro _ time hattempt
    cases hattempt
  · intro calledAt hcalled
    cases hcalled
  · rintro (⟨calledAt, hcalled⟩ | hcalled | ⟨number, hcalled⟩) <;> cases hcalled
  · intro hprobing
    cases hprobing

theorem Spaced.nextRound (h : Spaced schedule.automaticInterval s reports) (hstart : InStart s)
    (hseen : ∀ time, .attempt time ∈ reports → s.SeenBy time) :
    Spaced schedule.automaticInterval ({ s with holder := none }.beginRound schedule) reports := by
  have hfirst := h.later hstart
  have hround := h.beginRound hseen none (by simp)
  rw [← hfirst] at hround
  exact hround

/-- Every step of a run that is undisturbed keeps the invariant. -/
theorem Spaced.act (h : Spaced schedule.automaticInterval s reports) {action : CameraAction}
    (hstart : action = .startLoop → s.lastActivity = none ∧ reports = [])
    (hclear : action = .clear → s.loop = .clearing s.lastActivity → s.task = none)
    (hact : s.act schedule action = some (s', out)) :
    Spaced schedule.automaticInterval s' (reports ++ out) := by
  cases action with
  | startLoop =>
    simp only [CameraImports.act] at hact
    split at hact
    · cases hact
      obtain ⟨hactivity, hreports⟩ := hstart rfl
      rw [List.append_nil]
      exact h.startLoop hactivity hreports
    · cases hact
  | stopLoop =>
    cases hact
    rw [List.append_nil]
    apply h.stop
    split
    · exact .inl rfl
    · exact .inr rfl
  | publish =>
    simp only [CameraImports.act] at hact
    split at hact
    · rename_i delay marker hloop
      split at hact
      · cases hact
        have hdue := h.due
        unfold IsDue at hdue
        rw [hloop] at hdue
        rw [List.append_nil]
        exact h.pause _ (by simp [hloop]) (by simp [hloop]) (.inl ⟨_, _, rfl⟩) hdue
      · cases hact
    · cases hact
  | wake =>
    simp only [CameraImports.act] at hact
    split at hact
    · rename_i wakeAt marker hloop
      split at hact
      · rename_i hlate
        cases hact
        have hdue := h.due
        unfold IsDue Pauses at hdue
        rw [hloop] at hdue
        rw [List.append_nil]
        refine h.pause _ (by simp [hloop]) (by simp [hloop]) (.inr ⟨_, rfl⟩) ?_
        unfold IsDue Pauses
        dsimp only at hdue ⊢
        split at hdue
        · rename_i hfirst
          rwa [if_pos hfirst]
        · rename_i hfirst
          rw [if_neg hfirst]
          exact fun last hlast => (hdue last hlast).trans hlate
      · cases hact
    · cases hact
  | clear =>
    simp only [CameraImports.act] at hact
    split at hact
    · rename_i marker hloop
      split at hact
      · rename_i hholder
        split at hact
        · cases hact
          rw [List.append_nil]
          have hseen (time : ℚ) (hattempt : .attempt time ∈ reports) : s.SeenBy time :=
            h.attempt_seen (by simp [hloop]) (by simp [hloop]) hattempt
          have hround := h.beginRound hseen s.holder h.exclusive
          exact hround
        · rename_i hsame
          cases hact
          have hmarker : s.lastActivity = marker := not_not.mp hsame
          rw [← hmarker] at hloop
          exact h.attempt hloop (hclear rfl hloop) hholder
      · cases hact
    · cases hact
  | lock =>
    simp only [CameraImports.act] at hact
    split at hact
    · rename_i calledAt hloop
      have hin : InStart s := .inl ⟨calledAt, hloop⟩
      split at hact
      · rename_i hholder
        split at hact
        · rename_i htask
          cases hact
          rw [List.append_nil]
          have hseen (time : ℚ) (hattempt : .attempt time ∈ reports) : s.SeenBy time := by
            rcases h.attempts (by simp [hloop]) time hattempt with hseen | hstarting
            · exact hseen
            · exact (h.pending time hstarting).2 (.inl (Option.isSome_iff_ne_none.mp htask))
          have hround := h.nextRound hin hseen
          rw [← hholder] at hround
          exact hround
        · rename_i htask
          cases hact
          rw [List.append_nil]
          have hnone : s.task = none := Option.not_isSome_iff_eq_none.mp htask
          exact h.touch s.task _ _ (.inr ⟨rfl, hin⟩) (fun _ => rfl) (fun _ => hnone) h.started
      · cases hact
    · cases hact
  | probed outcome =>
    simp only [CameraImports.act] at hact
    split at hact
    · rename_i hloop
      cases outcome with
      | started =>
        cases hact
        exact h.beginImport true (.inr (h.probing hloop)) (by simp) fun _ => hloop
      | refused =>
        cases hact
        rw [List.append_nil]
        exact h.nextRound (.inr (.inl hloop)) fun time hattempt =>
          h.attempt_seen (by simp [hloop]) (by simp [hloop]) hattempt
      | crashed =>
        cases hact
        rw [List.append_nil]
        exact h.stop none (.inl rfl)
    · cases hact
  | idle =>
    simp only [CameraImports.act] at hact
    split at hact
    · rename_i number hloop
      split at hact
      · rename_i hidle
        cases hact
        rw [List.append_nil]
        have hround := h.nextRound (.inr (.inr ⟨number, hloop⟩)) fun time hattempt =>
          h.attempt_seen (by simp [hloop]) (by simp [hloop]) hattempt
        rw [← hidle.1] at hround
        exact hround
      · cases hact
    · cases hact
  | manualStart =>
    simp only [CameraImports.act] at hact
    split at hact
    · rename_i hholder
      split at hact
      · cases hact
        rwa [List.append_nil]
      · rename_i htask
        cases hact
        rw [List.append_nil]
        have hnone : s.task = none := Option.not_isSome_iff_eq_none.mp htask
        refine h.touch s.task _ s.loop (.inl rfl) ?_ (fun _ => hnone) h.started
        intro hprobing
        rw [h.probing hprobing] at hholder
        cases hholder
    · cases hact
  | manualProbed outcome =>
    simp only [CameraImports.act] at hact
    split at hact
    · rename_i hholder
      have hidle : s.loop ≠ .probing := by
        intro hprobing
        rw [h.probing hprobing] at hholder
        cases hholder
      cases outcome with
      | started =>
        cases hact
        exact h.beginImport false (.inl hholder) (fun _ => hholder) (by simp)
      | refused | crashed =>
        cases hact
        rw [List.append_nil]
        exact h.hold none hidle (.inl rfl)
    · cases hact
  | importEnds =>
    simp only [CameraImports.act] at hact
    split at hact
    · rename_i task htask
      split at hact
      · cases hact
      · cases hact
        have htouched := h.touch s.task s.holder s.loop (.inl rfl) h.probing h.exclusive h.started
        have hreported := @Spaced.reportEnd _ _ _ htouched task.number _ ⟨s.now, rfl, le_rfl⟩
        exact hreported.endTask htask ⟨s.now, List.mem_append_right _ (List.mem_singleton_self _)⟩
    · cases hact
  | taskDone =>
    simp only [CameraImports.act] at hact
    split at hact
    · rename_i task htask
      split at hact
      · rename_i hended
        cases hact
        rw [List.append_nil]
        exact h.taskDone htask hended
      · cases hact
    · cases hact
  | snapshot =>
    simp only [CameraImports.act] at hact
    split at hact
    · rename_i hholder
      cases hact
      rw [List.append_nil]
      refine h.hold _ ?_ (.inr rfl)
      intro hprobing
      rw [h.probing hprobing] at hholder
      cases hholder
    · cases hact
  | snapshotDone =>
    simp only [CameraImports.act] at hact
    split at hact
    · rename_i hholder
      cases hact
      rw [List.append_nil]
      refine h.hold _ ?_ (.inl rfl)
      intro hprobing
      rw [h.probing hprobing] at hholder
      cases hholder
    · cases hact

end Steps
end CameraImports

open CameraImports

section Runs
variable {schedule : ImportSchedule}

theorem spaced_run {s : CameraImports × List CameraReport}
    {trace : List (CameraStep × List CameraReport)}
    (h : ((cameraImports schedule).recording.restrict Undisturbed).Run trace s) :
    Spaced schedule.automaticInterval s.1 s.2 := by
  refine h.reachable.invariant (P := fun s => Spaced schedule.automaticInterval s.1 s.2) ?_ ?_
  · rintro ⟨s, reports⟩ ⟨⟨now, hs⟩, hreports⟩
    cases hs
    cases hreports
    refine ⟨?_, by simp, fun hrunning => absurd rfl hrunning, by simp, by simp, trivial, ?_, ?_, ?_,
      fun _ => rfl⟩
    · intro before time after hsplit
      simp at hsplit
    · intro calledAt hcalled
      cases hcalled
    · rintro (⟨calledAt, hcalled⟩ | hcalled | ⟨number, hcalled⟩) <;> cases hcalled
    · intro hprobing
      cases hprobing
  · rintro ⟨s, reports⟩ e ⟨s', reports'⟩ out hspaced ⟨⟨hstart, hclear⟩, hstep, hreports⟩
    have hreports : reports' = reports ++ out := hreports
    subst hreports
    have hstep : s.step schedule e = some (s', out) := hstep
    unfold CameraImports.step at hstep
    split at hstep
    · rename_i hnow
      exact (hspaced.advance hnow).act hstart hclear hstep
    · cases hstep

/-- While the loop is started once, before any import, and never makes an attempt over an import
task that is left, all its attempts are an interval apart, and no manual import is in progress or
ended less than an interval ago at any of them. -/
theorem attempts_paced {s : CameraImports × List CameraReport}
    {trace : List (CameraStep × List CameraReport)}
    (h : ((cameraImports schedule).recording.restrict Undisturbed).Run trace s) :
    Paced schedule.automaticInterval (Machine.outputs trace) := by
  have hrecorded := (h.of_restrict).recorded
  rw [← hrecorded]
  exact (spaced_run h).paced

end Runs

instance (s : CameraImports × List CameraReport) (e : CameraStep) : Decidable (Undisturbed s e) :=
  inferInstanceAs (Decidable (_ ∧ _))

def everyTenSeconds : ImportSchedule where
  automaticInterval := 10
  automaticInitialDelay := 1
  interval_pos := by norm_num
  initialDelay_nonneg := by norm_num

private def fresh : CameraImports := { now := 0 }

/-- A refused attempt, and a later one whose import ends before a manual one. -/
private def quietDay : List CameraStep :=
  [CameraStep.mk 0 .startLoop, ⟨0, .publish⟩, ⟨1, .wake⟩, ⟨1, .clear⟩, ⟨1, .lock⟩,
    ⟨2, .probed .refused⟩, ⟨2, .publish⟩, ⟨11, .wake⟩, ⟨11, .clear⟩, ⟨11, .lock⟩,
    ⟨12, .probed .started⟩, ⟨14, .importEnds⟩, ⟨14, .taskDone⟩, ⟨14, .idle⟩, ⟨14, .publish⟩,
    ⟨15, .manualStart⟩, ⟨16, .manualProbed .started⟩, ⟨18, .importEnds⟩, ⟨18, .taskDone⟩,
    ⟨24, .wake⟩, ⟨24, .clear⟩, ⟨24, .publish⟩, ⟨28, .wake⟩, ⟨28, .clear⟩]

theorem attempts_paced_quietDay : ∃ trace : List (CameraStep × List CameraReport),
    Machine.outputs trace = [.attempt 1, .attempt 11, .started 0 true, .ended 0 14,
      .started 1 false, .ended 1 18, .attempt 28] ∧
    Paced everyTenSeconds.automaticInterval (Machine.outputs trace) := by
  have hexec : ((Machine.execute (Machine.recorded (CameraImports.step everyTenSeconds)) Undisturbed
      (fresh, []) quietDay).any fun last => decide (Machine.outputs last.2 =
        [CameraReport.attempt 1, .attempt 11, .started 0 true, .ended 0 14, .started 1 false,
          .ended 1 18, .attempt 28])) = true := by
    decide +kernel
  obtain ⟨last, hlast, houtputs⟩ := (Option.any_eq_true ..).mp hexec
  have hinit : (cameraImports everyTenSeconds).recording.Initial (fresh, []) := ⟨⟨0, rfl⟩, rfl⟩
  have hrun := Machine.run_of_execute hinit (Machine.recording_step id) hlast
  exact ⟨last.2, of_decide_eq_true houtputs, attempts_paced hrun⟩

/-- A manual import takes longer than the interval. -/
private def longImport : List CameraStep :=
  [CameraStep.mk 0 .startLoop, ⟨0, .publish⟩, ⟨0, .manualStart⟩, ⟨0, .manualProbed .started⟩,
    ⟨1, .wake⟩, ⟨1, .clear⟩, ⟨1, .publish⟩, ⟨10, .wake⟩, ⟨10, .clear⟩, ⟨10, .lock⟩,
    ⟨10, .publish⟩, ⟨10, .wake⟩, ⟨10, .clear⟩]

/-- While it runs the loop tries to start an import again and again, without any delay. -/
theorem attempts_without_delay : ∃ trace s, (cameraImports everyTenSeconds).Run trace s ∧
    Machine.outputs trace = [.started 0 false, .attempt 10, .attempt 10] ∧
    ¬ Paced everyTenSeconds.automaticInterval (Machine.outputs trace) := by
  have hexec : ((Machine.execute (CameraImports.step everyTenSeconds) (fun _ _ => True) fresh
      longImport).any fun last => decide (Machine.outputs last.2 =
        [CameraReport.started 0 false, .attempt 10, .attempt 10])) = true := by
    decide +kernel
  obtain ⟨last, hlast, houtputs⟩ := (Option.any_eq_true ..).mp hexec
  have houtputs := of_decide_eq_true houtputs
  have hrun := (Machine.run_of_execute (M := cameraImports everyTenSeconds) ⟨0, rfl⟩ id
    hlast).of_restrict
  refine ⟨last.2, last.1, hrun, houtputs, ?_⟩
  intro hpaced
  rw [houtputs] at hpaced
  have hsecond := hpaced [CameraReport.started 0 false, .attempt 10] 10 [] rfl
  exact absurd (hsecond.attempts 10 (by simp)) (by decide +kernel)

end CitPhysicalXR.Camera
