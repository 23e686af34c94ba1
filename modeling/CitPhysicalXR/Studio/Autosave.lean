import CitPhysicalXR.Foundation.Execution
import Mathlib.Data.List.Range

/-! The autosaver of the Studio: edits that wait for a save, and the one save that is in flight. -/
namespace CitPhysicalXR.Studio
open Foundation

inductive SaveState where
  | idle | unsaved | saving | saved | failed
  deriving DecidableEq

/-- A document as it was passed to `change`, with the number of the call. -/
structure Edit (T : Type) where
  number : ℕ
  document : T
  deriving DecidableEq

structure Autosave (T : Type) where
  pending : Option (Edit T)
  handle : Option ℕ
  inFlight : Bool
  stopped : Bool
  writes : List (Edit T)
  changes : ℕ
  timers : List ℕ
  nextHandle : ℕ

inductive AutosaveEvent (T : Type) where
  | change (document : T)
  | timerFired (handle : ℕ)
  | flushNow
  /-- The save of the edit with this number resolves, or rejects. -/
  | completed (number : ℕ) (isRejected : Bool)
  | stop

inductive AutosaveOutput (T : Type) where
  | onState (state : SaveState)
  | submitted (edit : Edit T)
  | saving (edit : Edit T)
  | saved (edit : Edit T)

namespace Autosave
variable {T : Type}

def initial : Autosave T where
  pending := none
  handle := none
  inFlight := false
  stopped := false
  writes := []
  changes := 0
  timers := []
  nextHandle := 1

variable (s : Autosave T)

def clearTimeout : Autosave T :=
  match s.handle with
  | none => s
  | some handle => { s with timers := s.timers.filter (· ≠ handle), handle := none }

def arm : Autosave T :=
  let cleared := s.clearTimeout
  { cleared with
    handle := some s.nextHandle
    timers := cleared.timers ++ [s.nextHandle]
    nextHandle := s.nextHandle + 1 }

/-- `write` up to its save. -/
def write : Autosave T × List (AutosaveOutput T) :=
  if s.inFlight || s.stopped then (s, [])
  else
    match s.pending with
    | none => (s, [])
    | some edit =>
      ({ s with pending := none, inFlight := true, writes := edit :: s.writes },
        [.onState .saving, .saving edit])

def change (document : T) : Autosave T × List (AutosaveOutput T) :=
  if s.stopped then (s, [])
  else
    let edit : Edit T := ⟨s.changes, document⟩
    ({ s with pending := some edit, changes := s.changes + 1 }.arm,
      [.submitted edit, .onState .unsaved])

/-- `write` behind its save, when that resolved. -/
def succeed : Autosave T × List (AutosaveOutput T) :=
  let idle := { s with inFlight := false }
  if s.stopped then (idle, [])
  else
    let rearmed := if s.pending.isSome ∧ s.handle = none then idle.arm else idle
    (rearmed, [.onState (if s.pending.isNone then .saved else .unsaved)])

/-- `write` behind its save, when that rejected. -/
def fail (edit : Edit T) : Autosave T × List (AutosaveOutput T) :=
  if s.stopped then ({ s with inFlight := false }, [])
  else ({ s with pending := some edit, inFlight := false }, [.onState .failed])

def stop : Autosave T :=
  { s with stopped := true, pending := none }.clearTimeout

def step : AutosaveEvent T → Option (Autosave T × List (AutosaveOutput T))
  | .change document => some (s.change document)
  | .timerFired handle =>
    if handle ∈ s.timers then
      some { s with timers := s.timers.filter (· ≠ handle), handle := none }.write
    else none
  | .flushNow => some s.clearTimeout.write
  | .completed number isRejected =>
    match s.writes.find? (·.number = number) with
    | none => none
    | some edit =>
      let resumed := { s with writes := s.writes.filter (·.number ≠ number) }
      if isRejected then some (resumed.fail edit)
      else
        let (after, states) := resumed.succeed
        some (after, .saved edit :: states)
  | .stop => some (s.stop, [])

end Autosave

/-- The autosaver under any order of edits, timers, flushes and completions. -/
def autosave (T : Type) : Machine (Autosave T) (AutosaveEvent T) (AutosaveOutput T) where
  Initial s := s = .initial
  Step s e s' out := s.step e = some (s', out)

abbrev AutosaveTrace (T : Type) := List (AutosaveEvent T × List (AutosaveOutput T))

def AutosaveOutput.submitted? {T : Type} : AutosaveOutput T → Option (Edit T)
  | .submitted edit => some edit
  | _ => none

def AutosaveOutput.saved? {T : Type} : AutosaveOutput T → Option (Edit T)
  | .saved edit => some edit
  | _ => none

section
variable {T : Type}

/-- The documents that were passed to the autosaver. -/
def edits (trace : AutosaveTrace T) : List (Edit T) :=
  (Machine.outputs trace).filterMap (·.submitted?)

/-- The documents that were saved successfully. -/
def saves (trace : AutosaveTrace T) : List (Edit T) :=
  (Machine.outputs trace).filterMap (·.saved?)

theorem edits_snoc (trace : AutosaveTrace T) (e : AutosaveEvent T)
    (out : List (AutosaveOutput T)) :
    edits (trace ++ [(e, out)]) = edits trace ++ out.filterMap (·.submitted?) := by
  simp [edits]

theorem saves_snoc (trace : AutosaveTrace T) (e : AutosaveEvent T)
    (out : List (AutosaveOutput T)) :
    saves (trace ++ [(e, out)]) = saves trace ++ out.filterMap (·.saved?) := by
  simp [saves]

/-- The newest document is pending, being saved or the last one saved; one save is in flight at
most; and none starts while a newer document is unsaved. -/
structure KeepsEdits (trace : AutosaveTrace T) (s : Autosave T) : Prop where
  newest : s.stopped = false → ∀ edit, (edits trace).getLast? = some edit →
    s.pending = some edit ∨ edit ∈ s.writes ∨ (saves trace).getLast? = some edit
  single : s.writes.length ≤ 1
  forward : ∀ before event out after, trace = before ++ (event, out) :: after →
    ∀ edit, AutosaveOutput.saving edit ∈ out → ∀ newer ∈ edits before, edit.number < newer.number →
      newer ∈ saves before

/-- What a step does to the documents. -/
inductive SaveEffect (s s' : Autosave T) (e : AutosaveEvent T) : List (AutosaveOutput T) → Prop
  | kept (states : List SaveState) (hpending : s'.pending = s.pending)
      (hflight : s'.inFlight = s.inFlight) (hwrites : s'.writes = s.writes)
      (hstopped : s'.stopped = s.stopped) (hchanges : s'.changes = s.changes) :
      SaveEffect s s' e (states.map .onState)
  | submitted {edit : Edit T} (hactive : s.stopped = false) (hnumber : edit.number = s.changes)
      (hpending : s'.pending = some edit) (hflight : s'.inFlight = s.inFlight)
      (hwrites : s'.writes = s.writes) (hstopped : s'.stopped = s.stopped)
      (hchanges : s'.changes = s.changes + 1) :
      SaveEffect s s' e [.submitted edit, .onState .unsaved]
  | saving {edit : Edit T} (hactive : s.stopped = false) (hidle : s.inFlight = false)
      (hedit : s.pending = some edit) (hpending : s'.pending = none)
      (hflight : s'.inFlight = true) (hwrites : s'.writes = edit :: s.writes)
      (hstopped : s'.stopped = false) (hchanges : s'.changes = s.changes) :
      SaveEffect s s' e [.onState .saving, .saving edit]
  | saved {number : ℕ} {edit : Edit T} (states : List SaveState)
      (hedit : s.writes.find? (·.number = number) = some edit)
      (hpending : s'.pending = s.pending) (hflight : s'.inFlight = false)
      (hwrites : s'.writes = s.writes.filter (·.number ≠ number))
      (hstopped : s'.stopped = s.stopped) (hchanges : s'.changes = s.changes) :
      SaveEffect s s' e (.saved edit :: states.map .onState)
  | failed {number : ℕ} {edit : Edit T} (states : List SaveState)
      (he : e = .completed number true)
      (hedit : s.writes.find? (·.number = number) = some edit)
      (hpending : s.stopped = false → s'.pending = some edit) (hflight : s'.inFlight = false)
      (hwrites : s'.writes = s.writes.filter (·.number ≠ number))
      (hstopped : s'.stopped = s.stopped) (hchanges : s'.changes = s.changes) :
      SaveEffect s s' e (states.map .onState)
  | stopped (hstopped : s'.stopped = true) (hflight : s'.inFlight = s.inFlight)
      (hwrites : s'.writes = s.writes) (hchanges : s'.changes = s.changes) : SaveEffect s s' e []

namespace SaveEffect
variable {s s' : Autosave T} {e : AutosaveEvent T} {out : List (AutosaveOutput T)}

theorem of_write {before : Autosave T} (hpending : before.pending = s.pending)
    (hflight : before.inFlight = s.inFlight) (hwrites : before.writes = s.writes)
    (hstopped : before.stopped = s.stopped) (hchanges : before.changes = s.changes)
    (h : before.write = (s', out)) : SaveEffect s s' e out := by
  unfold Autosave.write at h
  split at h
  · cases h
    exact .kept [] hpending hflight hwrites hstopped hchanges
  · rename_i hfree
    rw [Bool.not_eq_true, Bool.or_eq_false_iff] at hfree
    obtain ⟨hidle, hactive⟩ := hfree
    split at h
    · cases h
      exact .kept [] hpending hflight hwrites hstopped hchanges
    · rename_i edit hedit
      cases h
      refine .saving (hstopped ▸ hactive) (hflight ▸ hidle) (hpending ▸ hedit) rfl rfl ?_ hactive
        hchanges
      show edit :: before.writes = edit :: s.writes
      rw [hwrites]

theorem clearTimeout_documents (s : Autosave T) : s.clearTimeout.pending = s.pending ∧
    s.clearTimeout.inFlight = s.inFlight ∧ s.clearTimeout.writes = s.writes ∧
    s.clearTimeout.stopped = s.stopped ∧ s.clearTimeout.changes = s.changes := by
  unfold Autosave.clearTimeout
  split <;> exact ⟨rfl, rfl, rfl, rfl, rfl⟩

theorem arm_documents (s : Autosave T) : s.arm.pending = s.pending ∧
    s.arm.inFlight = s.inFlight ∧ s.arm.writes = s.writes ∧
    s.arm.stopped = s.stopped ∧ s.arm.changes = s.changes := by
  unfold Autosave.arm
  exact clearTimeout_documents s

theorem of_step (h : s.step e = some (s', out)) : SaveEffect s s' e out := by
  cases e with
  | change document =>
    simp only [Autosave.step, Autosave.change, Option.some.injEq] at h
    split at h
    · cases h
      exact .kept [] rfl rfl rfl rfl rfl
    · rename_i hactive
      cases h
      obtain ⟨hpending, hflight, hwrites, hstopped, hchanges⟩ := arm_documents
        { s with pending := some ⟨s.changes, document⟩, changes := s.changes + 1 }
      exact .submitted (by simpa using hactive) rfl hpending hflight hwrites hstopped hchanges
  | timerFired handle =>
    simp only [Autosave.step] at h
    split at h
    · refine of_write ?_ ?_ ?_ ?_ ?_ (Option.some.inj h) <;> rfl
    · cases h
  | flushNow =>
    obtain ⟨hpending, hflight, hwrites, hstopped, hchanges⟩ := clearTimeout_documents s
    exact of_write hpending hflight hwrites hstopped hchanges (Option.some.inj h)
  | completed number isRejected =>
    simp only [Autosave.step] at h
    split at h
    · cases h
    · rename_i edit hedit
      cases isRejected with
      | true =>
        simp only [if_true, Autosave.fail, Option.some.injEq] at h
        split at h
        · rename_i hstopped
          cases h
          have hnever : s.stopped = false → s.pending = some edit := by
            intro hactive
            rw [hactive] at hstopped
            cases hstopped
          exact .failed [] rfl hedit hnever rfl rfl rfl rfl
        · cases h
          exact .failed [.failed] rfl hedit (fun _ => rfl) rfl rfl rfl rfl
      | false =>
        simp only [Bool.false_eq_true, if_false, Autosave.succeed] at h
        split at h
        · cases h
          exact .saved [] hedit rfl rfl rfl rfl rfl
        · cases h
          split
          · obtain ⟨hpending, hflight, hwrites, hstopped, hchanges⟩ := arm_documents
              { s with writes := s.writes.filter (·.number ≠ number), inFlight := false }
            exact .saved [_] hedit hpending hflight hwrites hstopped hchanges
          · exact .saved [_] hedit rfl rfl rfl rfl rfl
  | stop =>
    cases h
    obtain ⟨_, hflight, hwrites, hstopped, hchanges⟩ := clearTimeout_documents
      { s with stopped := true, pending := none }
    exact .stopped hstopped hflight hwrites hchanges

end SaveEffect

/-- A save is rejected only while no newer document is pending. -/
def Autosave.mayComplete (s : Autosave T) : AutosaveEvent T → Bool
  | .completed _ true => s.stopped || s.pending.isNone
  | _ => true

/-- Where the newest document is, and what is in flight. -/
structure Current (trace : AutosaveTrace T) (s : Autosave T) : Prop where
  numbers : (edits trace).map (·.number) = List.range s.changes
  flight : s.inFlight = false → s.writes = []
  single : s.writes.length ≤ 1
  pending : s.stopped = false → ∀ edit, s.pending = some edit →
    (edits trace).getLast? = some edit
  written : s.stopped = false → s.pending = none → ∀ edit ∈ s.writes,
    (edits trace).getLast? = some edit
  saved : s.stopped = false → s.pending = none → s.writes = [] →
    (edits trace).getLast? = (saves trace).getLast?

namespace Current
variable {trace : AutosaveTrace T} {s s' : Autosave T} {e : AutosaveEvent T}
  {out : List (AutosaveOutput T)}

theorem no_edits (states : List SaveState) :
    (states.map (AutosaveOutput.onState (T := T))).filterMap (·.submitted?) = [] ∧
      (states.map (AutosaveOutput.onState (T := T))).filterMap (·.saved?) = [] := by
  constructor <;> simp [AutosaveOutput.submitted?, AutosaveOutput.saved?]

theorem init : Current [] (Autosave.initial : Autosave T) := by
  constructor <;> simp [edits, saves, Autosave.initial]

theorem writes_eq (h : Current trace s) {number : ℕ} {edit : Edit T}
    (hedit : s.writes.find? (·.number = number) = some edit) :
    s.writes = [edit] ∧ s.writes.filter (·.number ≠ number) = [] := by
  have hmem := List.mem_of_find?_eq_some hedit
  have hnumber := List.find?_some hedit
  have hsingle := h.single
  match hwrites : s.writes with
  | [] =>
    rw [hwrites] at hmem
    cases hmem
  | [only] =>
    rw [hwrites] at hmem
    obtain rfl := List.mem_singleton.mp hmem
    rw [decide_eq_true_eq] at hnumber
    simp [hnumber]
  | _ :: _ :: _ =>
    rw [hwrites] at hsingle
    simp at hsingle

theorem step (h : Current trace s) (hmay : s.mayComplete e = true)
    (hstep : s.step e = some (s', out)) : Current (trace ++ [(e, out)]) s' := by
  have heffect := SaveEffect.of_step hstep
  cases heffect with
  | @kept states hpending hflight hwrites hstopped hchanges =>
    obtain ⟨hnone, hnone'⟩ := no_edits (T := T) states
    have hedits : edits (trace ++ [(e, states.map .onState)]) = edits trace := by
      rw [edits_snoc, hnone, List.append_nil]
    have hsaves : saves (trace ++ [(e, states.map .onState)]) = saves trace := by
      rw [saves_snoc, hnone', List.append_nil]
    constructor
    · rw [hedits, hchanges]
      exact h.numbers
    · rw [hflight, hwrites]
      exact h.flight
    · rw [hwrites]
      exact h.single
    · rw [hedits, hstopped, hpending]
      exact h.pending
    · rw [hedits, hstopped, hpending, hwrites]
      exact h.written
    · rw [hedits, hsaves, hstopped, hpending, hwrites]
      exact h.saved
  | @submitted edit hactive hnumber hpending hflight hwrites hstopped hchanges =>
    have hedits : edits (trace ++ [(e, [AutosaveOutput.submitted edit, .onState .unsaved])]) =
        edits trace ++ [edit] := edits_snoc ..
    constructor
    · rw [hedits, hchanges, List.map_append, h.numbers, List.range_succ, ← hnumber]
      rfl
    · rw [hflight, hwrites]
      exact h.flight
    · rw [hwrites]
      exact h.single
    · intro _ other hother
      rw [hpending] at hother
      rw [hedits, List.getLast?_concat]
      exact hother
    · intro _ hnone
      rw [hpending] at hnone
      cases hnone
    · intro _ hnone
      rw [hpending] at hnone
      cases hnone
  | @saving edit hactive hidle hedit hpending hflight hwrites hstopped hchanges =>
    have hedits : edits (trace ++ [(e, [AutosaveOutput.onState .saving, .saving edit])]) =
        edits trace := by
      rw [edits_snoc]
      exact List.append_nil _
    rw [h.flight hidle] at hwrites
    constructor
    · rw [hedits, hchanges]
      exact h.numbers
    · rw [hflight]
      intro hcontra
      cases hcontra
    · rw [hwrites]
      exact le_rfl
    · intro _ other hother
      rw [hpending] at hother
      cases hother
    · intro _ _ other hother
      rw [hwrites] at hother
      obtain rfl := List.mem_singleton.mp hother
      rw [hedits]
      exact h.pending hactive other hedit
    · intro _ _ hnone
      rw [hwrites] at hnone
      cases hnone
  | @saved number edit states hedit hpending hflight hwrites hstopped hchanges =>
    obtain ⟨hbefore, hafter⟩ := h.writes_eq hedit
    rw [hafter] at hwrites
    obtain ⟨hnone, hnone'⟩ := no_edits (T := T) states
    have hedits : edits (trace ++ [(e, AutosaveOutput.saved edit :: states.map .onState)]) =
        edits trace := by
      rw [edits_snoc, List.filterMap_cons_none rfl, hnone, List.append_nil]
    have hfirst : (AutosaveOutput.saved edit).saved? = some edit := rfl
    have hsaves : saves (trace ++ [(e, AutosaveOutput.saved edit :: states.map .onState)]) =
        saves trace ++ [edit] := by
      rw [saves_snoc, List.filterMap_cons_some hfirst, hnone']
    constructor
    · rw [hedits, hchanges]
      exact h.numbers
    · intro _
      exact hwrites
    · rw [hwrites]
      exact Nat.zero_le _
    · rw [hedits, hstopped, hpending]
      exact h.pending
    · intro _ _ other hother
      rw [hwrites] at hother
      cases hother
    · intro hactive hidle _
      rw [hstopped] at hactive
      rw [hpending] at hidle
      have hnewest := h.written hactive hidle edit (by rw [hbefore]; exact List.mem_singleton_self _)
      rw [hedits, hsaves, List.getLast?_concat, hnewest]
  | @failed number edit states he hedit hpending hflight hwrites hstopped hchanges =>
    obtain ⟨hbefore, hafter⟩ := h.writes_eq hedit
    rw [hafter] at hwrites
    obtain ⟨hnone, _⟩ := no_edits (T := T) states
    have hedits : edits (trace ++ [(e, states.map .onState)]) = edits trace := by
      rw [edits_snoc, hnone, List.append_nil]
    subst he
    have hclear : s.stopped = false → s.pending = none := by
      intro hactive
      unfold Autosave.mayComplete at hmay
      rw [hactive, Bool.false_or] at hmay
      exact Option.isNone_iff_eq_none.mp hmay
    constructor
    · rw [hedits, hchanges]
      exact h.numbers
    · intro _
      exact hwrites
    · rw [hwrites]
      exact Nat.zero_le _
    · intro hactive other hother
      rw [hstopped] at hactive
      rw [hpending hactive] at hother
      obtain rfl := Option.some.inj hother
      rw [hedits]
      exact h.written hactive (hclear hactive) edit (by rw [hbefore]; exact List.mem_singleton_self _)
    · intro hactive hidle
      rw [hstopped] at hactive
      rw [hpending hactive] at hidle
      cases hidle
    · intro hactive hidle
      rw [hstopped] at hactive
      rw [hpending hactive] at hidle
      cases hidle
  | stopped hstopped hflight hwrites hchanges =>
    have hedits : edits (trace ++ [(e, [])]) = edits trace := by
      rw [edits_snoc]
      exact List.append_nil _
    have hnever : s'.stopped ≠ false := by
      rw [hstopped]
      decide
    constructor
    · rw [hedits, hchanges]
      exact h.numbers
    · rw [hflight, hwrites]
      exact h.flight
    · rw [hwrites]
      exact h.single
    · intro hactive
      exact absurd hactive hnever
    · intro hactive
      exact absurd hactive hnever
    · intro hactive
      exact absurd hactive hnever

theorem saves_newest (h : Current trace s) (hstep : s.step e = some (s', out)) {edit : Edit T}
    (hedit : AutosaveOutput.saving edit ∈ out) : ∀ newer ∈ edits trace, newer.number ≤ edit.number := by
  have heffect := SaveEffect.of_step hstep
  cases heffect with
  | kept _ _ _ _ _ _ => simp at hedit
  | submitted _ _ _ _ _ _ _ => simp at hedit
  | @saving started hactive _ hstarted _ _ _ _ _ =>
    obtain rfl : edit = started := by simpa using hedit
    have hlast := h.pending hactive edit hstarted
    obtain ⟨earlier, hsplit⟩ := List.getLast?_eq_some_iff.mp hlast
    have hnumbers := h.numbers
    intro newer hnewer
    have hbound : newer.number ∈ List.range s.changes := by
      rw [← hnumbers]
      exact List.mem_map_of_mem hnewer
    have hlength : s.changes = earlier.length + 1 := by
      have hcount := congrArg List.length hnumbers
      rw [hsplit] at hcount
      simpa using hcount.symm
    have hnumber : edit.number = earlier.length := by
      have hget := congrArg List.getLast? hnumbers
      rw [hsplit, hlength, List.range_succ, List.map_append, List.map_singleton,
        List.getLast?_concat, List.getLast?_concat] at hget
      exact Option.some.inj hget
    have hlt := List.mem_range.mp hbound
    omega
  | saved _ _ _ _ _ _ _ => simp at hedit
  | failed _ _ _ _ _ _ _ _ => simp at hedit
  | stopped _ _ _ _ => cases hedit

end Current

/-- In every run in which a save is rejected only while no newer document is pending, the newest
document is kept. -/
theorem autosave_keeps_newest {trace : AutosaveTrace T} {s : Autosave T}
    (h : ((autosave T).restrict fun s e => s.mayComplete e = true).Run trace s) :
    KeepsEdits trace s := by
  have hcurrent {trace : AutosaveTrace T} {s : Autosave T}
      (h : ((autosave T).restrict fun s e => s.mayComplete e = true).Run trace s) :
      Current trace s := by
    refine h.induct ?_ ?_
    · rintro s rfl
      exact Current.init
    · rintro trace s e s' out _ h ⟨hmay, hstep⟩
      exact h.step hmay hstep
  have hlast := hcurrent h
  refine ⟨?_, hlast.single, ?_⟩
  · intro hactive edit hnewest
    cases hpending : s.pending with
    | some other =>
      rw [hlast.pending hactive other hpending] at hnewest
      exact .inl hnewest
    | none =>
      match hwrites : s.writes with
      | [] =>
        rw [hlast.saved hactive hpending hwrites] at hnewest
        exact .inr (.inr hnewest)
      | other :: rest =>
        have hmem : other ∈ s.writes := by
          rw [hwrites]
          exact List.mem_cons_self ..
        rw [hlast.written hactive hpending other hmem] at hnewest
        obtain rfl := Option.some.inj hnewest
        exact .inr (.inl (List.mem_cons_self ..))
  · refine h.induct (P := fun trace _ => ∀ before event out after,
      trace = before ++ (event, out) :: after → ∀ edit, AutosaveOutput.saving edit ∈ out →
        ∀ newer ∈ edits before, edit.number < newer.number → newer ∈ saves before) ?_ ?_
    · intro _ _ before event out after hsplit
      simp at hsplit
    · intro trace s e s' out hrun ih hstep before event out' after hsplit edit hedit newer hnewer hlt
      rcases List.eq_nil_or_concat after with rfl | ⟨earlier, last, rfl⟩
      · obtain ⟨rfl, hend⟩ := List.append_inj' hsplit rfl
        obtain ⟨rfl, rfl⟩ := Prod.mk.inj (List.singleton_inj.mp hend)
        have hle := (hcurrent hrun).saves_newest hstep.2 hedit newer hnewer
        omega
      · have hinit : trace = before ++ (event, out') :: earlier := by
          rw [List.concat_eq_append, ← List.cons_append, ← List.append_assoc] at hsplit
          exact (List.append_inj' hsplit rfl).1
        exact ih before event out' earlier hinit edit hedit newer hnewer hlt

end

namespace AutosaveLesson

/-- An edit arrives while the first version is being written. -/
def editWhileSaving : List (AutosaveEvent String) :=
  [.change "v1", .timerFired 1, .change "v2"]

end AutosaveLesson

/-- The save of the first version fails: it is pending again, the second version is forgotten, and
its timer writes the first one. -/
theorem rejected_save_reverts : ∃ trace s, (autosave String).Run trace s ∧
    s.stopped = false ∧ ¬KeepsEdits trace s := by
  have hexec : ((Machine.execute Autosave.step (fun _ _ => True) (.initial : Autosave String)
      (AutosaveLesson.editWhileSaving ++ [AutosaveEvent.completed 0 true, .timerFired 2])).any fun last =>
        decide (last.1.stopped = false ∧ last.1.pending = none ∧ last.1.writes = [⟨0, "v1"⟩] ∧
          (edits last.2).getLast? = some ⟨1, "v2"⟩ ∧ saves last.2 = [])) = true := by
    decide
  obtain ⟨last, hlast, hend⟩ := (Option.any_eq_true ..).mp hexec
  obtain ⟨hactive, hpending, hwrites, hnewest, hsaves⟩ := of_decide_eq_true hend
  have hrun := (Machine.run_of_execute (M := autosave String) rfl id hlast).of_restrict
  refine ⟨_, _, hrun, hactive, ?_⟩
  intro hkeeps
  rcases hkeeps.newest hactive _ hnewest with hlost | hlost | hlost
  · rw [hpending] at hlost
    cases hlost
  · rw [hwrites] at hlost
    revert hlost
    decide
  · rw [hsaves] at hlost
    cases hlost

/-- Both versions are written if the first save succeeds. -/
theorem autosave_keeps_newest_edits : ∃ trace s,
    ((autosave String).restrict fun s e => s.mayComplete e = true).Run trace s ∧
      (saves trace).map (·.document) = ["v1", "v2"] ∧ KeepsEdits trace s := by
  have hexec : ((Machine.execute Autosave.step (fun s e => s.mayComplete e = true)
      (.initial : Autosave String) (AutosaveLesson.editWhileSaving ++
        [AutosaveEvent.completed 0 false, .timerFired 2, .completed 1 false])).any fun last =>
        decide ((saves last.2).map (·.document) = ["v1", "v2"])) = true := by
    decide
  obtain ⟨last, hlast, hend⟩ := (Option.any_eq_true ..).mp hexec
  have hrun := Machine.run_of_execute (M := autosave String) rfl id hlast
  exact ⟨_, _, hrun, of_decide_eq_true hend, autosave_keeps_newest hrun⟩

end CitPhysicalXR.Studio
