import CitPhysicalXR.Runtime.LaneSafety
import CitPhysicalXR.Runtime.StopFanOut
import Mathlib.Tactic.Linarith

/-! The poll of the watchdogs: which of those that fire are lost. -/
namespace CitPhysicalXR.Runtime
open Foundation

def WatchdogExpiry.key (expiry : WatchdogExpiry) : String × WatchdogKind :=
  (expiry.deviceId, expiry.kind)

theorem WatchdogKind.eq_of_disarm {kind : WatchdogKind} (h : kind.action = .disarm) :
    kind = .questDeadmanHeartbeat := by
  cases kind <;> first | rfl | cases h

namespace SafetySupervisor
variable {s : SafetySupervisor} {now : ℚ}

def Due (s : SafetySupervisor) (now : ℚ) (key : String × WatchdogKind) : Prop :=
  ∃ expiry ∈ s.expiredWatchdogs now, expiry.key = key

theorem mem_expiredWatchdogs {expiry : WatchdogExpiry} (h : expiry ∈ s.expiredWatchdogs now) :
    ∃ beat ∈ s.heartbeats, beat.key = expiry.key ∧ beat.kind.timeout < now - beat.lastSeen ∧
      expiry.action = expiry.kind.action := by
  obtain ⟨beat, hbeat, hexpiry⟩ := List.mem_filterMap.mp h
  refine ⟨beat, (List.mem_insertionSort _).mp hbeat, ?_⟩
  unfold expiry? at hexpiry
  split at hexpiry
  · cases hexpiry
  · rename_i hover
    cases hexpiry
    exact ⟨rfl, not_le.mp hover, rfl⟩

theorem timeout_nonneg (kind : WatchdogKind) : 0 ≤ kind.timeout := by
  cases kind <;> norm_num [WatchdogKind.timeout]

theorem not_due {key : String × WatchdogKind}
    (h : ∀ beat ∈ s.heartbeats, beat.key = key → now ≤ beat.lastSeen) : ¬ s.Due now key := by
  rintro ⟨expiry, hexpiry, rfl⟩
  obtain ⟨beat, hbeat, hkey, hover, _⟩ := mem_expiredWatchdogs hexpiry
  have hrecent := h beat hbeat hkey
  have htimeout := timeout_nonneg beat.kind
  linarith

theorem expiredWatchdogs_nodup : ((s.expiredWatchdogs now).map WatchdogExpiry.key).Nodup := by
  have hsorted : ((s.heartbeats.rows.insertionSort pollsBefore).map Heartbeat.key).Nodup :=
    ((List.perm_insertionSort _ _).map _).nodup_iff.mpr s.heartbeats.unique
  refine hsorted.sublist ?_
  unfold expiredWatchdogs
  generalize s.heartbeats.rows.insertionSort pollsBefore = beats
  induction beats with
  | nil => exact List.Sublist.refl _
  | cons beat beats ih =>
    cases hexpiry : expiry? now beat with
    | none =>
      rw [List.filterMap_cons_none hexpiry]
      exact ih.cons _
    | some expiry =>
      rw [List.filterMap_cons_some hexpiry, List.map_cons, List.map_cons]
      have hkey : expiry.key = beat.key := by
        unfold expiry? at hexpiry
        split at hexpiry
        · cases hexpiry
        · cases hexpiry
          rfl
      rw [hkey]
      exact ih.cons_cons _

end SafetySupervisor

namespace CommandPipeline
variable {p : CommandPipeline} {now : ℚ} {reply : WatchdogExpiry → StopReply now}
  {expiry : WatchdogExpiry}

/-- A fired watchdog has done its work: its device's stop has been called and, when it raised,
the watchdog is still due, or the device of a watchdog that disarms is disarmed. -/
structure Kept (now : ℚ) (last : CommandPipeline) (reports : List StopReport)
    (expiry : WatchdogExpiry) : Prop where
  stopped : expiry.action = .stop → ∃ returned,
    .called expiry.deviceId (watchdogReason expiry.kind) returned ∈ reports ∧
      (returned = false → last.supervisor.Due now expiry.key)
  disarmed : expiry.action = .disarm → .disarmed expiry.deviceId ∈ reports

/-- The device of a watchdog that stops it is registered, and its stop does not raise. -/
def Stoppable (reply : WatchdogExpiry → StopReply now) (expiry : WatchdogExpiry)
    (p : CommandPipeline) : Prop :=
  expiry.action = .stop →
    (p.devices.get? expiry.deviceId).isSome = true ∧ (reply expiry).raises = false

/-- Each of the watchdogs meets the condition when its turn comes. -/
def AllStoppable (reply : WatchdogExpiry → StopReply now) :
    List WatchdogExpiry → CommandPipeline → Prop
  | [], _ => True
  | expiry :: expiries, p =>
    Stoppable reply expiry p ∧ AllStoppable reply expiries (p.enforce reply expiry).1

theorem watchdogReason_injective : Function.Injective watchdogReason := by
  intro first second h
  cases first <;> cases second <;> first | rfl | exact absurd h (by decide)

section StopDevice
variable {deviceId reason : String} {answer : StopReply now} {last : CommandPipeline}
  {reports : List StopReport}

theorem discard_called {device : Option String} {cause target why : String} {returned : Bool} :
    .called target why returned ∉ (p.discard device cause).2 := by
  intro hmem
  obtain ⟨item, _, hitem⟩ := List.mem_map.mp hmem
  cases hitem

theorem stopDevice_returned (h : p.stopDevice deviceId reason answer = (last, reports, true)) :
    (p.devices.get? deviceId).isSome = true ∧ answer.raises = false ∧
      .called deviceId reason true ∈ reports := by
  simp only [stopDevice] at h
  split at h
  · cases h
  · rename_i hdevice
    split at h
    · cases h
    · rename_i hreturns
      cases h
      exact ⟨by rw [hdevice]; rfl, by simpa using hreturns, by simp⟩

theorem stopDevice_raised (h : p.stopDevice deviceId reason answer = (last, reports, false)) :
    ((p.devices.get? deviceId).isSome = true → answer.raises = true) ∧
      (∀ beat ∈ last.supervisor.heartbeats,
        beat ∈ p.supervisor.heartbeats ∨ now ≤ beat.lastSeen) ∧
      .called deviceId reason true ∉ reports := by
  simp only [stopDevice] at h
  split at h
  · rename_i hdevice
    cases h
    exact ⟨by simp [hdevice], fun _ hbeat => .inl hbeat, discard_called⟩
  · split at h
    · rename_i hraises
      cases h
      refine ⟨fun _ => hraises, answer.beats _, ?_⟩
      simp [discard_called]
    · cases h

theorem stopDevice_disarmed {target : String} :
    .disarmed target ∉ (p.stopDevice deviceId reason answer).2.1 := by
  intro h
  have hanswers : .disarmed target ∉ (p.discard (some deviceId) reason).2 := by
    intro hmem
    obtain ⟨item, _, hitem⟩ := List.mem_map.mp hmem
    cases hitem
  simp only [stopDevice] at h
  split at h
  · exact hanswers h
  · split at h <;> simp [hanswers] at h

theorem stopDevice_called {target why : String} {returned : Bool}
    (h : .called target why returned ∈ (p.stopDevice deviceId reason answer).2.1) :
    target = deviceId ∧ why = reason := by
  simp only [stopDevice] at h
  split at h
  · exact absurd h discard_called
  · split at h
    · rcases List.mem_append.mp h with h | h
      · exact absurd h discard_called
      · have hsame := StopReport.called.inj (List.mem_singleton.mp h)
        exact ⟨hsame.1, hsame.2.1⟩
    · rcases List.mem_append.mp h with h | h
      · exact absurd h discard_called
      · rcases List.mem_cons.mp h with h | h
        · have hsame := StopReport.called.inj h
          exact ⟨hsame.1, hsame.2.1⟩
        · cases List.mem_singleton.mp h

end StopDevice

section Enforce
variable {last : CommandPipeline} {reports : List StopReport}

theorem enforce_returned (h : p.enforce reply expiry = (last, reports, true)) :
    Stoppable reply expiry p ∧ ∀ after more, Kept now after (reports ++ more) expiry := by
  cases haction : expiry.action with
  | stop =>
    simp only [enforce, haction] at h
    generalize hstop : stopDevice _ _ _ _ = stopped at h
    obtain ⟨stopped, answers, returned⟩ := stopped
    cases h
    obtain ⟨hdevice, hreturns, hcalled⟩ := stopDevice_returned hstop
    refine ⟨fun _ => ⟨hdevice, hreturns⟩, ?_⟩
    intro after more
    refine ⟨fun _ => ⟨true, by simp [hcalled], nofun⟩, ?_⟩
    intro hdisarm
    rw [haction] at hdisarm
    cases hdisarm
  | disarm =>
    simp only [enforce, haction] at h
    cases h
    constructor
    · intro hstop
      rw [haction] at hstop
      cases hstop
    · intro after more
      refine ⟨?_, fun _ => by simp⟩
      intro hstop
      rw [haction] at hstop
      cases hstop

theorem enforce_raised (h : p.enforce reply expiry = (last, reports, false)) :
    ¬ Stoppable reply expiry p ∧ ¬ Kept now last reports expiry := by
  cases haction : expiry.action with
  | stop =>
    simp only [enforce, haction] at h
    generalize hstop : stopDevice _ _ _ _ = stopped at h
    obtain ⟨stopped, answers, returned⟩ := stopped
    cases h
    obtain ⟨hraises, hbeats, hcalled⟩ := stopDevice_raised hstop
    constructor
    · intro hstoppable
      obtain ⟨hdevice, hreturns⟩ := hstoppable haction
      rw [hraises hdevice] at hreturns
      cases hreturns
    · intro hkept
      obtain ⟨returned, hmem, hdue⟩ := hkept.stopped haction
      rcases List.mem_cons.mp hmem with hmem | hmem
      · cases hmem
      · cases returned with
        | true => exact hcalled hmem
        | false =>
          refine SafetySupervisor.not_due ?_ (hdue rfl)
          intro beat hbeat hkey
          rcases hbeats beat hbeat with hold | hrecent
          · have hother := (Table.mem_filterRows _).mp hold
            simp [hkey, WatchdogExpiry.key] at hother
          · exact hrecent
  | disarm =>
    simp only [enforce, haction] at h
    cases h

/-- What a watchdog does names its own device and kind. -/
theorem enforce_other {other : WatchdogExpiry} {after : CommandPipeline} {more : List StopReport}
    (haction : expiry.action = expiry.kind.action) (haction' : other.action = other.kind.action)
    (hkey : other.key ≠ expiry.key)
    (h : Kept now after ((p.enforce reply expiry).2.1 ++ more) other) :
    Kept now after more other := by
  constructor
  · intro hstop
    obtain ⟨returned, hmem, hdue⟩ := h.stopped hstop
    refine ⟨returned, ?_, hdue⟩
    rcases List.mem_append.mp hmem with hmem | hmem
    · exfalso
      cases hfirst : expiry.action with
      | stop =>
        simp only [enforce, hfirst] at hmem
        rcases List.mem_cons.mp hmem with hmem | hmem
        · cases hmem
        · obtain ⟨hdevice, hreason⟩ := stopDevice_called hmem
          exact hkey (Prod.ext hdevice (watchdogReason_injective hreason))
      | disarm =>
        simp [enforce, hfirst] at hmem
    · exact hmem
  · intro hdisarm
    rcases List.mem_append.mp (h.disarmed hdisarm) with hmem | hmem
    · exfalso
      cases hfirst : expiry.action with
      | stop =>
        simp only [enforce, hfirst] at hmem
        rcases List.mem_cons.mp hmem with hmem | hmem
        · cases hmem
        · exact stopDevice_disarmed hmem
      | disarm =>
        have hdevice : other.deviceId = expiry.deviceId := by simpa [enforce, hfirst] using hmem
        have hkind := WatchdogKind.eq_of_disarm (haction.symm.trans hfirst)
        have hkind' := WatchdogKind.eq_of_disarm (haction'.symm.trans hdisarm)
        exact hkey (Prod.ext hdevice (hkind'.trans hkind.symm))
    · exact hmem

end Enforce

/-- What the loop does of a list of watchdogs. -/
theorem kept_iff {expiries : List WatchdogExpiry}
    (hactions : ∀ expiry ∈ expiries, expiry.action = expiry.kind.action)
    (hnodup : (expiries.map WatchdogExpiry.key).Nodup) :
    (∀ expiry ∈ expiries, Kept now (enforceEach reply expiries p).1
      (enforceEach reply expiries p).2.1 expiry) ↔ AllStoppable reply expiries p := by
  induction expiries generalizing p with
  | nil => simp [AllStoppable]
  | cons first expiries ih =>
    rw [List.map_cons, List.nodup_cons] at hnodup
    have hrest := ih (p := (p.enforce reply first).1)
      (fun expiry hexpiry => hactions expiry (List.mem_cons_of_mem _ hexpiry)) hnodup.2
    have hfirst := hactions first List.mem_cons_self
    generalize henforce : p.enforce reply first = enforced at hrest
    obtain ⟨enforced, reports, returned⟩ := enforced
    have hstoppable : AllStoppable reply (first :: expiries) p ↔
        Stoppable reply first p ∧ AllStoppable reply expiries enforced := by
      simp only [AllStoppable, henforce]
    rw [hstoppable]
    cases returned with
    | false =>
      obtain ⟨hnot, hlost⟩ := enforce_raised henforce
      have hloop : enforceEach reply (first :: expiries) p = (enforced, reports, false) := by
        simp [enforceEach, henforce]
      rw [hloop]
      constructor
      · intro h
        exact absurd (h first List.mem_cons_self) hlost
      · rintro ⟨h, _⟩
        exact absurd h hnot
    | true =>
      obtain ⟨hok, hkept⟩ := enforce_returned henforce
      have hloop : enforceEach reply (first :: expiries) p =
          ((enforceEach reply expiries enforced).1,
            reports ++ (enforceEach reply expiries enforced).2.1,
            (enforceEach reply expiries enforced).2.2) := by
        simp [enforceEach, henforce]
      rw [hloop]
      constructor
      · intro h
        refine ⟨hok, hrest.mp ?_⟩
        intro expiry hexpiry
        have hmem := List.mem_cons_of_mem first hexpiry
        have hother : expiry.key ≠ first.key := by
          intro hsame
          exact hnodup.1 (hsame ▸ List.mem_map_of_mem hexpiry)
        have hhead := h expiry hmem
        rw [show reports = (p.enforce reply first).2.1 by rw [henforce]] at hhead
        exact enforce_other hfirst (hactions expiry hmem) hother hhead
      · rintro ⟨_, hall⟩ expiry hexpiry
        rcases List.mem_cons.mp hexpiry with rfl | hexpiry
        · exact hkept _ _
        · have htail := hrest.mpr hall expiry hexpiry
          constructor
          · intro hstop
            obtain ⟨returned, hmem, hdue⟩ := htail.stopped hstop
            exact ⟨returned, List.mem_append_right _ hmem, hdue⟩
          · intro hdisarm
            exact List.mem_append_right _ (htail.disarmed hdisarm)

/-- Every watchdog that fires in a poll does its work. -/
def WatchdogsKept (p : CommandPipeline) (reply : WatchdogExpiry → StopReply now) : Prop :=
  ∀ expiry ∈ p.supervisor.expiredWatchdogs now,
    Kept now (p.enforceWatchdogs reply).1 (p.enforceWatchdogs reply).2.1 expiry

theorem watchdogsKept_iff : p.WatchdogsKept reply ↔
    AllStoppable reply (p.supervisor.expiredWatchdogs now) p := by
  refine kept_iff ?_ SafetySupervisor.expiredWatchdogs_nodup
  intro expiry hexpiry
  obtain ⟨_, _, _, _, haction⟩ := SafetySupervisor.mem_expiredWatchdogs hexpiry
  exact haction

end CommandPipeline

/-- For every room, whatever its adapters' stops come to: stop-all does its work exactly when no
stop raises before that of the last device, which may only raise when no device is armed; and no
fired watchdog is lost exactly when each device that one stops is registered and its stop does not
raise. -/
theorem stops_survive (p : CommandPipeline) (reason : String) (now : ℚ)
    (reply : String → StopReply now) (answer : WatchdogExpiry → StopReply now) :
    (p.StopsAll reason reply ↔ Contained reply p.listed (p.discard none reason).1) ∧
      (p.WatchdogsKept answer ↔
        CommandPipeline.AllStoppable answer (p.supervisor.expiredWatchdogs now) p) :=
  ⟨CommandPipeline.stopsAll_iff, CommandPipeline.watchdogsKept_iff⟩

/-- Two robots, one of them armed, with a motion watchdog on the other. -/
def robotRoom : CommandPipeline where
  sessions := .empty
  devices := (Table.empty.upsert ⟨"alpha", true, .connected⟩).upsert ⟨"beta", true, .connected⟩
  supervisor := { SafetySupervisor.new with
    arms := Table.empty.upsert ⟨"beta", "lesson", "instructor", 0, 100⟩
    heartbeats := Table.empty.upsert ⟨"alpha", .legoContinuousMotion, 0⟩ }
  ledger := .empty
  leases := []
  queue := [⟨6, 0, lessonCommand "beta" .quest, 0⟩]

def alphaRaises (now : ℚ) (deviceId : String) : StopReply now where
  raises := decide (deviceId = "alpha")

def StopReport.calls (deviceId : String) : StopReport → Bool
  | .called target _ _ => decide (target = deviceId)
  | _ => false

def StopReport.returned : StopReport → Bool
  | .called _ _ returned => returned
  | _ => false

/-- The stop of the first robot raises: the second is never stopped and stays armed, and the
watchdog of the first is gone. -/
theorem stop_abandoned :
    ¬ robotRoom.StopsAll "manual stop" (alphaRaises 2) ∧
      ¬ robotRoom.WatchdogsKept fun expiry => alphaRaises 2 expiry.deviceId := by
  constructor
  · intro h
    have hbeta : (⟨"beta", true, .connected⟩ : RegisteredDevice) ∈ robotRoom.devices :=
      Table.mem_upsert.mpr (.inl rfl)
    obtain ⟨returned, hcalled⟩ := h.called _ hbeta
    have hnone : ((robotRoom.stopAll "manual stop" (alphaRaises 2)).2.1.any
        (StopReport.calls "beta")) = false := by
      decide
    have hsome : StopReport.calls "beta" (.called "beta" "manual stop" returned) = true := by
      simp [StopReport.calls]
    exact absurd hsome (by simpa using List.any_eq_false.mp hnone _ hcalled)
  · intro h
    have hfired : (⟨"alpha", .legoContinuousMotion, .stop, 2⟩ : WatchdogExpiry) ∈
        robotRoom.supervisor.expiredWatchdogs 2 := by
      decide +kernel
    obtain ⟨returned, hcalled, hdue⟩ := (h _ hfired).stopped rfl
    have hraised : ((robotRoom.enforceWatchdogs
        fun expiry => alphaRaises 2 expiry.deviceId).2.1.any StopReport.returned) = false := by
      decide +kernel
    have hgone : ((robotRoom.enforceWatchdogs
        fun expiry => alphaRaises 2 expiry.deviceId).1.supervisor.expiredWatchdogs 2) = [] := by
      decide +kernel
    cases returned with
    | true => exact List.any_eq_false.mp hraised _ hcalled rfl
    | false =>
      obtain ⟨expiry, hexpiry, _⟩ := hdue rfl
      rw [hgone] at hexpiry
      exact List.not_mem_nil hexpiry

end CitPhysicalXR.Runtime
