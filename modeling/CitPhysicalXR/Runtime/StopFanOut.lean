import CitPhysicalXR.Runtime.Pipeline
import Mathlib.Data.List.Sort

/-! Stop-all and the watchdogs over every device, when the stop of an adapter raises. -/
namespace CitPhysicalXR.Runtime
open Foundation

/-- What an adapter's stop comes to, polled at a time: whether it raises, and what the other tasks
do while it is awaited. A watchdog that they beat has the time of its heartbeat. -/
structure StopReply (now : ℚ) where
  raises : Bool
  others : CommandPipeline → CommandPipeline := id
  beats : ∀ p, ∀ beat ∈ (others p).supervisor.heartbeats,
    beat ∈ p.supervisor.heartbeats ∨ now ≤ beat.lastSeen := by exact fun _ _ h => .inl h

/-- The calls of adapters, the answers to queued commands, and the audit. -/
inductive StopReport where
  | discarded (item : QueueItem) (denial : Denial)
  | called (deviceId reason : String) (returned : Bool)
  | emergencyStop (deviceId reason : String) (cleared : ℕ)
  | stopAll (reason : String) (stopped : List String)
  | watchdogFired (expiry : WatchdogExpiry)
  | disarmed (deviceId : String)

namespace CommandPipeline
variable (p : CommandPipeline) {now : ℚ}

/-- `registry.list()`. -/
def listed : List RegisteredDevice :=
  p.devices.rows.insertionSort fun first second => first.deviceId ≤ second.deviceId

/-- Drop queued commands and tell whoever sent them. -/
def discard (deviceId : Option String) (reason : String) : CommandPipeline × List StopReport :=
  ({ p with queue := CommandQueue.kept deviceId p.queue },
    (CommandQueue.taken deviceId p.queue).map fun item => .discarded item {
      code := .safetyPolicyDenied
      reason := "Queued command discarded: " ++ reason
      recovery :=
        "Nothing was sent to the device. Send it again when the class is running." })

/-- Stop one device and clear anything queued for it, or an exception leaves. -/
def stopDevice (deviceId reason : String) (reply : StopReply now) :
    CommandPipeline × List StopReport × Bool :=
  let (discarded, answers) := p.discard (some deviceId) reason
  match p.devices.get? deviceId with
  | none => (discarded, answers, false)
  | some _ =>
    let resumed := reply.others discarded
    if reply.raises then (resumed, answers ++ [.called deviceId reason false], false)
    else
      ({ resumed with supervisor := resumed.supervisor.disarm deviceId },
        answers ++ [.called deviceId reason true, .emergencyStop deviceId reason answers.length],
        true)

/-- The loop of `stop_all`: nothing catches what an adapter raises. -/
def stopEach (reason : String) (reply : String → StopReply now) :
    List RegisteredDevice → CommandPipeline → CommandPipeline × List StopReport × Bool
  | [], p => (p, [], true)
  | device :: devices, p =>
    let resumed := (reply device.deviceId).others p
    if (reply device.deviceId).raises then
      (resumed, [.called device.deviceId reason false], false)
    else
      let (last, reports, returned) := stopEach reason reply devices resumed
      (last, .called device.deviceId reason true :: reports, returned)

/-- Every device stops, every queue empties, all disarm. -/
def stopAll (reason : String) (reply : String → StopReply now) :
    CommandPipeline × List StopReport × Bool :=
  let (discarded, answers) := p.discard none reason
  let (last, reports, returned) := stopEach reason reply p.listed discarded
  if returned then
    ({ last with supervisor := last.supervisor.disarmAll },
      answers ++ reports ++ [.stopAll reason (p.listed.map RegisteredDevice.deviceId)], true)
  else (last, answers ++ reports, false)

def watchdogReason (kind : WatchdogKind) : String := "watchdog:" ++ kind.value

def enforce (reply : WatchdogExpiry → StopReply now) (expiry : WatchdogExpiry) :
    CommandPipeline × List StopReport × Bool :=
  let cleared :=
    { p with supervisor := p.supervisor.clearWatchdog expiry.deviceId expiry.kind }
  match expiry.action with
  | .stop =>
    let (stopped, answers, returned) :=
      cleared.stopDevice expiry.deviceId (watchdogReason expiry.kind) (reply expiry)
    (stopped, .watchdogFired expiry :: answers, returned)
  | .disarm =>
    ({ cleared with supervisor := cleared.supervisor.disarm expiry.deviceId },
      [.watchdogFired expiry, .disarmed expiry.deviceId], true)

/-- The loop of `enforce_watchdogs`. -/
def enforceEach (reply : WatchdogExpiry → StopReply now) :
    List WatchdogExpiry → CommandPipeline → CommandPipeline × List StopReport × Bool
  | [], p => (p, [], true)
  | expiry :: expiries, p =>
    let (enforced, reports, returned) := p.enforce reply expiry
    if returned then
      let (last, more, returned) := enforceEach reply expiries enforced
      (last, reports ++ more, returned)
    else (enforced, reports, false)

/-- A fired watchdog stops or disarms without asking anyone. -/
def enforceWatchdogs (reply : WatchdogExpiry → StopReply now) :
    CommandPipeline × List StopReport × Bool :=
  enforceEach reply (p.supervisor.expiredWatchdogs now) p

/-- Stop-all calls the stop of every device, answers every queued command and leaves the queue
empty when no other task fills it, and leaves no device armed. -/
structure StopsAll (reason : String) (reply : String → StopReply now) : Prop where
  called : ∀ device ∈ p.devices, ∃ returned,
    .called device.deviceId reason returned ∈ (p.stopAll reason reply).2.1
  answered : ∀ item ∈ p.queue, ∃ denial, .discarded item denial ∈ (p.stopAll reason reply).2.1
  emptied : (∀ deviceId, (reply deviceId).others = id) → (p.stopAll reason reply).1.queue = []
  disarmed : ∀ arm, arm ∉ (p.stopAll reason reply).1.supervisor.arms

end CommandPipeline

/-- No stop of a list of devices raises, or only the last, and then no device is armed. -/
def Contained {now : ℚ} (reply : String → StopReply now) :
    List RegisteredDevice → CommandPipeline → Prop
  | [], _ => True
  | [device], p => (reply device.deviceId).raises = true →
    ∀ arm, arm ∉ ((reply device.deviceId).others p).supervisor.arms
  | device :: devices, p => (reply device.deviceId).raises = false ∧
    Contained reply devices ((reply device.deviceId).others p)

namespace CommandPipeline
variable {p : CommandPipeline} {now : ℚ} {reason : String}

theorem mem_listed {device : RegisteredDevice} : device ∈ p.listed ↔ device ∈ p.devices :=
  List.mem_insertionSort _

@[simp] theorem discard_all : (p.discard none reason).1.queue = [] := by
  simp [discard, CommandQueue.kept]

theorem discarded_mem (reason : String) {item : QueueItem} (h : item ∈ p.queue) :
    ∃ denial, .discarded item denial ∈ (p.discard none reason).2 := by
  refine ⟨_, List.mem_map.mpr ⟨item, ?_, rfl⟩⟩
  simp [CommandQueue.taken, h]

section StopEach
variable {reply : String → StopReply now}

theorem stopEach_queue {devices : List RegisteredDevice}
    (hidle : ∀ deviceId, (reply deviceId).others = id) :
    (stopEach reason reply devices p).1.queue = p.queue := by
  induction devices generalizing p with
  | nil => rfl
  | cons first devices ih =>
    simp only [stopEach, hidle, id_eq]
    split
    · rfl
    · exact ih

/-- The loop reaches its last device, and leaves no device armed when that one raises. -/
def Reaches (reason : String) (reply : String → StopReply now) (devices : List RegisteredDevice)
    (p : CommandPipeline) : Prop :=
  (∀ device ∈ devices, ∃ returned,
    .called device.deviceId reason returned ∈ (stopEach reason reply devices p).2.1) ∧
  ((stopEach reason reply devices p).2.2 = false →
    ∀ arm, arm ∉ (stopEach reason reply devices p).1.supervisor.arms)

theorem reaches_last {device : RegisteredDevice} :
    Reaches reason reply [device] p ↔ Contained reply [device] p := by
  by_cases hraises : (reply device.deviceId).raises = true
  · simp [Reaches, stopEach, Contained, hraises]
  · simp [Reaches, stopEach, Contained, hraises]

/-- Before the last device, a stop that raises ends the loop. -/
theorem reaches_cons {first second : RegisteredDevice} {devices : List RegisteredDevice}
    (hnodup : ((first :: second :: devices).map RegisteredDevice.deviceId).Nodup) :
    Reaches reason reply (first :: second :: devices) p ↔
      (reply first.deviceId).raises = false ∧
        Reaches reason reply (second :: devices) ((reply first.deviceId).others p) := by
  rw [List.map_cons, List.nodup_cons] at hnodup
  by_cases hraises : (reply first.deviceId).raises = true
  · have hreports : (stopEach reason reply (first :: second :: devices) p).2.1 =
        [.called first.deviceId reason false] := by
      simp [stopEach, hraises]
    constructor
    · rintro ⟨hcalled, _⟩
      obtain ⟨returned, hmem⟩ := hcalled second (by simp)
      rw [hreports] at hmem
      have hsame := (StopReport.called.inj (List.mem_singleton.mp hmem)).1
      exact absurd (hsame ▸ List.mem_cons_self) hnodup.1
    · rintro ⟨hreturns, _⟩
      rw [hraises] at hreturns
      cases hreturns
  · have hreturns : (reply first.deviceId).raises = false := by simpa using hraises
    generalize hrest : second :: devices = rest at hnodup
    have hloop : stopEach reason reply (first :: rest) p =
        ((stopEach reason reply rest ((reply first.deviceId).others p)).1,
          .called first.deviceId reason true ::
            (stopEach reason reply rest ((reply first.deviceId).others p)).2.1,
          (stopEach reason reply rest ((reply first.deviceId).others p)).2.2) := by
      simp [stopEach, hreturns]
    unfold Reaches
    rw [hloop]
    constructor
    · rintro ⟨hcalled, hlast⟩
      refine ⟨hreturns, ?_, hlast⟩
      intro device hdevice
      obtain ⟨returned, hmem⟩ := hcalled device (List.mem_cons_of_mem _ hdevice)
      rcases List.mem_cons.mp hmem with hmem | hmem
      · have hsame := (StopReport.called.inj hmem).1
        exact absurd (hsame ▸ List.mem_map_of_mem hdevice) hnodup.1
      · exact ⟨returned, hmem⟩
    · rintro ⟨_, hcalled, hlast⟩
      refine ⟨?_, hlast⟩
      intro device hdevice
      rcases List.mem_cons.mp hdevice with rfl | hdevice
      · exact ⟨true, List.mem_cons_self⟩
      · obtain ⟨returned, hmem⟩ := hcalled device hdevice
        exact ⟨returned, List.mem_cons_of_mem _ hmem⟩

theorem reaches_iff (reason : String) {devices : List RegisteredDevice}
    (hnodup : (devices.map RegisteredDevice.deviceId).Nodup) :
    Reaches reason reply devices p ↔ Contained reply devices p := by
  induction devices generalizing p with
  | nil => simp [Reaches, stopEach, Contained]
  | cons first devices ih =>
    cases devices with
    | nil => exact reaches_last
    | cons second devices =>
      rw [reaches_cons hnodup, ih (List.nodup_cons.mp hnodup).2]
      rfl

theorem stopAll_called {deviceId : String} {returned : Bool} :
    .called deviceId reason returned ∈ (p.stopAll reason reply).2.1 ↔
      .called deviceId reason returned ∈
        (stopEach reason reply p.listed (p.discard none reason).1).2.1 := by
  have hanswers : .called deviceId reason returned ∉ (p.discard none reason).2 := by
    intro hmem
    obtain ⟨item, _, hitem⟩ := List.mem_map.mp hmem
    cases hitem
  simp only [stopAll]
  split <;> simp [hanswers]

theorem stopAll_arms : (∀ arm, arm ∉ (p.stopAll reason reply).1.supervisor.arms) ↔
    ((stopEach reason reply p.listed (p.discard none reason).1).2.2 = false →
      ∀ arm, arm ∉
        (stopEach reason reply p.listed (p.discard none reason).1).1.supervisor.arms) := by
  simp only [stopAll]
  split
  · rename_i hreturned
    rw [hreturned]
    simp [SafetySupervisor.disarmAll]
  · rename_i hraised
    simp only [Bool.not_eq_true] at hraised
    rw [hraised]
    simp

/-- Stop-all does its work exactly when its loop reaches the last device. -/
theorem stopsAll_iff : p.StopsAll reason reply ↔
    Contained reply p.listed (p.discard none reason).1 := by
  have hnodup : (p.listed.map RegisteredDevice.deviceId).Nodup :=
    ((List.perm_insertionSort _ _).map _).nodup_iff.mpr p.devices.unique
  rw [← reaches_iff reason hnodup]
  constructor
  · intro h
    refine ⟨?_, stopAll_arms.mp h.disarmed⟩
    intro device hdevice
    obtain ⟨returned, hcalled⟩ := h.called device (mem_listed.mp hdevice)
    exact ⟨returned, stopAll_called.mp hcalled⟩
  · rintro ⟨hcalled, hlast⟩
    refine ⟨?_, ?_, ?_, stopAll_arms.mpr hlast⟩
    · intro device hdevice
      obtain ⟨returned, hmem⟩ := hcalled device (mem_listed.mpr hdevice)
      exact ⟨returned, stopAll_called.mpr hmem⟩
    · intro item hitem
      obtain ⟨denial, hmem⟩ := discarded_mem reason hitem
      refine ⟨denial, ?_⟩
      simp only [stopAll]
      split <;> simp [hmem]
    · intro hidle
      have hqueue : (stopEach reason reply p.listed (p.discard none reason).1).1.queue =
          (p.discard none reason).1.queue := stopEach_queue hidle
      rw [discard_all] at hqueue
      simp only [stopAll]
      split <;> exact hqueue

end StopEach

end CommandPipeline

end CitPhysicalXR.Runtime
