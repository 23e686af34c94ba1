import CitPhysicalXR.Runtime.DeviceBinding

/-! The device registry on its own: connects and disconnects that are suspended at their adapters,
between assigns and releases. -/
namespace CitPhysicalXR.Runtime
open Foundation

/-- The calls of the registry, cut at their awaits. -/
inductive RegistryEvent where
  | discovered (device : ClassroomDevice)
  | connect (deviceId : String)
  | connected (link : ℕ) (failure : Option String)
  | disconnect (deviceId reason : String)
  | disconnected (link : ℕ) (raised : Bool)
  | reconciled (device : ClassroomDevice)
  | markFailed (deviceId reason : String)
  | assign (deviceId sessionId : String)
  | release (deviceId : String)
  | releaseSession (sessionId : String)

inductive AssignmentChange where
  | assigned (deviceId sessionId : String)
  | released (deviceId : String)
  deriving DecidableEq

def AssignmentChange.write (held : String → Option String) :
    AssignmentChange → String → Option String
  | .assigned deviceId sessionId => Function.update held deviceId (some sessionId)
  | .released deviceId => Function.update held deviceId none

/-- Who has each device after the assigns and releases of a history. -/
def holders (changes : List AssignmentChange) : String → Option String :=
  changes.foldl AssignmentChange.write fun _ => none

namespace Classroom
variable (s : Classroom)

/-- `reconcile` after its await. -/
def reconciled (found : ClassroomDevice) : Except HttpError Classroom := do
  let device ← s.getDevice found.deviceId
  return s.setDevice { found with
    state := device.state
    assignedSessionId := device.assignedSessionId
    failureReason := device.failureReason }

def markFailed (deviceId reason : String) : Except HttpError Classroom := do
  let device ← s.getDevice deviceId
  return s.setDevice { device with state := .failed, failureReason := some reason }

/-- The devices of a session, in order. -/
def heldBy (sessionId : String) : List String :=
  (s.listedDevices.filter fun device => decide (device.assignedSessionId = some sessionId)).map
    (·.deviceId)

def releaseSession (sessionId : String) : Classroom :=
  { s with
    devices := s.devices.mapRows (fun device =>
      if device.assignedSessionId = some sessionId then
        { device with assignedSessionId := none }
      else device) fun device => by split <;> rfl }

end Classroom

namespace RuntimeState
variable (p : RuntimeState)

def registryStep : RegistryEvent → Option (RuntimeState × List AssignmentChange)
  | .discovered device => some ({ p with room := p.room.discovered device }, [])
  | .connect deviceId =>
    match p.room.devices.get? deviceId with
    | none => some (p, [])
    | some device => some (⟨p.room.connecting device, p.links ++ [.connecting device]⟩, [])
  | .connected link failure =>
    match p.links[link]? with
    | some (.connecting device) => some (⟨p.room.linked device failure, p.links.eraseIdx link⟩, [])
    | _ => none
  | .disconnect deviceId reason =>
    match p.room.devices.get? deviceId with
    | none => some (p, [])
    | some device => some ({ p with links := p.links ++ [.disconnecting device reason] }, [])
  | .disconnected link raised =>
    match p.links[link]? with
    | some (.disconnecting device _) =>
      let room := if raised then p.room else p.room.setDevice { device with state := .disconnected }
      some (⟨room, p.links.eraseIdx link⟩, [])
    | _ => none
  | .reconciled device => some ({ p with room := orUnchanged p.room (p.room.reconciled device) }, [])
  | .markFailed deviceId reason =>
    some ({ p with room := orUnchanged p.room (p.room.markFailed deviceId reason) }, [])
  | .assign deviceId sessionId =>
    match p.room.assign deviceId sessionId with
    | .error _ => some (p, [])
    | .ok room => some ({ p with room := room }, [.assigned deviceId sessionId])
  | .release deviceId =>
    match p.room.releaseDevice deviceId with
    | .error _ => some (p, [])
    | .ok room => some ({ p with room := room }, [.released deviceId])
  | .releaseSession sessionId =>
    some ({ p with room := p.room.releaseSession sessionId },
      (p.room.heldBy sessionId).map .released)

/-- A record that is written back after an await still has the session of its device. -/
def KeepsHolder : RegistryEvent → Prop
  | .connected link _ | .disconnected link _ =>
    ∀ task ∈ p.links[link]?, p.room.assignedTo task.device.deviceId = task.device.assignedSessionId
  | _ => True

instance (event : RegistryEvent) : Decidable (p.KeepsHolder event) := by
  unfold KeepsHolder
  split <;> infer_instance

end RuntimeState

/-- The registry, before anything is discovered. -/
def deviceRegistry : Machine RuntimeState RegistryEvent AssignmentChange where
  Initial p := p.links = [] ∧ p.room.devices = .empty
  Step p event p' out := p.registryStep event = some (p', out)

namespace Classroom
variable {s s' : Classroom}

theorem setDevice_assignedTo (device : ClassroomDevice) :
    (s.setDevice device).assignedTo =
      Function.update s.assignedTo device.deviceId device.assignedSessionId := by
  funext deviceId
  rw [assignedTo_setDevice, Function.update_apply]

theorem foldl_released (ids : List String) (held : String → Option String) (deviceId : String) :
    (ids.map AssignmentChange.released).foldl AssignmentChange.write held deviceId =
      if deviceId ∈ ids then none else held deviceId := by
  induction ids generalizing held with
  | nil => simp
  | cons first ids ih =>
    rw [List.map_cons, List.foldl_cons, ih]
    by_cases hlater : deviceId ∈ ids
    · simp [hlater]
    · by_cases hfirst : deviceId = first
      · simp [hfirst, AssignmentChange.write]
      · simp [hlater, hfirst, AssignmentChange.write]

theorem mem_heldBy {sessionId deviceId : String} :
    deviceId ∈ s.heldBy sessionId ↔ s.assignedTo deviceId = some sessionId := by
  rw [assignedTo_eq_iff]
  unfold heldBy listedDevices
  simp only [List.mem_map, List.mem_filter, List.mem_insertionSort, decide_eq_true_eq]
  constructor
  · rintro ⟨device, ⟨hmem, hheld⟩, hid⟩
    exact ⟨device, hmem, hid, hheld⟩
  · rintro ⟨device, hmem, hid, hheld⟩
    exact ⟨device, ⟨hmem, hheld⟩, hid⟩

theorem releaseSession_assignedTo (sessionId : String) :
    (s.releaseSession sessionId).assignedTo =
      ((s.heldBy sessionId).map AssignmentChange.released).foldl AssignmentChange.write
        s.assignedTo := by
  funext deviceId
  rw [foldl_released, @freed_assignedTo s _ sessionId]
  · simp only [mem_heldBy]
  · intro device
    unfold releaseSession
    rw [Table.mem_mapRows]

end Classroom

namespace RuntimeState
variable {p p' : RuntimeState} {event : RegistryEvent} {out : List AssignmentChange}

theorem written_back {device written : ClassroomDevice} (hid : written.deviceId = device.deviceId)
    (hheld : p.room.assignedTo device.deviceId = written.assignedSessionId) :
    (p.room.setDevice written).assignedTo = p.room.assignedTo := by
  rw [Classroom.setDevice_assignedTo, hid, ← hheld, Function.update_eq_self]

theorem registryStep_assignedTo (hkeeps : p.KeepsHolder event)
    (hstep : p.registryStep event = some (p', out)) :
    p'.room.assignedTo = out.foldl AssignmentChange.write p.room.assignedTo := by
  have hknown {device : ClassroomDevice} {deviceId : String}
      (h : p.room.devices.get? deviceId = some device) :
      p.room.assignedTo device.deviceId = device.assignedSessionId := by
    rw [(Table.get?_some h).2]
    exact Classroom.assignedTo_of_get? h
  cases event with
  | discovered device =>
    cases hstep
    exact funext (Classroom.quiet_discovered device).assigned
  | connect deviceId =>
    simp only [registryStep] at hstep
    split at hstep
    · cases hstep
      rfl
    · rename_i device hget
      cases hstep
      have hheld := hknown hget
      exact written_back rfl hheld
  | connected link failure =>
    simp only [registryStep] at hstep
    split at hstep
    · rename_i device htask
      cases hstep
      have hheld := hkeeps _ htask
      cases failure with
      | none => exact written_back rfl hheld
      | some reason => exact written_back rfl hheld
    · cases hstep
  | disconnect deviceId reason =>
    simp only [registryStep] at hstep
    split at hstep <;> cases hstep <;> rfl
  | disconnected link raised =>
    simp only [registryStep] at hstep
    split at hstep
    · rename_i device reason htask
      cases hstep
      have hheld := hkeeps _ htask
      cases raised with
      | false => exact written_back rfl hheld
      | true => rfl
    · cases hstep
  | reconciled found =>
    cases hstep
    refine orUnchanged_rule (P := fun room => room.assignedTo = p.room.assignedTo) rfl ?_
    intro after hafter
    obtain ⟨device, hdevice, hwritten⟩ := bind_eq_ok.mp hafter
    obtain rfl := Except.ok.inj hwritten
    have hget := Classroom.getDevice_get? hdevice
    exact written_back (Table.get?_some hget).2.symm (hknown hget)
  | markFailed deviceId reason =>
    cases hstep
    refine orUnchanged_rule (P := fun room => room.assignedTo = p.room.assignedTo) rfl ?_
    intro after hafter
    obtain ⟨device, hdevice, hwritten⟩ := bind_eq_ok.mp hafter
    obtain rfl := Except.ok.inj hwritten
    have hheld := hknown (Classroom.getDevice_get? hdevice)
    exact written_back rfl hheld
  | assign deviceId sessionId =>
    simp only [registryStep] at hstep
    split at hstep
    · cases hstep
      rfl
    · rename_i room hassign
      cases hstep
      obtain ⟨device, hget, _, rfl⟩ := Classroom.assign_spec hassign
      rw [Classroom.setDevice_assignedTo, (Table.get?_some hget).2]
      rfl
  | release deviceId =>
    simp only [registryStep] at hstep
    split at hstep
    · cases hstep
      rfl
    · rename_i room hrelease
      cases hstep
      obtain ⟨device, hdevice, hwritten⟩ := bind_eq_ok.mp hrelease
      obtain rfl := Except.ok.inj hwritten
      rw [Classroom.setDevice_assignedTo,
        (Table.get?_some (Classroom.getDevice_get? hdevice)).2]
      rfl
  | releaseSession sessionId =>
    cases hstep
    exact Classroom.releaseSession_assignedTo sessionId

end RuntimeState

/-- In a run whose connects and disconnects write back the session that their device has, the
registry shows every assign and release. -/
theorem registry_keeps_updates {trace : List (RegistryEvent × List AssignmentChange)}
    {p : RuntimeState} (hrun : (deviceRegistry.restrict RuntimeState.KeepsHolder).Run trace p) :
    p.room.assignedTo = holders (Machine.outputs trace) := by
  refine Machine.Run.induct
    (P := fun trace p => p.room.assignedTo = holders (Machine.outputs trace)) ?_ ?_ hrun
  · rintro p ⟨_, hdevices⟩
    funext deviceId
    unfold Classroom.assignedTo
    rw [hdevices]
    rfl
  · rintro trace p event p' out _ hheld ⟨hkeeps, hstep⟩
    rw [RuntimeState.registryStep_assignedTo hkeeps hstep, Machine.outputs_append,
      Machine.outputs_singleton, hheld]
    unfold holders
    rw [List.foldl_append]

/-- The robot is assigned while it is being connected, and nothing is left of it. -/
theorem assignment_is_lost : ∃ trace p, deviceRegistry.Run trace p ∧ p.links = [] ∧
    Machine.outputs trace = [.assigned "robot" "lesson-1"] ∧
    p.room.assignedTo "robot" = none ∧ holders (Machine.outputs trace) "robot" = some "lesson-1" := by
  have hexec : ((Machine.execute RuntimeState.registryStep (fun _ _ => True) laboratory
      [.discovered labRobot, .connect "robot", .assign "robot" "lesson-1",
        .connected 0 none]).any fun last => decide (last.1.links.length = 0 ∧
          Machine.outputs last.2 = [.assigned "robot" "lesson-1"] ∧
          last.1.room.assignedTo "robot" = none ∧
          holders (Machine.outputs last.2) "robot" = some "lesson-1")) = true := by
    decide
  obtain ⟨last, hlast, hend⟩ := (Option.any_eq_true ..).mp hexec
  have hrun := (Machine.run_of_execute (M := deviceRegistry) ⟨rfl, rfl⟩ id hlast).of_restrict
  obtain ⟨hlinks, hrest⟩ := of_decide_eq_true hend
  exact ⟨_, _, hrun, List.length_eq_zero_iff.mp hlinks, hrest⟩

/-- The robot is assigned when its connect has come back. -/
theorem registry_keeps_updates_robot : ∃ trace p,
    (deviceRegistry.restrict RuntimeState.KeepsHolder).Run trace p ∧
    Machine.outputs trace = [.assigned "robot" "lesson-1"] ∧
    p.room.assignedTo = holders (Machine.outputs trace) := by
  have hexec : ((Machine.execute RuntimeState.registryStep RuntimeState.KeepsHolder laboratory
      [.discovered labRobot, .connect "robot", .connected 0 none,
        .assign "robot" "lesson-1"]).any fun last =>
          decide (Machine.outputs last.2 = [.assigned "robot" "lesson-1"])) = true := by
    decide
  obtain ⟨last, hlast, hend⟩ := (Option.any_eq_true ..).mp hexec
  have hrun := Machine.run_of_execute (M := deviceRegistry) ⟨rfl, rfl⟩ id hlast
  exact ⟨_, _, hrun, of_decide_eq_true hend, registry_keeps_updates hrun⟩

end CitPhysicalXR.Runtime
