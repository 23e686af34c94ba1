import CitPhysicalXR.Foundation.Execution
import CitPhysicalXR.Runtime.LaneSafety
import CitPhysicalXR.Runtime.Pipeline

/-! At most one execution of a command: the ledger drops a key only when the command that claimed
it can no longer be fresh. -/
namespace CitPhysicalXR.Runtime
open Foundation

def DispatchReport.execution? : DispatchReport → Option Execution
  | .executed execution => some execution
  | _ => none

/-- The commands that reach an adapter, in order. -/
def executions (out : List DispatchReport) : List Execution :=
  out.filterMap DispatchReport.execution?

@[simp] theorem executions_append (pre post : List DispatchReport) :
    executions (pre ++ post) = executions pre ++ executions post := List.filterMap_append ..

/-- The pipeline with its wall clock. -/
structure Room where
  pipeline : CommandPipeline
  now : Instant

/-- A dispatch, or anything else that happens in the room: only a dispatch claims identities. -/
inductive RoomEvent where
  | dispatch (command : DeviceCommandIntent) (reading : Reading)
  | others (room : CommandPipeline) (now : Instant)

namespace Room

def step (s : Room) : RoomEvent → Option (Room × List DispatchReport)
  | .dispatch command reading =>
    if s.now ≤ reading.now then
      let (pipeline, out) := s.pipeline.dispatch command reading
      some (⟨pipeline, reading.now⟩, out)
    else none
  | .others room now =>
    if s.now ≤ now then some (⟨{ room with ledger := s.pipeline.ledger }, now⟩, []) else none

end Room

/-- The runs of a room whose clock never goes back; its ledger is empty when it starts. -/
def room : Machine Room RoomEvent DispatchReport where
  Initial s := s.pipeline.ledger = .empty
  Step s e s' out := s.step e = some (s', out)

namespace CommandPipeline
variable {p p' : CommandPipeline} {command : DeviceCommandIntent} {reading : Reading}
  {out : List DispatchReport}

/-- Safety and the lease leave the ledger alone and hand over at most the command. -/
theorem authorize_spec {session : ProgramSession} {device : RegisteredDevice}
    (h : p.authorize session device command reading = (p', out)) :
    p'.ledger = p.ledger ∧ (executions out = [] ∨
      ∃ bounded, executions out = [⟨command, bounded, reading.now⟩]) := by
  simp only [authorize] at h
  generalize p.supervisor.evaluate command session.deviceBindings _ reading = verdict at h
  obtain ⟨verdict, supervisor⟩ := verdict
  cases verdict with
  | error denial =>
    cases h
    exact ⟨rfl, .inl rfl⟩
  | ok bounds =>
    simp only [lease] at h
    generalize DeviceLeases.acquire .. = acquired at h
    obtain ⟨outcome, leases⟩ := acquired
    cases outcome with
    | error holder =>
      cases h
      exact ⟨rfl, .inl rfl⟩
    | ok _ =>
      cases h
      refine ⟨rfl, .inr ⟨{ command with arguments := bounds.arguments }, ?_⟩⟩
      rw [executions_append]
      split <;> rfl

theorem dispatch_spec (h : p.dispatch command reading = (p', out)) :
    (p'.ledger = p.ledger ∧ executions out = []) ∨
      p.ledger.claimCommand command reading.now = (.accepted, p'.ledger) ∧
        (executions out = [] ∨ ∃ bounded, executions out = [⟨command, bounded, reading.now⟩]) := by
  simp only [dispatch] at h
  cases hresolve : p.resolve command with
  | error denial =>
    rw [hresolve] at h
    cases h
    exact .inl ⟨rfl, rfl⟩
  | ok found =>
    obtain ⟨session, device⟩ := found
    rw [hresolve] at h
    generalize hclaim : p.ledger.claimCommand command reading.now = claimed at h
    obtain ⟨disposition, ledger⟩ := claimed
    cases disposition with
    | accepted =>
      obtain ⟨hledger, hout⟩ := authorize_spec h
      exact .inr ⟨by rw [hledger], hout⟩
    | duplicate =>
      have hsame := Claims.claim_refused hclaim nofun
      cases h
      exact .inl ⟨hsame, rfl⟩
    | expired =>
      have hsame := Claims.claim_refused hclaim nofun
      cases h
      exact .inl ⟨hsame, rfl⟩

end CommandPipeline

/-- The identity of an execution and the end of its validity. -/
def Execution.claim (execution : Execution) : String × Instant :=
  (execution.command.idempotencyKey, execution.command.expiresAt)

/-- Of two executions with one key, the earlier is over and the later is fresh. -/
def Execution.Renews (first second : Execution) : Prop :=
  first.command.idempotencyKey = second.command.idempotencyKey →
    first.command.expiresAt ≤ second.now ∧ second.now < second.command.expiresAt

structure Ledgered (trace : List (RoomEvent × List DispatchReport)) (s : Room) : Prop where
  covers : s.pipeline.ledger.Covers s.now
    ((executions (Machine.outputs trace)).map Execution.claim)
  renews : (executions (Machine.outputs trace)).Pairwise Execution.Renews

namespace Ledgered
variable {trace : List (RoomEvent × List DispatchReport)} {s : Room}

theorem initial (s : Room) : Ledgered [] s where
  covers := fun _ hpast => absurd hpast List.not_mem_nil
  renews := .nil

variable {s' : Room} {e : RoomEvent} {out : List DispatchReport}

/-- A step without an execution. -/
theorem idle (h : Ledgered trace s)
    (hout : executions out = []) (hnow : s.now ≤ s'.now)
    (hledger : s'.pipeline.ledger = s.pipeline.ledger) : Ledgered (trace ++ [(e, out)]) s' := by
  have hsame : executions (Machine.outputs (trace ++ [(e, out)])) =
      executions (Machine.outputs trace) := by
    rw [Machine.outputs_append, Machine.outputs_singleton, executions_append, hout,
      List.append_nil]
  constructor
  · rw [hsame, hledger]
    exact h.covers.later hnow
  · rw [hsame]
    exact h.renews

/-- A step that claims an identity, and hands its command to an adapter or not. -/
theorem claimed (h : Ledgered trace s)
    {command : DeviceCommandIntent} (hnow : s.now ≤ s'.now)
    (hclaim : s.pipeline.ledger.claimCommand command s'.now = (.accepted, s'.pipeline.ledger))
    (hout : executions out = [] ∨ ∃ bounded, executions out = [⟨command, bounded, s'.now⟩]) :
    Ledgered (trace ++ [(e, out)]) s' := by
  have hlater := h.covers.later hnow
  have hcovers := hlater.claim hclaim
  have hfresh := (Claims.claim_accepted hclaim).1
  have happend : executions (Machine.outputs (trace ++ [(e, out)])) =
      executions (Machine.outputs trace) ++ executions out := by
    rw [Machine.outputs_append, Machine.outputs_singleton, executions_append]
  rcases hout with hout | ⟨bounded, hout⟩
  · rw [hout, List.append_nil] at happend
    constructor
    · rw [happend]
      exact hcovers.subset (List.subset_append_left _ _)
    · rw [happend]
      exact h.renews
  · rw [hout] at happend
    constructor
    · rw [happend, List.map_append]
      exact hcovers
    · rw [happend, List.pairwise_append]
      refine ⟨h.renews, List.pairwise_singleton _ _, ?_⟩
      intro first hfirst second hsecond hkey
      obtain rfl := List.mem_singleton.mp hsecond
      have hover := hlater.over hclaim first.claim (List.mem_map_of_mem hfirst) hkey
      exact ⟨hover, hfresh⟩

theorem step (h : Ledgered trace s)
    (hs : s.step e = some (s', out)) : Ledgered (trace ++ [(e, out)]) s' := by
  cases e with
  | dispatch command reading =>
    simp only [Room.step] at hs
    split at hs
    · rename_i hnow
      generalize hdispatch : s.pipeline.dispatch command reading = result at hs
      obtain ⟨pipeline, reports⟩ := result
      cases hs
      rcases CommandPipeline.dispatch_spec hdispatch with ⟨hledger, hout⟩ | ⟨hclaim, hout⟩
      · exact h.idle hout hnow hledger
      · exact h.claimed hnow hclaim hout
    · cases hs
  | others room now =>
    simp only [Room.step] at hs
    split at hs
    · rename_i hnow
      cases hs
      exact h.idle rfl hnow rfl
    · cases hs

end Ledgered

/-- In every run, whatever the sessions, the devices, the policies and the leases: when a command
is executed, the commands executed before it under its key are over, and it is none of them. -/
theorem executed_once {trace : List (RoomEvent × List DispatchReport)} {s : Room}
    (hrun : room.Run trace s) :
    (executions (Machine.outputs trace)).Pairwise fun first second =>
      (first.command.idempotencyKey = second.command.idempotencyKey →
        first.command.expiresAt ≤ second.now) ∧ first.command ≠ second.command := by
  have h : Ledgered trace s :=
    hrun.induct (P := Ledgered) (fun s _ => .initial s) fun _ ih hstep => ih.step hstep
  refine h.renews.imp ?_
  intro first second hrenews
  refine ⟨fun hkey => (hrenews hkey).1, ?_⟩
  intro hsame
  obtain ⟨hover, hfresh⟩ := hrenews (congrArg _ hsame)
  rw [hsame] at hover
  exact absurd hfresh (not_lt.mpr hover)

def lessonRoom : CommandPipeline where
  sessions := Table.empty.upsert ⟨"lesson", "student", .simulation, .running, ["robot"]⟩
  devices := Table.empty.upsert ⟨"robot", false, .connected⟩
  supervisor := .new
  ledger := .empty
  leases := []
  queue := []

/-- A key is used again when its first command is over; both commands are executed. -/
theorem executed_once_lesson : ∃ trace s, room.Run trace s ∧
    (executions (Machine.outputs trace)).length = 2 ∧
    (executions (Machine.outputs trace)).Pairwise fun first second =>
      (first.command.idempotencyKey = second.command.idempotencyKey →
        first.command.expiresAt ≤ second.now) ∧ first.command ≠ second.command := by
  have hexec : ((Machine.execute Room.step (fun _ _ => True) ⟨lessonRoom, 0⟩
      [.dispatch { lessonCommand "robot" .quest with action := "stop" } ⟨1, 1, 1⟩,
        .dispatch { lessonCommand "robot" .quest with action := "stop" } ⟨2, 2, 2⟩,
        .dispatch { lessonCommand "robot" .quest with action := "stop", expiresAt := 30 }
          ⟨12, 12, 12⟩]).any fun last =>
      decide ((executions (Machine.outputs last.2)).length = 2)) = true := by
    decide
  obtain ⟨last, hlast, hend⟩ := (Option.any_eq_true ..).mp hexec
  have hinit : room.Initial ⟨lessonRoom, 0⟩ := by
    show lessonRoom.ledger = .empty
    rfl
  have hrun := (Machine.run_of_execute hinit id hlast).of_restrict
  exact ⟨_, _, hrun, of_decide_eq_true hend, executed_once hrun⟩

end CitPhysicalXR.Runtime
