import CitPhysicalXR.Lego.Watchdog
import CitPhysicalXR.Foundation.Execution
import CitPhysicalXR.Foundation.Lines

/-! The main loop of the hub: it polls the agent, reads one character at a time and hands each
finished line over. A line that outgrows the buffer loses what was read of it, and the rest of
the line is handed over as if it were a line. -/
namespace CitPhysicalXR.Lego
open Foundation

namespace Hub

/-- What an iteration of the loop meets: its two clock readings with the hardware at each, and
the character that is ready on the standard input, if one is. -/
structure Tick where
  polledAt : ℤ
  polled : HubReadings
  received : Option Char
  handledAt : ℤ
  handled : HubReadings

/-- What an iteration does towards the host: the lines that it prints, the character that it
reads, and the line that it passes to `handle_line`. -/
inductive LoopOutput where
  | printed (line : String)
  | read (c : Char)
  | handled (line : List Char)
  deriving DecidableEq

end Hub

/-- The loop; `running` is gone once an exception has left it. -/
structure InputLoop where
  agent : HubAgent
  buffer : List Char
  running : Bool

def InputLoop.initial (watchdogMilliseconds : ℤ) : InputLoop where
  agent := HubAgent.initial watchdogMilliseconds
  buffer := []
  running := true

namespace Hub

/-- The buffer after one character, and the line that the character ends. -/
def receive (buffer : List Char) (c : Char) : List Char × Option (List Char) :=
  let buffer := buffer ++ [c]
  if buffer.getLast? ≠ some '\n' then
    if maxFrameChars < buffer.length then ([], none) else (buffer, none)
  else ([], some buffer)

section Loop
variable (rules : TextRules) (machine : HubMachine)

/-- `agent.handle_line(line, clock.time())`, printing every reply. -/
def answer (loop : InputLoop) (t : Tick) (line : List Char) : InputLoop × List LoopOutput :=
  match handleLine rules machine t.handled (String.ofList line) t.handledAt loop.agent with
  | .ok replies agent => ({ loop with agent := agent }, .handled line :: replies.map .printed)
  | .error _ agent => ({ loop with agent := agent, running := false }, [.handled line])

/-- The part of an iteration that follows the poll. -/
def readCharacter (loop : InputLoop) (t : Tick) : InputLoop × List LoopOutput :=
  match t.received with
  | none => (loop, [])
  | some c =>
    match receive loop.buffer c with
    | (buffer, none) => ({ loop with buffer := buffer }, [.read c])
    | (buffer, some line) =>
      let answered := answer rules machine { loop with buffer := buffer } t line
      (answered.1, .read c :: answered.2)

/-- One iteration of `while agent.running`; an exception of the poll leaves the loop before
anything is read. -/
def iterate (loop : InputLoop) (t : Tick) : Option (InputLoop × List LoopOutput) :=
  if loop.running then
    match poll t.polled t.polledAt loop.agent with
    | .error _ agent => some ({ loop with agent := agent, running := false }, [])
    | .ok lines agent =>
      let next := readCharacter rules machine { loop with agent := agent } t
      some (next.1, lines.map .printed ++ next.2)
  else none

end Loop
end Hub

/-- The program on the hub. -/
def inputLoop (rules : TextRules) (machine : Hub.HubMachine) (watchdogMilliseconds : ℤ) :
    Machine InputLoop Hub.Tick Hub.LoopOutput where
  Initial loop := loop = InputLoop.initial watchdogMilliseconds
  Step loop t loop' out := Hub.iterate rules machine loop t = some (loop', out)

namespace Hub

def LoopOutput.character? : LoopOutput → Option Char
  | .read c => some c
  | _ => none

/-- The lines that a run has passed to `handle_line`. -/
def LoopOutput.line? : LoopOutput → Option (List Char)
  | .handled line => some line
  | _ => none

def charactersRead (outputs : List LoopOutput) : List Char :=
  outputs.filterMap LoopOutput.character?

def linesHandled (outputs : List LoopOutput) : List (List Char) :=
  outputs.filterMap LoopOutput.line?

def streamLines (stream : List Char) : List (List Char) := Lines.ended '\n' stream

/-- A line as it stands in the stream. -/
def terminated (line : List Char) : List Char := line ++ ['\n']

/-- What the loop is for: the terminated lines within the bound, in order. -/
def frames (stream : List Char) : List (List Char) :=
  ((streamLines stream).filter fun line => line.length ≤ maxFrameChars).map terminated

/-- What the loop does: of each line, what is left after the buffer was emptied. -/
def chunks (stream : List Char) : List (List Char) :=
  (streamLines stream).map fun line => terminated (Lines.kept maxFrameChars line)

@[simp] theorem charactersRead_append (pre post : List LoopOutput) :
    charactersRead (pre ++ post) = charactersRead pre ++ charactersRead post :=
  List.filterMap_append

@[simp] theorem linesHandled_append (pre post : List LoopOutput) :
    linesHandled (pre ++ post) = linesHandled pre ++ linesHandled post :=
  List.filterMap_append

@[simp] theorem charactersRead_printed (lines : List String) :
    charactersRead (lines.map .printed) = [] := by
  simp [charactersRead, LoopOutput.character?]

@[simp] theorem linesHandled_printed (lines : List String) :
    linesHandled (lines.map .printed) = [] := by
  simp [linesHandled, LoopOutput.line?]

@[simp] theorem charactersRead_read (c : Char) (out : List LoopOutput) :
    charactersRead (.read c :: out) = c :: charactersRead out := rfl

@[simp] theorem linesHandled_read (c : Char) (out : List LoopOutput) :
    linesHandled (.read c :: out) = linesHandled out := rfl

theorem receive_newline (buffer : List Char) :
    receive buffer '\n' = ([], some (terminated buffer)) := by
  simp [receive, terminated]

theorem receive_of_ne {c : Char} (hc : c ≠ '\n') (buffer : List Char) :
    receive buffer c =
      (if maxFrameChars < (buffer ++ [c]).length then [] else buffer ++ [c], none) := by
  have hlast : (buffer ++ [c]).getLast? ≠ some '\n' := by simpa using hc
  rw [receive, if_pos hlast]
  split <;> rfl

structure Framed (loop : InputLoop) (outputs : List LoopOutput) : Prop where
  buffer : loop.buffer = Lines.kept maxFrameChars (Lines.pending '\n' (charactersRead outputs))
  lines : linesHandled outputs = chunks (charactersRead outputs)

section Steps
variable {rules : TextRules} {machine : HubMachine} {loop : InputLoop} {t : Tick}
  {outputs : List LoopOutput}

theorem answer_spec (line : List Char) :
    (answer rules machine loop t line).1.buffer = loop.buffer ∧
      charactersRead (answer rules machine loop t line).2 = [] ∧
      linesHandled (answer rules machine loop t line).2 = [line] := by
  unfold answer
  split
  · rename_i replies agent _
    have hread := charactersRead_printed replies
    have hlines := linesHandled_printed replies
    refine ⟨rfl, hread, ?_⟩
    show line :: linesHandled (replies.map .printed) = [line]
    rw [hlines]
  · exact ⟨rfl, rfl, rfl⟩

theorem Framed.extend {c : Char} {loop' : InputLoop} {out : List LoopOutput}
    (h : Framed loop outputs) (hc : c ≠ '\n') (hread : charactersRead out = [c])
    (hlines : linesHandled out = []) (hbuffer : loop'.buffer = (receive loop.buffer c).1) :
    Framed loop' (outputs ++ out) := by
  obtain ⟨hended, hpending⟩ := Lines.concat_of_ne hc (charactersRead outputs)
  constructor
  · rw [hbuffer, receive_of_ne hc, h.buffer, charactersRead_append, hread, hpending,
      Lines.kept_concat]
  · rw [linesHandled_append, charactersRead_append, hread, hlines, h.lines, chunks, chunks,
      streamLines, streamLines, hended, List.append_nil]

/-- A newline hands over what is left of its line. -/
theorem Framed.finish {loop' : InputLoop} {out : List LoopOutput} (h : Framed loop outputs)
    (hread : charactersRead out = ['\n']) (hlines : linesHandled out = [terminated loop.buffer])
    (hbuffer : loop'.buffer = []) : Framed loop' (outputs ++ out) := by
  obtain ⟨hended, hpending⟩ :
      Lines.ended '\n' (charactersRead outputs ++ ['\n']) = _ ∧ _ :=
    Lines.concat_newline (charactersRead outputs)
  constructor
  · rw [hbuffer, charactersRead_append, hread, hpending]
    rfl
  · rw [linesHandled_append, charactersRead_append, hread, hlines, h.lines, chunks, chunks,
      streamLines, streamLines, hended, List.map_append, h.buffer]
    rfl

theorem readCharacter_newline (h : t.received = some '\n') :
    readCharacter rules machine loop t =
      ((answer rules machine { loop with buffer := [] } t (terminated loop.buffer)).1,
        .read '\n' :: (answer rules machine { loop with buffer := [] } t
          (terminated loop.buffer)).2) := by
  unfold readCharacter
  rw [h]
  simp only [receive_newline]

theorem readCharacter_of_ne {c : Char} (h : t.received = some c) (hc : c ≠ '\n') :
    readCharacter rules machine loop t =
      ({ loop with buffer := (receive loop.buffer c).1 }, [.read c]) := by
  unfold readCharacter
  rw [h]
  simp only [receive_of_ne hc]

theorem Framed.readCharacter (h : Framed loop outputs) :
    Framed (readCharacter rules machine loop t).1
      (outputs ++ (readCharacter rules machine loop t).2) := by
  cases hreceived : t.received with
  | none =>
    unfold Hub.readCharacter
    rw [hreceived]
    simpa using h
  | some c =>
    by_cases hc : c = '\n'
    · subst hc
      rw [readCharacter_newline hreceived]
      obtain ⟨hbuffer, hread, hlines⟩ :
          (answer rules machine { loop with buffer := [] } t (terminated loop.buffer)).1.buffer =
            [] ∧ _ :=
        answer_spec (terminated loop.buffer)
      apply h.finish _ _ hbuffer
      · rw [charactersRead_read, hread]
      · rw [linesHandled_read, hlines]
    · rw [readCharacter_of_ne hreceived hc]
      exact h.extend hc rfl rfl rfl

theorem Framed.iterate (h : Framed loop outputs) {loop' : InputLoop} {out : List LoopOutput}
    (hstep : iterate rules machine loop t = some (loop', out)) : Framed loop' (outputs ++ out) := by
  unfold Hub.iterate at hstep
  split at hstep
  · split at hstep
    · cases hstep
      simpa using ⟨h.buffer, h.lines⟩
    · rename_i lines agent _
      cases hstep
      have hpolled : Framed { loop with agent := agent } (outputs ++ lines.map .printed) :=
        ⟨by simpa using h.buffer, by simpa using h.lines⟩
      rw [← List.append_assoc]
      exact hpolled.readCharacter
  · cases hstep

theorem framed_run {watchdogMilliseconds : ℤ} {trace : List (Tick × List LoopOutput)}
    (h : (inputLoop rules machine watchdogMilliseconds).Run trace loop) :
    Framed loop (Machine.outputs trace) := by
  refine h.induct (P := fun trace loop => Framed loop (Machine.outputs trace)) ?_ ?_
  · intro loop hinit
    cases hinit
    constructor
    · simp [InputLoop.initial, charactersRead, Lines.kept]
    · simp [linesHandled, chunks, charactersRead, streamLines]
  · intro trace loop t loop' out _ ih hstep
    rw [Machine.outputs_append, Machine.outputs_singleton]
    exact ih.iterate hstep

end Steps

theorem chunks_eq_frames (stream : List Char) :
    chunks stream = frames stream ↔
      ∀ line ∈ streamLines stream, line.length ≤ maxFrameChars := by
  constructor
  · intro h line hline
    have hlength := congrArg List.length h
    simp only [chunks, frames, List.length_map] at hlength
    have hall := List.length_filter_eq_length_iff.mp hlength.symm
    simpa using hall line hline
  · intro h
    have hall : (streamLines stream).filter (fun line => line.length ≤ maxFrameChars) =
        streamLines stream := List.filter_eq_self.mpr (by simpa using h)
    rw [frames, hall, chunks]
    apply List.map_congr_left
    intro line hline
    rw [Lines.kept_of_le (h line hline)]

/-- A stream that arrives without a pause. -/
def arriving (stream : List Char) : List Tick :=
  stream.map fun c => ⟨0, idle, some c, 0, idle⟩

def loopAfter (stream : List Char) : Option (InputLoop × List (Tick × List LoopOutput)) :=
  Machine.execute (iterate .micropython robot) (fun _ _ => True) (InputLoop.initial 500)
    (arriving stream)

theorem run_of_loopAfter {stream : List Char} {last : InputLoop × List (Tick × List LoopOutput)}
    (h : loopAfter stream = some last) :
    (inputLoop .micropython robot 500).Run last.2 last.1 :=
  (Machine.run_of_execute (M := inputLoop .micropython robot 500) rfl id h).of_restrict

/-- A line that is too long and ends in a motor command. -/
def overlong : List Char := List.replicate 97 'x' ++ "C1|1|MOTOR_RUN|A|40|2000\n".toList

end Hub

/-- The lines handed over are the lines of the stream within the bound as long as every line
that a newline ends is within it. -/
theorem hub_framing {rules : TextRules} {machine : Hub.HubMachine} {watchdogMilliseconds : ℤ}
    {trace : List (Hub.Tick × List Hub.LoopOutput)} {loop : InputLoop}
    (h : (inputLoop rules machine watchdogMilliseconds).Run trace loop) :
    Hub.linesHandled (Machine.outputs trace) =
        Hub.frames (Hub.charactersRead (Machine.outputs trace)) ↔
      ∀ line ∈ Hub.streamLines (Hub.charactersRead (Machine.outputs trace)),
        line.length ≤ maxFrameChars := by
  rw [(Hub.framed_run h).lines]
  exact Hub.chunks_eq_frames _

theorem hub_framing_robot : ∃ trace loop, (inputLoop .micropython Hub.robot 500).Run trace loop ∧
    Hub.linesHandled (Machine.outputs trace) = ["C1|1|STOP_ALL\n".toList] ∧
    (Hub.linesHandled (Machine.outputs trace) =
        Hub.frames (Hub.charactersRead (Machine.outputs trace)) ↔
      ∀ line ∈ Hub.streamLines (Hub.charactersRead (Machine.outputs trace)),
        line.length ≤ maxFrameChars) := by
  have hrun : (Hub.loopAfter "C1|1|STOP_ALL\nC1|2".toList).any (fun last =>
      Hub.linesHandled (Machine.outputs last.2) = ["C1|1|STOP_ALL\n".toList]) := by
    decide +kernel
  obtain ⟨last, hlast, hlines⟩ := (Option.any_eq_true ..).mp hrun
  have hlast := Hub.run_of_loopAfter hlast
  exact ⟨_, _, hlast, of_decide_eq_true hlines, hub_framing hlast⟩

/-- The stream has no line within the bound; the loop runs the end of its only line. -/
theorem overlong_suffix_handled : ∃ trace loop,
    (inputLoop .micropython Hub.robot 500).Run trace loop ∧
    Hub.frames (Hub.charactersRead (Machine.outputs trace)) = [] ∧
    Hub.linesHandled (Machine.outputs trace) = ["C1|1|MOTOR_RUN|A|40|2000\n".toList] ∧
    loop.agent.calls = [.motorRun "A" 400 2000] := by
  have hrun : (Hub.loopAfter Hub.overlong).any (fun last =>
      Hub.frames (Hub.charactersRead (Machine.outputs last.2)) = [] ∧
      Hub.linesHandled (Machine.outputs last.2) = ["C1|1|MOTOR_RUN|A|40|2000\n".toList] ∧
      last.1.agent.calls = [.motorRun "A" 400 2000]) := by
    decide +kernel
  obtain ⟨last, hlast, hholds⟩ := (Option.any_eq_true ..).mp hrun
  obtain ⟨hframes, hlines, hcalls⟩ := of_decide_eq_true hholds
  exact ⟨_, _, Hub.run_of_loopAfter hlast, hframes, hlines, hcalls⟩

end CitPhysicalXR.Lego
