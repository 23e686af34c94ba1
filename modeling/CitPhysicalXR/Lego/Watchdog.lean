import CitPhysicalXR.Lego.HubAgent

/-! The watchdog of the hub: whether its one flag covers every motor that may be moving, and
what a late poll does. -/
namespace CitPhysicalXR.Lego
open Foundation

namespace Hub

/-- The ports that move after a call, given those that moved before it. -/
def moves (machine : HubMachine) (moving : List String) : MachineCall → List String
  | .motorRun port _ _ | .motorRunAngle port _ _ | .motorRunTarget port _ _ => port :: moving
  | .motorStop port => moving.filter (· ≠ port)
  | .drive _ _ _ | .driveStraight _ | .turn _ => machine.driveBase ++ moving
  | .stopAll => []
  | .display _ | .sound _ _ => moving

/-- The ports whose motor was started and has not been stopped since. -/
def movingPorts (machine : HubMachine) (calls : List MachineCall) : List String :=
  calls.foldl (moves machine) []

theorem movingPorts_append (machine : HubMachine) (calls : List MachineCall) (last : MachineCall) :
    movingPorts machine (calls ++ [last]) = moves machine (movingPorts machine calls) last := by
  simp [movingPorts]

structure Covered (machine : HubMachine) (watchdog lastFrameAt : ℤ) (agent : HubAgent) : Prop where
  flag : movingPorts machine agent.calls ≠ [] → agent.motorsRunning = true
  clock : agent.lastFrameAt = lastFrameAt
  watchdog : agent.watchdogMilliseconds = watchdog

/-- An operation that stops a single motor stops the only one that moves. -/
def StopsLast (machine : HubMachine) (agent : HubAgent) (operation : String)
    (arguments : List String) : Prop :=
  operation = "MOTOR_STOP" → ∀ port, arguments[0]? = some port → port ≠ "ALL" →
    machine.isMotor port = true → ∀ other ∈ movingPorts machine agent.calls, other = port

section Triples
variable {rules : TextRules} {machine : HubMachine} {readings : HubReadings} {watchdog at_ : ℤ}

/-- A call that keeps the cover, also when it raises. -/
abbrev Keeps (machine : HubMachine) (watchdog at_ : ℤ) {α : Type} (m : HubM α) : Prop :=
  Effect.Triple (Covered machine watchdog at_) m (fun _ => Covered machine watchdog at_)
    (fun _ => Covered machine watchdog at_)

theorem emit_keeps (operation : String) (arguments : List String) :
    Keeps machine watchdog at_ (emit operation arguments) := by
  apply Effect.Triple.bind (Q := fun _ => Covered machine watchdog at_)
  · apply Effect.Triple.update
    exact fun agent h => ⟨h.flag, h.clock, h.watchdog⟩
  · intro _
    exact Effect.Triple.read (fun _ _ h _ => h) fun _ _ h _ => h

theorem reply_keeps {m : HubM String} (h : Keeps machine watchdog at_ m) :
    Keeps machine watchdog at_ (do return [← m]) :=
  Effect.Triple.bind h fun _ => Effect.Triple.pure fun _ h => h

theorem ack_keeps (sequence : ℤ) : Keeps machine watchdog at_ (do return [← ack sequence]) :=
  reply_keeps (emit_keeps _ _)

theorem error_keeps (sequence : ℤ) (code : String) :
    Keeps machine watchdog at_ (do return [← error sequence code]) :=
  reply_keeps (emit_keeps _ _)

theorem start_keeps {m : HubM Unit} {sequence : ℤ}
    (h : Effect.Triple (Covered machine watchdog at_) m
      (fun _ agent => agent.lastFrameAt = at_ ∧ agent.watchdogMilliseconds = watchdog)
      (fun _ => Covered machine watchdog at_)) :
    Keeps machine watchdog at_ (do
      m
      setMotorsRunning true
      return [← ack sequence]) := by
  apply Effect.Triple.bind h
  intro _
  apply Effect.Triple.bind (Q := fun _ => Covered machine watchdog at_)
  · apply Effect.Triple.update
    exact fun agent hclock => ⟨fun _ => rfl, hclock.1, hclock.2⟩
  · intro _
    exact ack_keeps sequence

theorem call_clock (request : MachineCall) : Effect.Triple (Covered machine watchdog at_)
    (call request)
    (fun _ agent => agent.lastFrameAt = at_ ∧ agent.watchdogMilliseconds = watchdog)
    (fun _ => Covered machine watchdog at_) := by
  apply Effect.Triple.update
  exact fun agent h => ⟨h.clock, h.watchdog⟩

theorem stopAll_stops : Effect.Triple (Covered machine watchdog at_) stopAll
    (fun _ agent => Covered machine watchdog at_ agent ∧ movingPorts machine agent.calls = [])
    (fun _ => Covered machine watchdog at_) := by
  apply Effect.Triple.bind (Q := fun _ agent => Covered machine watchdog at_ agent ∧
    movingPorts machine agent.calls = [])
  · apply Effect.Triple.update
    intro agent h
    have hstill : movingPorts machine (agent.calls ++ [MachineCall.stopAll]) = [] := by
      rw [movingPorts_append]
      rfl
    exact ⟨⟨fun hmoving => absurd hstill hmoving, h.clock, h.watchdog⟩, hstill⟩
  · intro _
    apply Effect.Triple.update
    intro agent h
    exact ⟨⟨fun hmoving => absurd h.2 hmoving, h.1.clock, h.1.watchdog⟩, h.2⟩

theorem stopAll_keeps : Keeps machine watchdog at_ stopAll :=
  stopAll_stops.conseq (fun _ h => h) (fun _ _ h => h.1) fun _ _ h => h

theorem argument_keeps (arguments : List String) (i : ℕ) :
    Effect.Triple (Covered machine watchdog at_) (argument arguments i)
      (fun text agent => Covered machine watchdog at_ agent ∧ arguments[i]? = some text)
      (fun _ => Covered machine watchdog at_) := by
  apply Effect.Triple.read
  · intro agent text h htext
    split at htext
    · rename_i found hfound
      cases htext
      exact ⟨h, hfound⟩
    · cases htext
  · exact fun _ _ h _ => h

theorem anyArgument_keeps (arguments : List String) (i : ℕ) :
    Keeps machine watchdog at_ (argument arguments i) :=
  (argument_keeps arguments i).conseq (fun _ h => h) (fun _ _ h => h.1) fun _ _ h => h

theorem toInt_keeps (text : String) : Keeps machine watchdog at_ (toInt rules text) :=
  Effect.Triple.read (fun _ _ h _ => h) fun _ _ h _ => h

theorem intArgument_keeps (arguments : List String) (i : ℕ) :
    Keeps machine watchdog at_ (intArgument rules arguments i) := by
  apply Effect.Triple.bind (argument_keeps arguments i)
  intro text
  exact (toInt_keeps text).conseq (fun _ h => h.1) (fun _ _ h => h) fun _ _ h => h

theorem call_keeps {request : MachineCall} (h : ∀ moving, moves machine moving request = moving) :
    Keeps machine watchdog at_ (call request) := by
  apply Effect.Triple.update
  intro agent hcovered
  refine ⟨?_, hcovered.clock, hcovered.watchdog⟩
  intro hmoving
  rw [movingPorts_append, h] at hmoving
  exact hcovered.flag hmoving

theorem driveCall_clock (operation : String) (arguments : List String) :
    Effect.Triple (Covered machine watchdog at_) (driveCall rules operation arguments)
      (fun _ agent => agent.lastFrameAt = at_ ∧ agent.watchdogMilliseconds = watchdog)
      (fun _ => Covered machine watchdog at_) := by
  unfold driveCall
  split
  · apply Effect.Triple.bind (intArgument_keeps arguments 0)
    intro percent
    apply Effect.Triple.bind (intArgument_keeps arguments 1)
    intro turn
    apply Effect.Triple.bind (intArgument_keeps arguments 2)
    intro milliseconds
    exact call_clock _
  · apply Effect.Triple.bind (intArgument_keeps arguments 0)
    intro millimetres
    exact call_clock _
  · apply Effect.Triple.bind (intArgument_keeps arguments 0)
    intro angle
    exact call_clock _

theorem driveOrRefuse_keeps (sequence : ℤ) (operation : String) (arguments : List String) :
    Keeps machine watchdog at_ (if machine.hasDriveBase = true then
      driveHandler rules sequence operation arguments
    else do return [← error sequence "UNSUPPORTED"]) := by
  split
  · exact start_keeps (driveCall_clock operation arguments)
  · exact error_keeps sequence "UNSUPPORTED"

/-- A motor operation reads its port and two numbers, and starts the motor. -/
theorem motor_keeps {sequence : ℤ} {arguments : List String} (request : String → ℤ → ℤ → MachineCall) :
    Keeps machine watchdog at_ (do
      let port ← argument arguments 0
      if machine.isMotor port = true then do
        let first ← intArgument rules arguments 1
        let second ← intArgument rules arguments 2
        call (request port first second)
        setMotorsRunning true
        return [← ack sequence]
      else do return [← error sequence "BAD_PORT"]) := by
  apply Effect.Triple.bind (anyArgument_keeps arguments 0)
  intro port
  split
  · apply Effect.Triple.bind (intArgument_keeps arguments 1)
    intro first
    apply Effect.Triple.bind (intArgument_keeps arguments 2)
    intro second
    exact start_keeps (call_clock _)
  · exact error_keeps sequence "BAD_PORT"

/-- The stop of a single motor clears the flag; it may, when no other motor moves. -/
theorem motorStop_keeps (sequence : ℤ) (arguments : List String) :
    Effect.Triple (fun agent => Covered machine watchdog at_ agent ∧
        StopsLast machine agent "MOTOR_STOP" arguments)
      (do
        let port ← argument arguments 0
        if port = "ALL" then do
          stopAll
          return [← ack sequence]
        else if machine.isMotor port = true then do
          call (.motorStop port)
          setMotorsRunning false
          return [← ack sequence]
        else do return [← error sequence "BAD_PORT"])
      (fun _ => Covered machine watchdog at_) (fun _ => Covered machine watchdog at_) := by
  apply Effect.Triple.bind (Q := fun port agent => Covered machine watchdog at_ agent ∧
    (port ≠ "ALL" → machine.isMotor port = true →
      ∀ other ∈ movingPorts machine agent.calls, other = port))
  · apply Effect.Triple.read
    · intro agent port h hport
      split at hport
      · rename_i found hfound
        cases hport
        exact ⟨h.1, h.2 rfl port hfound⟩
      · cases hport
    · exact fun _ _ h _ => h.1
  · intro port
    split
    · apply Effect.Triple.bind (stopAll_keeps.conseq (fun _ h => h.1) (fun _ _ h => h) fun _ _ h => h)
      intro _
      exact ack_keeps sequence
    · rename_i hall
      split
      · rename_i hmotor
        apply Effect.Triple.bind (Q := fun _ agent => Covered machine watchdog at_ agent ∧
          movingPorts machine agent.calls = [])
        · apply Effect.Triple.update
          intro agent h
          have hstill : movingPorts machine (agent.calls ++ [MachineCall.motorStop port]) = [] := by
            rw [movingPorts_append, moves, List.filter_eq_nil_iff]
            intro other hother
            simp [h.2 hall hmotor other hother]
          exact ⟨⟨fun hmoving => absurd hstill hmoving, h.1.clock, h.1.watchdog⟩, hstill⟩
        · intro _
          apply Effect.Triple.bind (Q := fun _ => Covered machine watchdog at_)
          · apply Effect.Triple.update
            intro agent h
            exact ⟨fun hmoving => absurd h.2 hmoving, h.1.clock, h.1.watchdog⟩
          · intro _
            exact ack_keeps sequence
      · exact (error_keeps sequence "BAD_PORT").conseq (fun _ h => h.1) (fun _ _ h => h)
          fun _ _ h => h

/-- One dispatched frame keeps the cover, unless it stops one of several moving motors. -/
theorem dispatch_keeps (sequence : ℤ) (operation : String) (arguments : List String) :
    Effect.Triple (fun agent => Covered machine watchdog at_ agent ∧
        StopsLast machine agent operation arguments)
      (dispatch rules machine readings sequence operation arguments)
      (fun _ => Covered machine watchdog at_) (fun _ => Covered machine watchdog at_) := by
  have hkeeps : ∀ {m : HubM (List String)}, Keeps machine watchdog at_ m →
      Effect.Triple (fun agent => Covered machine watchdog at_ agent ∧
        StopsLast machine agent operation arguments) m
        (fun _ => Covered machine watchdog at_) (fun _ => Covered machine watchdog at_) := by
    intro m hm
    exact hm.conseq (fun _ h => h.1) (fun _ _ h => h) fun _ _ h => h
  unfold dispatch
  split
  · exact hkeeps (reply_keeps (emit_keeps _ _))
  · exact hkeeps (ack_keeps sequence)
  · exact hkeeps (Effect.Triple.bind stopAll_keeps fun _ => ack_keeps sequence)
  · exact motorStop_keeps sequence arguments
  · exact hkeeps (motor_keeps fun port percent milliseconds => .motorRun port
      (percentToSpeed (clamp percent (-maxMotorPercent) maxMotorPercent))
      (clamp milliseconds 1 maxCommandMilliseconds))
  · exact hkeeps (motor_keeps fun port angle percent => .motorRunAngle port
      (percentToSpeed (clamp percent (-maxMotorPercent) maxMotorPercent)) (clamp angle (-3600) 3600))
  · exact hkeeps (motor_keeps fun port angle percent => .motorRunTarget port
      (percentToSpeed (clamp percent (-maxMotorPercent) maxMotorPercent)) (clamp angle (-3600) 3600))
  · exact hkeeps (driveOrRefuse_keeps sequence "DRIVE" arguments)
  · exact hkeeps (driveOrRefuse_keeps sequence "DRIVE_STRAIGHT" arguments)
  · exact hkeeps (driveOrRefuse_keeps sequence "TURN" arguments)
  · apply hkeeps
    apply Effect.Triple.bind (anyArgument_keeps arguments 0)
    intro port
    apply Effect.Triple.bind (anyArgument_keeps arguments 1)
    intro kind
    split
    · exact error_keeps sequence "BAD_PORT"
    · apply Effect.Triple.bind (emit_keeps _ _)
      intro acknowledged
      apply Effect.Triple.bind (emit_keeps _ _)
      intro reading
      exact Effect.Triple.pure fun _ h => h
  · apply hkeeps
    apply Effect.Triple.bind (anyArgument_keeps arguments 0)
    intro port
    apply Effect.Triple.bind (anyArgument_keeps arguments 1)
    intro kind
    apply Effect.Triple.bind (intArgument_keeps arguments 2)
    intro interval
    split
    · exact error_keeps sequence "BAD_PORT"
    · apply Effect.Triple.bind (Q := fun _ => Covered machine watchdog at_)
      · apply Effect.Triple.update
        exact fun agent h => ⟨h.flag, h.clock, h.watchdog⟩
      · intro _
        exact ack_keeps sequence
  · apply hkeeps
    apply Effect.Triple.bind (anyArgument_keeps arguments 0)
    intro text
    apply Effect.Triple.bind (call_keeps fun _ => rfl)
    intro _
    exact ack_keeps sequence
  · apply hkeeps
    apply Effect.Triple.bind (intArgument_keeps arguments 0)
    intro frequency
    apply Effect.Triple.bind (intArgument_keeps arguments 1)
    intro milliseconds
    apply Effect.Triple.bind (call_keeps fun _ => rfl)
    intro _
    exact ack_keeps sequence
  · exact hkeeps (error_keeps sequence "UNSUPPORTED")

/-- What a line may do: it stops no single motor while another one moves. -/
def LineStopsLast (rules : TextRules) (machine : HubMachine) (agent : HubAgent) (line : String) :
    Prop :=
  match decodeFrame rules line with
  | .ok (_, operation, arguments) => StopsLast machine agent operation arguments
  | .error _ => True

/-- When the last frame was accepted, after a line: a line that is no frame changes nothing. -/
def acceptedAt (rules : TextRules) (line : String) (now at_ : ℤ) : ℤ :=
  match decodeFrame rules line with
  | .ok _ => now
  | .error _ => at_

theorem handleLine_keeps (line : String) (now : ℤ) :
    Effect.Triple (fun agent => Covered machine watchdog at_ agent ∧
        LineStopsLast rules machine agent line)
      (handleLine rules machine readings line now)
      (fun _ => Covered machine watchdog (acceptedAt rules line now at_))
      (fun _ => Covered machine watchdog (acceptedAt rules line now at_)) := by
  unfold handleLine LineStopsLast acceptedAt
  cases decodeFrame rules line with
  | error e =>
    cases e with
    | frame message =>
      exact (error_keeps 0 "BAD_FRAME").conseq (fun _ h => h.1) (fun _ _ h => h) fun _ _ h => h
    | value message => exact Effect.Triple.throw fun _ h => h.1
    | index message => exact Effect.Triple.throw fun _ h => h.1
  | ok fields =>
    obtain ⟨sequence, operation, arguments⟩ := fields
    apply Effect.Triple.bind (Q := fun _ agent => Covered machine watchdog now agent ∧
      StopsLast machine agent operation arguments)
    · apply Effect.Triple.update
      exact fun agent h => ⟨⟨h.1.flag, rfl, h.1.watchdog⟩, h.2⟩
    · intro _
      apply Effect.Triple.rescue (dispatch_keeps sequence operation arguments)
      intro e
      cases e with
      | frame message => exact error_keeps sequence "BAD_ARGUMENT"
      | value message => exact Effect.Triple.throw fun _ h => h
      | index message => exact Effect.Triple.throw fun _ h => h

theorem pollButton_keeps : Keeps machine watchdog at_ (pollButton readings) := by
  unfold pollButton
  split
  · exact Effect.Triple.pure fun _ h => h
  · split
    · exact Effect.Triple.pure fun _ h => h
    · apply Effect.Triple.bind stopAll_keeps
      intro _
      exact reply_keeps (emit_keeps _ _)

theorem pollWatchdog_keeps (now : ℤ) : Keeps machine watchdog at_ (pollWatchdog now) := by
  apply Effect.Triple.bind (Effect.Triple.read (fun _ _ h _ => h) fun _ _ h _ => h)
  intro late
  split
  · apply Effect.Triple.bind stopAll_keeps
    intro _
    exact error_keeps 0 "WATCHDOG"
  · exact Effect.Triple.pure fun _ h => h

theorem pollSubscriptions_keeps {P : HubAgent → Prop}
    (hsequence : ∀ agent sequence, P agent → P { agent with sequence := sequence })
    (hsubscriptions : ∀ agent subscriptions, P agent →
      P { agent with subscriptions := subscriptions })
    (now : ℤ) (sent todo : List Subscription) :
    Effect.Triple P (pollSubscriptions readings now sent todo) (fun _ => P) (fun _ => P) := by
  induction todo generalizing sent with
  | nil => exact Effect.Triple.pure fun _ h => h
  | cons subscription rest ih =>
    unfold pollSubscriptions
    split
    · exact ih _
    · apply Effect.Triple.bind (Q := fun _ => P)
      · apply Effect.Triple.update
        exact fun agent h => hsubscriptions agent _ h
      · intro _
        split
        · exact ih _
        · apply Effect.Triple.bind (Q := fun _ => P)
          · apply Effect.Triple.bind (Q := fun _ => P)
            · apply Effect.Triple.update
              exact fun agent h => hsequence agent _ h
            · intro _
              exact Effect.Triple.read (fun _ _ h _ => h) fun _ _ h _ => h
          · intro line
            apply Effect.Triple.bind (ih _)
            intro others
            exact Effect.Triple.pure fun _ h => h

theorem poll_keeps (now : ℤ) : Keeps machine watchdog at_ (poll readings now) := by
  apply Effect.Triple.bind pollButton_keeps
  intro pressed
  apply Effect.Triple.bind (pollWatchdog_keeps now)
  intro expired
  apply Effect.Triple.bind (Effect.Triple.read (fun _ _ h _ => h) fun _ _ h _ => h)
  intro subscriptions
  apply Effect.Triple.bind (pollSubscriptions_keeps (fun _ _ h => ⟨h.flag, h.clock, h.watchdog⟩)
    (fun _ _ h => ⟨h.flag, h.clock, h.watchdog⟩) now [] subscriptions)
  intro telemetry
  exact Effect.Triple.pure fun _ h => h

/-- Everything was stopped after the calls `before`. -/
def Stopped (machine : HubMachine) (before : List MachineCall) (agent : HubAgent) : Prop :=
  ∃ rest, agent.calls = before ++ rest ∧ MachineCall.stopAll ∈ rest ∧ movingPorts machine agent.calls = []

theorem stopAll_stopped {before : List MachineCall} :
    Effect.Triple (fun agent => ∃ rest, agent.calls = before ++ rest) stopAll
      (fun _ => Stopped machine before) (fun _ _ => False) := by
  apply Effect.Triple.bind (Q := fun _ => Stopped machine before)
  · apply Effect.Triple.update
    intro agent h
    obtain ⟨rest, hcalls⟩ := h
    refine ⟨rest ++ [MachineCall.stopAll], ?_, by simp, ?_⟩
    · simp [hcalls]
    · simp only [movingPorts_append]
      rfl
  · intro _
    apply Effect.Triple.update
    exact fun _ h => h

/-- A reply after the stop leaves it as it is. -/
theorem emit_stopped {before : List MachineCall} (operation : String) (arguments : List String) :
    Effect.Triple (Stopped machine before) (do return [← emit operation arguments])
      (fun _ => Stopped machine before) (fun _ => Stopped machine before) := by
  apply Effect.Triple.bind (Q := fun _ => Stopped machine before)
  · apply Effect.Triple.bind (Q := fun _ => Stopped machine before)
    · apply Effect.Triple.update
      exact fun _ h => h
    · intro _
      exact Effect.Triple.read (fun _ _ h _ => h) fun _ _ h _ => h
  · intro line
    exact Effect.Triple.pure fun _ h => h

theorem poll_stops (machine : HubMachine) (readings : HubReadings) {before : List MachineCall}
    {now : ℤ} :
    Effect.Triple (fun agent => agent.calls = before ∧ agent.motorsRunning = true ∧
        agent.watchdogMilliseconds < now - agent.lastFrameAt)
      (poll readings now) (fun _ => Stopped machine before) (fun _ => Stopped machine before) := by
  -- either the button has stopped everything, or the watchdog finds the state as it was
  apply Effect.Triple.bind (Q := fun _ agent => Stopped machine before agent ∨
    (agent.calls = before ∧ agent.motorsRunning = true ∧
      agent.watchdogMilliseconds < now - agent.lastFrameAt))
  · unfold pollButton
    split
    · exact Effect.Triple.pure fun _ h => .inr h
    · split
      · exact Effect.Triple.pure fun _ h => .inr h
      · apply Effect.Triple.bind (stopAll_stopped.conseq
          (fun _ h => ⟨[], h.1.trans (List.append_nil before).symm⟩) (fun _ _ h => h)
          fun _ _ h => h.elim)
        intro _
        exact (emit_stopped _ _).conseq (fun _ h => h) (fun _ _ h => .inl h) fun _ _ h => h
  · intro pressed
    apply Effect.Triple.bind (Q := fun _ => Stopped machine before)
    · apply Effect.Triple.bind (Q := fun late agent => Stopped machine before agent ∨
        (agent.calls = before ∧ late = true))
      · apply Effect.Triple.read
        · intro agent late h hlate
          cases hlate
          rcases h with hstopped | ⟨hcalls, hflag, hlate⟩
          · exact .inl hstopped
          · exact .inr ⟨hcalls, by simp [hflag, hlate]⟩
        · intro agent e _ h
          cases h
      · intro late
        cases late with
        | true =>
          apply Effect.Triple.bind (stopAll_stopped.conseq ?_ (fun _ _ h => h) fun _ _ h => h.elim)
          · intro _
            exact emit_stopped _ _
          · intro agent h
            rcases h with ⟨rest, hcalls, _, _⟩ | ⟨hcalls, _⟩
            · exact ⟨rest, hcalls⟩
            · exact ⟨[], by simp [hcalls]⟩
        | false =>
          apply Effect.Triple.pure
          intro agent h
          exact h.resolve_right fun hnot => by simp at hnot
    · intro expired
      apply Effect.Triple.bind (Effect.Triple.read (fun _ _ h _ => h) fun _ _ h _ => h)
      intro subscriptions
      apply Effect.Triple.bind (pollSubscriptions_keeps (fun _ _ h => h) (fun _ _ h => h) now []
        subscriptions)
      intro telemetry
      exact Effect.Triple.pure fun _ h => h

end Triples

/-- The condition on a step: no line stops a single motor while another one moves. -/
def StopsWell (rules : TextRules) (machine : HubMachine) (agent : HubAgent) : HubEvent → Prop
  | .line text _ _ => LineStopsLast rules machine agent text
  | .poll _ _ => True

/-- When the last frame of a run was accepted; the agent starts at time 0. -/
def lastAcceptedAt (rules : TextRules) (events : List HubEvent) : ℤ :=
  events.foldl (fun at_ event => match event with
    | .line text now _ => acceptedAt rules text now at_
    | .poll _ _ => at_) 0

theorem covered_run {rules : TextRules} {machine : HubMachine} {watchdog : ℤ}
    {trace : List (HubEvent × List MachineCall)} {agent : HubAgent}
    (hrun : ((hubAgent rules machine watchdog).restrict (StopsWell rules machine)).Run trace agent) :
    Covered machine watchdog (lastAcceptedAt rules (trace.map Prod.fst)) agent := by
  refine hrun.induct (P := fun trace agent =>
    Covered machine watchdog (lastAcceptedAt rules (trace.map Prod.fst)) agent) ?_ ?_
  · intro agent hinit
    cases hinit
    exact ⟨fun h => absurd rfl h, rfl, rfl⟩
  · intro trace agent event agent' out _ hcovered hstep
    obtain ⟨hwell, rfl, -⟩ := hstep
    rw [lastAcceptedAt, List.map_append, List.foldl_append]
    cases event with
    | line text now readings => exact (handleLine_keeps text now).final ⟨hcovered, hwell⟩
    | poll now readings => exact (poll_keeps now).final hcovered

end Hub

/-- In a run that never stops a single motor while another one moves, a poll later than the
watchdog allows stops every motor. -/
theorem watchdog_stops {rules : TextRules} {machine : Hub.HubMachine} {watchdog now : ℤ}
    {trace : List (Hub.HubEvent × List Hub.MachineCall)} {agent agent' : HubAgent}
    {readings : Hub.HubReadings} {out : List Hub.MachineCall}
    (hrun : ((hubAgent rules machine watchdog).restrict (Hub.StopsWell rules machine)).Run trace
      agent)
    (hmoving : Hub.movingPorts machine agent.calls ≠ [])
    (hlate : Hub.lastAcceptedAt rules (trace.map Prod.fst) + watchdog < now)
    (hstep : (hubAgent rules machine watchdog).Step agent (.poll now readings) agent' out) :
    Hub.MachineCall.stopAll ∈ out ∧ Hub.movingPorts machine agent'.calls = [] := by
  obtain ⟨rfl, rfl⟩ := hstep
  have hcovered := Hub.covered_run hrun
  have hlate' : agent.watchdogMilliseconds < now - agent.lastFrameAt := by
    rw [hcovered.clock, hcovered.watchdog]
    omega
  have hstopped := (Hub.poll_stops machine readings).final
    ⟨rfl, hcovered.flag hmoving, hlate'⟩
  obtain ⟨rest, hcalls, hstop, hstill⟩ := hstopped
  have hafter : (Hub.after rules machine agent (.poll now readings)).calls = agent.calls ++ rest :=
    hcalls
  refine ⟨?_, hstill⟩
  rw [hafter, List.drop_left]
  exact hstop

namespace Hub

theorem lineStopsLast_of_still {rules : TextRules} {machine : HubMachine} {agent : HubAgent}
    (h : movingPorts machine agent.calls = []) (line : String) :
    LineStopsLast rules machine agent line := by
  unfold LineStopsLast
  split
  · intro _ port _ _ _ other hother
    rw [h] at hother
    cases hother
  · trivial

def robot : HubMachine where
  modelId := "spike-prime"
  ports := [("A", "motor"), ("B", "motor"), ("C", "distance"), ("D", "empty"), ("E", "empty"),
    ("F", "empty")]
  nodup := by decide

def idle : HubReadings where
  battery := 88
  sensorRead _ _ := none
  buttonPressed := none

def runA : HubEvent := .line "C1|1|MOTOR_RUN|A|40|2000\n" 0 idle
def runB : HubEvent := .line "C1|2|MOTOR_RUN|B|40|2000\n" 0 idle
def stopA : HubEvent := .line "C1|3|MOTOR_STOP|A\n" 0 idle

def drivenBy (events : List HubEvent) : HubAgent :=
  events.foldl (after .micropython robot) (HubAgent.initial watchdogMilliseconds)

end Hub

theorem watchdog_stops_robot : ∃ agent' out,
    (hubAgent .micropython Hub.robot 500).Step (Hub.drivenBy [Hub.runA]) (.poll 501 Hub.idle)
      agent' out ∧ Hub.MachineCall.stopAll ∈ out ∧ Hub.movingPorts Hub.robot agent'.calls = [] := by
  have hmoving : Hub.movingPorts Hub.robot (Hub.drivenBy [Hub.runA]).calls ≠ [] := by
    decide
  have hwell : Hub.StopsWell .micropython Hub.robot (HubAgent.initial 500) Hub.runA := by
    unfold Hub.StopsWell Hub.runA
    exact Hub.lineStopsLast_of_still rfl _
  have hrun : ((hubAgent .micropython Hub.robot 500).restrict
      (Hub.StopsWell .micropython Hub.robot)).Run
      [(Hub.runA, (Hub.drivenBy [Hub.runA]).calls.drop 0)] (Hub.drivenBy [Hub.runA]) :=
    ⟨HubAgent.initial 500, rfl, Machine.Steps.nil.snoc ⟨hwell, rfl, rfl⟩⟩
  have hlast : Hub.lastAcceptedAt .micropython [Hub.runA] = 0 := by
    decide
  have hlate : Hub.lastAcceptedAt .micropython [Hub.runA] + 500 < 501 := by
    rw [hlast]
    decide
  refine ⟨_, _, ⟨rfl, rfl⟩, watchdog_stops hrun hmoving hlate ⟨rfl, rfl⟩⟩

/-- One motor is stopped while another one runs; the watchdog no longer sees the other one. -/
theorem watchdog_sleeps : ∃ trace agent,
    (hubAgent .micropython Hub.robot 500).Run trace agent ∧
    Hub.movingPorts Hub.robot agent.calls = ["B"] ∧
    Hub.lastAcceptedAt .micropython (trace.map Prod.fst) = 0 ∧
    ∃ agent', (hubAgent .micropython Hub.robot 500).Step agent (.poll 1000 Hub.idle) agent' [] ∧
      Hub.movingPorts Hub.robot agent'.calls = ["B"] := by
  obtain ⟨trace, hevents, hrun⟩ := hubAgent_runs .micropython Hub.robot 500
    [Hub.runA, Hub.runB, Hub.stopA]
  refine ⟨trace, _, hrun, by decide, ?_, _, ⟨rfl, ?_⟩, ?_⟩
  · rw [hevents]
    decide
  · decide
  · decide

end CitPhysicalXR.Lego
