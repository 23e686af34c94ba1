import CitPhysicalXR.Lego.Codec

/-! What the hub answers to a frame: its reports always fit into a line, and a handler raises
nothing but a `FrameError` and names the frame in every answer. -/
namespace CitPhysicalXR.Lego
open Foundation

/-- Nothing but a `FrameError` is raised. -/
def RaisesFrame {α : Type} (x : Except CodecError α) : Prop :=
  ∀ e, x = .error e → ∃ message, e = .frame message

namespace RaisesFrame
variable {α β : Type}

theorem ok {a : α} : RaisesFrame (.ok a) := by
  intro e h
  cases h

theorem frame {message : String} : @RaisesFrame α (.error (.frame message)) := by
  intro e h
  cases h
  exact ⟨message, rfl⟩

theorem raise {c : Prop} [Decidable c] {message : String} :
    RaisesFrame (raiseIf c (.frame message)) := by
  unfold raiseIf
  split
  · exact frame
  · exact ok

theorem bind {x : Except CodecError α} {f : α → Except CodecError β} (hx : RaisesFrame x)
    (hf : ∀ a, x = .ok a → RaisesFrame (f a)) : RaisesFrame (x >>= f) := by
  intro e h
  cases hresult : x with
  | ok a =>
    rw [hresult] at h
    exact hf a hresult e h
  | error raised =>
    rw [hresult] at h
    cases h
    exact hx e hresult

theorem check {c : Prop} [Decidable c] {message : String} {f : Unit → Except CodecError β}
    (hf : ¬ c → RaisesFrame (f ())) : RaisesFrame (raiseIf c (.frame message) >>= f) :=
  bind raise fun _ hpass => hf (raiseIf_eq_ok.mp hpass)

theorem forM {f : α → Except CodecError Unit} {xs : List α} (h : ∀ x, RaisesFrame (f x)) :
    RaisesFrame (xs.forM f) := by
  induction xs with
  | nil => exact ok
  | cons x xs ih => exact bind (h x) fun _ _ => ih

end RaisesFrame

namespace Hub

theorem checkArgument_raises (text : String) : RaisesFrame (checkArgument text) :=
  .bind .raise fun _ _ => .raise

theorem encodeFrame_raises {sequence : ℤ} {operation : String} {arguments : List String} :
    RaisesFrame (encodeFrame sequence operation arguments) := by
  unfold encodeFrame
  split
  · exact .frame
  · apply RaisesFrame.check
    intro _
    apply RaisesFrame.bind
    · exact .forM checkArgument_raises
    · intro _ _
      exact .check fun _ => .ok

theorem length_integer_le {number : ℤ} (hbounded : |number| < sequenceModulus) :
    (toString number).length ≤ 5 := by
  rw [← String.length_toList]
  cases number with
  | ofNat n =>
    have hlt : n < 10 ^ 4 := Int.ofNat_lt.mp ((le_abs_self _).trans_lt hbounded)
    rw [Int.ofNat_eq_natCast, PyString.toString_natCast_toList]
    have := Nat.toDigits_length 10 n 4 (by decide) hlt
    omega
  | negSucc n =>
    have hlt : n + 1 < 10 ^ 4 := Int.ofNat_lt.mp ((neg_le_abs (Int.negSucc n)).trans_lt hbounded)
    rw [PyString.toString_negSucc_toList, List.length_cons]
    exact Nat.succ_le_succ (Nat.toDigits_length 10 (n + 1) 4 (by decide) hlt)

theorem length_number_le {number : ℤ} (hnonneg : 0 ≤ number)
    (hbounded : number < sequenceModulus) : (toString number).length ≤ 4 := by
  obtain ⟨n, rfl⟩ := Int.eq_ofNat_of_zero_le hnonneg
  have hlt : n < 10 ^ 4 := Int.ofNat_lt.mp hbounded
  rw [← String.length_toList, PyString.toString_natCast_toList]
  exact Nat.toDigits_length 10 n 4 (by decide) hlt

theorem isWireArgument_integer {number : ℤ} (hbounded : |number| < sequenceModulus) :
    IsWireArgument (toString number) := by
  have hdigits : ∀ d < 10, Nat.digitChar d ∈ allowedArgumentChars := by decide
  refine ⟨(length_integer_le hbounded).trans (by decide), ?_⟩
  intro c hc
  rcases PyString.mem_toString_int hc with rfl | ⟨d, hd, rfl⟩
  · decide
  · exact hdigits d hd

theorem isWireArgument_number {number : ℤ} (hnonneg : 0 ≤ number)
    (hbounded : number < sequenceModulus) : IsWireArgument (toString number) :=
  isWireArgument_integer (by rwa [abs_of_nonneg hnonneg])

theorem error_encodes (own : ℤ) {number : ℤ} {code : String} (hcode : IsWireArgument code)
    (hnonneg : 0 ≤ number) (hbounded : number < sequenceModulus) :
    ∃ line, encodeFrame own "ERROR" [toString number, code] = .ok line := by
  have hmod : (0 : ℤ) < sequenceModulus := by decide
  have hown := length_number_le (Int.emod_nonneg own hmod.ne') (Int.emod_lt_of_pos own hmod)
  have hnumber := length_number_le hnonneg hbounded
  have htag : protocolTag.length = 2 := by decide
  have hname : "ERROR".length = 5 := by decide
  have hlength : (PyString.join '|' [protocolTag, toString (own % sequenceModulus), "ERROR",
      toString number, code]).length ≤ maxFrameChars := by
    have hmax : maxArgumentChars + 19 ≤ maxFrameChars := by decide
    have hshort := hcode.1
    simp only [PyString.length_join_cons_cons, PyString.join_singleton]
    omega
  have hwire : ∀ argument ∈ [toString number, code], checkArgument argument = .ok () := by
    simp only [List.mem_cons, List.not_mem_nil, or_false, forall_eq_or_imp, forall_eq,
      checkArgument_ok]
    exact ⟨isWireArgument_number hnonneg hbounded, hcode⟩
  have hentry : arity.lookup "ERROR" = some (2, 2) := by decide
  refine ⟨PyString.join '|' [protocolTag, toString (own % sequenceModulus), "ERROR",
    toString number, code], ?_⟩
  simp only [encodeFrame, hentry, seq_eq_ok, raiseIf_eq_ok, forM_eq_ok_iff]
  exact ⟨by simp, hwire, not_lt.mpr hlength, rfl⟩

theorem emit_eq {operation line : String} {arguments : List String} {agent : HubAgent}
    (h : encodeFrame ((agent.sequence + 1) % sequenceModulus) operation arguments = .ok line) :
    emit operation arguments agent =
      .ok line { agent with sequence := (agent.sequence + 1) % sequenceModulus } := by
  unfold emit
  simp only [Bind.bind, EStateM.bind, Effect.update, Effect.read, h]

/-- A call of the agent that raises nothing but a `FrameError`. -/
abbrev Checked {α : Type} (m : HubM α) : Prop :=
  Effect.Triple (fun _ => True) m (fun _ _ => True) (fun e _ => ∃ message, e = .frame message)

/-- The names and arguments that answer a frame: an answer names the frame, and `HELLO` is
answered by `HELLO`. -/
inductive IsAnswer (sequence : ℤ) (operation : String) : String → List String → Prop
  | ack : IsAnswer sequence operation "ACK" [toString sequence]
  | error (code : String) : IsAnswer sequence operation "ERROR" [toString sequence, code]
  | telemetry (arguments : List String) : IsAnswer sequence operation "TELEMETRY" arguments
  | hello (arguments : List String) (h : operation = "HELLO") :
      IsAnswer sequence operation "HELLO" arguments

def IsAnswerLine (sequence : ℤ) (operation line : String) : Prop :=
  ∃ own name arguments, IsAnswer sequence operation name arguments ∧
    encodeFrame own name arguments = .ok line

/-- A handler whose lines all answer its frame. -/
abbrev Answers (sequence : ℤ) (operation : String) (m : HubM (List String)) : Prop :=
  Effect.Triple (fun _ => True) m
    (fun lines _ => ∀ line ∈ lines, IsAnswerLine sequence operation line)
    (fun e _ => ∃ message, e = .frame message)

section Handlers
variable {rules : TextRules} {machine : HubMachine} {readings : HubReadings} {sequence : ℤ}
  {operation : String} {arguments : List String}

theorem update_checked (f : HubAgent → HubAgent) : Checked (Effect.update f) :=
  Effect.Triple.update fun _ _ => trivial

theorem emit_answers {name : String} (h : IsAnswer sequence operation name arguments) :
    Effect.Triple (fun _ => True) (emit name arguments)
      (fun line _ => IsAnswerLine sequence operation line)
      (fun e _ => ∃ message, e = .frame message) := by
  apply Effect.Triple.bind (update_checked _)
  intro _
  apply Effect.Triple.read
  · exact fun agent line _ hline => ⟨agent.sequence, name, arguments, h, hline⟩
  · exact fun _ e _ herror => encodeFrame_raises e herror

theorem reply_answers {name : String} (h : IsAnswer sequence operation name arguments) :
    Answers sequence operation (do return [← emit name arguments]) := by
  apply Effect.Triple.bind (emit_answers h)
  intro line
  apply Effect.Triple.pure
  intro _ hline other hother
  obtain rfl := List.mem_singleton.mp hother
  exact hline

theorem ack_answers : Answers sequence operation (do return [← ack sequence]) :=
  reply_answers .ack

theorem error_answers (code : String) :
    Answers sequence operation (do return [← error sequence code]) :=
  reply_answers (.error code)

theorem argument_checked {i : ℕ} (hi : i < arguments.length) : Checked (argument arguments i) := by
  apply Effect.Triple.read
  · exact fun _ _ _ _ => trivial
  · intro _ e _ h
    rw [List.getElem?_eq_getElem hi] at h
    cases h

theorem toInt_checked (text : String) : Checked (toInt rules text) := by
  apply Effect.Triple.read
  · exact fun _ _ _ _ => trivial
  · intro _ e _ h
    split at h
    · cases h
    · cases h
      exact ⟨_, rfl⟩

theorem intArgument_checked {i : ℕ} (hi : i < arguments.length) :
    Checked (intArgument rules arguments i) :=
  Effect.Triple.bind (argument_checked hi) toInt_checked

/-- Whatever is done first, what follows is an acknowledgement. -/
theorem then_ack_answers {m : HubM Unit} (h : Checked m) : Answers sequence operation (do
    m
    return [← ack sequence]) :=
  Effect.Triple.bind h fun _ => ack_answers

theorem stopAll_checked : Checked stopAll :=
  Effect.Triple.bind (update_checked _) fun _ => update_checked _

theorem start_answers {m : HubM Unit} (h : Checked m) : Answers sequence operation (do
    m
    setMotorsRunning true
    return [← ack sequence]) :=
  Effect.Triple.bind h fun _ => then_ack_answers (update_checked _)

theorem ack_telemetry_answers (reading : List String) : Answers sequence operation (do
    return [← ack sequence, ← emit "TELEMETRY" reading]) := by
  have hack : IsAnswer sequence operation "ACK" [toString sequence] := .ack
  apply Effect.Triple.bind (emit_answers hack)
  intro acknowledged
  have hreading : IsAnswer sequence operation "TELEMETRY" reading := .telemetry reading
  apply Effect.Triple.bind ((emit_answers hreading).frame.conseq (fun _ h => ⟨trivial, h⟩)
    (fun _ _ h => h) fun _ _ h => h)
  intro line
  apply Effect.Triple.pure
  rintro _ ⟨hline, hfirst⟩ other hother
  simp only [List.mem_cons, List.not_mem_nil, or_false] at hother
  rcases hother with rfl | rfl
  · exact hfirst
  · exact hline

theorem driveCall_checked {low high : ℕ}
    (hentry : arity.lookup operation = some (low, high)) (hlow : low ≤ arguments.length)
    (hpos : 0 < low) : Checked (driveCall rules operation arguments) := by
  unfold driveCall
  split
  · obtain ⟨rfl, rfl⟩ : (3, 3) = (low, high) := Option.some.inj hentry
    apply Effect.Triple.bind (intArgument_checked (by omega))
    intro percent
    apply Effect.Triple.bind (intArgument_checked (by omega))
    intro turn
    apply Effect.Triple.bind (intArgument_checked (by omega))
    intro milliseconds
    exact update_checked _
  · apply Effect.Triple.bind (intArgument_checked (by omega))
    intro millimetres
    exact update_checked _
  · apply Effect.Triple.bind (intArgument_checked (by omega))
    intro angle
    exact update_checked _

theorem motor_answers (request : String → ℤ → ℤ → MachineCall)
    (hlow : 3 ≤ arguments.length) : Answers sequence operation (do
      let port ← argument arguments 0
      if machine.isMotor port = true then do
        let first ← intArgument rules arguments 1
        let second ← intArgument rules arguments 2
        call (request port first second)
        setMotorsRunning true
        return [← ack sequence]
      else do return [← error sequence "BAD_PORT"]) := by
  apply Effect.Triple.bind (argument_checked (by omega))
  intro port
  split
  · apply Effect.Triple.bind (intArgument_checked (by omega))
    intro first
    apply Effect.Triple.bind (intArgument_checked (by omega))
    intro second
    exact start_answers (update_checked _)
  · exact error_answers "BAD_PORT"

theorem driveOrRefuse_answers {low high : ℕ}
    (hentry : arity.lookup operation = some (low, high)) (hlow : low ≤ arguments.length)
    (hpos : 0 < low) : Answers sequence operation (if machine.hasDriveBase = true then
      driveHandler rules sequence operation arguments
    else do return [← error sequence "UNSUPPORTED"]) := by
  split
  · exact start_answers (driveCall_checked hentry hlow hpos)
  · exact error_answers "UNSUPPORTED"

/-- A frame with as many arguments as its operation takes is answered, or raises a
`FrameError`. -/
theorem dispatch_answers {low high : ℕ} (sequence : ℤ)
    (hentry : arity.lookup operation = some (low, high)) (hlow : low ≤ arguments.length) :
    Answers sequence operation (dispatch rules machine readings sequence operation arguments) := by
  unfold dispatch
  split
  · exact reply_answers (.hello _ rfl)
  · exact ack_answers
  · exact then_ack_answers stopAll_checked
  · obtain ⟨rfl, rfl⟩ : (1, 1) = (low, high) := Option.some.inj hentry
    apply Effect.Triple.bind (argument_checked (by omega))
    intro port
    split
    · exact then_ack_answers stopAll_checked
    · split
      · apply Effect.Triple.bind (update_checked _)
        intro _
        exact then_ack_answers (update_checked _)
      · exact error_answers "BAD_PORT"
  · obtain ⟨rfl, rfl⟩ : (3, 3) = (low, high) := Option.some.inj hentry
    exact motor_answers (fun port percent milliseconds => .motorRun port
      (percentToSpeed (clamp percent (-maxMotorPercent) maxMotorPercent))
      (clamp milliseconds 1 maxCommandMilliseconds)) hlow
  · obtain ⟨rfl, rfl⟩ : (3, 3) = (low, high) := Option.some.inj hentry
    exact motor_answers (fun port angle percent => .motorRunAngle port
      (percentToSpeed (clamp percent (-maxMotorPercent) maxMotorPercent))
      (clamp angle (-3600) 3600)) hlow
  · obtain ⟨rfl, rfl⟩ : (3, 3) = (low, high) := Option.some.inj hentry
    exact motor_answers (fun port angle percent => .motorRunTarget port
      (percentToSpeed (clamp percent (-maxMotorPercent) maxMotorPercent))
      (clamp angle (-3600) 3600)) hlow
  · obtain ⟨rfl, rfl⟩ : (3, 3) = (low, high) := Option.some.inj hentry
    exact driveOrRefuse_answers hentry hlow (by decide)
  · obtain ⟨rfl, rfl⟩ : (2, 2) = (low, high) := Option.some.inj hentry
    exact driveOrRefuse_answers hentry hlow (by decide)
  · obtain ⟨rfl, rfl⟩ : (2, 2) = (low, high) := Option.some.inj hentry
    exact driveOrRefuse_answers hentry hlow (by decide)
  · obtain ⟨rfl, rfl⟩ : (2, 2) = (low, high) := Option.some.inj hentry
    apply Effect.Triple.bind (argument_checked (by omega))
    intro port
    apply Effect.Triple.bind (argument_checked (by omega))
    intro kind
    split
    · exact error_answers "BAD_PORT"
    · exact ack_telemetry_answers _
  · obtain ⟨rfl, rfl⟩ : (3, 3) = (low, high) := Option.some.inj hentry
    apply Effect.Triple.bind (argument_checked (by omega))
    intro port
    apply Effect.Triple.bind (argument_checked (by omega))
    intro kind
    apply Effect.Triple.bind (intArgument_checked (by omega))
    intro interval
    split
    · exact error_answers "BAD_PORT"
    · exact then_ack_answers (update_checked _)
  · obtain ⟨rfl, rfl⟩ : (1, 1) = (low, high) := Option.some.inj hentry
    apply Effect.Triple.bind (argument_checked (by omega))
    intro text
    exact then_ack_answers (update_checked _)
  · obtain ⟨rfl, rfl⟩ : (2, 2) = (low, high) := Option.some.inj hentry
    apply Effect.Triple.bind (intArgument_checked (by omega))
    intro frequency
    apply Effect.Triple.bind (intArgument_checked (by omega))
    intro milliseconds
    exact then_ack_answers (update_checked _)
  · exact error_answers "UNSUPPORTED"

theorem decodeFrame_arity {line : String} {number : ℤ}
    (h : decodeFrame rules line = .ok (number, operation, arguments)) :
    ∃ low high, arity.lookup operation = some (low, high) ∧ low ≤ arguments.length := by
  simp only [decodeFrame, seq_eq_ok] at h
  obtain ⟨-, -, h⟩ := h
  split at h
  · simp only [seq_eq_ok] at h
    obtain ⟨-, -, h⟩ := h
    split at h
    · cases h
    · simp only [seq_eq_ok] at h
      obtain ⟨-, h⟩ := h
      split at h
      · cases h
      · rename_i low high hentry
        simp only [seq_eq_ok, raiseIf_eq_ok, not_or, not_lt] at h
        obtain ⟨-, hcount, -, hpure⟩ := h
        cases hpure
        exact ⟨low, high, hentry, hcount.1⟩
  · cases h

/-- What a line is answered as: the frame that the hub reads, or a frame of number 0. -/
def answeredAs? (rules : TextRules) (line : String) : Option (ℤ × String) :=
  match decodeFrame rules line with
  | .ok (number, operation, _) => some (number, operation)
  | .error (.frame _) => some (0, "")
  | .error _ => none

theorem executed_answers {low high : ℕ} (number now : ℤ)
    (hentry : arity.lookup operation = some (low, high)) (hlow : low ≤ arguments.length) :
    Answers number operation (do
      Effect.update fun agent => { agent with lastFrameAt := now }
      Effect.rescue (dispatch rules machine readings number operation arguments) fun
        | .frame _ => do return [← error number "BAD_ARGUMENT"]
        | e => throw e) := by
  apply Effect.Triple.bind (update_checked _)
  intro _
  apply Effect.Triple.rescue (dispatch_answers number hentry hlow)
  intro e
  cases e with
  | frame message =>
    exact Effect.Triple.conseq (error_answers "BAD_ARGUMENT") (fun _ _ => trivial)
      (fun _ _ h => h) fun _ _ h => h
  | value message => exact Effect.Triple.throw (by rintro _ ⟨_, ⟨⟩⟩)
  | index message => exact Effect.Triple.throw (by rintro _ ⟨_, ⟨⟩⟩)

theorem handleLine_answers (line : String) (now : ℤ) :
    Effect.Triple (fun _ => True) (handleLine rules machine readings line now)
      (fun replies _ => ∀ reply ∈ replies, ∃ answered,
        answeredAs? rules line = some answered ∧ IsAnswerLine answered.1 answered.2 reply)
      (fun _ _ => True) := by
  unfold handleLine answeredAs?
  cases hdecode : decodeFrame rules line with
  | error e =>
    cases e with
    | frame message =>
      have herror : Answers 0 "" (do return [← error 0 "BAD_FRAME"]) := error_answers "BAD_FRAME"
      exact herror.conseq (fun _ h => h)
        (fun _ _ h reply hreply => ⟨_, rfl, h reply hreply⟩) fun _ _ _ => trivial
    | value message => exact Effect.Triple.throw fun _ _ => trivial
    | index message => exact Effect.Triple.throw fun _ _ => trivial
  | ok fields =>
    obtain ⟨number, operation, arguments⟩ := fields
    obtain ⟨low, high, hentry, hlow⟩ := decodeFrame_arity hdecode
    exact (executed_answers number now hentry hlow).conseq (fun _ h => h)
      (fun _ _ h reply hreply => ⟨_, rfl, h reply hreply⟩) fun _ _ _ => trivial

/-- The watchdog expires at a poll at which no button stops the motors first. -/
def watchdogFires (agent : HubAgent) (readings : HubReadings) (now : ℤ) : Bool :=
  readings.buttonPressed.all (· = "") && agent.motorsRunning &&
    decide (agent.watchdogMilliseconds < now - agent.lastFrameAt)

theorem pollSubscriptions_answers (now : ℤ) (sent rest : List Subscription) :
    Effect.Triple (fun _ => True) (pollSubscriptions readings now sent rest)
      (fun lines _ => ∀ line ∈ lines, IsAnswerLine sequence operation line)
      (fun _ _ => True) := by
  induction rest generalizing sent with
  | nil => exact Effect.Triple.pure fun _ _ => by simp
  | cons subscription rest ih =>
    unfold pollSubscriptions
    split
    · exact ih _
    · apply Effect.Triple.bind (Q := fun _ _ => True)
      · exact Effect.Triple.update fun _ _ => trivial
      intro _
      split
      · exact ih _
      · rename_i value _
        have hreading : IsAnswer sequence operation "TELEMETRY"
            [subscription.kind, toString value] := .telemetry _
        apply Effect.Triple.bind ((emit_answers hreading).conseq (fun _ h => h) (fun _ _ h => h)
          fun _ _ _ => trivial)
        intro line
        have hothers := ih (sent ++ [{ subscription with last := now }])
        apply Effect.Triple.bind (hothers.frame.conseq (fun _ h => ⟨trivial, h⟩) (fun _ _ h => h)
          fun _ _ h => h)
        intro others
        apply Effect.Triple.pure
        rintro _ ⟨hothers, hline⟩
        exact List.forall_mem_cons.mpr ⟨hline, hothers⟩

/-- Whatever a poll sends is no answer to a frame, or a report of number 0. -/
theorem poll_answers {agent : HubAgent} {now : ℤ}
    (hzero : watchdogFires agent readings now = true → sequence = 0) :
    Effect.Triple (· = agent) (poll readings now)
      (fun lines _ => ∀ line ∈ lines, IsAnswerLine sequence operation line)
      (fun _ _ => True) := by
  have hpressed : Effect.Triple (· = agent) (pollButton readings)
      (fun pressed after => (∀ line ∈ pressed, IsAnswerLine sequence operation line) ∧
        (after.motorsRunning = true → after.watchdogMilliseconds < now - after.lastFrameAt →
          sequence = 0))
      (fun _ _ => True) := by
    unfold pollButton
    split
    · rename_i hbutton
      apply Effect.Triple.pure
      rintro _ rfl
      exact ⟨by simp, fun hrunning hlate =>
        hzero (by simp [watchdogFires, hbutton, hrunning, hlate])⟩
    · rename_i button hbutton
      split
      · rename_i hempty
        apply Effect.Triple.pure
        rintro _ rfl
        exact ⟨by simp, fun hrunning hlate =>
          hzero (by simp [watchdogFires, hbutton, hempty, hrunning, hlate])⟩
      · -- the motors stand when the watchdog is asked
        apply Effect.Triple.bind (Q := fun _ after => after.motorsRunning = false)
        · apply Effect.Triple.bind (Q := fun _ _ => True)
          · exact Effect.Triple.update fun _ _ => trivial
          · intro _
            exact Effect.Triple.update fun _ _ => rfl
        intro _
        have hbuttonLine : IsAnswer sequence operation "TELEMETRY" ["button", button] :=
          .telemetry _
        have hstill : Effect.Triple (fun after : HubAgent => after.motorsRunning = false)
            (emit "TELEMETRY" ["button", button])
            (fun _ after => after.motorsRunning = false) (fun _ _ => True) := by
          apply Effect.Triple.bind (Q := fun _ after => after.motorsRunning = false)
          · exact Effect.Triple.update fun _ h => h
          · intro _
            exact Effect.Triple.read (fun _ _ h _ => h) fun _ _ _ _ => trivial
        apply Effect.Triple.bind (((emit_answers hbuttonLine).and hstill).conseq
          (fun _ h => ⟨trivial, h⟩) (fun _ _ h => h) fun _ _ _ => trivial)
        intro line
        apply Effect.Triple.pure
        rintro after ⟨hline, hafter⟩
        refine ⟨by simpa using hline, fun hrunning => ?_⟩
        rw [hafter] at hrunning
        cases hrunning
  apply Effect.Triple.bind hpressed
  intro pressed
  apply Effect.Triple.bind (Q := fun expired _ =>
    (∀ line ∈ pressed, IsAnswerLine sequence operation line) ∧
      ∀ line ∈ expired, IsAnswerLine sequence operation line)
  · unfold pollWatchdog
    apply Effect.Triple.bind (Q := fun late _ =>
      (∀ line ∈ pressed, IsAnswerLine sequence operation line) ∧ (late = true → sequence = 0))
    · apply Effect.Triple.read
      · rintro after late ⟨hlines, hafter⟩ hlate
        cases hlate
        refine ⟨hlines, fun hexpired => ?_⟩
        simp only [Bool.and_eq_true, decide_eq_true_eq] at hexpired
        exact hafter hexpired.1 hexpired.2
      · exact fun _ _ _ _ => trivial
    intro late
    split
    · rename_i hlate
      have hreport (hboth : (∀ line ∈ pressed, IsAnswerLine sequence operation line) ∧
          (late = true → sequence = 0)) : Effect.Triple (fun _ => True) (do
            stopAll
            return [← error 0 "WATCHDOG"])
          (fun expired _ => (∀ line ∈ pressed, IsAnswerLine sequence operation line) ∧
            ∀ line ∈ expired, IsAnswerLine sequence operation line) (fun _ _ => True) := by
        obtain rfl := hboth.2 hlate
        have herror : Answers 0 operation (do return [← error 0 "WATCHDOG"]) :=
          error_answers "WATCHDOG"
        exact (Effect.Triple.bind stopAll_checked fun _ => herror).conseq (fun _ h => h)
          (fun _ _ h => ⟨hboth.1, h⟩) fun _ _ _ => trivial
      exact (Effect.Triple.assume hreport).conseq (fun _ h => ⟨trivial, h⟩) (fun _ _ h => h)
        fun _ _ h => h
    · exact Effect.Triple.pure fun _ h => ⟨h.1, by simp⟩
  · intro expired
    apply Effect.Triple.bind (Q := fun _ _ =>
      (∀ line ∈ pressed, IsAnswerLine sequence operation line) ∧
        ∀ line ∈ expired, IsAnswerLine sequence operation line)
    · exact Effect.Triple.read (fun _ _ h _ => h) fun _ _ _ _ => trivial
    intro subscriptions
    apply Effect.Triple.bind ((pollSubscriptions_answers now [] subscriptions).frame.conseq
      (fun _ h => ⟨trivial, h⟩) (fun _ _ h => h) fun _ _ h => h)
    intro telemetry
    apply Effect.Triple.pure
    rintro _ ⟨htelemetry, hpressed, hexpired⟩ line hline
    rcases List.mem_append.mp hline with hline | hline
    · rcases List.mem_append.mp hline with hline | hline
      · exact hpressed line hline
      · exact hexpired line hline
    · exact htelemetry line hline

end Handlers

end Hub

end CitPhysicalXR.Lego
