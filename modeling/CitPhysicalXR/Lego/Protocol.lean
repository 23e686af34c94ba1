import CitPhysicalXR.Foundation.Effect
import CitPhysicalXR.Foundation.PyText

/-! The framed hub-agent protocol, the half of the host: frames carry the proof that they are
valid, and decoding is the only other way to obtain one. -/
namespace CitPhysicalXR.Lego
open Foundation

def protocolTag : String := "C1"
def fieldSeparator : Char := '|'
def frameTerminator : String := "\n"
def protocolVersion : ℕ := 1
def maxFrameChars : ℕ := 96
def maxArguments : ℕ := 4
def maxArgumentChars : ℕ := 24
def sequenceModulus : ℕ := 10000

def allowedArgumentChars : List Char :=
  "ABCDEFGHIJKLMNOPQRSTUVWXYZabcdefghijklmnopqrstuvwxyz0123456789 _.,:+-".toList

/-- Every operation the hub agent understands. -/
inductive Operation where
  | hello
  | heartbeat
  | ack
  | error
  | motorRun
  | motorRunAngle
  | motorRunTarget
  | motorStop
  | drive
  | driveStraight
  | turn
  | sensorRead
  | sensorSubscribe
  | display
  | sound
  | stopAll
  | telemetry
  deriving DecidableEq

namespace Operation

def all : List Operation :=
  [.hello, .heartbeat, .ack, .error, .motorRun, .motorRunAngle, .motorRunTarget, .motorStop,
    .drive, .driveStraight, .turn, .sensorRead, .sensorSubscribe, .display, .sound, .stopAll,
    .telemetry]

def value : Operation → String
  | .hello => "HELLO"
  | .heartbeat => "HEARTBEAT"
  | .ack => "ACK"
  | .error => "ERROR"
  | .motorRun => "MOTOR_RUN"
  | .motorRunAngle => "MOTOR_RUN_ANGLE"
  | .motorRunTarget => "MOTOR_RUN_TARGET"
  | .motorStop => "MOTOR_STOP"
  | .drive => "DRIVE"
  | .driveStraight => "DRIVE_STRAIGHT"
  | .turn => "TURN"
  | .sensorRead => "SENSOR_READ"
  | .sensorSubscribe => "SENSOR_SUBSCRIBE"
  | .display => "DISPLAY"
  | .sound => "SOUND"
  | .stopAll => "STOP_ALL"
  | .telemetry => "TELEMETRY"

/-- The least and the greatest number of arguments. -/
def arity : Operation → ℕ × ℕ
  | .hello => (2, 4)
  | .heartbeat => (1, 1)
  | .ack => (1, 2)
  | .error => (2, 2)
  | .motorRun => (3, 3)
  | .motorRunAngle => (3, 3)
  | .motorRunTarget => (3, 3)
  | .motorStop => (1, 1)
  | .drive => (3, 3)
  | .driveStraight => (2, 2)
  | .turn => (2, 2)
  | .sensorRead => (2, 2)
  | .sensorSubscribe => (3, 3)
  | .display => (1, 1)
  | .sound => (2, 2)
  | .stopAll => (1, 1)
  | .telemetry => (2, 3)

/-- `Operation(text)`; `none` is its `ValueError`. -/
def ofValue? (text : String) : Option Operation := all.find? fun operation => operation.value = text

theorem value_injective : Function.Injective value := by
  intro first second h
  cases first <;> cases second <;> first | rfl | exact absurd h (by decide)

@[simp] theorem ofValue?_value (operation : Operation) :
    ofValue? operation.value = some operation := by
  cases operation <;> decide

theorem ofValue?_eq_some {text : String} {operation : Operation}
    (h : ofValue? text = some operation) : operation.value = text := by
  simpa using List.find?_some h

end Operation

/-- `FrameError`, a frame that must not be acted on, and the exceptions that are none. -/
inductive CodecError where
  | frame (message : String)
  | value (message : String)
  | index (message : String)

def validateSequence (sequence : ℤ) : Except CodecError Unit :=
  raiseIf (¬ (0 ≤ sequence ∧ sequence < sequenceModulus))
    (.frame s!"Sequence must be within [0, {sequenceModulus})")

/-- The characters of an argument that are not allowed, sorted. -/
def illegalChars (argument : String) : List Char :=
  (argument.toList.filter fun c => c ∉ allowedArgumentChars).dedup.insertionSort
    fun a b => a.toNat ≤ b.toNat

def validateArgument (argument : String) : Except CodecError Unit := do
  raiseIf (maxArgumentChars < argument.length)
    (.frame s!"Argument exceeds {maxArgumentChars} characters")
  raiseIf (illegalChars argument ≠ []) (.frame ("Argument contains forbidden characters: [" ++
    PyString.joinComma ((illegalChars argument).map fun c => PyString.repr c.toString) ++ "]"))

/-- The wire line, without its terminator. -/
def encode (sequence : ℤ) (operation : Operation) (arguments : List String) : String :=
  PyString.join fieldSeparator
    (protocolTag :: toString sequence :: operation.value :: arguments)

/-- `Frame.__post_init__`. -/
def validateFrame (sequence : ℤ) (operation : Operation) (arguments : List String) :
    Except CodecError Unit := do
  validateSequence sequence
  let (minimum, maximum) := operation.arity
  raiseIf (¬ (minimum ≤ arguments.length ∧ arguments.length ≤ maximum))
    (.frame (operation.value ++ s!" takes {minimum}-{maximum} arguments, got {arguments.length}"))
  arguments.forM validateArgument
  raiseIf (maxFrameChars < (encode sequence operation arguments).length)
    (.frame s!"Frame exceeds {maxFrameChars} characters")

/-- One protocol line, already validated. -/
structure Frame where
  sequence : ℤ
  operation : Operation
  arguments : List String
  valid : validateFrame sequence operation arguments = .ok ()

namespace Frame

/-- The constructor of a frame, which raises when a field is out of bounds. -/
def create (sequence : ℤ) (operation : Operation) (arguments : List String) :
    Except CodecError Frame :=
  match h : validateFrame sequence operation arguments with
  | .ok () => .ok ⟨sequence, operation, arguments, h⟩
  | .error e => .error e

def encodeLine (frame : Frame) : String :=
  encode frame.sequence frame.operation frame.arguments ++ frameTerminator

theorem create_self (frame : Frame) :
    create frame.sequence frame.operation frame.arguments = .ok frame := by
  unfold create
  split
  · rfl
  · rename_i e h
    rw [frame.valid] at h
    cases h

end Frame

/-- Parse one line; anything unexpected raises. -/
def decode (line : String) : Except CodecError Frame := do
  let stripped := PyString.stripAll (fun c => c == '\r' || c == '\n') line
  raiseIf (stripped = "") (.frame "Empty frame")
  raiseIf (maxFrameChars < stripped.length) (.frame s!"Frame exceeds {maxFrameChars} characters")
  match PyString.split stripped fieldSeparator with
  | tag :: rawSequence :: rawOperation :: arguments =>
    raiseIf (tag ≠ protocolTag) (.frame ("Unsupported protocol tag " ++ PyString.repr tag ++
      "; this runtime speaks " ++ protocolTag))
    raiseIf (!TextRules.cpython.isDigits rawSequence)
      (.frame ("Sequence " ++ PyString.repr rawSequence ++ " is not a number"))
    match Operation.ofValue? rawOperation with
    | none => .error (.frame ("Unknown operation " ++ PyString.repr rawOperation))
    | some operation =>
      raiseIf (maxArguments < arguments.length)
        (.frame s!"A frame carries at most {maxArguments} arguments")
      match TextRules.cpython.toInt? rawSequence with
      | none => .error (.value "invalid literal for int() with base 10")
      | some sequence => Frame.create sequence operation arguments
  | _ => .error (.frame "A frame needs a tag, a sequence, and an operation")

end CitPhysicalXR.Lego
