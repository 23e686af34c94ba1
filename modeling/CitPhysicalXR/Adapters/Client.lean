import CitPhysicalXR.Fabric.Commands
import CitPhysicalXR.Foundation.Effect

/-! What the out-of-process adapters share: the exceptions of their calls, the replay cache of
executed commands and the wire client through which a bridge reports a lifecycle. -/
namespace CitPhysicalXR.Adapters
open Foundation Fabric

/-- The classes that the bridges tell apart; `exception` is any other class. The errors of the
device backends are subclasses of `RuntimeError`. -/
inductive ErrorKind where
  | valueError | osError | runtimeError | telloBackendError | fleetSequenceBackendError
  | vendorProcessError | smartPlugError | hubTransportError | exception
  deriving DecidableEq

/-- `isinstance(error, RuntimeError)`. -/
def ErrorKind.isRuntimeError : ErrorKind → Bool
  | .runtimeError | .telloBackendError | .fleetSequenceBackendError | .vendorProcessError
  | .smartPlugError | .hubTransportError => true
  | .valueError | .osError | .exception => false

structure AdapterError where
  kind : ErrorKind
  text : String
  deriving DecidableEq

def valueError (text : String) : AdapterError := ⟨.valueError, text⟩

/-- `str(error)[:500]`. -/
def AdapterError.reported (error : AdapterError) : String :=
  String.ofList (error.text.toList.take 500)

theorem AdapterError.textWithin_reported {error : AdapterError} :
    textWithin 500 error.reported = true ↔ error.text ≠ "" := by
  have hempty : error.text = "" ↔ error.text.toList = [] := by simp
  have hlength : error.reported.length = min 500 error.text.toList.length := by
    simp [AdapterError.reported]
  rw [textWithin, decide_eq_true_eq, hlength, ne_eq, hempty, ← List.length_eq_zero_iff]
  omega

/-- `CommandReplayCache`: the recent results, the least recently used first. -/
structure CommandReplayCache (ρ : Type) where
  entries : List (String × ρ) := []

namespace CommandReplayCache
variable {ρ : Type} (cache : CommandReplayCache ρ)

def maxEntries : ℕ := 4096

def contains (commandId : String) : Bool := (cache.entries.lookup commandId).isSome

/-- The stored result, which becomes the most recently used one. -/
def get? (commandId : String) : Option (ρ × CommandReplayCache ρ) :=
  (cache.entries.lookup commandId).map fun result =>
    (result, ⟨cache.entries.filter (·.1 ≠ commandId) ++ [(commandId, result)]⟩)

def remember (commandId : String) (result : ρ) : CommandReplayCache ρ :=
  let entries := cache.entries.filter (·.1 ≠ commandId) ++ [(commandId, result)]
  ⟨entries.drop (entries.length - maxEntries)⟩

end CommandReplayCache

structure BridgeRecord (ρ : Type) where
  executions : CommandReplayCache ρ := {}
  lastError : Option String := none
  published : List FabricCommandLifecycleEvent := []

abbrev AdapterM (ρ : Type) := Effect (BridgeRecord ρ) AdapterError

/-- `FabricAdapterClient` with the environment that it draws on: the clock and the identifiers
of its records, and the exceptions with which its socket refuses a frame. -/
structure FabricAdapterClient where
  sequences : List Identifier
  ambient : Ambient
  refusesLifecycle : FabricCommandLifecycleStage → Option AdapterError
  refusesEvent : String → Option AdapterError

namespace FabricAdapterClient
variable (client : FabricAdapterClient) {ρ : Type}

/-- A call of the environment that returns, or raises its exception. -/
def awaiting (refusal : Option AdapterError) : Except AdapterError Unit :=
  match refusal with
  | some error => .error error
  | none => .ok ()

/-- `publish_lifecycle` up to the frame that it sends. -/
def lifecycleFrame (command : FabricResolvedCommand) (stage : FabricCommandLifecycleStage)
    (note : LifecycleNote) (draw : ℕ) : Except AdapterError FabricCommandLifecycleEvent := do
  raiseIf (command.targetNodeId ∉ client.sequences)
    (valueError "Lifecycle target is not registered by this adapter")
  let lifecycle := lifecycleEvent command stage (client.ambient.uuid draw)
    (client.ambient.clock draw) note
  raiseIf (lifecycle.validates = false)
    (valueError "FabricCommandLifecycleEvent: validation error")
  return lifecycle

def publishLifecycle (command : FabricResolvedCommand) (stage : FabricCommandLifecycleStage)
    (note : LifecycleNote) : AdapterM ρ Unit := do
  let lifecycle ← Effect.read fun s => client.lifecycleFrame command stage note s.published.length
  Effect.read fun _ => awaiting (client.refusesLifecycle stage)
  Effect.update fun s => { s with published := s.published ++ [lifecycle] }

def publishEvent (topic : String) (sourceNodeId : Identifier) : Except AdapterError Unit := do
  raiseIf (sourceNodeId ∉ client.sequences)
    (valueError "Event source is not registered by this adapter")
  awaiting (client.refusesEvent topic)

/-- The exception of a `publish_lifecycle`, if it raises one. -/
def refusal (command : FabricResolvedCommand) (stage : FabricCommandLifecycleStage)
    (note : LifecycleNote) : Option AdapterError :=
  match client.lifecycleFrame command stage note 0 with
  | .error error => some error
  | .ok _ => client.refusesLifecycle stage

/-- Frames of the stage for this command reach the server: its target is registered here, and
the socket takes the frame. -/
def Delivers (command : FabricResolvedCommand) (stage : FabricCommandLifecycleStage) : Prop :=
  command.targetNodeId ∈ client.sequences ∧ client.refusesLifecycle stage = none

variable {client}

theorem lifecycleFrame_eq (command : FabricResolvedCommand) (stage : FabricCommandLifecycleStage)
    (note : LifecycleNote) (draw : ℕ) :
    client.lifecycleFrame command stage note draw =
      (client.lifecycleFrame command stage note 0).map fun _ =>
        lifecycleEvent command stage (client.ambient.uuid draw) (client.ambient.clock draw)
          note := by
  have hvalidates : ∀ draw : ℕ, (lifecycleEvent command stage (client.ambient.uuid draw)
      (client.ambient.clock draw) note).validates = (lifecycleEvent command stage
        (client.ambient.uuid 0) (client.ambient.clock 0) note).validates := fun _ => rfl
  unfold lifecycleFrame
  simp only [hvalidates draw]
  by_cases hregistered : command.targetNodeId ∉ client.sequences
  · simp [raiseIf, hregistered, Except.map, bind, Except.bind]
  · simp only [raiseIf, if_neg hregistered, bind, Except.bind]
    split <;> rfl

theorem publishLifecycle_eq {command : FabricResolvedCommand}
    {stage : FabricCommandLifecycleStage} {note : LifecycleNote} (s : BridgeRecord ρ) :
    client.publishLifecycle command stage note s =
      match client.refusal command stage note with
      | some error => .error error s
      | none => .ok () { s with published := s.published ++ [lifecycleEvent command stage
          (client.ambient.uuid s.published.length) (client.ambient.clock s.published.length)
          note] } := by
  unfold publishLifecycle refusal
  simp only [bind, EStateM.bind, Effect.read, lifecycleFrame_eq command stage note s.published.length]
  cases client.lifecycleFrame command stage note 0 with
  | error error => rfl
  | ok lifecycle =>
    cases client.refusesLifecycle stage with
    | none => rfl
    | some error => rfl

theorem refusal_eq_none {command : FabricResolvedCommand} (hvalid : command.validates = true)
    {stage : FabricCommandLifecycleStage} {note : LifecycleNote}
    (hcode : ∀ code ∈ note.code, isIdentifier code = true) :
    client.refusal command stage note = none ↔
      client.Delivers command stage ∧ optionalTextWithin 500 note.message = true := by
  have hcorrelation : textWithin 128 command.correlationId = true := by
    simp only [FabricResolvedCommand.validates, Bool.and_eq_true] at hvalid
    exact hvalid.1.2
  have hvalidates : (lifecycleEvent command stage (client.ambient.uuid 0)
      (client.ambient.clock 0) note).validates = optionalTextWithin 500 note.message := by
    unfold FabricCommandLifecycleEvent.validates
    simp only [lifecycleEvent, hcorrelation, Bool.true_and]
    cases hnote : note.code with
    | none => rw [Bool.true_and]
    | some code => simp [hcode code hnote]
  unfold refusal lifecycleFrame Delivers
  simp only [hvalidates]
  by_cases hregistered : command.targetNodeId ∈ client.sequences
  · cases optionalTextWithin 500 note.message with
    | true => simp [raiseIf, hregistered, bind, Except.bind, pure, Except.pure]
    | false => simp [raiseIf, hregistered, bind, Except.bind]
  · simp [raiseIf, hregistered, bind, Except.bind]

end FabricAdapterClient
end CitPhysicalXR.Adapters
