import CitPhysicalXR.Foundation.Effect

/-! A value in memory with its file. A save replaces the file as a whole, and may fail before or
after that; a restart finds the file. -/
namespace CitPhysicalXR.Foundation

inductive SaveOutcome where
  | saved
  | failed (replaced : Bool)
  deriving DecidableEq

structure SavedState (σ : Type) where
  memory : σ
  file : σ

namespace SavedState
variable {σ ε : Type}

def load (file : σ) : SavedState σ := ⟨file, file⟩

def replaceFile (s : SavedState σ) : SavedState σ := { s with file := s.memory }

def modify (f : σ → σ) : Effect (SavedState σ) ε Unit :=
  Effect.update fun s => { s with memory := f s.memory }

def save (error : ε) (outcome : SaveOutcome) : Effect (SavedState σ) ε Unit := fun s =>
  match outcome with
  | .saved => .ok () s.replaceFile
  | .failed true => .error error s.replaceFile
  | .failed false => .error error s

/-- What an update and a save leave behind. -/
def written (f : σ → σ) (outcome : SaveOutcome) (s : SavedState σ) : SavedState σ where
  memory := f s.memory
  file := if outcome = .failed false then s.file else f s.memory

theorem modify_save (f : σ → σ) (error : ε) (outcome : SaveOutcome) (s : SavedState σ) :
    (do modify f; save error outcome : Effect (SavedState σ) ε Unit) s =
      if outcome = .saved then .ok () (s.written f outcome)
      else .error error (s.written f outcome) := by
  match outcome with
  | .saved => rfl
  | .failed true => rfl
  | .failed false => rfl

/-- Where the save fails, all is as before only if there was nothing to change. -/
theorem written_eq_self {f : σ → σ} {outcome : SaveOutcome} {s : SavedState σ}
    (houtcome : outcome ≠ .saved) :
    s.written f outcome = s ↔
      f s.memory = s.memory ∧ (outcome = .failed true → s.file = s.memory) := by
  obtain ⟨memory, file⟩ := s
  simp only [written, mk.injEq]
  refine and_congr_right fun hmemory => ?_
  match outcome with
  | .failed true => simp [hmemory, eq_comm]
  | .failed false => simp

/-- `P` holds of the memory and of the file. -/
structure Both (P : σ → Prop) (s : SavedState σ) : Prop where
  memory : P s.memory
  file : P s.file

theorem Both.mono {P Q : σ → Prop} {s : SavedState σ} (h : Both P s) (hPQ : ∀ x, P x → Q x) :
    Both Q s := ⟨hPQ _ h.memory, hPQ _ h.file⟩

theorem Both.load {P : σ → Prop} {s : SavedState σ} (h : Both P s) : Both P (load s.file) :=
  ⟨h.file, h.file⟩

theorem Both.written {P : σ → Prop} {s : SavedState σ} (h : Both P s) {f : σ → σ}
    (hf : P s.memory → P (f s.memory)) (outcome : SaveOutcome) : Both P (s.written f outcome) := by
  refine ⟨hf h.memory, ?_⟩
  unfold SavedState.written
  split
  · exact h.file
  · exact hf h.memory

theorem triple_save {P Q : σ → Prop} {error : ε} {outcome : SaveOutcome}
    (hPQ : ∀ x, P x → Q x) :
    Effect.Triple (fun s => P s.memory ∧ Q s.file) (save error outcome) (fun _ => Both P)
      (fun _ => Both Q) := by
  rintro s ⟨hmemory, hfile⟩
  match outcome with
  | .saved => exact ⟨hmemory, hmemory⟩
  | .failed true => exact ⟨hPQ _ hmemory, hPQ _ hmemory⟩
  | .failed false => exact ⟨hPQ _ hmemory, hfile⟩

theorem triple_modify {P : σ → Prop} {f : σ → σ} {E : ε → SavedState σ → Prop}
    (h : ∀ x, P x → P (f x)) :
    Effect.Triple (Both P) (modify f) (fun _ => Both P) E :=
  Effect.Triple.update fun _ hs => ⟨h _ hs.memory, hs.file⟩

theorem triple_saves {P : σ → Prop} {error : ε} {outcome : SaveOutcome} :
    Effect.Triple (Both P) (save error outcome) (fun _ => Both P) (fun _ => Both P) :=
  (triple_save fun _ h => h).conseq (fun _ h => ⟨h.memory, h.file⟩) (fun _ _ h => h)
    fun _ _ h => h

end SavedState
end CitPhysicalXR.Foundation
