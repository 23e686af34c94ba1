import CitPhysicalXR.Foundation.Effect

/-! Calls of the operating system, at each of which the process may be stopped. The handlers of an
exception run when a call raises and not when the process stops. -/
namespace CitPhysicalXR.Foundation

inductive CallFate where
  | done | raises | stops
  deriving DecidableEq

/-- How a program ends that does not return. -/
inductive Halt (ε : Type) where
  | raised (error : ε)
  | stopped

namespace OsCall
variable {σ ε : Type}

/-- A call changes the state as a whole, or not at all. -/
def call (fate : CallFate) (error : ε) (f : σ → σ) : Effect σ (Halt ε) Unit := fun s =>
  match fate with
  | .done => .ok () (f s)
  | .raises => .error (.raised error) s
  | .stops => .error .stopped s

/-- `try: m; except BaseException: handler; raise`. -/
def onError (m handler : Effect σ (Halt ε) Unit) : Effect σ (Halt ε) Unit := fun s =>
  match m s with
  | .ok a s' => .ok a s'
  | .error .stopped s' => .error .stopped s'
  | .error (.raised error) s' =>
    match handler s' with
    | .ok _ s'' => .error (.raised error) s''
    | .error halt s'' => .error halt s''

variable {P : σ → Prop} {Q : Unit → σ → Prop} {E E' : Halt ε → σ → Prop}

theorem triple_call {fate : CallFate} {error : ε} {f : σ → σ}
    (hdone : ∀ s, fate = .done → P s → Q () (f s))
    (hhalt : ∀ s halt, fate ≠ .done → P s → E halt s) :
    Effect.Triple P (call fate error f) Q E := by
  intro s hs
  cases fate with
  | done => exact hdone s rfl hs
  | raises => exact hhalt s _ (by simp) hs
  | stops => exact hhalt s _ (by simp) hs

/-- What holds where the body ends is kept by the handler. -/
theorem triple_onError {m handler : Effect σ (Halt ε) Unit}
    (hm : Effect.Triple P m Q fun _ => P') (hhandler : Effect.Triple P' handler (fun _ => P')
      fun _ => P') : Effect.Triple P (onError m handler) Q fun _ => P' := by
  intro s hs
  have hbody := hm s hs
  unfold onError
  cases hrun : m s with
  | ok a s' =>
    rw [hrun] at hbody
    exact hbody
  | error halt s' =>
    rw [hrun] at hbody
    cases halt with
    | stopped => exact hbody
    | raised error =>
      have hafter := hhandler s' hbody
      simp only
      cases hrun' : handler s' with
      | ok _ s'' =>
        rw [hrun'] at hafter
        exact hafter
      | error halt s'' =>
        rw [hrun'] at hafter
        exact hafter

end OsCall
end CitPhysicalXR.Foundation
