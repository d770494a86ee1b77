import CanaryGate.Proofs.Rollback.History
import CanaryGate.Proofs.Run.Stages

/-! # Histories of runs

What happens to a store is a list of events: runs with engines and configurations of their own, and calls
of the latch's controller. An event counts by the world that it leaves, whether it finished or failed.
-/

namespace CanaryGate

open Attempt

variable {σ : Type}

/-- What can happen to a store. -/
inductive Event (σ : Type) where
  | run (plan : Run.Plan σ)
  | call (call : Rollback.Call)

namespace Event

/-- The world that an event leaves, whether it finishes or not. -/
def leave (w : World σ) : Event σ → World σ
  | run plan => (plan.attempt.outcome w).2
  | call c => c.leave w

/-- The event resets the latch: the controller is told to, or a run whose baseline answered is configured to. -/
def Resets (w : World σ) : Event σ → Prop
  | run plan => plan.resets = true ∧ Finishes plan.opening w
  | call c => c = .reset

end Event

namespace World

def after (w : World σ) (events : List (Event σ)) : World σ := events.foldl Event.leave w

theorem after_snoc (w : World σ) (events : List (Event σ)) (event : Event σ) :
    w.after (events ++ [event]) = event.leave (w.after events) := by
  simp [after]

/-- No event of the history resets the latch. -/
def Unreset : World σ → List (Event σ) → Prop
  | _, [] => True
  | w, event :: rest => ¬ event.Resets w ∧ Unreset (event.leave w) rest

end World

end CanaryGate
