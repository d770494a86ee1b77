import CanaryGate.Proofs.Attempt.Faults

/-! # Attempts that are not hindered

A file that cannot be written stops an attempt where nothing else would. `Blind` says that otherwise the attempt is
the same without the file, and `Maintains` that otherwise a property of the state survives it. Both go through
sequences, also where what comes next relies on what was given before.
-/

namespace CanaryGate

open Attempt

variable {σ α β : Type}

/-- If there is no result, it is not because a file cannot be written. -/
def Unhindered (r : Except Fault α) : Prop := FailsWithin (fun fault => ¬ fault.OfDisk) r

theorem unhindered_of_bind {a : Attempt σ α} {f : α → Attempt σ β} {s : σ}
    (h : Unhindered ((a >>= f).outcome s).1) : Unhindered (a.outcome s).1 := by
  rw [outcome_bind] at h
  rcases ran : a.outcome s with ⟨r, t⟩
  rw [ran] at h
  cases r with
  | error fault => exact .error (h fault rfl)
  | ok x => exact .ok x

namespace Attempt

/-- Whatever the attempt gives has the property. -/
def Gives (Q : α → Prop) (a : Attempt σ α) : Prop := ∀ s x t, a.outcome s = (.ok x, t) → Q x

theorem Gives.any (a : Attempt σ α) : Gives (fun _ => True) a := fun _ _ _ _ => trivial

theorem Gives.lift {Q : α → Prop} {r : Except Fault α} (h : ∀ x, r = .ok x → Q x) :
    Gives Q (Attempt.lift r : Attempt σ α) := by
  intro s x t lifted
  exact h x (congrArg Prod.fst lifted)

/-- As long as the file can be written, the attempt does not see whether there is one. -/
def Blind (detach : σ → σ) (a : Attempt σ α) : Prop :=
  ∀ s, Unhindered (a.outcome s).1 → a.outcome (detach s) = ((a.outcome s).1, detach (a.outcome s).2)

namespace Blind

variable {detach : σ → σ}

theorem pure (x : α) : Blind detach (Pure.pure x : Attempt σ α) := fun _ _ => rfl

theorem lift (r : Except Fault α) : Blind detach (Attempt.lift r) := fun _ _ => rfl

theorem bind {Q : α → Prop} {a : Attempt σ α} {f : α → Attempt σ β} (given : Gives Q a) (first : Blind detach a)
    (second : ∀ x, Q x → Blind detach (f x)) : Blind detach (a >>= f) := by
  intro s h
  have same := first s (unhindered_of_bind h)
  rcases ran : a.outcome s with ⟨r, t⟩
  rw [ran] at same
  cases r with
  | error fault => rw [outcome_bind_of_error same, outcome_bind_of_error ran]
  | ok x =>
      rw [outcome_bind_of_ok ran] at h
      rw [outcome_bind_of_ok same, outcome_bind_of_ok ran]
      exact second x (given s x t ran) t h

end Blind

/-- As long as the file can be written, the property of the state survives the attempt. -/
def Maintains (P : σ → Prop) (a : Attempt σ α) : Prop := ∀ s, P s → Unhindered (a.outcome s).1 → P (a.outcome s).2

namespace Maintains

variable {P : σ → Prop}

theorem of_keeps {a : Attempt σ α} (h : Keeps P a) : Maintains P a := fun s holds _ => h s holds

theorem bind {Q : α → Prop} {a : Attempt σ α} {f : α → Attempt σ β} (given : Gives Q a) (first : Maintains P a)
    (second : ∀ x, Q x → Maintains P (f x)) : Maintains P (a >>= f) := by
  intro s holds h
  have kept := first s holds (unhindered_of_bind h)
  rcases ran : a.outcome s with ⟨r, t⟩
  rw [ran] at kept
  cases r with
  | error fault =>
      rw [outcome_bind_of_error ran]
      exact kept
  | ok x =>
      rw [outcome_bind_of_ok ran] at h ⊢
      exact second x (given s x t ran) t kept h

end Maintains

end Attempt

end CanaryGate
