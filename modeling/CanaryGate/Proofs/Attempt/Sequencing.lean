import CanaryGate.Attempt

/-! # What sequences of attempts leave

Stopping undoes nothing, so a guarantee about the state has to hold whether an attempt finished or
not. `Leaves` says that an attempt never changes what a view shows of the state, `Keeps` that a
property survives it; both go through sequences. A sequence that finished is taken apart by
`bind_eq_ok`.
-/

namespace CanaryGate.Attempt

variable {σ α β γ : Type} {whole part : Type}

/-- The attempt finishes. -/
def Finishes (a : Attempt σ α) (s : σ) : Prop := ∃ x, (a.outcome s).1 = .ok x

/-- What the view shows is the same afterwards, however the attempt ends. -/
def Leaves (view : σ → γ) (a : Attempt σ α) : Prop := ∀ s, view (a.outcome s).2 = view s

/-- A property of the state survives the attempt, however it ends. -/
def Keeps (P : σ → Prop) (a : Attempt σ α) : Prop := ∀ s, P s → P (a.outcome s).2

theorem bind_eq_ok {a : Attempt σ α} {f : α → Attempt σ β} {s s' : σ} {y : β} :
    (a >>= f).outcome s = (.ok y, s') ↔ ∃ x t, a.outcome s = (.ok x, t) ∧ (f x).outcome t = (.ok y, s') := by
  rw [outcome_bind]
  obtain ⟨r, t⟩ := a.outcome s
  cases r with
  | error fault => simp
  | ok x =>
      constructor
      · intro second
        exact ⟨x, t, rfl, second⟩
      · rintro ⟨x', t', first, second⟩
        cases first
        exact second

theorem outcome_bind_of_ok {a : Attempt σ α} {f : α → Attempt σ β} {s t : σ} {x : α}
    (h : a.outcome s = (.ok x, t)) : (a >>= f).outcome s = (f x).outcome t := by
  rw [outcome_bind, h]

theorem outcome_bind_of_error {a : Attempt σ α} {f : α → Attempt σ β} {s t : σ} {fault : Fault}
    (h : a.outcome s = (.error fault, t)) : (a >>= f).outcome s = (.error fault, t) := by
  rw [outcome_bind, h]

/-- Nothing follows an attempt that does not finish. -/
theorem left_of_unfinished {a : Attempt σ α} {f : α → Attempt σ β} {s : σ} (h : ¬ Finishes a s) :
    ((a >>= f).outcome s).2 = (a.outcome s).2 := by
  rw [outcome_bind]
  cases ran : a.outcome s with
  | mk r t =>
      cases r with
      | error fault => rfl
      | ok x => exact absurd ⟨x, congrArg Prod.fst ran⟩ h

theorem ite_bind (c : Prop) [Decidable c] (a b : Attempt σ α) (k : α → Attempt σ β) :
    (if c then a else b) >>= k = if c then a >>= k else b >>= k := by
  split
  · rfl
  · rfl

theorem lift_bind (r : Except Fault α) (f : α → Except Fault β) :
    (Attempt.lift (r >>= f) : Attempt σ β) = Attempt.lift r >>= fun x => Attempt.lift (f x) := by
  cases r with
  | error fault => rfl
  | ok x => rfl

namespace Leaves

variable {view : σ → γ}

theorem pure (x : α) : Leaves view (Pure.pure x : Attempt σ α) := fun _ => rfl

theorem lift (r : Except Fault α) : Leaves view (Attempt.lift r) := fun _ => rfl

theorem stop (fault : Fault) : Leaves view (Attempt.stop fault : Attempt σ α) := fun _ => rfl

theorem bind {a : Attempt σ α} {f : α → Attempt σ β} (first : Leaves view a)
    (second : ∀ x, Leaves view (f x)) : Leaves view (a >>= f) := by
  intro s
  rw [outcome_bind]
  have kept := first s
  cases ran : a.outcome s with
  | mk r t =>
      rw [ran] at kept
      cases r with
      | error fault => exact kept
      | ok x => exact (second x t).trans kept

theorem ite {c : Prop} [Decidable c] {a b : Attempt σ α} (yes : Leaves view a) (no : Leaves view b) :
    Leaves view (if c then a else b) := by
  split
  · exact yes
  · exact no

/-- After an attempt nothing is seen of another one that leaves the view. -/
theorem bind_after {a : Attempt σ α} {f : α → Attempt σ β} (second : ∀ x, Leaves view (f x)) (s : σ) :
    view ((a >>= f).outcome s).2 = view (a.outcome s).2 := by
  rw [outcome_bind]
  cases a.outcome s with
  | mk r t =>
      cases r with
      | error fault => rfl
      | ok x => exact second x t

theorem keeps {a : Attempt σ α} (h : Leaves view a) (P : γ → Prop) : Keeps (fun s => P (view s)) a := by
  intro s holds
  show P (view (a.outcome s).2)
  rw [h s]
  exact holds

theorem of_eq {a : Attempt σ α} (h : Leaves view a) {s s' : σ} {r : Except Fault α}
    (ran : a.outcome s = (r, s')) : view s' = view s := by
  have kept := h s
  rwa [ran] at kept

end Leaves

theorem Leaves.both {view : σ → γ} {other : σ → part} {a : Attempt σ α} (first : Leaves view a)
    (second : Leaves other a) : Leaves (fun s => (view s, other s)) a := fun s => Prod.ext (first s) (second s)

theorem Leaves.of_keeps {view : σ → γ} {a : Attempt σ α} (h : ∀ shown, Keeps (fun s => view s = shown) a) :
    Leaves view a := fun s => h (view s) s rfl

namespace Keeps

variable {P : σ → Prop}

theorem pure (x : α) : Keeps P (Pure.pure x : Attempt σ α) := fun _ h => h

theorem lift (r : Except Fault α) : Keeps P (Attempt.lift r) := fun _ h => h

theorem stop (fault : Fault) : Keeps P (Attempt.stop fault : Attempt σ α) := fun _ h => h

theorem settled {a : Attempt σ α} (h : Keeps P a) : Keeps P a.settled := h

/-- What holds after an attempt, and survives all that may follow it, holds in the end. -/
theorem onward {a : Attempt σ α} {f : α → Attempt σ β} {s : σ} (first : P (a.outcome s).2)
    (second : ∀ x, Keeps P (f x)) : P ((a >>= f).outcome s).2 := by
  rw [outcome_bind]
  cases ran : a.outcome s with
  | mk r t =>
      rw [ran] at first
      cases r with
      | error fault => exact first
      | ok x => exact second x t first

theorem bind {a : Attempt σ α} {f : α → Attempt σ β} (first : Keeps P a)
    (second : ∀ x, Keeps P (f x)) : Keeps P (a >>= f) := fun s h => onward (first s h) second

theorem ite {c : Prop} [Decidable c] {a b : Attempt σ α} (yes : Keeps P a) (no : Keeps P b) :
    Keeps P (if c then a else b) := by
  split
  · exact yes
  · exact no

theorem of_eq {a : Attempt σ α} (h : Keeps P a) {s s' : σ} {r : Except Fault α}
    (ran : a.outcome s = (r, s')) (holds : P s) : P s' := by
  have kept := h s holds
  rwa [ran] at kept

end Keeps

end CanaryGate.Attempt
