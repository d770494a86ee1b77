import CanaryGate.Proofs.Store.Frame

/-! # The causes for which attempts stop

`FailsWithin` bounds the faults of a result, `StopsWithin` those of an attempt from every state. Both go
through sequences, so what can stop a long attempt is known once it is known of its steps.
-/

namespace CanaryGate

variable {σ α β : Type} {Q : Fault → Prop}

/-- If there is no result, it is for one of these causes. -/
def FailsWithin (Q : Fault → Prop) (r : Except Fault α) : Prop := ∀ fault, r = .error fault → Q fault

namespace FailsWithin

theorem ok (a : α) : FailsWithin Q (.ok a : Except Fault α) := by
  intro fault failed
  contradiction

theorem error {fault : Fault} (h : Q fault) : FailsWithin Q (.error fault : Except Fault α) := by
  intro other failed
  cases failed
  exact h

theorem bind {r : Except Fault α} {f : α → Except Fault β} (first : FailsWithin Q r)
    (second : ∀ a, FailsWithin Q (f a)) : FailsWithin Q (r >>= f) := by
  cases r with
  | error fault => exact error (first fault rfl)
  | ok a => exact second a

theorem map {r : Except Fault α} (f : α → β) (h : FailsWithin Q r) : FailsWithin Q (r.map f) := by
  cases r with
  | error fault => exact error (h fault rfl)
  | ok a => exact ok (f a)

theorem mapError {ε : Type} {cause : ε → Fault} (h : ∀ e, Q (cause e)) (r : Except ε α) :
    FailsWithin Q (r.mapError cause) := by
  cases r with
  | error e => exact error (h e)
  | ok a => exact ok a

theorem option {f : α → Except Fault β} (h : ∀ a, FailsWithin Q (f a)) (o : Option α) :
    FailsWithin Q (o.mapM f) := by
  cases o with
  | none => exact ok none
  | some a => exact (h a).bind fun b => ok (some b)

theorem list {f : α → Except Fault β} (h : ∀ a, FailsWithin Q (f a)) (xs : List α) : FailsWithin Q (xs.mapM f) := by
  induction xs with
  | nil => exact ok []
  | cons x rest ih =>
      rw [List.mapM_cons]
      exact (h x).bind fun b => ih.bind fun more => ok (b :: more)

end FailsWithin

namespace Attempt

/-- If the attempt stops, it is for one of these causes. -/
def StopsWithin (Q : Fault → Prop) (a : Attempt σ α) : Prop := ∀ s, FailsWithin Q (a.outcome s).1

namespace StopsWithin

theorem pure (x : α) : StopsWithin Q (Pure.pure x : Attempt σ α) := fun _ => .ok x

theorem lift {r : Except Fault α} (h : FailsWithin Q r) : StopsWithin Q (Attempt.lift r : Attempt σ α) := fun _ => h

theorem bind {a : Attempt σ α} {f : α → Attempt σ β} (first : StopsWithin Q a) (second : ∀ x, StopsWithin Q (f x)) :
    StopsWithin Q (a >>= f) := by
  intro s
  have stopped := first s
  rw [outcome_bind]
  cases ran : a.outcome s with
  | mk r t =>
      rw [ran] at stopped
      cases r with
      | error fault => exact .error (stopped fault rfl)
      | ok x => exact second x t

theorem ite {c : Prop} [Decidable c] {a b : Attempt σ α} (yes : StopsWithin Q a) (no : StopsWithin Q b) :
    StopsWithin Q (if c then a else b) := by
  split
  · exact yes
  · exact no

theorem observe (f : Metrics → Metrics) : StopsWithin Q (World.observe f : Attempt (World σ) Unit) := fun _ => .ok ()

theorem onStore {a : Attempt Store α} (h : StopsWithin Q a) :
    StopsWithin Q (World.onStore a : Attempt (World σ) α) := fun w => h w.store

theorem onNamespaces {f : Namespaces → Except Fault α × Namespaces} (h : ∀ all, FailsWithin Q (f all).1) :
    StopsWithin Q (Store.onNamespaces f) := fun s => h s.namespaces

end StopsWithin

end Attempt

/-- Why a file cannot be written. -/
def Fault.OfDisk (fault : Fault) : Prop :=
  fault = .integerTooLong ∨ fault = .document (.tooDeep none) ∨ fault = .pathIsDirectory ∨ fault = .pathUnreachable

namespace Store

open Attempt

theorem failsWithin_encode (state : Namespaces) : FailsWithin Fault.OfDisk (Disk.encode state) := by
  unfold Disk.encode
  dsimp only
  split
  · exact .ok _
  · exact .error (.inl rfl)
  · exact .error (.inr (.inl rfl))

theorem failsWithin_replace (d : Disk) : FailsWithin Fault.OfDisk d.replace.1 := by
  unfold Disk.replace
  split
  · exact .error (.inr (.inr (.inl rfl)))
  · exact .error (.inr (.inr (.inr rfl)))
  · exact .ok ()
  · exact .ok ()

theorem failsWithin_write (d : Disk) (state : Namespaces) : FailsWithin Fault.OfDisk (d.write state).1 := by
  unfold Disk.write
  cases encoded : Disk.encode state with
  | error fault => exact .error (failsWithin_encode state fault encoded)
  | ok text =>
      dsimp only
      have replaced := failsWithin_replace (d.addTemporary text)
      generalize (d.addTemporary text).replace = placed at replaced ⊢
      obtain ⟨r, d'⟩ := placed
      cases r with
      | error fault => exact .error (replaced fault rfl)
      | ok _ => exact .ok ()

theorem failsWithin_commit (s : Store) : FailsWithin Fault.OfDisk s.commit.1 := by
  unfold commit
  split
  · split
    · exact .ok ()
    · exact failsWithin_write _ _
  · exact .ok ()

/-- A transaction stops for a cause of its body, or because it cannot be written. -/
theorem stopsWithin_transaction {p : Part σ Store} {body : Attempt σ α} {Q : Fault → Prop} (h : StopsWithin Q body)
    (disk : ∀ fault, fault.OfDisk → Q fault) : StopsWithin Q (transaction p body) := by
  intro s
  have stopped := h (p.put s (p.view s).enter)
  unfold transaction
  rw [outcome_ofOutcome]
  cases ran : body.outcome (p.put s (p.view s).enter) with
  | mk r t =>
      rw [ran] at stopped
      cases r with
      | error fault => exact .error (stopped fault rfl)
      | ok a => exact FailsWithin.map _ fun fault failed => disk fault (failsWithin_commit _ fault failed)

end Store

end CanaryGate
