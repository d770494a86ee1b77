import CanaryGate.Proofs.Run.Frame

/-! # Changes of the store, one after the other

All that runs change in a store they change in four kinds of outermost transactions: a number is taken, the latch
is reset or judged, and a record is put on one of three shelves. A routine is an attempt that has been taken apart
at these transactions, so that one can say where it stands between them, and where it breaks off if the process is
killed there. What lies between two changes leaves the store alone, and carries the proof that it does.
-/

namespace CanaryGate

open Attempt

variable {σ α β : Type}

/-- The bounded histories. -/
inductive Shelf where
  | decisions
  | comparisons
  | crossChecks
  deriving DecidableEq

def Shelf.space : Shelf → String
  | decisions => Run.decisionSpace
  | comparisons => Shadow.space
  | crossChecks => AltShadow.space

theorem Shelf.space_injective {shelf other : Shelf} (h : shelf.space = other.space) : shelf = other := by
  cases shelf <;> cases other <;> first | rfl | exact absurd h (by decide)

theorem Shelf.space_ne_sequences (shelf : Shelf) : shelf.space ≠ Namespaces.sequences := by
  cases shelf <;> decide

theorem Shelf.space_ne_rollback (shelf : Shelf) : shelf.space ≠ Rollback.space := by
  cases shelf <;> decide

/-- What can stand on a shelf. -/
inductive Record where
  | decision (record : DecisionRecord)
  | comparison (record : ShadowRecord)
  | crossCheck (record : AltRecord)

def ShadowRecord.runId : ShadowRecord → String
  | diff record => record.runId
  | error record => record.runId

def AltRecord.runId : AltRecord → String
  | diff record => record.runId
  | error record => record.runId

namespace Record

def shelf : Record → Shelf
  | decision _ => .decisions
  | comparison _ => .comparisons
  | crossCheck _ => .crossChecks

def toFields : Record → Fields
  | decision record => record.toFields
  | comparison record => record.toFields
  | crossCheck record => record.toFields

end Record

/-- A record that is put on its shelf, and how many the shelf may hold from then on. -/
structure Put where
  runId : String
  record : Record
  limit : Int

namespace Put

def shelf (put : Put) : Shelf := put.record.shelf

def value (put : Put) : Json := .obj put.record.toFields

def entry (put : Put) : String × Json := (put.runId, put.value)

end Put

/-- One outermost transaction. -/
inductive Change where
  | number
  | reset
  | judge (config : CanaryConfig) (runId recordedAt : String) (sample : Option RunSample)
  | put (put : Put)

namespace Change

def Answer : Change → Type
  | number => Int
  | reset => RollbackState
  | judge .. => RollbackUpdate
  | put _ => List Json

def attempt : (change : Change) → Attempt (World σ) change.Answer
  | number => World.onStore (Store.nextSequence Run.counter)
  | reset => Rollback.reset
  | judge config runId recordedAt sample => Rollback.update config runId recordedAt sample
  | put p => World.onStore (Store.putAndPrune p.shelf.space p.runId p.value p.limit)

/-- The namespace that the change is made in. -/
def space : Change → String
  | number => Namespaces.sequences
  | reset | judge .. => Rollback.space
  | put p => p.shelf.space

/-- Where in a run the change has its place. -/
def stage : Change → Nat
  | number => 0
  | reset => 1
  | put ⟨_, .comparison _, _⟩ => 2
  | put ⟨_, .crossCheck _, _⟩ => 3
  | judge .. => 4
  | put ⟨_, .decision _, _⟩ => 5

def put? : Change → Option Put
  | put p => some p
  | number | reset | judge .. => none

/-- Only what is put on a shelf is a change of it. -/
theorem put_of_space {c : Change} {shelf : Shelf} (here : shelf.space = c.space) :
    ∃ p, c = put p ∧ p.shelf = shelf := by
  cases c with
  | number => exact absurd here shelf.space_ne_sequences
  | reset => exact absurd here shelf.space_ne_rollback
  | judge config runId recordedAt sample => exact absurd here shelf.space_ne_rollback
  | put p => exact ⟨p, rfl, (Shelf.space_injective here).symm⟩

/-- Only a number is taken from the counters. -/
theorem space_ne_sequences {c : Change} (later : 1 ≤ c.stage) : Namespaces.sequences ≠ c.space := by
  cases c with
  | number => exact absurd later (Nat.not_succ_le_zero 0)
  | reset | judge =>
      show Namespaces.sequences ≠ Rollback.space
      decide
  | put p => exact p.shelf.space_ne_sequences.symm

end Change

/-- A change, and the world that it is made in. -/
structure Moment (σ : Type) where
  before : World σ
  change : Change

namespace Moment

/-- The world that the change leaves, whether it finishes or not. -/
def after (m : Moment σ) : World σ := (m.change.attempt.outcome m.before).2

end Moment

theorem World.leaves_store_observe (f : Metrics → Metrics) :
    Leaves World.store (World.observe f : Attempt (World σ) Unit) := fun _ => rfl

/-- A computation that goes to the store in changes alone. -/
inductive Routine (σ α : Type) : Type 1 where
  | finish (r : Except Fault α)
  | aside {β : Type} (a : Attempt (World σ) β) (leaves : Leaves World.store a) (next : β → Routine σ α)
  | change (c : Change) (next : c.Answer → Routine σ α)

namespace Routine

def attempt : Routine σ α → Attempt (World σ) α
  | finish r => Attempt.lift r
  | aside a _ next => a >>= fun x => (next x).attempt
  | change c next => c.attempt >>= fun x => (next x).attempt

def bind : Routine σ α → (α → Routine σ β) → Routine σ β
  | finish (.ok x), f => f x
  | finish (.error fault), _ => finish (.error fault)
  | aside a leaves next, f => aside a leaves fun x => (next x).bind f
  | change c next, f => change c fun x => (next x).bind f

/-- What is done after an attempt that finished; nothing else is. -/
def onward (go : α → World σ → List (Moment σ)) : Except Fault α × World σ → List (Moment σ)
  | (.ok x, v) => go x v
  | (.error _, _) => []

/-- The changes that are made, in their order. -/
def journal : Routine σ α → World σ → List (Moment σ)
  | finish _, _ => []
  | aside a _ next, w => onward (fun x v => (next x).journal v) (a.outcome w)
  | change c next, w => ⟨w, c⟩ :: onward (fun x v => (next x).journal v) (c.attempt.outcome w)

@[simp]
theorem bind_finish_ok (x : α) (f : α → Routine σ β) : (finish (.ok x)).bind f = f x := rfl

theorem attempt_bind (s : Routine σ α) (f : α → Routine σ β) :
    (s.bind f).attempt = s.attempt >>= fun x => (f x).attempt := by
  induction s with
  | finish r =>
      cases r with
      | error fault => rfl
      | ok x => exact (pure_bind x fun x => (f x).attempt).symm
  | aside a leaves next ih =>
      rw [bind, attempt, attempt, bind_assoc]
      exact bind_congr ih
  | change c next ih =>
      rw [bind, attempt, attempt, bind_assoc]
      exact bind_congr ih

/-- A sequence makes the changes of its first part, and goes on if that finishes. -/
theorem journal_bind (s : Routine σ α) (f : α → Routine σ β) (w : World σ) :
    (s.bind f).journal w = s.journal w ++ onward (fun x v => (f x).journal v) (s.attempt.outcome w) := by
  induction s generalizing w with
  | finish r =>
      cases r with
      | error fault => rfl
      | ok x => rfl
  | aside a leaves next ih =>
      rw [bind, journal, journal, attempt, outcome_bind]
      rcases a.outcome w with ⟨r, v⟩
      cases r with
      | error fault => rfl
      | ok x => exact ih x v
  | change c next ih =>
      rw [bind, journal, journal, attempt, outcome_bind, List.cons_append]
      rcases c.attempt.outcome w with ⟨r, v⟩
      cases r with
      | error fault => rfl
      | ok x => exact congrArg (_ :: ·) (ih x v)

end Routine

/-- The store after some changes. -/
def Store.following (s : Store) (moments : List (Moment σ)) : Store := moments.foldl (fun _ m => m.after.store) s

/-- Each change is made in the store that the one before it has left. -/
inductive Linked : Store → List (Moment σ) → Prop where
  | nil (s : Store) : Linked s []
  | cons {s : Store} {m : Moment σ} {rest : List (Moment σ)} (here : m.before.store = s)
      (later : Linked m.after.store rest) : Linked s (m :: rest)

theorem Store.following_append (s : Store) (done more : List (Moment σ)) :
    s.following (done ++ more) = (s.following done).following more := List.foldl_append

theorem Linked.append {s : Store} {done more : List (Moment σ)} (first : Linked s done)
    (second : Linked (s.following done) more) : Linked s (done ++ more) := by
  induction first with
  | nil s => exact second
  | cons here later ih => exact .cons here (ih second)

namespace Routine

/-- The journal leads from the store before the routine to the one after it. -/
theorem linked_journal (s : Routine σ α) (w : World σ) : Linked w.store (s.journal w)
    ∧ w.store.following (s.journal w) = (s.attempt.outcome w).2.store := by
  induction s generalizing w with
  | finish r => exact ⟨.nil _, rfl⟩
  | aside a leaves next ih =>
      have same := leaves w
      rw [journal, attempt, outcome_bind]
      rcases ran : a.outcome w with ⟨r, v⟩
      rw [ran] at same
      cases r with
      | error fault => exact ⟨.nil _, same.symm⟩
      | ok x =>
          dsimp only
          rw [← same]
          exact ih x v
  | change c next ih =>
      rw [journal, attempt, outcome_bind]
      have left : (Moment.after ⟨w, c⟩).store = (c.attempt.outcome w).2.store := rfl
      rcases ran : c.attempt.outcome w with ⟨r, v⟩
      rw [ran] at left
      cases r with
      | error fault => exact ⟨.cons rfl (.nil _), left⟩
      | ok x =>
          obtain ⟨linked, ends⟩ := ih x v
          rw [← left] at linked ends
          exact ⟨.cons rfl linked, ends⟩

end Routine

end CanaryGate
