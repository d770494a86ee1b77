import CanaryGate.Proofs.Attempt.Unhindered
import CanaryGate.Proofs.Store.Durability

/-! # Stores with and without a file

As long as the file can be written, no operation sees whether there is one, and between transactions the file holds
what is in memory. For the second it matters that a body which fails has changed nothing: then the file need not be
written either.
-/

namespace CanaryGate

open Attempt

variable {σ α β : Type}

namespace Namespaces

variable {all : Namespaces}

/-- Counters that cannot be counted further are left as they are. -/
theorem advance_error {name : String} {fault : Fault} (failed : (advance all name).1 = .error fault) :
    (advance all name).2 = all := by
  cases found : Fields.get? all sequences with
  | none =>
      have fresh : entriesOf (ensure all sequences) sequences = .obj [] := by
        rw [entriesOf_ensure, entriesOf, found]
        rfl
      unfold advance at failed
      dsimp only at failed
      rw [fresh] at failed
      cases failed
  | some value =>
      unfold advance at failed ⊢
      dsimp only at failed ⊢
      rw [ensure_of_some found] at failed ⊢
      split at failed
      · split at failed
        · cases failed
        · rfl
      · rfl

end Namespaces

namespace Store

/-- The store without its file. -/
def detach (s : Store) : Store := { s with disk := none }

/-- A new store on the file is the same as this one. -/
def Saved (s : Store) : Prop := ∃ disk, openFile disk = .ok s

variable {s t : Store}

/-! Operations are blind. -/

theorem detach_commit (s : Store) : s.detach.commit = (.ok (), s.commit.2.detach) := by
  unfold commit detach
  split
  · cases s.disk <;> rfl
  · rfl

/-- Only the file can keep a store from being committed. -/
theorem committed_of_unhindered {a : α} (h : Unhindered (s.commit.1.map fun _ => a)) : s.commit.1 = .ok () := by
  cases ran : s.commit.1 with
  | error fault =>
      rw [ran] at h
      exact absurd (failsWithin_commit s fault ran) (h fault rfl)
  | ok _ => rfl

/-- To detach the whole is to detach the store in it. -/
structure Detaches (p : Part σ Store) (detach : σ → σ) : Prop where
  view : ∀ s, p.view (detach s) = (p.view s).detach
  put : ∀ s store, detach (p.put s store) = p.put (detach s) store.detach

theorem detaches_self : Detaches .self detach := ⟨fun _ => rfl, fun _ _ => rfl⟩

theorem blind_transaction {p : Part σ Store} {without : σ → σ} (parts : Detaches p without) {body : Attempt σ α}
    (inner : Blind without body) : Blind without (transaction p body) := by
  intro w h
  have entered : p.put (without w) (p.view (without w)).enter = without (p.put w (p.view w).enter) := by
    rw [parts.put, parts.view]
    rfl
  have leaving : ∀ v, p.put (without v) (p.view (without v)).leave = without (p.put v (p.view v).leave) := by
    intro v
    rw [parts.put, parts.view]
    rfl
  have same := inner (p.put w (p.view w).enter)
  rcases ran : body.outcome (p.put w (p.view w).enter) with ⟨r, v⟩
  rw [ran, ← entered] at same
  cases r with
  | error fault =>
      rw [transaction_of_error ran] at h ⊢
      rw [transaction_of_error (same h), leaving]
  | ok a =>
      rw [transaction_of_ok ran rfl] at h ⊢
      rw [transaction_of_ok (same (.ok a)) (leaving v), parts.view, detach_commit, committed_of_unhindered h]
      simp only [parts.put]

theorem blind_onNamespaces (f : Namespaces → Except Fault α × Namespaces) : Blind detach (onNamespaces f) :=
  fun _ _ => rfl

theorem blind_get (space key : String) (default : Json) : Blind detach (get space key default) :=
  .bind (.any _) (fun _ _ => rfl) fun _ _ => .pure _

theorem blind_set (space key : String) (value : Json) : Blind detach (set space key value) :=
  blind_transaction detaches_self (blind_onNamespaces _)

theorem blind_prune (space : String) (limit : Int) : Blind detach (prune space limit) :=
  blind_transaction detaches_self (blind_onNamespaces _)

theorem blind_putAndPrune (space key : String) (value : Json) (limit : Int) :
    Blind detach (putAndPrune space key value limit) :=
  blind_transaction detaches_self <| .bind (.any _) (blind_set space key value) fun _ _ => blind_prune space limit

theorem blind_nextSequence (name : String) : Blind detach (nextSequence name) :=
  blind_transaction detaches_self (blind_onNamespaces _)

/-! What is in memory is in the file. -/

/-- If a body stops inside of a transaction, it has changed nothing. -/
def Undone (p : Part σ Store) (body : Attempt σ α) : Prop := ∀ w fault v, (p.view w).depth ≠ 0 →
  body.outcome w = (.error fault, v) → (p.view v).namespaces = (p.view w).namespaces

namespace Undone

variable {p : Part σ Store}

theorem after_leaving {a : Attempt σ α} {f : α → Attempt σ β} (leaves : Leaves p.view a)
    (second : ∀ x, Undone p (f x)) : Undone p (a >>= f) := by
  intro w fault v opened failed
  rcases ran : a.outcome w with ⟨r, u⟩
  have same := leaves.of_eq ran
  cases r with
  | error other =>
      rw [outcome_bind_of_error ran] at failed
      cases failed
      rw [same]
  | ok x =>
      rw [outcome_bind_of_ok ran] at failed
      rw [← same] at opened ⊢
      exact second x u fault v opened failed

theorem before_finishing {a : Attempt σ α} {f : α → Attempt σ β} (first : Undone p a)
    (second : ∀ x s, Finishes (f x) s) : Undone p (a >>= f) := by
  intro w fault v opened failed
  rcases ran : a.outcome w with ⟨r, u⟩
  cases r with
  | error other =>
      rw [outcome_bind_of_error ran] at failed
      cases failed
      exact first w fault v opened ran
  | ok x =>
      rw [outcome_bind_of_ok ran] at failed
      obtain ⟨y, finished⟩ := second x u
      rw [failed] at finished
      cases finished

end Undone

theorem saved_of_commit (outermost : s.Outermost) {disk : Disk} (file : s.disk = some disk)
    (committed : s.commit.1 = .ok ()) : s.commit.2.Saved := by
  obtain ⟨left, there, read⟩ := read_of_commit file outermost.closed outermost.distinct committed
  refine ⟨left, (openFile_of_read read).trans (congrArg Except.ok ?_)⟩
  calc
    Store.mk s.namespaces 0 (some left)
      = ⟨s.commit.2.namespaces, s.commit.2.depth, s.commit.2.disk⟩ := by
        rw [namespaces_commit, depth_commit, outermost.closed, there]
    _ = s.commit.2 := rfl

theorem maintains_transaction {p : Part σ Store} (lawful : p.Lawful) {body : Attempt σ α}
    (inside : ∀ disk, Keeps (fun w => Inside disk 0 (p.view w)) body) (undone : Undone p body) :
    Maintains (fun w => (p.view w).Saved) (transaction p body) := by
  rintro w ⟨disk, opened⟩ h
  obtain ⟨outermost, file⟩ := outermost_of_openFile opened
  have shown : ∀ v store, p.view (p.put v store) = store := lawful
  have entered : Inside (p.view w).disk 0 (p.view (p.put w (p.view w).enter)) := by
    rw [shown]
    exact outermost.entered
  have left := inside _ _ entered
  rcases ran : body.outcome (p.put w (p.view w).enter) with ⟨r, v⟩
  rw [ran] at left
  have leaving := leave_of_inside outermost left
  cases r with
  | error fault =>
      -- nothing is written, and nothing has to be: the namespaces are those that the file holds
      have same := undone _ fault v (by rw [entered.opened]; exact Nat.succ_ne_zero 0) ran
      rw [shown] at same
      rw [transaction_of_error ran, shown, leaving, same]
      exact ⟨disk, opened⟩
  | ok a =>
      rw [transaction_of_ok ran rfl] at h ⊢
      rw [shown, leaving] at h
      simp only [shown, leaving]
      exact saved_of_commit ⟨outermost.closed, left.distinct⟩ file (committed_of_unhindered h)

/-- Inside of a transaction a value is put under its key, or there is no namespace for it and nothing happens. -/
theorem set_cases (opened : s.depth ≠ 0) (space key : String) (value : Json) :
    (∃ t entries, (set space key value).outcome s = (.ok (), t) ∧ t.depth = s.depth
        ∧ t.namespaces.entriesOf space = .obj entries)
      ∨ (set space key value).outcome s = (.error .unsuitable, s) := by
  by_cases here : ∃ entries, s.namespaces.entriesOf space = .obj entries
  · obtain ⟨entries, here⟩ := here
    refine .inl ⟨_, Fields.set entries key value, outcome_set_of_open opened here key value, rfl, ?_⟩
    rw [Namespaces.set_of_entries here, Namespaces.entriesOf_set]
  · right
    unfold set
    rw [outcome_onNamespaces, Namespaces.set_of_not_entries (not_exists.mp here)]

theorem undone_set (space key : String) (value : Json) : Undone .self (set space key value) := by
  intro s fault t opened failed
  rcases set_cases (s := s) opened space key value with ⟨_, _, put, -, -⟩ | refused
  · rw [put] at failed
    cases congrArg Prod.fst failed
  · rw [refused] at failed
    cases failed
    rfl

theorem undone_putAndPrune (space key : String) (value : Json) (limit : Int) :
    Undone .self (set space key value >>= fun _ => prune space limit) := by
  intro s fault t opened failed
  rcases set_cases (s := s) opened space key value with ⟨u, entries, put, still, here⟩ | refused
  · rw [outcome_bind_of_ok put, prune, outcome_onNamespaces, Namespaces.prune_of_entries here, commit_of_open] at failed
    · cases congrArg Prod.fst failed
    · rw [still]
      exact opened
  · rw [outcome_bind_of_error refused] at failed
    cases failed
    rfl

theorem undone_advance (name : String) : Undone .self (onNamespaces fun all => all.advance name) := by
  intro s fault t _ failed
  obtain ⟨refused, rfl⟩ := Prod.mk.inj failed
  exact Namespaces.advance_error refused

theorem maintains_putAndPrune (space key : String) {value : Json} (proper : value.Distinct) (limit : Int) :
    Maintains Saved (putAndPrune space key value limit) :=
  maintains_transaction Part.lawful_self
    (fun _ => (inside_set space key proper).bind fun _ => inside_prune space limit)
    (undone_putAndPrune space key value limit)

theorem maintains_nextSequence (name : String) : Maintains Saved (nextSequence name) :=
  maintains_transaction Part.lawful_self
    (fun _ => inside_onNamespaces fun _ h => Namespaces.distinct_advance h name) (undone_advance name)

end Store

end CanaryGate
