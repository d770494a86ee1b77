import CanaryGate.Engine.Boundary
import CanaryGate.Proofs.Attempt.Sequencing

/-! # What store operations touch

Every operation of a store works on one namespace. The others show the same values afterwards, whether
the operation finished, was refused by its namespace, or could not be written to the file: a commit
never changes what is in memory.
-/

namespace CanaryGate

open Attempt

variable {σ α : Type}

namespace Namespaces

variable {all : Namespaces} {space other : String}

theorem get?_ensure_of_ne (h : other ≠ space) : Fields.get? (ensure all space) other = Fields.get? all other := by
  unfold ensure
  split
  · rfl
  · rw [Fields.get?_set, if_neg h]

/-- A namespace that is there is left as it is, and a missing one counts as empty anyway. -/
theorem entriesOf_ensure : entriesOf (ensure all space) space = entriesOf all space := by
  unfold ensure
  split
  · rfl
  · rename_i missing
    rw [Option.not_isSome_iff_eq_none] at missing
    simp [entriesOf, Fields.get?_set, missing]

theorem entriesOf_set (value : Json) : entriesOf (Fields.set all space value) space = value := by
  simp [entriesOf, Fields.get?_set]

theorem entries_of_items {entries : Fields} (h : all.items space = .ok entries) :
    all.entriesOf space = .obj entries := by
  unfold items at h
  split at h
  · cases h
    assumption
  · cases h

theorem items_of_entries {entries : Fields} (h : all.entriesOf space = .obj entries) : all.items space = .ok entries := by
  simp only [items, h]

theorem entries_of_find {key : String} {raw : Json} (h : all.find? space key = .ok (some raw)) :
    ∃ entries, all.entriesOf space = .obj entries ∧ Fields.get? entries key = some raw := by
  unfold find? at h
  split at h
  · exact ⟨_, by assumption, Except.ok.inj h⟩
  · cases h

theorem get?_ensure : Fields.get? (ensure all space) space = some (entriesOf all space) := by
  unfold ensure
  split
  · rename_i here
    obtain ⟨value, found⟩ := Option.isSome_iff_exists.mp here
    simp [entriesOf, found]
  · rename_i missing
    rw [Option.not_isSome_iff_eq_none] at missing
    simp [entriesOf, Fields.get?_set, missing]

theorem ensure_of_some {value : Json} (found : Fields.get? all space = some value) : ensure all space = all := by
  unfold ensure
  rw [found]
  rfl

theorem get?_set_of_ne (h : other ≠ space) (key : String) (value : Json) :
    Fields.get? (set all space key value).2 other = Fields.get? all other := by
  unfold set
  dsimp only
  split
  · rw [Fields.get?_set, if_neg h, get?_ensure_of_ne h]
  · exact get?_ensure_of_ne h

theorem get?_prune_of_ne (h : other ≠ space) (limit : Int) :
    Fields.get? (prune all space limit).2 other = Fields.get? all other := by
  have ensured : Fields.get? (ensure all space) other = Fields.get? all other := get?_ensure_of_ne h
  have put : ∀ value, Fields.get? (Fields.set (ensure all space) space value) other = Fields.get? all other :=
    fun value => by rw [Fields.get?_set, if_neg h, ensured]
  unfold prune
  dsimp only
  split
  · split
    · exact ensured
    · exact put _
  · split
    · exact put _
    · exact put _
  · split
    · exact ensured
    · exact ensured
  · exact ensured

theorem get?_advance_of_ne (h : other ≠ sequences) (name : String) :
    Fields.get? (advance all name).2 other = Fields.get? all other := by
  have ensured : Fields.get? (ensure all sequences) other = Fields.get? all other := get?_ensure_of_ne h
  unfold advance
  dsimp only
  split
  · split
    · rw [Fields.get?_set, if_neg h, ensured]
    · exact ensured
  · exact ensured

/-- What counting gives, and what it leaves of the counters, depends on the counters alone. -/
theorem advance_congr {all other : Namespaces} (same : Fields.get? all sequences = Fields.get? other sequences)
    (name : String) : (advance all name).1 = (advance other name).1
      ∧ Fields.get? (advance all name).2 sequences = Fields.get? (advance other name).2 sequences := by
  have entries : entriesOf all sequences = entriesOf other sequences := congrArg (·.getD (.obj [])) same
  unfold advance
  simp only [entriesOf_ensure, entries]
  split
  · split
    · exact ⟨rfl, by simp only [Fields.get?_set, if_true]⟩
    · exact ⟨rfl, by rw [get?_ensure, get?_ensure, entries]⟩
  · exact ⟨rfl, by rw [get?_ensure, get?_ensure, entries]⟩

theorem set_of_entries {entries : Fields} (h : entriesOf all space = .obj entries) (key : String) (value : Json) :
    set all space key value
      = (.ok (), Fields.set (ensure all space) space (.obj (Fields.set entries key value))) := by
  have here : entriesOf (ensure all space) space = .obj entries := entriesOf_ensure.trans h
  simp only [set, here]

theorem set_twice {entries : Fields} (h : entriesOf all space = .obj entries) (key : String) (old new : Json) :
    (set (set all space key old).2 space key new).2 = (set all space key new).2 := by
  rw [set_of_entries h, set_of_entries h]
  have there : Fields.get? (Fields.set (ensure all space) space (.obj (Fields.set entries key old))) space
      = some (.obj (Fields.set entries key old)) := by
    rw [Fields.get?_set, if_pos rfl]
  rw [set_of_entries (entriesOf_set _), ensure_of_some there, Fields.set_set, Fields.set_set]

theorem set_of_not_entries (h : ∀ entries, entriesOf all space ≠ .obj entries) (key : String) (value : Json) :
    set all space key value = (.error .unsuitable, all) := by
  have same : ensure all space = all := by
    unfold ensure
    split
    · rfl
    · rename_i missing
      rw [Option.not_isSome_iff_eq_none] at missing
      exact absurd (by simp [entriesOf, missing]) (h [])
  unfold set
  rw [same]
  dsimp only
  split
  · rename_i entries here
    exact absurd here (h entries)
  · rfl

end Namespaces

/-- Looking at a part shows what was put there. -/
def Part.Lawful {whole part : Type} (p : Part whole part) : Prop := ∀ w s, p.view (p.put w s) = s

theorem Part.lawful_self : (Part.self : Part σ σ).Lawful := fun _ _ => rfl

theorem World.lawful_storePart : (World.storePart : Part (World σ) Store).Lawful := fun _ _ => rfl

namespace Store

/-- A transaction leaves in memory what its body leaves there, also when it is broken off or cannot be
written. -/
theorem namespaces_transaction {p : Part σ Store} (lawful : p.Lawful) (body : Attempt σ α) (s : σ) :
    (p.view ((transaction p body).outcome s).2).namespaces
      = (p.view (body.outcome (p.put s (p.view s).enter)).2).namespaces := by
  have shown : ∀ t store, p.view (p.put t store) = store := lawful
  unfold transaction
  rw [outcome_ofOutcome]
  obtain ⟨r, t⟩ := body.outcome (p.put s (p.view s).enter)
  cases r with
  | error fault => simp only [shown, leave]
  | ok a => simp only [shown, (commit_keeps _).1, leave]

/-- A transaction gives what its body gives, if it gives anything. -/
theorem body_of_transaction {p : Part σ Store} {body : Attempt σ α} {s s' : σ} {a : α}
    (h : (transaction p body).outcome s = (.ok a, s')) :
    ∃ t, body.outcome (p.put s (p.view s).enter) = (.ok a, t) := by
  unfold transaction at h
  rw [outcome_ofOutcome] at h
  cases ran : body.outcome (p.put s (p.view s).enter) with
  | mk r t =>
      rw [ran] at h
      cases r with
      | error fault => simp at h
      | ok b =>
          simp only [Prod.mk.injEq] at h
          obtain ⟨committed, -⟩ := h
          cases done : (p.view (p.put t (p.view t).leave)).commit.1 with
          | error fault => simp [done, Except.map] at committed
          | ok _ =>
              simp only [done, Except.map, Except.ok.injEq] at committed
              exact ⟨t, by rw [committed]⟩

section

variable {p : Part σ Store} {body : Attempt σ α} {w v : σ}

theorem transaction_of_error {fault : Fault} (ran : body.outcome (p.put w (p.view w).enter) = (.error fault, v)) :
    (transaction p body).outcome w = (.error fault, p.put v (p.view v).leave) := by
  unfold transaction
  rw [outcome_ofOutcome, ran]

theorem transaction_of_ok {a : α} {left : σ} (ran : body.outcome (p.put w (p.view w).enter) = (.ok a, v))
    (leaving : p.put v (p.view v).leave = left) : (transaction p body).outcome w
      = ((p.view left).commit.1.map fun _ => a, p.put left (p.view left).commit.2) := by
  unfold transaction
  rw [outcome_ofOutcome, ran, ← leaving]

end

/-- What the namespaces show of one space. -/
def shows (space : String) (s : Store) : Option Json := Fields.get? s.namespaces space

variable {space other : String}

theorem leaves_transaction {body : Attempt Store α} (h : Leaves (shows other) body) :
    Leaves (shows other) (transaction .self body) := by
  intro s
  have left := namespaces_transaction Part.lawful_self body s
  calc
    shows other ((transaction .self body).outcome s).2
      = shows other (body.outcome s.enter).2 := congrArg (Fields.get? · other) left
    _ = shows other s := h s.enter

theorem leaves_onNamespaces {f : Namespaces → Except Fault α × Namespaces}
    (h : ∀ all, Fields.get? (f all).2 other = Fields.get? all other) :
    Leaves (shows other) (onNamespaces f) := fun s => h s.namespaces

theorem namespaces_onNamespaces (f : Namespaces → Except Fault α × Namespaces) (s : Store) :
    ((transaction .self (onNamespaces f)).outcome s).2.namespaces = (f s.namespaces).2 :=
  namespaces_transaction Part.lawful_self (onNamespaces f) s

theorem leaves_set (h : other ≠ space) (key : String) (value : Json) :
    Leaves (shows other) (set space key value) :=
  leaves_transaction (leaves_onNamespaces fun _ => Namespaces.get?_set_of_ne h key value)

theorem leaves_prune (h : other ≠ space) (limit : Int) : Leaves (shows other) (prune space limit) :=
  leaves_transaction (leaves_onNamespaces fun _ => Namespaces.get?_prune_of_ne h limit)

theorem leaves_putAndPrune (h : other ≠ space) (key : String) (value : Json) (limit : Int) :
    Leaves (shows other) (putAndPrune space key value limit) :=
  leaves_transaction ((leaves_set h key value).bind fun _ => leaves_prune h limit)

theorem leaves_nextSequence (h : other ≠ Namespaces.sequences) (name : String) :
    Leaves (shows other) (nextSequence name) :=
  leaves_transaction (leaves_onNamespaces fun _ => Namespaces.get?_advance_of_ne h name)

end Store

namespace World

/-- What the store shows of one space. -/
def shows (space : String) (w : World σ) : Option Json := w.store.shows space

variable {space : String}

theorem leaves_of_store {a : Attempt (World σ) α} (h : Leaves World.store a) : Leaves (shows space) a :=
  fun w => congrArg (Store.shows space) (h w)

theorem leaves_onStore {a : Attempt Store α} (h : Leaves (Store.shows space) a) :
    Leaves (shows space) (onStore a : Attempt (World σ) α) := fun w => h w.store

theorem leaves_observe (f : Metrics → Metrics) : Leaves (shows space) (observe f : Attempt (World σ) Unit) :=
  fun _ => rfl

theorem leaves_transaction {body : Attempt (World σ) α} (h : Leaves (shows space) body) :
    Leaves (shows space) (Store.transaction storePart body) := by
  intro w
  have left := Store.namespaces_transaction lawful_storePart body w
  calc
    shows space ((Store.transaction storePart body).outcome w).2
      = shows space (body.outcome (storePart.put w w.store.enter)).2 := congrArg (Fields.get? · space) left
    _ = shows space w := h (storePart.put w w.store.enter)

/-- What does not look at the store sees of a transaction what it sees of its body. -/
theorem apart_transaction {γ : Type} {view : World σ → γ} (apart : ∀ w s, view (storePart.put w s) = view w)
    (body : Attempt (World σ) α) (w : World σ) : view ((Store.transaction storePart body).outcome w).2
      = view (body.outcome (storePart.put w w.store.enter)).2 := by
  cases ran : body.outcome (storePart.put w w.store.enter) with
  | mk r t =>
      cases r with
      | error fault =>
          rw [Store.transaction_of_error ran]
          exact apart t _
      | ok a =>
          rw [Store.transaction_of_ok ran rfl]
          exact (apart _ _).trans (apart t _)

theorem leaves_transaction_of_apart {γ : Type} {view : World σ → γ} (apart : ∀ w s, view (storePart.put w s) = view w)
    {body : Attempt (World σ) α} (h : Leaves view body) : Leaves view (Store.transaction storePart body) := fun w =>
  (apart_transaction apart body w).trans ((h _).trans (apart w _))

end World

end CanaryGate
