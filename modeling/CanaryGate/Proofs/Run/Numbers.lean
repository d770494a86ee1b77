import CanaryGate.Proofs.Numeric.Numeral
import CanaryGate.Proofs.Run.Routine
import CanaryGate.Proofs.Run.Twins
import CanaryGate.Proofs.Run.Upkeep
import CanaryGate.Proofs.Store.Durability

/-! # Numbers of runs

Runs are numbered by a counter in the store, and called by their numbers with leading zeros. The zeros do not make
two numbers one, however many digits they have, so an id stands for one number. No change but the counting itself
touches the counter.
-/

namespace CanaryGate

open Attempt

variable {σ : Type}

theorem Instant.valueOf_padded (width n : Nat) : Numeral.valueOf (padded width n) = n := by
  unfold padded
  rw [Numeral.valueOf_append, Numeral.valueOf_zeros, Numeral.valueOf_digitsOf]
  omega

theorem Instant.isAsciiDigit_of_mem_padded {width n : Nat} {c : Char} (member : c ∈ padded width n) :
    Numeral.isAsciiDigit c = true := by
  rcases List.mem_append.mp member with zero | digit
  · rw [List.eq_of_mem_replicate zero]
    decide
  · exact Decimal.isAsciiDigit_of_mem_digitsOf c digit

/-- No number starts with a sign. -/
theorem Instant.minus_notMem_padded (width n : Nat) : '-' ∉ padded width n :=
  fun member => absurd (isAsciiDigit_of_mem_padded member) (by decide)

namespace Run

theorem paddedNumber_injective {n m : Int} (h : paddedNumber n = paddedNumber m) : n = m := by
  unfold paddedNumber at h
  split at h
  · rename_i negative
    split at h
    · rename_i negative'
      have same := congrArg Numeral.valueOf (List.cons.inj h).2
      rw [Instant.valueOf_padded, Instant.valueOf_padded] at same
      omega
    · exact absurd (h ▸ List.mem_cons_self) (Instant.minus_notMem_padded 6 m.natAbs)
  · rename_i positive
    split at h
    · exact absurd (h.symm ▸ List.mem_cons_self) (Instant.minus_notMem_padded 6 n.natAbs)
    · have same := congrArg Numeral.valueOf h
      rw [Instant.valueOf_padded, Instant.valueOf_padded] at same
      omega

theorem idOf_injective : Function.Injective idOf := by
  intro n m h
  have texts := congrArg String.toList h
  simp only [idOf, String.toList_append, String.toList_ofList] at texts
  exact paddedNumber_injective (List.append_cancel_left texts)

/-- An id is one piece of a path. -/
theorem slash_notMem_idOf (n : Int) : '/' ∉ (idOf n).toList := by
  have digits : ∀ width n, '/' ∉ Instant.padded width n :=
    fun width n member => absurd (Instant.isAsciiDigit_of_mem_padded member) (by decide)
  simp only [idOf, String.toList_append, String.toList_ofList, List.mem_append, not_or]
  refine ⟨by decide, ?_⟩
  unfold paddedNumber
  split
  · rw [List.mem_cons, not_or]
    exact ⟨by decide, digits _ _⟩
  · exact digits _ _

end Run

namespace Namespaces

variable {all : Namespaces} {count : Int}

/-- So many runs have been numbered. -/
def Counts (all : Namespaces) (count : Int) : Prop :=
  ∃ counters, entriesOf all sequences = .obj counters ∧ (Fields.get? counters Run.counter).getD (.int 0) = .int count

theorem counts_nil : Counts [] 0 := ⟨[], rfl, rfl⟩

theorem counts_of_shows {other : Namespaces} (counts : Counts all count)
    (same : Fields.get? other sequences = Fields.get? all sequences) : Counts other count := by
  obtain ⟨counters, here, counted⟩ := counts
  refine ⟨counters, ?_, counted⟩
  unfold entriesOf at here ⊢
  rw [same]
  exact here

theorem advance_of_counts (counts : Counts all count) :
    (advance all Run.counter).1 = .ok (count + 1) ∧ Counts (advance all Run.counter).2 (count + 1) := by
  obtain ⟨counters, here, counted⟩ := counts
  have ensured : entriesOf (ensure all sequences) sequences = .obj counters := entriesOf_ensure.trans here
  unfold advance
  simp only [ensured, counted, Json.toInteger]
  refine ⟨trivial, _, entriesOf_set _, ?_⟩
  rw [Fields.get?_set, if_pos rfl]
  rfl

end Namespaces

namespace Change

theorem leaves_attempt {change : Change} {space : String} (apart : space ≠ change.space) :
    Leaves (World.shows space) (change.attempt : Attempt (World σ) _) := by
  cases change with
  | number => exact World.leaves_onStore (Store.leaves_nextSequence apart _)
  | reset => exact Rollback.leaves_reset apart
  | judge config runId recordedAt sample => exact Rollback.leaves_update apart _ _ _ _
  | put q => exact World.leaves_onStore (Store.leaves_putAndPrune apart _ _ _)

theorem orderly_attempt {depth : Nat} (change : Change) :
    Keeps (fun w => w.store.Orderly depth) (change.attempt : Attempt (World σ) _) := by
  cases change with
  | number => exact World.orderly_onStore (Store.orderly_nextSequence _ _)
  | reset => exact Rollback.orderly_reset
  | judge config runId recordedAt sample => exact Rollback.orderly_update _ _ _ _
  | put q => exact World.orderly_onStore (Store.orderly_putAndPrune _ _ _ _ _)

end Change

namespace Moment

variable (m : Moment σ)

theorem shows_after {space : String} (apart : space ≠ m.change.space) :
    Fields.get? m.after.store.namespaces space = Fields.get? m.before.store.namespaces space :=
  Change.leaves_attempt apart m.before

theorem entriesOf_after {space : String} (apart : space ≠ m.change.space) :
    m.after.store.namespaces.entriesOf space = m.before.store.namespaces.entriesOf space := by
  unfold Namespaces.entriesOf
  rw [m.shows_after apart]

theorem counts_after {count : Int} (counts : m.before.store.namespaces.Counts count) (later : 1 ≤ m.change.stage) :
    m.after.store.namespaces.Counts count :=
  Namespaces.counts_of_shows counts (m.shows_after (Change.space_ne_sequences later))

theorem regular_after (regular : m.before.store.namespaces.Regular) : m.after.store.namespaces.Regular := by
  have orderly : m.before.store.Orderly m.before.store.depth := ⟨rfl, regular⟩
  exact (m.change.orderly_attempt m.before orderly).regular

end Moment

theorem Moment.namespaces_of_number (w : World σ) :
    (Moment.after ⟨w, .number⟩).store.namespaces = (w.store.namespaces.advance Run.counter).2 :=
  Store.namespaces_onNamespaces (fun all => all.advance Run.counter) w.store

theorem Moment.counts_number {w : World σ} {count : Int} (counts : w.store.namespaces.Counts count) :
    (Moment.after ⟨w, .number⟩).store.namespaces.Counts (count + 1) := by
  rw [Moment.namespaces_of_number]
  exact (Namespaces.advance_of_counts counts).2

theorem Moment.namespaces_of_put {w : World σ} (regular : w.store.namespaces.Regular) (q : Put) :
    (Moment.after ⟨w, .put q⟩).store.namespaces
      = w.store.namespaces.kept q.shelf.space q.runId q.value q.limit := by
  obtain ⟨_, ran⟩ := Store.outcome_putAndPrune regular q.shelf.space q.runId q.value q.limit
  have left : (Moment.after ⟨w, .put q⟩).store
      = ((Store.putAndPrune q.shelf.space q.runId q.value q.limit).outcome w.store).2 := rfl
  rw [left, ran]
  exact Store.namespaces_commit _

/-- The number that is taken next is one more than were taken so far. -/
theorem Run.nextId_of_counts {w v : World σ} {runId : String} {count : Int} (counts : w.store.namespaces.Counts count)
    (h : nextId.outcome w = (.ok runId, v)) : runId = idOf (count + 1) := by
  obtain ⟨n, counted, rfl, -⟩ := counted_of_nextId h
  exact congrArg idOf (Except.ok.inj (counted.symm.trans (Namespaces.advance_of_counts counts).1))

end CanaryGate
