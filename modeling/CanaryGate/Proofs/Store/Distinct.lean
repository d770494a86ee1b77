import CanaryGate.Proofs.Json.Distinct
import CanaryGate.Proofs.Store.Commit

/-! # Stores without repeated names

No operation of a store brings in a repeated name: a value is put in place of the one that was there, or behind
all others, and what is removed leaves the rest as it was.
-/

namespace CanaryGate

open Attempt Json

variable {α : Type}

namespace Namespaces

variable {all : Namespaces}

theorem distinct_entriesOf (h : Distinct (.obj all)) (space : String) : Distinct (entriesOf all space) := by
  unfold entriesOf
  cases found : Fields.get? all space with
  | none => exact distinct_empty
  | some value => exact (distinct_obj.mp h).2 _ (Fields.mem_of_get? found)

theorem distinct_ensure (h : Distinct (.obj all)) (space : String) : Distinct (.obj (ensure all space)) := by
  unfold ensure
  split
  · exact h
  · exact distinct_set h distinct_empty space

theorem distinct_namespaces_set (h : Distinct (.obj all)) (space key : String) {value : Json} (new : Distinct value) :
    Distinct (.obj (set all space key value).2) := by
  have ensured := distinct_ensure h space
  have here := distinct_entriesOf ensured space
  unfold set
  dsimp only
  split
  · rename_i entries found
    rw [found] at here
    exact distinct_set ensured (distinct_set here new key) space
  · exact ensured

theorem distinct_delete (h : Distinct (.obj all)) (space key : String) : Distinct (.obj (delete all space key).2) := by
  have ensured := distinct_ensure h space
  have here := distinct_entriesOf ensured space
  unfold delete
  dsimp only
  split
  · rename_i entries found
    rw [found] at here
    exact distinct_set ensured (distinct_sublist here (Fields.erase_sublist entries key)) space
  · exact ensured
  · exact ensured

theorem mem_of_mem_removeIndices {items indices : List Json} {item : Json}
    (h : item ∈ (removeIndices items indices).2) : item ∈ items := by
  induction indices generalizing items with
  | nil => exact h
  | cons index more ih =>
      unfold removeIndices at h
      split at h
      · exact List.mem_of_mem_eraseIdx (ih h)
      · exact h

theorem distinct_prune (h : Distinct (.obj all)) (space : String) (limit : Int) :
    Distinct (.obj (prune all space limit).2) := by
  have ensured := distinct_ensure h space
  have here := distinct_entriesOf ensured space
  unfold prune
  dsimp only
  split
  · rename_i entries found
    rw [found] at here
    split
    · exact ensured
    · exact distinct_set ensured (distinct_sublist here (List.drop_sublist _ _)) space
  · rename_i entries found
    rw [found, distinct_arr] at here
    have rest : Distinct (.arr (removeIndices entries (entries.take (overflow entries.length limit))).2) :=
      .arr fun item member => here item (mem_of_mem_removeIndices member)
    split
    · rename_i left removed
      rw [removed] at rest
      exact distinct_set ensured rest space
    · rename_i left removed
      rw [removed] at rest
      exact distinct_set ensured rest space
  · split
    · exact ensured
    · exact ensured
  · exact ensured

theorem distinct_advance (h : Distinct (.obj all)) (name : String) : Distinct (.obj (advance all name).2) := by
  have ensured := distinct_ensure h sequences
  have here := distinct_entriesOf ensured sequences
  unfold advance
  dsimp only
  split
  · rename_i counters found
    rw [found] at here
    split
    · exact distinct_set ensured (distinct_set here (.int _) name) sequences
    · exact ensured
  · exact ensured

end Namespaces

end CanaryGate
