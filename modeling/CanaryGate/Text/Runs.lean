/-!
# Runs of code points

Sets of characters as runs, and maps that move the characters of a run by the same distance.
-/

namespace CanaryGate

/-- The first and the last code point of a run. -/
abbrev Run := Nat × Nat

/-- A character lies in one of some runs. -/
def inRuns (runs : List Run) (c : Char) : Bool := runs.any fun run => decide (run.1 ≤ c.toNat ∧ c.toNat ≤ run.2)

/-- A run from `first` to `last` in steps of `step`, each `shift` away from its partner. -/
structure ShiftRun where
  first : Nat
  last : Nat
  step : Nat
  shift : Int

def partner? (runs : List ShiftRun) (c : Char) : Option Char :=
  (runs.find? fun run => run.first ≤ c.toNat ∧ c.toNat ≤ run.last ∧ (c.toNat - run.first) % run.step = 0).map
    fun run => Char.ofNat ((c.toNat : Int) + run.shift).toNat

theorem inRuns_nil (c : Char) : inRuns [] c = false := rfl

theorem inRuns_append (first second : List Run) (c : Char) :
    inRuns (first ++ second) c = (inRuns first c || inRuns second c) := by
  simp [inRuns]

end CanaryGate
