import CanaryGate.Proofs.Comparison.Labels
import CanaryGate.Proofs.Comparison.Sides

/-! # Results that can be compared

A comparison looks at each side alone before it sets them side by side, so two results can be compared
exactly when each of them can be measured. The figures that it gives are integers under fixed names.
-/

namespace CanaryGate

/-- All that a comparison reads of the proposals of one side, and of the side itself. -/
structure Measures (result : Json) (proposals : List Fields) : Prop where
  keys : ∀ p ∈ proposals, Succeeds (cycleKey p)
  scores : ∀ p ∈ proposals, Succeeds (score p)
  sum : ∀ sum, scoreSum proposals = .ok sum → Succeeds (scaled sum)
  cycles : Succeeds (candidateCycles result)

/-- A result has first proposals, and they can be measured: they have keys, their scores have a sum that is an
integer in ten-thousandths, and the candidate cycles are a number. -/
def Measurable (limit : Int) (result : Json) : Prop :=
  ∃ proposals, selectedProposals result limit = .ok proposals ∧ Measures result proposals

theorem succeeds_scoreSum {proposals : List Fields} :
    Succeeds (scoreSum proposals) ↔ ∀ p ∈ proposals, Succeeds (score p) := by
  unfold scoreSum
  rw [succeeds_bind, ← succeeds_mapM]
  constructor
  · rintro ⟨scores, found, -⟩
    exact ⟨scores, found⟩
  · rintro ⟨scores, found⟩
    exact ⟨scores, found, succeeds_ok _⟩

/-- One side is measured exactly when all that is read of it can be read. -/
theorem Side.succeeds_ofSelected {result : Json} {proposals : List Fields} :
    Succeeds (ofSelected result proposals) ↔ Measures result proposals := by
  constructor
  · rintro ⟨side, h⟩
    obtain ⟨keys, ⟨sum, summed, units⟩, cycles⟩ := ofSelected_eq_ok.mp h
    refine ⟨succeeds_mapM.mp ⟨_, keys⟩, succeeds_scoreSum.mp ⟨_, summed⟩, fun other found => ?_, _, cycles⟩
    obtain rfl : sum = other := Except.ok.inj (summed.symm.trans found)
    exact ⟨_, units⟩
  · intro measures
    obtain ⟨keys, read⟩ := succeeds_mapM.mpr measures.keys
    obtain ⟨sum, summed⟩ := succeeds_scoreSum.mpr measures.scores
    obtain ⟨score, units⟩ := measures.sum sum summed
    obtain ⟨cycles, counted⟩ := measures.cycles
    exact ⟨⟨keys, score, cycles⟩, ofSelected_eq_ok.mpr ⟨read, ⟨sum, summed, units⟩, counted⟩⟩

theorem Side.succeeds_ofResult {result : Json} {limit : Int} :
    Succeeds (ofResult result (.int limit)) ↔ Measurable limit result := by
  unfold ofResult
  rw [succeeds_bind, selectedWithin_int]
  exact exists_congr fun proposals => and_congr_right' succeeds_ofSelected

namespace Comparison

/-- Two results can be compared exactly when each can be measured. -/
theorem succeeds_ofResults {baseline candidate : Json} {limit : Int} :
    Succeeds (ofResults baseline candidate (.int limit)) ↔ Measurable limit baseline ∧ Measurable limit candidate := by
  rw [← Side.succeeds_ofResult, ← Side.succeeds_ofResult]
  constructor
  · rintro ⟨c, h⟩
    obtain ⟨left, right, measured, measured', -⟩ := ofResults_eq_ok.mp h
    exact ⟨⟨left, measured⟩, right, measured'⟩
  · rintro ⟨⟨left, measured⟩, right, measured'⟩
    exact ⟨left.against right, ofResults_eq_ok.mpr ⟨left, right, measured, measured', rfl⟩⟩

/-- Two results are compared by the proposals that are selected of each. -/
theorem selected_of_ofResults {baseline candidate : Json} {limit : Int} {c : Comparison}
    (h : ofResults baseline candidate (.int limit) = .ok c) : ∃ base cand, selectedProposals baseline limit = .ok base
      ∧ selectedProposals candidate limit = .ok cand ∧ ofSelected baseline candidate base cand = .ok c := by
  rw [ofResults_int] at h
  obtain ⟨base, baseFirst, h⟩ := except_bind_eq_ok.mp h
  obtain ⟨cand, candFirst, h⟩ := except_bind_eq_ok.mp h
  exact ⟨base, cand, baseFirst, candFirst, h⟩

theorem cycles_of_ofSelected {baseline candidate : Json} {base cand : List Fields} {c : Comparison}
    (h : ofSelected baseline candidate base cand = .ok c) :
    CanaryGate.candidateCycles baseline = .ok c.baselineCycles
      ∧ CanaryGate.candidateCycles candidate = .ok c.candidateCycles := by
  obtain ⟨left, right, measured, measured', rfl⟩ := ofSelected_eq_ok.mp h
  exact ⟨(Side.ofSelected_eq_ok.mp measured).2.2, (Side.ofSelected_eq_ok.mp measured').2.2⟩

/-! The figures that decisions are made of, as the candidate's comparison names them. -/

variable (c : Comparison)

theorem get?_baselineCycles :
    Fields.get? (c.metrics "v1" "v2") "v1_candidate_cycles" = some (.int c.baselineCycles) :=
  c.get?_cyclesOfBaseline (by decide)

theorem get?_candidateCycles :
    Fields.get? (c.metrics "v1" "v2") "v2_candidate_cycles" = some (.int c.candidateCycles) :=
  c.get?_cyclesOfCandidate

theorem get_scoreDelta : Fields.get (c.metrics "v1" "v2") "delta_score_sum_scaled" = .int c.scoreDelta := by
  unfold Fields.get
  rw [get?_delta]
  rfl

end Comparison

end CanaryGate
