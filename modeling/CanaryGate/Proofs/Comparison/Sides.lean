import CanaryGate.Proofs.Attempt.Success
import CanaryGate.Proofs.Comparison.Accessors
import CanaryGate.Proofs.Comparison.Keys

/-! # The two sides of a comparison

Each side of a comparison is measured for itself and in the same way, and the comparison is made of the two measures.
So what it says of one side it says of the other when the sides change places.
-/

namespace CanaryGate

/-- A count that is not negative takes as many items from the front. -/
theorem takeUpTo_natCast (count : Nat) (items : List α) : takeUpTo count items = items.take count := by
  unfold takeUpTo
  rw [if_pos (Int.natCast_nonneg count), Int.toNat_natCast]

/-- The first proposals that a result reports, as far as they are objects. -/
def firstProposals (result : Json) (count : Nat) : List Fields := (reported result "proposals").objects.take count

/-- The proposals that are selected of a result, up to a limit of any kind. -/
def selectedWithin (limit result : Json) : Except Fault (List Fields) := do takeWithin limit (← proposalsOf result)

theorem selectedWithin_int (count : Int) (result : Json) :
    selectedWithin (.int count) result = selectedProposals result count := by
  unfold selectedWithin selectedProposals
  cases proposalsOf result with
  | error fault => rfl
  | ok proposals => rfl

/-- A limit that is not negative selects the first proposals. -/
theorem firstProposals_of_selectedWithin {result : Json} {count : Nat} {proposals : List Fields}
    (h : selectedWithin (.int count) result = .ok proposals) : proposals = firstProposals result count := by
  obtain ⟨listed, found, taken⟩ := except_bind_eq_ok.mp h
  rw [takeWithin_int, takeUpTo_natCast, proposalsOf_eq found] at taken
  exact (Except.ok.inj taken).symm

/-- The keys that proposals are recognised by. -/
def keysOf (proposals : List Fields) : Set String := {key | ∃ proposal ∈ proposals, cycleKey proposal = .ok key}

/-- What is measured of one side: the keys of its selected proposals, in their order, their score in ten-thousandths,
and the cycles that its engine considered. -/
structure Side where
  keys : List String
  score : Int
  cycles : Int

namespace Side

def ofSelected (result : Json) (proposals : List Fields) : Except Fault Side := do
  let keys ← proposals.mapM cycleKey
  let sum ← scoreSum proposals
  let score ← scaled sum
  let cycles ← candidateCycles result
  return ⟨keys, score, cycles⟩

/-- Measures the proposals that are selected of a result. -/
def ofResult (result limit : Json) : Except Fault Side := do ofSelected result (← selectedWithin limit result)

/-- The comparison of a baseline with a candidate. -/
def against (baseline candidate : Side) : Comparison where
  baselineCycles := baseline.cycles
  candidateCycles := candidate.cycles
  baselineSelected := baseline.keys.length
  candidateSelected := candidate.keys.length
  baselineScore := baseline.score
  candidateScore := candidate.score
  overlap := Comparison.keysWhere (candidate.keys.contains ·) baseline.keys
  onlyBaseline := Comparison.keysWhere (!candidate.keys.contains ·) baseline.keys
  onlyCandidate := Comparison.keysWhere (!baseline.keys.contains ·) candidate.keys

/-! What is said of the keys of two sides. -/

section keys

variable (left right : Side) {key : String}

theorem mem_overlap : key ∈ (left.against right).overlap ↔ key ∈ left.keys ∧ key ∈ right.keys := by
  simp [against, Comparison.mem_keysWhere]

theorem mem_onlyBaseline : key ∈ (left.against right).onlyBaseline ↔ key ∈ left.keys ∧ key ∉ right.keys := by
  simp [against, Comparison.mem_keysWhere]

theorem mem_onlyCandidate : key ∈ (left.against right).onlyCandidate ↔ key ∈ right.keys ∧ key ∉ left.keys := by
  simp [against, Comparison.mem_keysWhere]

/-- What both sides have is the same whichever is looked at first. -/
theorem overlap_comm : (right.against left).overlap = (left.against right).overlap :=
  Comparison.keysWhere_congr fun key => by simp [and_comm]

/-- The keys of a side are those of both and those of its own. -/
theorem length_overlap_add : (left.against right).overlap.length + (left.against right).onlyBaseline.length
    = left.keys.toFinset.card := Comparison.length_keysWhere_add

end keys

theorem ofSelected_eq_ok {result : Json} {proposals : List Fields} {side : Side} :
    ofSelected result proposals = .ok side ↔ proposals.mapM cycleKey = .ok side.keys
      ∧ (∃ sum, scoreSum proposals = .ok sum ∧ scaled sum = .ok side.score)
      ∧ candidateCycles result = .ok side.cycles := by
  unfold ofSelected
  simp only [except_bind_eq_ok]
  constructor
  · rintro ⟨keys, read, sum, summed, score, units, cycles, counted, made⟩
    cases made
    exact ⟨read, ⟨sum, summed, units⟩, counted⟩
  · rintro ⟨read, ⟨sum, summed, units⟩, counted⟩
    exact ⟨_, read, sum, summed, _, units, _, counted, rfl⟩

theorem ofResult_eq_ok {result limit : Json} {side : Side} : ofResult result limit = .ok side ↔
    ∃ proposals, selectedWithin limit result = .ok proposals ∧ ofSelected result proposals = .ok side :=
  except_bind_eq_ok

/-- What is measured of a result under a limit that is not negative is measured of its first proposals. -/
theorem ofSelected_of_ofResult {result : Json} {count : Nat} {side : Side} (h : ofResult result (.int count) = .ok side) :
    ofSelected result (firstProposals result count) = .ok side := by
  obtain ⟨proposals, selected, measured⟩ := ofResult_eq_ok.mp h
  rwa [← firstProposals_of_selectedWithin selected]

variable {result : Json} {proposals : List Fields} {side : Side}

theorem map_cycleKey (h : ofSelected result proposals = .ok side) : proposals.map cycleKey = side.keys.map .ok :=
  mapM_eq_ok.mp (ofSelected_eq_ok.mp h).1

theorem length_keys (h : ofSelected result proposals = .ok side) : side.keys.length = proposals.length := by
  simpa using (congrArg List.length (map_cycleKey h)).symm

theorem mem_keys_iff (h : ofSelected result proposals = .ok side) {key : String} :
    key ∈ side.keys ↔ key ∈ keysOf proposals := by
  have listed : (Except.ok key : Except Fault String) ∈ side.keys.map Except.ok ↔ .ok key ∈ proposals.map cycleKey := by
    rw [map_cycleKey h]
  simpa [keysOf] using listed

theorem nodup_keys_iff (h : ofSelected result proposals = .ok side) :
    side.keys.Nodup ↔ proposals.Pairwise fun p q => cycleKey p ≠ cycleKey q := by
  rw [← List.pairwise_map (f := cycleKey) (R := (· ≠ ·)), map_cycleKey h, List.pairwise_map]
  simp [List.nodup_iff_pairwise_ne]

end Side

namespace Comparison

variable {baseline candidate : Json} {c : Comparison}

theorem ofSelected_eq_ok {base cand : List Fields} : ofSelected baseline candidate base cand = .ok c ↔
    ∃ left right, Side.ofSelected baseline base = .ok left ∧ Side.ofSelected candidate cand = .ok right
      ∧ c = left.against right := by
  unfold ofSelected
  simp only [except_bind_eq_ok, Side.ofSelected_eq_ok]
  constructor
  · rintro ⟨baseKeys, baseRead, candKeys, candRead, baseSum, baseSummed, candSum, candSummed, baseScore, baseUnits,
      candScore, candUnits, baseCycles, baseCounted, candCycles, candCounted, made⟩
    cases made
    refine ⟨⟨baseKeys, baseScore, baseCycles⟩, ⟨candKeys, candScore, candCycles⟩,
      ⟨baseRead, ⟨_, baseSummed, baseUnits⟩, baseCounted⟩, ⟨candRead, ⟨_, candSummed, candUnits⟩, candCounted⟩, ?_⟩
    have baseLength := congrArg List.length (mapM_eq_ok.mp baseRead)
    have candLength := congrArg List.length (mapM_eq_ok.mp candRead)
    simp only [List.length_map] at baseLength candLength
    rw [baseLength, candLength]
    rfl
  · rintro ⟨left, right, ⟨baseRead, ⟨_, baseSummed, baseUnits⟩, baseCounted⟩,
      ⟨candRead, ⟨_, candSummed, candUnits⟩, candCounted⟩, rfl⟩
    have baseLength := congrArg List.length (mapM_eq_ok.mp baseRead)
    have candLength := congrArg List.length (mapM_eq_ok.mp candRead)
    simp only [List.length_map] at baseLength candLength
    refine ⟨_, baseRead, _, candRead, _, baseSummed, _, candSummed, _, baseUnits, _, candUnits, _, baseCounted, _,
      candCounted, ?_⟩
    rw [baseLength, candLength]
    rfl

/-- Two results are compared by what is measured of each. -/
theorem ofResults_eq_ok {limit : Json} : ofResults baseline candidate limit = .ok c ↔
    ∃ left right, Side.ofResult baseline limit = .ok left ∧ Side.ofResult candidate limit = .ok right
      ∧ c = left.against right := by
  have listed : ofResults baseline candidate limit = selectedWithin limit baseline >>= fun base =>
      selectedWithin limit candidate >>= fun cand => ofSelected baseline candidate base cand := by
    simp only [ofResults, selectedWithin, bind_assoc]
  rw [listed]
  simp only [except_bind_eq_ok, ofSelected_eq_ok, Side.ofResult_eq_ok]
  constructor
  · rintro ⟨base, selected, cand, selected', left, right, measured, measured', rfl⟩
    exact ⟨left, right, ⟨base, selected, measured⟩, ⟨cand, selected', measured'⟩, rfl⟩
  · rintro ⟨left, right, ⟨base, selected, measured⟩, ⟨cand, selected', measured'⟩, rfl⟩
    exact ⟨base, selected, cand, selected', left, right, measured, measured', rfl⟩

end Comparison

end CanaryGate
