import CanaryGate.Proofs.Comparison.Labels
import CanaryGate.Proofs.Comparison.Sides

/-! # The partition of the keys

A comparison reports the keys that both sides have and those that one of them has alone. Several proposals of a side
may have one key, and then there are fewer keys than proposals.
-/

namespace CanaryGate.Comparison

/-- What a report says of one side under its label: `only` are the keys that the other side lacks. -/
structure Accounts (label : String) (own other : List Fields) (overlap only : List String) (metrics selected : Fields) :
    Prop where
  keyed : ∀ proposal ∈ own, ∃ key, cycleKey proposal = .ok key
  listed : Fields.get? selected ("only_" ++ label) = some (.arr (only.map .str))
  counted : Fields.get? selected ("only_" ++ label ++ "_count") = some (.int only.length)
  increasing : only.Pairwise (· < ·)
  members : ∀ key, key ∈ only ↔ key ∈ keysOf own \ keysOf other
  selected : Fields.get? metrics (label ++ "_selected_proposals") = some (.int own.length)
  bounded : overlap.length + only.length ≤ own.length
  exact : overlap.length + only.length = own.length ↔ own.Pairwise fun p q => cycleKey p ≠ cycleKey q

/-- What a report says of two sides under their labels. -/
structure Partition (x y : String) (base cand : List Fields) (overlap onlyBase onlyCand : List String)
    (metrics selected : Fields) : Prop where
  listed : Fields.get? selected "overlap" = some (.arr (overlap.map .str))
  counted : Fields.get? selected "overlap_count" = some (.int overlap.length)
  measured : Fields.get? metrics (x ++ "_vs_" ++ y ++ "_overlap") = Fields.get? selected "overlap_count"
  increasing : overlap.Pairwise (· < ·)
  members : ∀ key, key ∈ overlap ↔ key ∈ keysOf base ∩ keysOf cand
  disjoint : [overlap, onlyBase, onlyCand].Pairwise List.Disjoint
  baseline : Accounts x base cand overlap onlyBase metrics selected
  candidate : Accounts y cand base overlap onlyCand metrics selected

variable {baseline candidate : Json} {base cand : List Fields} {left right : Side} {x y : String}

theorem bounded_keys {proposals : List Fields} (h : Side.ofSelected baseline proposals = .ok left) :
    left.keys.toFinset.card ≤ proposals.length
      ∧ (left.keys.toFinset.card = proposals.length ↔ proposals.Pairwise fun p q => cycleKey p ≠ cycleKey q) := by
  rw [← Side.length_keys h, card_toFinset_eq_length_iff, Side.nodup_keys_iff h]
  exact ⟨List.toFinset_card_le _, Iff.rfl⟩

theorem keyed_of_ofSelected {proposals : List Fields} (h : Side.ofSelected baseline proposals = .ok left) :
    ∀ proposal ∈ proposals, ∃ key, cycleKey proposal = .ok key :=
  succeeds_mapM.mp ⟨_, (Side.ofSelected_eq_ok.mp h).1⟩

theorem accounts_baseline (h : Side.ofSelected baseline base = .ok left) (h' : Side.ofSelected candidate cand = .ok right)
    (apart : TellApart x y) : Accounts x base cand (left.against right).overlap (left.against right).onlyBaseline
      ((left.against right).metrics x y) ((left.against right).selectedKeys x y) where
  keyed := keyed_of_ofSelected h
  listed := get?_onlyBaseline _ apart.differ
  counted := get?_onlyBaselineCount _ apart
  increasing := increasing_keysWhere
  members key := by
    rw [Side.mem_onlyBaseline, Side.mem_keys_iff h, Side.mem_keys_iff h', Set.mem_sdiff]
  selected := by
    rw [get?_baselineSelected _ apart.differ, ← Side.length_keys h]
    rfl
  bounded := by
    rw [Side.length_overlap_add]
    exact (bounded_keys h).1
  exact := by
    rw [Side.length_overlap_add]
    exact (bounded_keys h).2

theorem accounts_candidate (h : Side.ofSelected baseline base = .ok left) (h' : Side.ofSelected candidate cand = .ok right)
    (apart : TellApart x y) : Accounts y cand base (left.against right).overlap (left.against right).onlyCandidate
      ((left.against right).metrics x y) ((left.against right).selectedKeys x y) where
  keyed := keyed_of_ofSelected h'
  listed := get?_onlyCandidate _
  counted := get?_onlyCandidateCount _ apart
  increasing := increasing_keysWhere
  members key := by
    rw [Side.mem_onlyCandidate, Side.mem_keys_iff h, Side.mem_keys_iff h', Set.mem_sdiff]
  selected := by
    rw [get?_candidateSelected, ← Side.length_keys h']
    rfl
  bounded := by
    rw [← Side.overlap_comm]
    exact (Side.length_overlap_add right left).trans_le (bounded_keys h').1
  exact := by
    rw [← Side.overlap_comm]
    exact Iff.trans (by rw [← Side.length_overlap_add right left]; rfl) (bounded_keys h').2

theorem disjoint_against : [(left.against right).overlap, (left.against right).onlyBaseline,
    (left.against right).onlyCandidate].Pairwise List.Disjoint := by
  simp only [List.pairwise_cons, List.forall_mem_cons, List.disjoint_left, Side.mem_overlap, Side.mem_onlyBaseline,
    Side.mem_onlyCandidate]
  exact ⟨⟨fun key both own => own.2 both.2, fun key both own => own.2 both.1, by simp⟩,
    ⟨fun key own other => own.2 other.1, by simp⟩, by simp⟩

/-- A comparison by first proposals partitions their keys, under labels that its report tells apart. -/
theorem keys_partitioned {count : Nat} {c : Comparison} (h : ofResults baseline candidate (.int count) = .ok c)
    (apart : TellApart x y) : ∃ overlap onlyBase onlyCand, Partition x y (firstProposals baseline count)
      (firstProposals candidate count) overlap onlyBase onlyCand (c.metrics x y) (c.selectedKeys x y) := by
  obtain ⟨left, right, measured, measured', rfl⟩ := ofResults_eq_ok.mp h
  have base := Side.ofSelected_of_ofResult measured
  have cand := Side.ofSelected_of_ofResult measured'
  refine ⟨_, _, _, {
    listed := get?_overlap _
    counted := get?_overlapCount _
    measured := (get?_common _).trans (get?_overlapCount _).symm
    increasing := increasing_keysWhere
    members := fun key => ?_
    disjoint := disjoint_against
    baseline := accounts_baseline base cand apart
    candidate := accounts_candidate base cand apart }⟩
  rw [Side.mem_overlap, Side.mem_keys_iff base, Side.mem_keys_iff cand, Set.mem_inter_iff]

/-- Of the baseline's first three proposals two have one key, by its id and by who takes part, so there are fewer keys
than proposals. -/
theorem keys_partitioned_of_repeated :
    let result : List Json → Json := fun proposals => .obj [("matching", .obj [("proposals", .arr proposals)])]
    let named : String → Json := fun id => .obj [("id", .str id)]
    let baseline := result [named "p1", .int 5, .obj [("participants", .arr [.null, .obj [("intent_id", .int 7)]])],
      named "7", named "p3"]
    let candidate := result [named "p3", named "p1"]
    let c : Comparison := ⟨0, 0, 3, 2, 0, 0, ["p1"], ["7"], ["p3"]⟩
    ofResults baseline candidate (.int (3 : Nat)) = .ok c ∧ TellApart "primary" "alt"
      ∧ ∃ overlap onlyBase onlyCand, Partition "primary" "alt" (firstProposals baseline 3) (firstProposals candidate 3)
        overlap onlyBase onlyCand (c.metrics "primary" "alt") (c.selectedKeys "primary" "alt") := by
  intro result named baseline candidate c
  have compared : ofResults baseline candidate (.int (3 : Nat)) = .ok c := by decide +kernel
  have apart : TellApart "primary" "alt" := ⟨by decide, by decide, by decide⟩
  exact ⟨compared, apart, keys_partitioned compared apart⟩

/-- Where one label is the other with a count behind it, the keys of the one stand in the place of the count of the
other. -/
theorem count_hidden_by_label :
    let result : List Json → Json := fun proposals => .obj [("matching", .obj [("proposals", .arr proposals)])]
    let named : String → Json := fun id => .obj [("id", .str id)]
    let c : Comparison := ⟨0, 0, 1, 1, 0, 0, [], ["p1"], ["p2"]⟩
    "v1" ≠ "v1_count" ∧ ofResults (result [named "p1"]) (result [named "p2"]) (.int 1) = .ok c
      ∧ Fields.get? (c.selectedKeys "v1" "v1_count") "only_v1" = some (.arr [.str "p1"])
      ∧ Fields.get? (c.selectedKeys "v1" "v1_count") ("only_" ++ "v1" ++ "_count") = some (.arr [.str "p2"]) := by
  intro result named c
  exact ⟨by decide, by decide +kernel, rfl, rfl⟩

end CanaryGate.Comparison
