import CanaryGate.Comparison
import Mathlib.Data.List.Infix

/-! # Reports under any labels

The names in a report are made of the labels of the two sides, so two labels may make one name of two, and then only
the later entry is left. That is how it is with a label and the same label with a count behind it; other names are
told apart by their endings.
-/

namespace CanaryGate

theorem append_ne {s t : String} (apart : ¬ s.toList <:+ t.toList) (apart' : ¬ t.toList <:+ s.toList) (a b : String) :
    a ++ s ≠ b ++ t := by
  intro same
  have chars := congrArg String.toList same
  rw [String.toList_append, String.toList_append] at chars
  rcases List.suffix_or_suffix_of_suffix (List.suffix_append _ _) (chars ▸ List.suffix_append b.toList t.toList)
    with ends | ends
  · exact apart ends
  · exact apart' ends

theorem append_ne_of_not_suffix {s t : String} (apart : ¬ s.toList <:+ t.toList) (a : String) : a ++ s ≠ t := by
  rintro rfl
  exact apart (by rw [String.toList_append]; exact List.suffix_append _ _)

theorem append_ne_of_not_prefix {s t : String} (apart : ¬ s.toList <+: t.toList) (a : String) : s ++ a ≠ t := by
  rintro rfl
  exact apart (by rw [String.toList_append]; exact List.prefix_append _ _)

namespace Comparison

/-- The labels differ, and neither is the other one with a count behind it. -/
structure TellApart (x y : String) : Prop where
  differ : x ≠ y
  left : x ++ "_count" ≠ y
  right : y ++ "_count" ≠ x

/-- Besides, neither label is the one that the difference of the scores stands under. -/
structure Usable (x y : String) : Prop extends TellApart x y where
  left_ne : x ≠ "delta"
  right_ne : y ≠ "delta"

theorem scores_ne_delta {label : String} (h : label ≠ "delta") :
    label ++ "_score_sum_scaled" ≠ "delta_score_sum_scaled" := by
  show label ++ "_score_sum_scaled" ≠ "delta" ++ "_score_sum_scaled"
  exact mt (String.append_left_inj _).mp h

variable (c : Comparison) {x y : String}

/-! The figures. -/

theorem get?_cyclesOfBaseline (differ : x ≠ y) :
    Fields.get? (c.metrics x y) (x ++ "_candidate_cycles") = some (.int c.baselineCycles) := by
  simp (disch := decide) [metrics, Fields.ofList, Fields.get?_set, append_ne, append_ne_of_not_suffix, differ]

theorem get?_cyclesOfCandidate :
    Fields.get? (c.metrics x y) (y ++ "_candidate_cycles") = some (.int c.candidateCycles) := by
  simp (disch := decide) [metrics, Fields.ofList, Fields.get?_set, append_ne, append_ne_of_not_suffix]

theorem get?_scoreOfBaseline (usable : Usable x y) :
    Fields.get? (c.metrics x y) (x ++ "_score_sum_scaled") = some (.int c.baselineScore) := by
  simp (disch := decide) [metrics, Fields.ofList, Fields.get?_set, append_ne_of_not_suffix, usable.differ,
    scores_ne_delta usable.left_ne]

theorem get?_scoreOfCandidate (usable : Usable x y) :
    Fields.get? (c.metrics x y) (y ++ "_score_sum_scaled") = some (.int c.candidateScore) := by
  simp (disch := decide) [metrics, Fields.ofList, Fields.get?_set, append_ne_of_not_suffix,
    scores_ne_delta usable.right_ne]

theorem get?_common : Fields.get? (c.metrics x y) (x ++ "_vs_" ++ y ++ "_overlap") = some (.int c.overlap.length) := by
  simp (disch := decide) [metrics, Fields.ofList, Fields.get?_set, append_ne, append_ne_of_not_suffix]

theorem get?_delta : Fields.get? (c.metrics x y) "delta_score_sum_scaled" = some (.int c.scoreDelta) := by
  simp [metrics, Fields.ofList, Fields.get?_set]

theorem get?_baselineSelected (differ : x ≠ y) :
    Fields.get? (c.metrics x y) (x ++ "_selected_proposals") = some (.int c.baselineSelected) := by
  simp (disch := decide) [metrics, Fields.ofList, Fields.get?_set, append_ne, append_ne_of_not_suffix, differ]

theorem get?_candidateSelected :
    Fields.get? (c.metrics x y) (y ++ "_selected_proposals") = some (.int c.candidateSelected) := by
  simp (disch := decide) [metrics, Fields.ofList, Fields.get?_set, append_ne, append_ne_of_not_suffix]

/-! The keys. -/

theorem get?_overlapCount : Fields.get? (c.selectedKeys x y) "overlap_count" = some (.int c.overlap.length) := by
  simp (disch := decide) [selectedKeys, Fields.ofList, Fields.get?_set, append_ne_of_not_prefix, String.append_assoc,
    @eq_comm _ "overlap_count"]

theorem get?_overlap : Fields.get? (c.selectedKeys x y) "overlap" = some (.arr (c.overlap.map .str)) := by
  simp (disch := decide) [selectedKeys, Fields.ofList, Fields.get?_set, append_ne_of_not_prefix, String.append_assoc,
    @eq_comm _ "overlap"]

theorem get?_onlyBaselineCount (apart : TellApart x y) :
    Fields.get? (c.selectedKeys x y) ("only_" ++ x ++ "_count") = some (.int c.onlyBaseline.length) := by
  simp (disch := decide) [selectedKeys, Fields.ofList, Fields.get?_set, append_ne_of_not_prefix, String.append_assoc,
    apart.left, apart.differ]

theorem get?_onlyCandidateCount (apart : TellApart x y) :
    Fields.get? (c.selectedKeys x y) ("only_" ++ y ++ "_count") = some (.int c.onlyCandidate.length) := by
  simp (disch := decide) [selectedKeys, Fields.ofList, Fields.get?_set, append_ne_of_not_prefix, String.append_assoc,
    apart.right]

theorem get?_onlyBaseline (differ : x ≠ y) :
    Fields.get? (c.selectedKeys x y) ("only_" ++ x) = some (.arr (c.onlyBaseline.map .str)) := by
  simp [selectedKeys, Fields.ofList, Fields.get?_set, differ]

theorem get?_onlyCandidate :
    Fields.get? (c.selectedKeys x y) ("only_" ++ y) = some (.arr (c.onlyCandidate.map .str)) := by
  simp [selectedKeys, Fields.ofList, Fields.get?_set]

end Comparison

end CanaryGate
