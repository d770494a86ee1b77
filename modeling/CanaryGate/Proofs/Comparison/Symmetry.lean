import CanaryGate.Proofs.Comparison.Labels
import CanaryGate.Proofs.Comparison.Sides
import CanaryGate.Proofs.Decision.Assembly
import CanaryGate.Proofs.Json.Same
import CanaryGate.Shadow.Candidate

/-! # Comparing the other way round

A comparison measures its two sides alike, so the other way round it says of each side what it said before. Results
of which the same proposals are selected therefore score the same, and a sample of such a comparison is a negative
delta only where the attempt itself has failed. Proposals can be the same and still have different keys, though,
because a key is a text: the ids 1 and 1.0 are the same number.
-/

namespace CanaryGate

/-- One proposal, or two that are the same as objects. -/
def SameProposal (p q : Fields) : Prop := p = q ∨ (Fields.names p).Nodup ∧ Json.same (.obj p) (.obj q) = true

/-! Proposals that are alike score the same. -/

theorem score_of_sameProposal {p q : Fields} (h : SameProposal p q) : score p = score q := by
  rcases h with rfl | ⟨distinct, same⟩
  · rfl
  · unfold score Fields.get
    rcases Json.get?_of_same distinct same "confidence_score" with ⟨none, none'⟩ | ⟨v, w, found, found', equal⟩
    · rw [none, none']
    · rw [found, found']
      exact Json.toDouble_of_same equal

theorem scoreSum_of_sameProposals {base cand : List Fields} (h : List.Forall₂ SameProposal base cand) :
    scoreSum base = scoreSum cand := by
  have scores : base.mapM score = cand.mapM score := by
    induction h with
    | nil => rfl
    | cons first _ ih => rw [List.mapM_cons, List.mapM_cons, score_of_sameProposal first, ih]
  unfold scoreSum
  rw [scores]

namespace Comparison

/-- The comparison the other way round. -/
def reversed (c : Comparison) : Comparison where
  baselineCycles := c.candidateCycles
  candidateCycles := c.baselineCycles
  baselineSelected := c.candidateSelected
  candidateSelected := c.baselineSelected
  baselineScore := c.candidateScore
  candidateScore := c.baselineScore
  overlap := c.overlap
  onlyBaseline := c.onlyCandidate
  onlyCandidate := c.onlyBaseline

theorem scoreDelta_reversed (c : Comparison) : c.reversed.scoreDelta = -c.scoreDelta :=
  (Int.neg_sub _ _).symm

theorem reversed_against (left right : Side) : right.against left = (left.against right).reversed := by
  unfold reversed
  rw [← Side.overlap_comm]
  rfl

theorem ofResults_reversed {a b limit : Json} {c : Comparison} (h : ofResults a b limit = .ok c) :
    ofResults b a limit = .ok c.reversed := by
  obtain ⟨left, right, measured, measured', rfl⟩ := ofResults_eq_ok.mp h
  exact ofResults_eq_ok.mpr ⟨right, left, measured', measured, (reversed_against left right).symm⟩

/-- What is under one name in the one report is under the other name in the other report. -/
def Shared (report : Fields) (name : String) (other : Fields) (otherName : String) : Prop :=
  ∃ value, Fields.get? report name = some value ∧ Fields.get? other otherName = some value

/-- Two reports under the same labels say the same of two sides that have changed places. -/
structure Mirrored (x y : String) (metrics selected metrics' selected' : Fields) : Prop where
  delta : ∃ delta : Int, Fields.get? metrics "delta_score_sum_scaled" = some (.int delta)
    ∧ Fields.get? metrics' "delta_score_sum_scaled" = some (.int (-delta))
  figures : ∀ figure ∈ ["_candidate_cycles", "_selected_proposals", "_score_sum_scaled"],
    Shared metrics (x ++ figure) metrics' (y ++ figure) ∧ Shared metrics (y ++ figure) metrics' (x ++ figure)
  common : Shared metrics (x ++ "_vs_" ++ y ++ "_overlap") metrics' (x ++ "_vs_" ++ y ++ "_overlap")
  overlap : ∀ name ∈ ["overlap", "overlap_count"], Shared selected name selected' name
  only : ∀ ending ∈ ["", "_count"],
    Shared selected ("only_" ++ x ++ ending) selected' ("only_" ++ y ++ ending)
      ∧ Shared selected ("only_" ++ y ++ ending) selected' ("only_" ++ x ++ ending)

theorem mirrored (c : Comparison) {x y : String} (usable : Usable x y) : Mirrored x y (c.metrics x y)
    (c.selectedKeys x y) (c.reversed.metrics x y) (c.reversed.selectedKeys x y) where
  delta := ⟨c.scoreDelta, get?_delta c, by rw [get?_delta, scoreDelta_reversed]⟩
  figures := by
    simp only [List.forall_mem_cons]
    refine ⟨⟨?_, ?_⟩, ⟨?_, ?_⟩, ⟨?_, ?_⟩, by simp⟩
    · exact ⟨_, get?_cyclesOfBaseline _ usable.differ, get?_cyclesOfCandidate _⟩
    · exact ⟨_, get?_cyclesOfCandidate _, get?_cyclesOfBaseline _ usable.differ⟩
    · exact ⟨_, get?_baselineSelected _ usable.differ, get?_candidateSelected _⟩
    · exact ⟨_, get?_candidateSelected _, get?_baselineSelected _ usable.differ⟩
    · exact ⟨_, get?_scoreOfBaseline _ usable, get?_scoreOfCandidate _ usable⟩
    · exact ⟨_, get?_scoreOfCandidate _ usable, get?_scoreOfBaseline _ usable⟩
  common := ⟨_, get?_common c, get?_common c.reversed⟩
  overlap := by
    simp only [List.forall_mem_cons]
    refine ⟨?_, ?_, by simp⟩
    · exact ⟨_, get?_overlap c, get?_overlap c.reversed⟩
    · exact ⟨_, get?_overlapCount c, get?_overlapCount c.reversed⟩
  only := by
    have apart := usable.toTellApart
    simp only [List.forall_mem_cons, String.append_empty]
    refine ⟨⟨?_, ?_⟩, ⟨?_, ?_⟩, by simp⟩
    · exact ⟨_, get?_onlyBaseline _ apart.differ, get?_onlyCandidate _⟩
    · exact ⟨_, get?_onlyCandidate _, get?_onlyBaseline _ apart.differ⟩
    · exact ⟨_, get?_onlyBaselineCount _ apart, get?_onlyCandidateCount _ apart⟩
    · exact ⟨_, get?_onlyCandidateCount _ apart, get?_onlyBaselineCount _ apart⟩

/-! Sides that agree. -/

/-- The report gives both sides one score. -/
def Level (metrics : Fields) : Prop := Fields.get? metrics "delta_score_sum_scaled" = some (.int 0)

/-- The report has no key that is of one side alone. -/
def Together (x y : String) (selected : Fields) : Prop :=
  ∀ label ∈ [x, y], Fields.get? selected ("only_" ++ label) = some (.arr [])
    ∧ Fields.get? selected ("only_" ++ label ++ "_count") = some (.int 0)

/-- What a report says of selected proposals that agree. -/
structure Agreement (x y : String) (base cand : List Fields) (metrics selected : Fields) : Prop where
  identical : base = cand → Level metrics ∧ Together x y selected
  alike : List.Forall₂ SameProposal base cand → Level metrics
  keyed : keysOf base = keysOf cand → Together x y selected

section sides

variable {a b : Json} {base cand : List Fields} {left right : Side}

theorem level_of_alike (h : Side.ofSelected a base = .ok left) (h' : Side.ofSelected b cand = .ok right)
    (alike : List.Forall₂ SameProposal base cand) (x y : String) : Level ((left.against right).metrics x y) := by
  obtain ⟨-, ⟨sum, summed, units⟩, -⟩ := Side.ofSelected_eq_ok.mp h
  obtain ⟨-, ⟨sum', summed', units'⟩, -⟩ := Side.ofSelected_eq_ok.mp h'
  rw [scoreSum_of_sameProposals alike, summed'] at summed
  cases summed
  have scores : right.score = left.score := Except.ok.inj (units'.symm.trans units)
  have delta : (left.against right).scoreDelta = 0 := sub_eq_zero.mpr scores
  rw [Level, get?_delta, delta]

theorem together_of_keyed (h : Side.ofSelected a base = .ok left) (h' : Side.ofSelected b cand = .ok right)
    (keyed : keysOf base = keysOf cand) {x y : String} (apart : TellApart x y) :
    Together x y ((left.against right).selectedKeys x y) := by
  have members : ∀ key, key ∈ left.keys ↔ key ∈ right.keys := fun key => by
    rw [Side.mem_keys_iff h, Side.mem_keys_iff h', keyed]
  have none : (left.against right).onlyBaseline = [] :=
    List.eq_nil_iff_forall_not_mem.mpr fun key => by simp [Side.mem_onlyBaseline, members]
  have none' : (left.against right).onlyCandidate = [] :=
    List.eq_nil_iff_forall_not_mem.mpr fun key => by simp [Side.mem_onlyCandidate, members]
  simp only [Together, List.forall_mem_cons]
  refine ⟨⟨?_, ?_⟩, ⟨?_, ?_⟩, by simp⟩
  · rw [get?_onlyBaseline _ apart.differ, none, List.map_nil]
  · rw [get?_onlyBaselineCount _ apart, none]
    rfl
  · rw [get?_onlyCandidate, none', List.map_nil]
  · rw [get?_onlyCandidateCount _ apart, none']
    rfl

/-- What can be compared has selected proposals, and the report says of them what it should where they agree. -/
theorem agreement_of_ofResults {limit : Json} {c : Comparison} (h : ofResults a b limit = .ok c) {x y : String}
    (apart : TellApart x y) : ∃ base cand, selectedWithin limit a = .ok base ∧ selectedWithin limit b = .ok cand
      ∧ Agreement x y base cand (c.metrics x y) (c.selectedKeys x y) := by
  obtain ⟨left, right, measured, measured', rfl⟩ := ofResults_eq_ok.mp h
  obtain ⟨base, selected, measured⟩ := Side.ofResult_eq_ok.mp measured
  obtain ⟨cand, selected', measured'⟩ := Side.ofResult_eq_ok.mp measured'
  refine ⟨base, cand, selected, selected', ⟨?_, ?_, ?_⟩⟩
  · rintro rfl
    exact ⟨level_of_alike measured measured' (List.forall₂_same.mpr fun _ _ => .inl rfl) x y,
      together_of_keyed measured measured' rfl apart⟩
  · exact fun alike => level_of_alike measured measured' alike x y
  · exact fun keyed => together_of_keyed measured measured' keyed apart

end sides

end Comparison

/-- The sample of a selected run with this comparison is no negative delta, unless the attempt has failed, and then it
is an error. -/
def DiffRecord.SampledFairly (d : DiffRecord) : Prop :=
  ∀ runId recordedAt error safety, ∃ sample,
    RunSample.ofRun runId recordedAt true error safety (some d) = .ok (some sample)
      ∧ sample.error = error.isSome ∧ sample.nonNegativeDelta = !sample.error

theorem DiffRecord.sampledFairly {d : DiffRecord} (level : Comparison.Level d.metrics) : d.SampledFairly := by
  intro runId recordedAt error safety
  have delta : Fields.get d.metrics "delta_score_sum_scaled" = .int 0 := by rw [Fields.get, level, Option.getD_some]
  have read : ((Fields.get d.metrics "delta_score_sum_scaled").orElse (.int 0)).toInteger = .ok 0 := by
    rw [delta, Json.toInteger_orElse_int]
  exact ⟨_, except_bind_eq_ok.mpr ⟨0, read, rfl⟩, rfl, by simp⟩

namespace Comparison

/-- Two results are compared alike in either order, whatever they are. -/
structure EitherWay (x y : String) (a b limit : Json) : Prop where
  returned : Succeeds (ofResults a b limit) ↔ Succeeds (ofResults b a limit)
  mirrored : ∀ c c', ofResults a b limit = .ok c → ofResults b a limit = .ok c' →
    Mirrored x y (c.metrics x y) (c.selectedKeys x y) (c'.metrics x y) (c'.selectedKeys x y)
  agreed : ∀ c, ofResults a b limit = .ok c → ∃ base cand, selectedWithin limit a = .ok base
    ∧ selectedWithin limit b = .ok cand ∧ Agreement x y base cand (c.metrics x y) (c.selectedKeys x y)
  sampled : ∀ runId recordedAt baselineConfig candidateConfig safety d,
    DiffRecord.ofResults runId recordedAt baselineConfig a candidateConfig b limit safety = .ok d →
      ∃ base cand, selectedWithin limit a = .ok base ∧ selectedWithin limit b = .ok cand
        ∧ (List.Forall₂ SameProposal base cand → d.SampledFairly)

/-- Two results can be compared in both orders or in neither, and the two reports mirror each other. -/
theorem compared_either_way (a b limit : Json) {x y : String} (usable : Usable x y) : EitherWay x y a b limit where
  returned := ⟨fun ⟨_, h⟩ => ⟨_, ofResults_reversed h⟩, fun ⟨_, h⟩ => ⟨_, ofResults_reversed h⟩⟩
  mirrored c c' h h' := by
    cases h'.symm.trans (ofResults_reversed h)
    exact mirrored c usable
  agreed c h := agreement_of_ofResults h usable.toTellApart
  sampled := by
    intro runId recordedAt baselineConfig candidateConfig safety d h
    obtain ⟨c, compared, made⟩ := except_bind_eq_ok.mp h
    cases made
    have apart : TellApart "v1" "v2" := ⟨by decide, by decide, by decide⟩
    obtain ⟨base, cand, selected, selected', agreed⟩ := agreement_of_ofResults compared apart
    exact ⟨base, cand, selected, selected', fun alike => DiffRecord.sampledFairly (agreed.alike alike)⟩

/-- The candidate selects one more proposal than the baseline and has the higher score; the other way round it is the
lower one. -/
theorem compared_either_way_of_more :
    let half := Binary64.ofRatio false 1 2
    let proposal : String → Json := fun id => .obj [("id", .str id), ("confidence_score", .float half)]
    let result : List Json → Json := fun proposals => .obj [("matching", .obj [("proposals", .arr proposals)])]
    let a := result [proposal "p1"]
    let b := result [proposal "p1", proposal "p2"]
    let c : Comparison := ⟨0, 0, 1, 2, 5000, 10000, ["p1"], [], ["p2"]⟩
    Usable "v1" "v2" ∧ ofResults a b (.int 5) = .ok c ∧ ofResults b a (.int 5) = .ok c.reversed
      ∧ EitherWay "v1" "v2" a b (.int 5) := by
  intro half proposal result a b c
  have usable : Usable "v1" "v2" := ⟨⟨by decide, by decide, by decide⟩, by decide, by decide⟩
  have compared : ofResults a b (.int 5) = .ok c := by decide +kernel
  exact ⟨usable, compared, ofResults_reversed compared, compared_either_way a b (.int 5) usable⟩

/-- The ids 1 and 1.0 are the same number and different texts, so each side has its key alone; and a failed attempt is
sampled as a negative delta even where the candidate is the baseline. -/
theorem apart_by_spelling :
    let result : Json → Json := fun id => .obj [("matching", .obj [("proposals", .arr [.obj [("id", id)]])])]
    let one := result (.int 1)
    let other := result (.float (Binary64.ofNat 1))
    let c : Comparison := ⟨0, 0, 1, 1, 0, 0, [], ["1"], ["1.0"]⟩
    let own : Comparison := ⟨0, 0, 1, 1, 0, 0, ["1"], [], []⟩
    let d : DiffRecord := ⟨"mrun_000001", "2026-03-01T12:00:00.000Z", MatcherConfig.default.cycleBounds,
      MatcherConfig.default.cycleBounds, own.metrics "v1" "v2", .none, own.selectedKeys "v1" "v2"⟩
    let failure : ErrorInfo := ⟨"matching_v2_canary_failed", "RuntimeError", "boom"⟩
    Json.same one other = true ∧ ofResults one other (.int 5) = .ok c
      ∧ Fields.get? (c.selectedKeys "v1" "v2") "only_v1" = some (.arr [.str "1"])
      ∧ Fields.get? (c.selectedKeys "v1" "v2") "only_v2" = some (.arr [.str "1.0"])
      ∧ DiffRecord.ofResults "mrun_000001" "2026-03-01T12:00:00.000Z" .default one .default one (.int 5) .none = .ok d
      ∧ RunSample.ofRun "mrun_000001" "2026-03-01T12:00:00.000Z" true (some failure) .none (some d)
        = .ok (some ⟨"mrun_000001", "2026-03-01T12:00:00.000Z", true, false, false, false⟩) := by
  intro result one other c own d failure
  have compared : ofResults one one (.int 5) = .ok own := by decide +kernel
  refine ⟨by decide +kernel, by decide +kernel, rfl, rfl, ?_, by decide +kernel⟩
  exact except_bind_eq_ok.mpr ⟨own, compared, rfl⟩

end Comparison

end CanaryGate
