import CanaryGate.Proofs.Run.Bearable
import CanaryGate.Proofs.Run.Candidate

/-! # What is served, and why

The engine that a run names, the proposals that it gives back, the code under which it fell back and the
lists that its comparisons are made of are each put together in another stage. All of them can be told from
the routing, the configuration and what the engines answer: the cases of the run's course are gone through
once for each.
-/

namespace CanaryGate

open Attempt

variable {σ : Type}

namespace PrimaryConfig

variable (c : PrimaryConfig) (signals : SafetySignals)

/-- The candidate counts as timed out, and that calls for the baseline. -/
def timesOut : Bool := (signals.timedOut || c.forceTimeout) && c.fallbackOnTimeout

/-- The candidate counts as limited, and that calls for the baseline. -/
def isLimited : Bool := (signals.limited || c.forceLimited) && c.fallbackOnLimited

/-- The candidate is the primary engine, and its safety calls for the baseline. -/
def holdsBack : Bool := c.enabled && (c.timesOut signals || c.isLimited signals)

end PrimaryConfig

theorem Selection.safetyFallback_eq {result : Json} (matching : isMatchingResult result = true)
    {primary : PrimaryConfig} {signals : SafetySignals} (found : safetySignals result = .ok signals)
    {safety : SafetyTriggers} (weighed : SafetyTriggers.ofResult result primary = .ok safety) :
    safetyFallback primary safety = if primary.holdsBack signals then
      some (if primary.timesOut signals then "v2_timeout_safety" else "v2_limited_safety") else none := by
  unfold SafetyTriggers.ofResult at weighed
  unfold safetyFallback PrimaryConfig.holdsBack
  cases on : primary.enabled with
  | false => rfl
  | true =>
      simp only [on, not_isNull_of_matching matching, found, Bool.not_true, Bool.or_false] at weighed
      cases weighed
      show (if primary.timesOut signals then some "v2_timeout_safety" else
        if primary.isLimited signals then some "v2_limited_safety" else none) = _
      cases primary.timesOut signals with
      | true => rfl
      | false =>
          cases primary.isLimited signals with
          | true => rfl
          | false => rfl

theorem Selection.safetyFallback_eq_none {result : Json} (matching : isMatchingResult result = true)
    {primary : PrimaryConfig} {signals : SafetySignals} (found : safetySignals result = .ok signals)
    {safety : SafetyTriggers} (weighed : SafetyTriggers.ofResult result primary = .ok safety) :
    safetyFallback primary safety = none ↔ primary.holdsBack signals = false := by
  rw [safetyFallback_eq matching found weighed]
  cases primary.holdsBack signals with
  | true => simp
  | false => simp

namespace Run.Plan.Course

variable {p : Plan σ} {baseline : Json} {before : RollbackSnapshot} {s : σ} {selection : Selection}

/-- The candidate is served if it gave a result to a selected run, and nothing calls for the baseline. -/
theorem engine_iff (course : Course p baseline before s selection) : selection.engine = .v2 ↔
    (p.routing before).canarySelected = true ∧ ∃ answer signals, p.candidateAnswer? s = some answer
      ∧ safetySignals answer = .ok signals ∧ p.configs.primary.holdsBack signals = false := by
  cases course with
  | passedOver unselected chosen =>
      rw [chosen, unselected]
      simp [Selection.baseline]
  | failed code failure selected unanswered chosen =>
      rw [chosen, unanswered]
      simp
  | heldBack result safety reason selected answered weighed held chosen =>
      have matching := matching_of_candidateAnswer? answered
      rw [chosen]
      refine ⟨nofun, ?_⟩
      rintro ⟨-, answer, signals, given, found, free⟩
      obtain rfl : result = answer := Option.some.inj (answered.symm.trans given)
      rw [(Selection.safetyFallback_eq_none matching found weighed).mpr free] at held
      contradiction
  | served result safety selected answered weighed free chosen =>
      have matching := matching_of_candidateAnswer? answered
      obtain ⟨signals, found⟩ := safetySignals_of_matching matching
      rw [chosen]
      exact ⟨fun _ => ⟨selected, result, signals, answered, found,
        (Selection.safetyFallback_eq_none matching found weighed).mp free⟩, fun _ => rfl⟩

/-- An attempt that gave no result falls back under the code of its rollout. -/
theorem fallbackReason_of_unanswered (course : Course p baseline before s selection)
    (selected : (p.routing before).canarySelected = true) (unanswered : p.candidateAnswer? s = none) :
    selection.fallbackReason = some (if p.configs.primary.enabled then "v2_error" else "canary_error") := by
  cases course with
  | passedOver unselected chosen =>
      rw [selected] at unselected
      contradiction
  | failed code failure selected unanswered chosen =>
      rw [chosen]
      rfl
  | heldBack result safety reason selected answered weighed held chosen =>
      rw [unanswered] at answered
      contradiction
  | served result safety selected answered weighed free chosen =>
      rw [unanswered] at answered
      contradiction

/-- A result that is not served falls back for its safety, and a timeout comes first. -/
theorem fallbackReason_of_answered (course : Course p baseline before s selection)
    (selected : (p.routing before).canarySelected = true) {answer : Json} (given : p.candidateAnswer? s = some answer)
    {signals : SafetySignals} (found : safetySignals answer = .ok signals) (unserved : selection.engine = .v1) :
    selection.fallbackReason
      = some (if p.configs.primary.timesOut signals then "v2_timeout_safety" else "v2_limited_safety") := by
  cases course with
  | passedOver unselected chosen =>
      rw [selected] at unselected
      contradiction
  | failed code failure selected unanswered chosen =>
      rw [unanswered] at given
      contradiction
  | heldBack result safety reason selected answered weighed held chosen =>
      obtain rfl : result = answer := Option.some.inj (answered.symm.trans given)
      rw [Selection.safetyFallback_eq (matching_of_candidateAnswer? answered) found weighed] at held
      split at held
      · rw [chosen]
        exact held.symm
      · contradiction
  | served result safety selected answered weighed free chosen =>
      rw [chosen] at unserved
      contradiction

/-- There is a reason exactly where a selected run is served by the baseline. -/
theorem fallbackReason_isSome (course : Course p baseline before s selection) : selection.fallbackReason.isSome = true ↔
    (p.routing before).canarySelected = true ∧ selection.engine = .v1 := by
  cases course with
  | passedOver unselected chosen =>
      rw [chosen, unselected]
      simp [Selection.baseline]
  | failed code failure selected unanswered chosen =>
      rw [chosen, selected]
      simp
  | heldBack result safety reason selected answered weighed held chosen =>
      rw [chosen, selected]
      simp
  | served result safety selected answered weighed free chosen =>
      rw [chosen]
      simp

end Run.Plan.Course

/-! The lists that comparisons are made of. -/

/-- The figures and the keys are those of a comparison of these proposals, under the labels of the two sides. -/
def Compares (left right : Json) (first second : List Fields) (labels : String × String) (metrics keys : Fields) : Prop :=
  ∃ c, Comparison.ofSelected left right first second = .ok c ∧ metrics = c.metrics labels.1 labels.2
    ∧ keys = c.selectedKeys labels.1 labels.2

theorem compares_of_compare {scene : Shadow.Scene} {limit : Int} (bounded : scene.limit = .int limit) {result : Json}
    {safety : SafetyTriggers} {diff : DiffRecord} (h : scene.compare result safety = .ok diff) :
    ∃ base cand, selectedProposals scene.baselineResult limit = .ok base ∧ selectedProposals result limit = .ok cand
      ∧ Compares scene.baselineResult result base cand ("v1", "v2") diff.metrics diff.selectedKeys := by
  obtain ⟨c, compared, figures, keys, -⟩ := Shadow.compare_eq_ok h
  rw [bounded] at compared
  obtain ⟨base, cand, first, second, selected⟩ := Comparison.selected_of_ofResults compared
  exact ⟨base, cand, first, second, c, selected, figures, keys⟩

namespace Run

theorem Plan.compares_of_crossing {p : Plan σ} {runId : String} {selection : Selection} {w w' : World σ}
    {record : AltShadowRecord} (h : (p.crossing runId selection).outcome w = (.ok (some (.diff record)), w')) :
    ∃ other served others, selectedProposals selection.result p.request.maxProposals = .ok served
      ∧ Compares selection.result other served others ("primary", "alt") record.metrics record.selectedKeys := by
  rw [crossing_eq] at h
  split at h
  · cases h
  · obtain ⟨outcome, t, -, h⟩ := bind_eq_ok.mp h
    obtain ⟨made, _, lifted, h⟩ := bind_eq_ok.mp h
    have recorded := congrArg Prod.fst lifted
    obtain ⟨_, _, -, h⟩ := bind_eq_ok.mp h
    obtain ⟨_, _, -, returned⟩ := bind_eq_ok.mp h
    cases returned
    cases outcome with
    | err code failure =>
        obtain ⟨_, -, failed⟩ := except_bind_eq_ok.mp recorded
        cases failed
    | ok other =>
        obtain ⟨c, compared, recorded⟩ := except_bind_eq_ok.mp recorded
        obtain ⟨_, -, recorded⟩ := except_bind_eq_ok.mp recorded
        obtain ⟨_, -, recorded⟩ := except_bind_eq_ok.mp recorded
        cases recorded
        obtain ⟨served, others, first, -, selected⟩ := Comparison.selected_of_ofResults compared
        exact ⟨other, served, others, first, c, selected, rfl, rfl⟩

/-- The matching result of an engine that runs serve, with the engines as the run finds them. -/
def Plan.answerOf? (p : Plan σ) (s : σ) : EngineName → Option Json
  | .v1 => p.baselineAnswer? s
  | .v2 => p.candidateAnswer? (p.afterBaseline s)

variable {p : Plan σ} {w w' : World σ} {result : RunResult}

/-- Every comparison that the run made sets the proposals that it gave back beside those of another result. -/
structure ComparesServed (r : Returned p w result w') (served : Json) : Prop where
  shadow : ∀ diff, r.trial.shadow.diff = some diff → ∃ other others, match result.primaryEngine with
    | .v1 => Compares served other result.proposals others ("v1", "v2") diff.metrics diff.selectedKeys
    | .v2 => Compares other served others result.proposals ("v1", "v2") diff.metrics diff.selectedKeys
  /-- A candidate that is served was compared. -/
  candidate : result.primaryEngine = .v2 → ∃ diff, r.trial.shadow.diff = some diff
  alternate : ∀ record, r.trying.alternate = some (.diff record) → ∃ other others,
    Compares served other result.proposals others ("primary", "alt") record.metrics record.selectedKeys

/-- The engine, the proposals and the fallback of a run, told by its routing, its configuration and what the engines
answer. -/
structure Justified (r : Returned p w result w') : Prop where
  engine_iff : result.primaryEngine = .v2 ↔ result.decision.canarySelected = true ∧ ∃ engine answer signals,
    p.engines.candidate = some engine ∧ p.forced = false
      ∧ engine.answer? (p.ask p.configs.candidateMatcher) (p.afterBaseline w.engines) = some answer
      ∧ safetySignals answer = .ok signals ∧ p.configs.primary.holdsBack signals = false
  recorded : result.decision.primaryEngine = result.primaryEngine
  proposals : ∃ served, p.answerOf? w.engines result.primaryEngine = some served
    ∧ selectedProposals served p.request.maxProposals = .ok result.proposals ∧ ComparesServed r served
  /-- The attempt failed. -/
  failed : result.decision.canarySelected = true → p.candidateAnswer? (p.afterBaseline w.engines) = none →
    result.decision.fallbackReasonCode = some (if p.configs.primary.enabled then "v2_error" else "canary_error")
  /-- The attempt gave a result that was not served. -/
  heldBack : result.decision.canarySelected = true → result.primaryEngine = .v1 →
    ∀ answer, p.candidateAnswer? (p.afterBaseline w.engines) = some answer → ∃ signals,
      safetySignals answer = .ok signals ∧ result.decision.fallbackReasonCode
        = some (if p.configs.primary.timesOut signals then "v2_timeout_safety" else "v2_limited_safety")
  otherwise : ¬ (result.decision.canarySelected = true ∧ result.primaryEngine = .v1) →
    result.decision.fallbackReasonCode = none

theorem Plan.matching_of_answerOf? {s : σ} {engine : EngineName} {answer : Json}
    (h : p.answerOf? s engine = some answer) : isMatchingResult answer = true := by
  cases engine with
  | v1 =>
      obtain ⟨_, -, answered⟩ := Option.bind_eq_some_iff.mp (h : p.baselineAnswer? s = some answer)
      exact Engine.matching_of_answer? answered
  | v2 => exact matching_of_candidateAnswer? (h : p.candidateAnswer? (p.afterBaseline s) = some answer)

namespace Returned

theorem primaryEngine_eq (r : Returned p w result w') : result.primaryEngine = r.trial.selection.engine :=
  r.engine_eq.trans r.decidedEngine_eq

theorem answerOf?_eq (r : Returned p w result w') :
    p.answerOf? w.engines result.primaryEngine = some r.trial.selection.result := by
  rw [r.primaryEngine_eq]
  cases engine : r.trial.selection.engine with
  | v1 =>
      rw [r.course.result_of_baseline engine]
      exact r.baseline_eq
  | v2 => exact (r.course.result_of_candidate engine).1

/-- What is given back are the proposals that a comparison selects. -/
theorem selectedProposals_eq (r : Returned p w result w') :
    selectedProposals r.trial.selection.result p.request.maxProposals = .ok result.proposals := by
  rw [← servedProposals_of_matching (Plan.matching_of_answerOf? r.answerOf?_eq)]
  exact r.proposing

theorem comparesServed (r : Returned p w result w') : ComparesServed r r.trial.selection.result where
  shadow := by
    intro diff found
    obtain ⟨shown, attempted, -, compared⟩ := r.diff_eq found
    obtain ⟨base, cand, first, second, compares⟩ := compares_of_compare rfl compared
    have selected := r.selectedProposals_eq
    rw [r.primaryEngine_eq]
    cases engine : r.trial.selection.engine with
    | v1 =>
        rw [r.course.result_of_baseline engine] at selected ⊢
        obtain rfl : base = result.proposals := Except.ok.inj (first.symm.trans selected)
        exact ⟨shown, cand, compares⟩
    | v2 =>
        obtain rfl := attempted _ (r.course.result_of_candidate engine).2
        obtain rfl : cand = result.proposals := Except.ok.inj (second.symm.trans selected)
        exact ⟨r.baseline, base, compares⟩
  candidate := by
    rw [r.primaryEngine_eq]
    intro engine
    obtain ⟨-, diff, -, found⟩ := r.compared_of_candidateResult? (r.course.result_of_candidate engine).2
    exact ⟨diff, found⟩
  alternate := by
    intro record found
    have crossing := r.trying.crossing
    rw [found] at crossing
    obtain ⟨other, served, others, first, compares⟩ := Plan.compares_of_crossing crossing
    obtain rfl : served = result.proposals := Except.ok.inj (first.symm.trans r.selectedProposals_eq)
    exact ⟨other, others, compares⟩

/-- A run that returned is justified. -/
theorem justified (r : Returned p w result w') : Justified r where
  engine_iff := by
    rw [r.primaryEngine_eq, r.canarySelected_eq, r.course.engine_iff]
    refine and_congr_right fun _ => ?_
    constructor
    · rintro ⟨answer, signals, given, found, free⟩
      obtain ⟨engine, configured, unforced, answered⟩ := Plan.candidateAnswer?_eq_some.mp given
      exact ⟨engine, answer, signals, configured, unforced, answered, found, free⟩
    · rintro ⟨engine, answer, signals, configured, unforced, answered, found, free⟩
      exact ⟨answer, signals, Plan.candidateAnswer?_eq_some.mpr ⟨engine, configured, unforced, answered⟩, found, free⟩
  recorded := r.engine_eq.symm
  proposals := ⟨_, r.answerOf?_eq, r.selectedProposals_eq, r.comparesServed⟩
  failed := by
    rw [r.canarySelected_eq, r.fallbackReasonCode_eq]
    exact r.course.fallbackReason_of_unanswered
  heldBack := by
    rw [r.canarySelected_eq, r.primaryEngine_eq, r.fallbackReasonCode_eq]
    intro selected unserved answer given
    obtain ⟨signals, found⟩ := safetySignals_of_matching (Plan.matching_of_candidateAnswer? given)
    exact ⟨signals, found, r.course.fallbackReason_of_answered selected given found unserved⟩
  otherwise := by
    rw [r.canarySelected_eq, r.primaryEngine_eq, r.fallbackReasonCode_eq, ← r.course.fallbackReason_isSome]
    exact Option.not_isSome_iff_eq_none.mp

end Returned

/-- Whatever the engines answer, the result of a run that returns is justified by it. -/
theorem returned_justified (h : p.attempt.outcome w = (.ok result, w')) :
    ∃ r : Returned p w result w', Justified r := by
  obtain ⟨r⟩ := Plan.returned_of_eq h
  exact ⟨r, r.justified⟩

/-- A primary candidate that timed out is compared and held back; the run serves the baseline's proposal. -/
theorem returned_justified_of_timeout :
    let w : World Unit := ⟨.inMemory [], .zero, [], ()⟩
    let baseline : Json := .obj [("matching", .obj [("proposals", .arr [.obj [("id", .str "a")]])])]
    let timedOut : Json := .obj [("matching", .obj [("stats", .obj [("cycle_enumeration_timed_out", .bool true)]),
      ("proposals", .arr [.obj [("id", .str "b")]])])]
    let p : Plan Unit := ⟨⟨some ⟨"v1", fun _ s => (.ok baseline, s)⟩, some ⟨"v2", fun _ s => (.ok timedOut, s)⟩, none⟩,
      ⟨2026, 3, 1, 12, 0, 0, 0⟩, ⟨.unknown, none, some "2026-03-01T12:00:00.000Z", [], [], [], 50, none⟩,
      ⟨.default, { PrimaryConfig.default with enabled := true }, .default, .default, .default⟩, none⟩
    ∃ result w', p.attempt.outcome w = (.ok result, w') ∧ (∃ r : Returned p w result w', Justified r)
      ∧ result.primaryEngine = .v1 ∧ result.decision.fallbackReasonCode = some "v2_timeout_safety" := by
  intro w baseline timedOut p
  have returns : Finishes p.attempt w := finishes_iff_isOk.mpr (by decide +kernel)
  obtain ⟨result, w', ran⟩ := returns.eq
  have told : (p.attempt.outcome w).1.toOption.map (fun r => (r.primaryEngine, r.decision.fallbackReasonCode))
      = some (.v1, some "v2_timeout_safety") := by decide +kernel
  rw [ran] at told
  obtain ⟨served, code⟩ := Prod.mk.inj (Option.some.inj told)
  exact ⟨result, w', ran, returned_justified ran, served, code⟩

end Run

end CanaryGate
