import CanaryGate.Proofs.Run.EngineAnswers

/-! # What became of the candidate

A run passes the candidate over, or attempts it. The attempt fails; or it gives a matching result, which is
held back for its safety triggers or is served. Which of the four it is depends on the routing, on the
configuration and on what the engines answer, and each of them determines the whole selection. `Course`
says so once, and what is said about the result of a run goes by its cases. The result of an attempt is
what the shadow compares, under the safety triggers of the selection, whether shadowing is on or not.
-/

namespace CanaryGate

open Attempt

variable {σ : Type}

theorem not_isNull_of_matching {result : Json} (h : isMatchingResult result = true) : result.isNull = false := by
  obtain ⟨fields, _, rfl, -⟩ := isMatchingResult_iff.mp h
  rfl

namespace Selection

theorem candidateResult_of_matching {selection : Selection} {result : Json}
    (attempted : selection.attempt = some (.ok result)) (matching : isMatchingResult result = true) :
    selection.candidateResult? = some result := by
  simp [candidateResult?, attempted, EngineOutcome.result?, not_isNull_of_matching matching]

/-- The candidate's result, if there is one, is a matching result. -/
def Matching (s : Selection) : Prop :=
  ∀ result, s.candidateResult? = some result → isMatchingResult result = true

end Selection

namespace Run.Plan

variable {p : Plan σ} {w w' : World σ} {baseline : Json} {before : RollbackSnapshot} {selection : Selection}

/-- What became of the candidate, with the engines in a state, and the selection that was made of it. -/
inductive Course (p : Plan σ) (baseline : Json) (before : RollbackSnapshot) (s : σ) (selection : Selection) : Prop where
  /-- The run is not selected. -/
  | passedOver (unselected : (p.routing before).canarySelected = false) (chosen : selection = .baseline baseline)
  /-- The attempt gives no matching result. -/
  | failed (code : String) (failure : EngineFailure) (selected : (p.routing before).canarySelected = true)
      (unanswered : p.candidateAnswer? s = none)
      (chosen : selection = ⟨baseline, .v1, some (.err code failure), some (Selection.errorFallback p.configs.primary),
        .none⟩)
  /-- The safety triggers of the candidate's result call for the baseline. -/
  | heldBack (result : Json) (safety : SafetyTriggers) (reason : String)
      (selected : (p.routing before).canarySelected = true) (answered : p.candidateAnswer? s = some result)
      (weighed : SafetyTriggers.ofResult result p.configs.primary = .ok safety)
      (held : Selection.safetyFallback p.configs.primary safety = some reason)
      (chosen : selection = ⟨baseline, .v1, some (.ok result), some reason, safety⟩)
  | served (result : Json) (safety : SafetyTriggers) (selected : (p.routing before).canarySelected = true)
      (answered : p.candidateAnswer? s = some result)
      (weighed : SafetyTriggers.ofResult result p.configs.primary = .ok safety)
      (free : Selection.safetyFallback p.configs.primary safety = none)
      (chosen : selection = ⟨result, .v2, some (.ok result), none, safety⟩)

theorem course_of_selecting (h : (p.selecting baseline before).outcome w = (.ok selection, w')) :
    Course p baseline before w.engines selection := by
  obtain ⟨-, h⟩ := select_of_selecting h
  unfold Selection.select at h
  cases routed : (p.routing before).canarySelected with
  | false =>
      simp only [routed, Bool.not_false, if_true, outcome_pure] at h
      cases h
      exact .passedOver routed rfl
  | true =>
      simp only [routed, Bool.not_true, Bool.false_eq_true, if_false] at h
      obtain ⟨attempt, t, executed, lifted⟩ := bind_eq_ok.mp h
      have given := candidateAnswer?_of_execute executed
      have chosen := congrArg Prod.fst lifted
      cases attempt with
      | err code failure =>
          cases chosen
          exact .failed code failure routed given.symm rfl
      | ok result =>
          obtain ⟨safety, weighed, chosen⟩ := except_bind_eq_ok.mp chosen
          split at chosen
          · rename_i reason held
            cases chosen
            exact .heldBack result safety reason routed given.symm weighed held rfl
          · rename_i free
            cases chosen
            exact .served result safety routed given.symm weighed free rfl

namespace Course

variable {s : σ}

/-- There is a result of the candidate where a selected run was given one. -/
theorem candidateResult?_eq (course : Course p baseline before s selection) :
    selection.candidateResult? = if (p.routing before).canarySelected then p.candidateAnswer? s else none := by
  cases course with
  | passedOver unselected chosen =>
      rw [chosen, unselected]
      rfl
  | failed code failure selected unanswered chosen =>
      rw [chosen, selected, unanswered]
      rfl
  | heldBack result safety reason selected answered weighed held chosen =>
      rw [selected, answered]
      exact Selection.candidateResult_of_matching (by rw [chosen]) (matching_of_candidateAnswer? answered)
  | served result safety selected answered weighed free chosen =>
      rw [selected, answered]
      exact Selection.candidateResult_of_matching (by rw [chosen]) (matching_of_candidateAnswer? answered)

/-- The triggers of the selection are those of the candidate's result. -/
theorem weighed_candidateResult? (course : Course p baseline before s selection) :
    Shadow.safetyOf p.configs.primary selection.safety selection.candidateResult? = .ok selection.safety := by
  rw [course.candidateResult?_eq]
  cases course with
  | passedOver unselected chosen =>
      rw [unselected]
      rfl
  | failed code failure selected unanswered chosen =>
      rw [selected, unanswered]
      rfl
  | heldBack result safety reason selected answered weighed held chosen =>
      rw [selected, answered, chosen]
      exact weighed
  | served result safety selected answered weighed free chosen =>
      rw [selected, answered, chosen]
      exact weighed

theorem result_of_baseline (course : Course p baseline before s selection) (engine : selection.engine = .v1) :
    selection.result = baseline := by
  cases course with
  | passedOver unselected chosen =>
      rw [chosen]
      rfl
  | failed code failure selected unanswered chosen => rw [chosen]
  | heldBack result safety reason selected answered weighed held chosen => rw [chosen]
  | served result safety selected answered weighed free chosen =>
      rw [chosen] at engine
      contradiction

/-- A candidate that is served gave its result in the attempt. -/
theorem result_of_candidate (course : Course p baseline before s selection) (engine : selection.engine = .v2) :
    p.candidateAnswer? s = some selection.result ∧ selection.candidateResult? = some selection.result := by
  cases course with
  | passedOver unselected chosen =>
      rw [chosen] at engine
      contradiction
  | failed code failure selected unanswered chosen =>
      rw [chosen] at engine
      contradiction
  | heldBack result safety reason selected answered weighed held chosen =>
      rw [chosen] at engine
      contradiction
  | served result safety selected answered weighed free chosen =>
      rw [chosen]
      exact ⟨answered, Selection.candidateResult_of_matching rfl (matching_of_candidateAnswer? answered)⟩

theorem matching (course : Course p baseline before s selection) : selection.Matching := by
  intro result given
  rw [course.candidateResult?_eq] at given
  split at given
  · exact matching_of_candidateAnswer? given
  · contradiction

/-- What is served is the baseline or the candidate's result. -/
theorem result_cases (course : Course p baseline before s selection) :
    selection.result = baseline ∨ selection.candidateResult? = some selection.result := by
  cases engine : selection.engine with
  | v1 => exact .inl (course.result_of_baseline engine)
  | v2 => exact .inr (course.result_of_candidate engine).2

/-- An attempt that did not fail gave the result that is compared. -/
theorem candidateResult?_of_unfailed (course : Course p baseline before s selection)
    (selected : (p.routing before).canarySelected = true) (unfailed : selection.error? = none) :
    ∃ result, selection.candidateResult? = some result := by
  cases course with
  | passedOver unselected chosen =>
      rw [selected] at unselected
      contradiction
  | failed code failure selected unanswered chosen =>
      rw [chosen] at unfailed
      contradiction
  | heldBack result safety reason selected answered weighed held chosen =>
      exact ⟨result, Selection.candidateResult_of_matching (by rw [chosen]) (matching_of_candidateAnswer? answered)⟩
  | served result safety selected answered weighed free chosen =>
      exact ⟨result, Selection.candidateResult_of_matching (by rw [chosen]) (matching_of_candidateAnswer? answered)⟩

end Course

end Run.Plan

namespace Shadow

/-- What the shadow sets beside the baseline is the candidate's result where there is one. If there is none it may
come from an attempt of the shadow's own, and is weighed as the candidate's result would have been. -/
theorem shown_of_run {scene : Scene} {canary : CanaryConfig} {primary : PrimaryConfig} {routing : RoutingDecision}
    {selection : Selection} {candidate : Option (Engine σ)} {request : EngineRequest} {w w' : World σ}
    {o : ShadowOutcome} (h : (run scene canary primary routing selection candidate request).outcome w = (.ok o, w')) :
    ∃ shown : Option Json, (∀ result, selection.candidateResult? = some result → shown = some result)
      ∧ (shown.mapM fun result => scene.compare result o.safety) = .ok o.diff
      ∧ (safetyOf primary selection.safety selection.candidateResult? = .ok selection.safety →
        safetyOf primary selection.safety shown = .ok o.safety) := by
  rw [run_eq] at h
  split at h
  · obtain ⟨diff, _, lifted, returned⟩ := bind_eq_ok.mp h
    have compared := congrArg Prod.fst lifted
    cases returned
    exact ⟨selection.candidateResult?, fun _ found => found, compared, id⟩
  · split at h
    · rename_i skipped
      have missing : selection.candidateResult? = none := Option.isNone_iff_eq_none.mp (Bool.and_eq_true_iff.mp skipped).2
      cases h
      exact ⟨none, fun result found => missing.symm.trans found, rfl, fun _ => rfl⟩
    · obtain ⟨attempt, _, -, h⟩ := bind_eq_ok.mp h
      obtain ⟨safety, _, weighed, h⟩ := bind_eq_ok.mp h
      obtain ⟨diff, _, lifted, h⟩ := bind_eq_ok.mp h
      obtain ⟨_, _, -, returned⟩ := bind_eq_ok.mp h
      have safe := congrArg Prod.fst weighed
      have compared := congrArg Prod.fst lifted
      cases returned
      exact ⟨resultOf selection attempt, fun result found => by simp [resultOf, found], compared, fun _ => safe⟩

/-- The candidate's result is compared as it was chosen, also where the shadow takes another look at it. -/
theorem compared_of_run {scene : Scene} {canary : CanaryConfig} {primary : PrimaryConfig} {routing : RoutingDecision}
    {selection : Selection} {candidate : Option (Engine σ)} {request : EngineRequest} {w w' : World σ}
    {o : ShadowOutcome} {result : Json} (served : selection.candidateResult? = some result)
    (safe : SafetyTriggers.ofResult result primary = .ok selection.safety)
    (h : (run scene canary primary routing selection candidate request).outcome w = (.ok o, w')) :
    o.safety = selection.safety
      ∧ ∃ diff, scene.compare result selection.safety = .ok diff ∧ o.diff = some diff := by
  obtain ⟨shown, given, compared, weighed⟩ := shown_of_run h
  obtain rfl := given result served
  rw [served] at weighed
  have same : selection.safety = o.safety := Except.ok.inj (safe.symm.trans (weighed safe))
  rw [← same] at compared
  exact ⟨same.symm, optionMapM_some_eq_ok.mp compared⟩

end Shadow

namespace Run.Returned

variable {p : Plan σ} {w w' : World σ} {result : RunResult}

theorem baseline_eq (r : Returned p w result w') : p.baselineAnswer? w.engines = some r.baseline :=
  (Plan.engines_of_opening r.opening).1

theorem course (r : Returned p w result w') :
    Plan.Course p r.baseline r.trial.before (p.afterBaseline w.engines) r.trial.selection := by
  have settled : r.trying.settled.engines = r.opened.engines :=
    Plan.leaves_engines_resetting.of_eq r.trying.resetting
  rw [← (Plan.engines_of_opening r.opening).2, ← settled]
  exact Plan.course_of_selecting r.trying.selecting

theorem canarySelected_eq (r : Returned p w result w') :
    result.decision.canarySelected = (p.routing r.trial.before).canarySelected := by
  obtain ⟨metrics, engine, -, -, decided⟩ := DecisionInput.record_eq_ok r.deciding
  rw [decided]
  rfl

theorem decidedEngine_eq (r : Returned p w result w') : result.decision.primaryEngine = r.trial.selection.engine := by
  obtain ⟨metrics, engine, -, named, decided⟩ := DecisionInput.record_eq_ok r.deciding
  have checked : EngineName.check r.trial.selection.engine.text = .ok engine := named
  rw [EngineName.check_text] at checked
  rw [decided]
  exact (Except.ok.inj checked).symm

/-- The record names the reason of the selection; a selection that serves the candidate, or never tried it, has none. -/
theorem fallbackReasonCode_eq (r : Returned p w result w') :
    result.decision.fallbackReasonCode = r.trial.selection.fallbackReason := by
  obtain ⟨metrics, engine, -, -, decided⟩ := DecisionInput.record_eq_ok r.deciding
  have told : result.decision.fallbackReasonCode
      = if (p.routing r.trial.before).canarySelected && r.trial.selection.engine.text != "v2" then
        r.trial.selection.fallbackReason else none := by
    rw [decided]
    rfl
  rw [told]
  cases r.course with
  | passedOver unselected chosen =>
      rw [unselected, chosen]
      rfl
  | failed code failure selected unanswered chosen =>
      rw [selected, chosen]
      rfl
  | heldBack result safety reason selected answered weighed held chosen =>
      rw [selected, chosen]
      rfl
  | served result safety selected answered weighed free chosen =>
      rw [selected, chosen]
      rfl

/-- A comparison was made of one result of the candidate, weighed as every one of them is; it is the attempt's
where that gave one. -/
theorem diff_eq (r : Returned p w result w') {diff : DiffRecord} (found : r.trial.shadow.diff = some diff) :
    ∃ shown, (∀ given, r.trial.selection.candidateResult? = some given → given = shown)
      ∧ SafetyTriggers.ofResult shown p.configs.primary = .ok r.trial.shadow.safety
      ∧ (p.scene r.runId r.baseline).compare shown r.trial.shadow.safety = .ok diff := by
  obtain ⟨shown, attempted, compared, weighed⟩ := Shadow.shown_of_run r.trying.shadowing
  have weighed := weighed r.course.weighed_candidateResult?
  rw [found] at compared
  cases shown with
  | none => cases compared
  | some shown =>
      obtain ⟨made, here, same⟩ := optionMapM_some_eq_ok.mp compared
      cases same
      exact ⟨shown, fun given attempt => (Option.some.inj (attempted given attempt)).symm, weighed, here⟩

/-- The result of an attempt is always compared, under the triggers that it was selected by. -/
theorem compared_of_candidateResult? (r : Returned p w result w') {given : Json}
    (attempted : r.trial.selection.candidateResult? = some given) :
    r.trial.shadow.safety = r.trial.selection.safety
      ∧ ∃ diff, (p.scene r.runId r.baseline).compare given r.trial.selection.safety = .ok diff
        ∧ r.trial.shadow.diff = some diff := by
  have weighed := r.course.weighed_candidateResult?
  rw [attempted] at weighed
  exact Shadow.compared_of_run attempted weighed r.trying.shadowing

end Run.Returned

end CanaryGate
