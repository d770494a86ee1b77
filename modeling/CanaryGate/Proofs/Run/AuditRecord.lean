import CanaryGate.Proofs.Decision.Coherence
import CanaryGate.Proofs.Run.Served
import CanaryGate.Proofs.Run.Serving

/-! # Audit records are coherent

Routing, selection, shadow, sample and latch each look at a run on their own, and its audit record is put
together from what they say. The parts never contradict each other. For the candidate this goes by the
cases of the run's course, for the figures by whether a comparison was made; what the record says of the
latch rests on the states that calls can reach.
-/

namespace CanaryGate

open Attempt

variable {σ : Type}

namespace Selection

theorem reason_of_safetyFallback {primary : PrimaryConfig} {safety : SafetyTriggers} {reason : String}
    (h : safetyFallback primary safety = some reason) :
    reason = "v2_timeout_safety" ∨ reason = "v2_limited_safety" := by
  unfold safetyFallback at h
  split at h
  · contradiction
  · split at h
    · cases h
      exact .inl rfl
    · split at h
      · cases h
        exact .inr rfl
      · contradiction

theorem errorFallback_cases (primary : PrimaryConfig) :
    errorFallback primary = "v2_error" ∨ errorFallback primary = "canary_error" := by
  unfold errorFallback
  split
  · exact .inl rfl
  · exact .inr rfl

end Selection

namespace Run.Plan.Course

variable {p : Plan σ} {baseline : Json} {before : RollbackSnapshot} {s : σ} {selection : Selection}

/-- The codes of failed attempts are not those of results that were held back. -/
theorem error?_isSome (course : Course p baseline before s selection) : selection.error?.isSome = true ↔
    selection.fallbackReason = some "v2_error" ∨ selection.fallbackReason = some "canary_error" := by
  cases course with
  | passedOver unselected chosen =>
      rw [chosen]
      simp [Selection.baseline, Selection.error?]
  | failed code failure selected unanswered chosen =>
      rw [chosen]
      simpa [Selection.error?, EngineOutcome.errorInfo?] using Selection.errorFallback_cases p.configs.primary
  | heldBack result safety reason selected answered weighed held chosen =>
      rw [chosen]
      rcases Selection.reason_of_safetyFallback held with rfl | rfl
      · simp [Selection.error?, EngineOutcome.errorInfo?]
      · simp [Selection.error?, EngineOutcome.errorInfo?]
  | served result safety selected answered weighed free chosen =>
      rw [chosen]
      simp [Selection.error?, EngineOutcome.errorInfo?]

theorem selected_of_error? (course : Course p baseline before s selection) (failed : selection.error?.isSome = true) :
    (p.routing before).canarySelected = true := by
  refine (course.fallbackReason_isSome.mp ?_).1
  rcases course.error?_isSome.mp failed with code | code
  · rw [code]
    rfl
  · rw [code]
    rfl

end Run.Plan.Course

namespace Run.Returned

open DecisionRecord

variable {p : Plan σ} {w w' : World σ} {result : RunResult}

theorem v2_eq (r : Returned p w result w') :
    result.decision.v2 = ⟨(p.routing r.trial.before).canarySelected, r.trial.selection.error?⟩ := by
  obtain ⟨metrics, _, -, -, decided⟩ := DecisionInput.record_eq_ok r.deciding
  rw [decided]
  rfl

theorem routedToV2_iff (r : Returned p w result w') :
    result.decision.routedToV2 = true ↔ r.trial.selection.engine = .v2 := by
  obtain ⟨metrics, _, -, -, decided⟩ := DecisionInput.record_eq_ok r.deciding
  rw [decided]
  exact EngineName.text_eq_v2

theorem unrouted_iff (r : Returned p w result w') :
    result.decision.routedToV2 = false ↔ r.trial.selection.engine = .v1 := by
  rw [← Bool.not_eq_true, r.routedToV2_iff]
  cases r.trial.selection.engine with
  | v1 => simp
  | v2 => simp

theorem candidateCoherent (r : Returned p w result w') : CandidateCoherent result.decision := by
  have course := r.course
  obtain ⟨metrics, _, -, -, decided⟩ := DecisionInput.record_eq_ok r.deciding
  have skipped : result.decision.skippedReason = (p.routing r.trial.before).skippedReason := by
    rw [decided]
    rfl
  have fell : result.decision.fallbackToV1 = (result.decision.canarySelected && !result.decision.routedToV2) := by
    rw [decided]
    rfl
  have fallback : result.decision.fallbackToV1 = true ↔
      result.decision.canarySelected = true ∧ result.decision.routedToV2 = false := by
    rw [fell]
    simp
  exact {
    unskipped_iff := by
      have unskipped : (p.routing r.trial.before).canarySelected = (p.routing r.trial.before).skippedReason.isNone :=
        RoutingDecision.canarySelected_placed _ _ _ _
      rw [r.canarySelected_eq, skipped, unskipped]
      exact Option.isNone_iff_eq_none
    attempted_iff := by rw [r.v2_eq, r.canarySelected_eq]
    routed_iff := by rw [r.routedToV2_iff, r.decidedEngine_eq]
    selected_of_routed := by
      rw [r.routedToV2_iff, r.canarySelected_eq, course.engine_iff]
      exact fun served => served.1
    fallback_iff := fallback
    code_iff := by
      rw [fallback, r.fallbackReasonCode_eq, course.fallbackReason_isSome, r.canarySelected_eq, r.unrouted_iff]
    error_iff := by
      rw [r.v2_eq, r.fallbackReasonCode_eq]
      exact course.error?_isSome }

/-- A sample that tells of no failure tells what the comparison of the run found. -/
theorem measured (r : Returned p w result w') {sample : RunSample} (given : r.sample = some sample)
    (unfailed : sample.error = false) : ∃ diff c, r.trial.shadow.diff = some diff
      ∧ diff.metrics = Comparison.metrics c "v1" "v2" ∧ sample.timeout = diff.safety.timeoutReached
      ∧ sample.limited = diff.safety.maxCyclesReached ∧ (sample.nonNegativeDelta = true ↔ 0 ≤ c.scoreDelta) := by
  rcases RunSample.ofRun_eq_ok r.sampling with ⟨-, none⟩ | ⟨selected, delta, read, made⟩
  · rw [given] at none
    contradiction
  · rw [given] at made
    obtain rfl := Option.some.inj made
    have clean : r.trial.selection.error?.isSome = false := unfailed
    obtain ⟨shown, attempted⟩ := r.course.candidateResult?_of_unfailed selected (Option.isSome_eq_false_iff.mp clean |> Option.isNone_iff_eq_none.mp)
    obtain ⟨safety, diff, compared, found⟩ := r.compared_of_candidateResult? attempted
    obtain ⟨c, -, figures, -, triggers⟩ := Shadow.compare_eq_ok compared
    have read := read diff found
    rw [figures, c.get_scoreDelta, Json.toInteger_orElse_int] at read
    obtain rfl : c.scoreDelta = delta := Except.ok.inj read
    refine ⟨diff, c, found, figures, ?_, ?_, ?_⟩
    · simp [clean, triggers, safety]
    · simp [clean, triggers, safety]
    · simp [clean]

/-- The figures of a run that compared nothing. -/
theorem metrics_of_uncompared (r : Returned p w result w') (missing : r.trial.shadow.diff = none) :
    ∃ cycles primary, candidateCycles r.baseline = .ok cycles ∧ candidateCycles r.trial.selection.result = .ok primary
      ∧ result.decision.metrics = ⟨cycles, none, primary, none, none, none⟩ := by
  obtain ⟨metrics, _, made, -, decided⟩ := DecisionInput.record_eq_ok r.deciding
  have told : result.decision.metrics = metrics := by rw [decided]
  rw [told]
  exact DecisionInput.metrics_of_none (d := p.input _ _ _ _ _) missing made

/-- The figures of a run that made a comparison. -/
theorem metrics_of_compared (r : Returned p w result w') {diff : DiffRecord} {c : Comparison}
    (found : r.trial.shadow.diff = some diff) (figures : diff.metrics = c.metrics "v1" "v2") : ∃ primary,
    candidateCycles r.trial.selection.result = .ok primary
      ∧ result.decision.metrics = ⟨c.baselineCycles, some c.candidateCycles, primary, some c.scoreDelta,
        some diff.safety.timeoutReached, some diff.safety.maxCyclesReached⟩ := by
  obtain ⟨metrics, _, made, -, decided⟩ := DecisionInput.record_eq_ok r.deciding
  have told : result.decision.metrics = metrics := by rw [decided]
  rw [told]
  exact DecisionInput.metrics_of_some (d := p.input _ _ _ _ _) found figures made

/-- What was compared with the baseline, and how it was weighed. -/
theorem comparison_of_diff (r : Returned p w result w') {diff : DiffRecord} (found : r.trial.shadow.diff = some diff) :
    ∃ (shown : Json) (c : Comparison), (∀ given, r.trial.selection.candidateResult? = some given → given = shown)
      ∧ diff.metrics = c.metrics "v1" "v2" ∧ candidateCycles r.baseline = .ok c.baselineCycles
      ∧ candidateCycles shown = .ok c.candidateCycles
      ∧ SafetyTriggers.ofResult shown p.configs.primary = .ok diff.safety := by
  obtain ⟨shown, attempted, weighed, compared⟩ := r.diff_eq found
  obtain ⟨c, measured, figures, -, triggers⟩ := Shadow.compare_eq_ok compared
  obtain ⟨base, cand, -, -, selected⟩ := Comparison.selected_of_ofResults measured
  have ⟨baseline, candidate⟩ := Comparison.cycles_of_ofSelected selected
  rw [← triggers] at weighed
  exact ⟨shown, c, attempted, figures, baseline, candidate, weighed⟩

theorem sample_eq (r : Returned p w result w') : result.decision.sample = r.sample
    ∧ result.decision.runId = r.runId ∧ result.decision.recordedAt = p.recordedAt := by
  obtain ⟨metrics, _, -, -, decided⟩ := DecisionInput.record_eq_ok r.deciding
  rw [decided]
  exact ⟨rfl, rfl, rfl⟩

theorem sampleCoherent (r : Returned p w result w') : SampleCoherent result.decision := by
  obtain ⟨sampled, runId, recordedAt⟩ := r.sample_eq
  have measured : ∀ sample, r.sample = some sample → sample.error = false →
      result.decision.metrics.timeoutReached = some sample.timeout
        ∧ result.decision.metrics.limitedReached = some sample.limited
        ∧ ∃ delta, result.decision.metrics.scoreDelta = some delta ∧ (sample.nonNegativeDelta = true ↔ 0 ≤ delta) := by
    intro sample given unfailed
    obtain ⟨diff, c, found, figures, timeout, limited, nonNegative⟩ := r.measured given unfailed
    obtain ⟨_, -, told⟩ := r.metrics_of_compared found figures
    rw [told, timeout, limited]
    exact ⟨rfl, rfl, c.scoreDelta, rfl, nonNegative⟩
  rcases RunSample.ofRun_eq_ok r.sampling with ⟨unselected, unsampled⟩ | ⟨selected, delta, -, made⟩
  · have clean : r.trial.selection.error?.isSome ≠ true := by
      intro failed
      rw [r.course.selected_of_error? failed] at unselected
      contradiction
    exact {
      selected_iff := by simp [sampled, unsampled, r.canarySelected_eq, unselected]
      named := by simp [sampled, unsampled]
      error_iff := by simpa [sampled, unsampled, r.v2_eq] using clean
      errored := by simp [sampled, unsampled]
      measured := by rwa [sampled] }
  · exact {
      selected_iff := by simp [sampled, made, r.canarySelected_eq, selected]
      named := by
        rw [sampled, made, runId, recordedAt]
        rintro sample ⟨⟩
        exact ⟨rfl, rfl⟩
      error_iff := by simp [sampled, made, r.v2_eq]
      errored := by
        rw [sampled, made]
        rintro sample ⟨⟩ failed
        have failed : r.trial.selection.error?.isSome = true := failed
        simp [failed]
      measured := by rwa [sampled] }

theorem mode_eq (r : Returned p w result w') :
    result.decision.primaryEnabled = p.configs.primary.enabled
      ∧ result.decision.mode = (if p.configs.primary.enabled then .primary else .canary)
      ∧ result.decision.rollbackResetApplied = p.resets := by
  obtain ⟨metrics, _, -, -, decided⟩ := DecisionInput.record_eq_ok r.deciding
  rw [decided]
  exact ⟨rfl, rfl, rfl⟩

theorem figuresCoherent (r : Returned p w result w') : FiguresCoherent result.decision := by
  cases found : r.trial.shadow.diff with
  | none =>
      obtain ⟨cycles, primary, counted, served, told⟩ := r.metrics_of_uncompared found
      exact {
        together := by simp [told]
        untriggered := by simp [told]
        routed := by
          rw [r.routedToV2_iff]
          intro engine
          obtain ⟨-, diff, -, compared⟩ := r.compared_of_candidateResult? (r.course.result_of_candidate engine).2
          rw [found] at compared
          contradiction
        unrouted := by
          rw [r.unrouted_iff, told]
          intro engine
          rw [r.course.result_of_baseline engine, counted] at served
          exact (Except.ok.inj served).symm }
  | some diff =>
      obtain ⟨shown, c, attempted, figures, baseline, candidate, weighed⟩ := r.comparison_of_diff found
      obtain ⟨primary, served, told⟩ := r.metrics_of_compared found figures
      exact {
        together := by simp [told]
        untriggered := by
          rw [r.mode_eq.1, told]
          intro off
          simp only [SafetyTriggers.ofResult, off, Bool.not_false, Bool.true_or, if_true] at weighed
          rw [← Except.ok.inj weighed]
          exact ⟨nofun, nofun⟩
        routed := by
          rw [r.routedToV2_iff, told]
          intro engine
          rw [attempted _ (r.course.result_of_candidate engine).2, candidate] at served
          exact congrArg some (Except.ok.inj served)
        unrouted := by
          rw [r.unrouted_iff, told]
          intro engine
          rw [r.course.result_of_baseline engine, baseline] at served
          exact (Except.ok.inj served).symm }

/-- What an update that went through the latch reports, and what an untracked run sees of it. -/
theorem rollback_cases (r : Returned p w result w') {found : RollbackState} (held : World.Holds found w) :
    let state := if p.resets then .clear else found
    r.rollback = Rollback.report state p.configs.canary r.runId p.recordedAt r.sample
      ∨ r.rollback.before = state.snapshot ∧ r.rollback.after = state.snapshot ∧ r.rollback.triggered = false := by
  intro state
  obtain ⟨seen, tried⟩ := holds_found r held
  have latching := r.latching
  unfold Plan.latching at latching
  split at latching
  · obtain ⟨loaded, holds, reported⟩ := Rollback.report_of_update latching
    obtain rfl : state = loaded := Except.ok.inj (tried.symm.trans holds)
    exact .inl reported
  · obtain ⟨loaded, _, looked, returned⟩ := bind_eq_ok.mp latching
    rw [Rollback.outcome_load] at looked
    obtain rfl : state = loaded := Except.ok.inj (tried.symm.trans (congrArg Prod.fst looked))
    rw [← (Except.ok.inj (congrArg Prod.fst returned) : _ = r.rollback)]
    exact .inr ⟨seen, rfl, rfl⟩

theorem coherent (r : Returned p w result w') {found : RollbackState} (held : World.Holds found w)
    (known : Rollback.Coherent found) : Coherent result.decision := by
  have section_eq : result.decision.rollback = (p.input r.runId r.baseline r.trial r.sample r.rollback).rollbackSection := by
    obtain ⟨metrics, _, -, -, decided⟩ := DecisionInput.record_eq_ok r.deciding
    rw [decided]
  obtain ⟨enabled, mode, reset⟩ := r.mode_eq
  have known : Rollback.Coherent (if p.resets then .clear else found) := by
    split
    · exact Rollback.coherent_clear
    · exact known
  have before : r.rollback.before = r.trial.before := by
    rw [(holds_found r held).1]
    rcases r.rollback_cases held with reported | ⟨before, -, -⟩
    · rw [reported]
      rfl
    · exact before
  exact {
    candidate := r.candidateCoherent
    sample := r.sampleCoherent
    figures := r.figuresCoherent
    rollback := by
      rw [section_eq]
      rcases r.rollback_cases held with reported | ⟨before, after, untriggered⟩
      · exact Rollback.coherent_report known p.configs.canary r.runId p.recordedAt r.sample reported
      · exact Rollback.coherent_seen known before after untriggered
    open_of_selected := by
      rw [r.canarySelected_eq, section_eq]
      intro selected
      show r.rollback.before.active = false
      rw [before]
      exact (tracked_of_selected selected).1
    mode_iff := by
      rw [mode, enabled]
      cases p.configs.primary.enabled with
      | false => decide
      | true => decide
    primary_of_reset := by
      rw [reset, enabled]
      exact fun asked => (Bool.and_eq_true_iff.mp asked).1 }

end Run.Returned

namespace World

/-- In every store that histories reach from an empty one, the audit record of a run that returns is coherent. -/
theorem audit_record_coherent {w : World σ} (empty : w.store.namespaces = []) (past : List (Event σ)) (p : Run.Plan σ)
    {result : RunResult} {w' : World σ} (returned : p.attempt.outcome (w.after past) = (.ok result, w')) :
    result.decision.Coherent := by
  obtain ⟨r⟩ := Run.Plan.returned_of_eq returned
  obtain ⟨found, held, known⟩ := maintained_after Rollback.maintained_coherent empty past
  exact r.coherent held known

/-- After a good run a primary candidate times out: its run falls back and closes the latch. -/
theorem audit_record_coherent_of_timeout :
    let w : World Unit := ⟨.inMemory [], .zero, [], ()⟩
    let baseline : Json := .obj [("matching", .obj [])]
    let timedOut : Json := .obj [("matching", .obj [("stats", .obj [("cycle_enumeration_timed_out", .bool true)])])]
    let plan (candidate : Json) : Run.Plan Unit := ⟨⟨some ⟨"v1", fun _ s => (.ok baseline, s)⟩,
      some ⟨"v2", fun _ s => (.ok candidate, s)⟩, none⟩, ⟨2026, 3, 1, 12, 0, 0, 0⟩,
      ⟨.unknown, none, some "2026-03-01T12:00:00.000Z", [], [], [], 50, none⟩,
      ⟨.default, { PrimaryConfig.default with enabled := true }, .default, .default, .default⟩, none⟩
    let past : List (Event Unit) := [.run (plan baseline)]
    w.store.namespaces = [] ∧ ∃ result w', (plan timedOut).attempt.outcome (w.after past) = (.ok result, w')
      ∧ result.decision.Coherent ∧ result.decision.fallbackReasonCode = some "v2_timeout_safety"
      ∧ result.decision.rollback.triggered = true := by
  intro w baseline timedOut plan past
  have returns : Finishes (plan timedOut).attempt (w.after past) := finishes_iff_isOk.mpr (by decide +kernel)
  obtain ⟨result, w', ran⟩ := returns.eq
  have told : ((plan timedOut).attempt.outcome (w.after past)).1.toOption.map
      (fun r => (r.decision.fallbackReasonCode, r.decision.rollback.triggered))
      = some (some "v2_timeout_safety", true) := by decide +kernel
  rw [ran] at told
  obtain ⟨code, triggered⟩ := Prod.mk.inj (Option.some.inj told)
  exact ⟨rfl, result, w', ran, audit_record_coherent (w := w) rfl past (plan timedOut) ran, code, triggered⟩

end World

end CanaryGate
