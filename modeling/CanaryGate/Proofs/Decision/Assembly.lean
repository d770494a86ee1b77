import CanaryGate.Decision.Assembly
import CanaryGate.Proofs.Comparison.Measurable

/-! # How an audit record is put together

The sample of a run and the figures of its record are read off the comparison that the run made, if it made
one. A record that was put together has the parts that it was given.
-/

namespace CanaryGate

open Attempt

theorem EngineName.text_eq_v2 {engine : EngineName} : (engine.text == "v2") = true ↔ engine = .v2 := by
  cases engine with
  | v1 => decide
  | v2 => decide

/-- A sample is made of every selected run, from the comparison of the run if there is one. -/
theorem RunSample.ofRun_eq_ok {runId recordedAt : String} {selected : Bool} {error : Option ErrorInfo}
    {safety : SafetyTriggers} {diff : Option DiffRecord} {sample : Option RunSample}
    (h : ofRun runId recordedAt selected error safety diff = .ok sample) :
    (selected = false ∧ sample = none) ∨ selected = true ∧ ∃ delta,
      (∀ d, diff = some d → ((Fields.get d.metrics "delta_score_sum_scaled").orElse (.int 0)).toInteger = .ok delta)
        ∧ sample = some ⟨runId, recordedAt, error.isSome, !error.isSome && safety.timeoutReached,
          !error.isSome && safety.maxCyclesReached, !error.isSome && decide (0 ≤ delta)⟩ := by
  unfold ofRun at h
  cases selected with
  | false =>
      cases h
      exact .inl ⟨rfl, rfl⟩
  | true =>
      simp only [Bool.not_true, Bool.false_eq_true, if_false] at h
      obtain ⟨delta, read, made⟩ := except_bind_eq_ok.mp h
      refine .inr ⟨rfl, delta, ?_, (Except.ok.inj made).symm⟩
      rintro d rfl
      exact read

/-- A failed attempt hides all that a comparison could say. -/
theorem RunSample.ofRun_of_error {runId recordedAt : String} {error : ErrorInfo} {safety : SafetyTriggers}
    {diff : Option DiffRecord} {sample : Option RunSample}
    (h : ofRun runId recordedAt true (some error) safety diff = .ok sample) :
    sample = some ⟨runId, recordedAt, true, false, false, false⟩ := by
  rcases ofRun_eq_ok h with ⟨unselected, -⟩ | ⟨-, delta, -, made⟩
  · contradiction
  · exact made

namespace DecisionInput

theorem record_eq_ok {d : DecisionInput} {r : DecisionRecord} (h : d.record = .ok r) :
    ∃ metrics engine, d.metrics = .ok metrics ∧ EngineName.check d.served = .ok engine ∧ r = {
      runId := d.runId
      recordedAt := d.recordedAt
      mode := if d.primary.enabled then .primary else .canary
      primaryEngine := engine
      routedToV2 := d.served == "v2"
      fallbackToV1 := d.fellBack
      fallbackReasonCode := if d.fellBack then d.fallbackReason else none
      canarySelected := d.routing.canarySelected
      canaryEnabled := d.canary.enabled
      primaryEnabled := d.primary.enabled
      rollbackResetApplied := d.resetApplied
      skippedReason := d.routing.skippedReason
      rolloutBps := d.canary.rolloutBps
      bucketBps := d.routing.bucketBps
      inRolloutBucket := d.routing.inRolloutBucket
      rollback := d.rollbackSection
      v2 := ⟨d.routing.canarySelected, d.error⟩
      metrics
      sample := d.sample
      sampleSummary := d.rollback.summary } := by
  unfold record at h
  obtain ⟨metrics, found, h⟩ := except_bind_eq_ok.mp h
  obtain ⟨engine, named, made⟩ := except_bind_eq_ok.mp h
  exact ⟨metrics, engine, found, named, (Except.ok.inj made).symm⟩

variable {d : DecisionInput} {m : DecisionMetrics}

theorem figure_of_get? {stated : Fields} {name : String} {n : Int} (h : Fields.get? stated name = some (.int n))
    (default : Int) : figure stated name default = .ok n := by
  unfold figure
  rw [h]
  rfl

theorem metrics_of_none (missing : d.diff = none) (h : d.metrics = .ok m) : ∃ cycles primary,
    candidateCycles d.baselineResult = .ok cycles ∧ candidateCycles d.servedResult = .ok primary
      ∧ m = ⟨cycles, none, primary, none, none, none⟩ := by
  unfold metrics at h
  rw [missing] at h
  obtain ⟨cycles, counted, h⟩ := except_bind_eq_ok.mp h
  obtain ⟨_, stated, h⟩ := except_bind_eq_ok.mp h
  obtain ⟨_, skipped, h⟩ := except_bind_eq_ok.mp h
  obtain ⟨primary, served, h⟩ := except_bind_eq_ok.mp h
  obtain ⟨_, skipped', made⟩ := except_bind_eq_ok.mp h
  cases stated
  cases skipped
  cases skipped'
  cases made
  exact ⟨cycles, primary, counted, served, rfl⟩

/-- Where a comparison was made the figures are its own. -/
theorem metrics_of_some {diff : DiffRecord} {c : Comparison} (found : d.diff = some diff)
    (figures : diff.metrics = c.metrics "v1" "v2") (h : d.metrics = .ok m) : ∃ primary,
    candidateCycles d.servedResult = .ok primary ∧ m = ⟨c.baselineCycles, some c.candidateCycles, primary,
      some c.scoreDelta, some diff.safety.timeoutReached, some diff.safety.maxCyclesReached⟩ := by
  unfold metrics at h
  rw [found] at h
  simp only [Option.map_some, Option.getD_some, figures] at h
  obtain ⟨_, -, h⟩ := except_bind_eq_ok.mp h
  obtain ⟨_, baseline, h⟩ := except_bind_eq_ok.mp h
  obtain ⟨_, candidate, h⟩ := except_bind_eq_ok.mp h
  obtain ⟨primary, served, h⟩ := except_bind_eq_ok.mp h
  obtain ⟨_, delta, made⟩ := except_bind_eq_ok.mp h
  obtain ⟨_, candidate, rfl⟩ := optionMapM_some_eq_ok.mp candidate
  obtain ⟨_, delta, rfl⟩ := optionMapM_some_eq_ok.mp delta
  rw [figure_of_get? c.get?_baselineCycles] at baseline
  rw [figure_of_get? c.get?_candidateCycles] at candidate
  rw [figure_of_get? c.get?_delta] at delta
  cases baseline
  cases candidate
  cases delta
  cases made
  exact ⟨primary, served, rfl⟩

end DecisionInput

end CanaryGate
