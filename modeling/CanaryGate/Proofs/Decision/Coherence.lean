import CanaryGate.Decision.Assembly
import CanaryGate.Proofs.Rollback.Provenance

/-! # Coherent audit records

An audit record tells of a run in several sections. It is coherent if none of them contradicts another; the
section on the latch is, whether the run went through the latch or only looked at it.
-/

namespace CanaryGate

namespace DecisionRollback

/-- The latch before and after the run, and whether the run closed it. -/
structure Coherent (r : DecisionRollback) : Prop where
  before_iff : r.activeBefore = true ↔ r.reasonCodeBefore.isSome = true
  after_iff : r.activeAfter = true ↔ r.reasonCodeAfter.isSome = true
  triggered_iff : r.triggered = true ↔ r.activeBefore = false ∧ r.activeAfter = true
  triggerReason : r.triggerReasonCode = if r.triggered then r.reasonCodeAfter else none
  kept : r.activeBefore = true → r.activeAfter = true ∧ r.reasonCodeAfter = r.reasonCodeBefore

end DecisionRollback

namespace DecisionRecord

/-- Whether the candidate was tried, served or fallen back from, and how it failed. -/
structure CandidateCoherent (d : DecisionRecord) : Prop where
  unskipped_iff : d.canarySelected = true ↔ d.skippedReason = none
  attempted_iff : d.v2.attempted = true ↔ d.canarySelected = true
  routed_iff : d.routedToV2 = true ↔ d.primaryEngine = .v2
  selected_of_routed : d.routedToV2 = true → d.canarySelected = true
  fallback_iff : d.fallbackToV1 = true ↔ d.canarySelected = true ∧ d.routedToV2 = false
  code_iff : d.fallbackReasonCode.isSome = true ↔ d.fallbackToV1 = true
  error_iff : d.v2.error.isSome = true ↔
    d.fallbackReasonCode = some "v2_error" ∨ d.fallbackReasonCode = some "canary_error"

/-- The sample of the run beside the rest of its record. -/
structure SampleCoherent (d : DecisionRecord) : Prop where
  selected_iff : d.sample.isSome = true ↔ d.canarySelected = true
  named : ∀ sample, d.sample = some sample → sample.runId = d.runId ∧ sample.recordedAt = d.recordedAt
  error_iff : (∃ sample, d.sample = some sample ∧ sample.error = true) ↔ d.v2.error.isSome = true
  errored : ∀ sample, d.sample = some sample → sample.error = true →
    sample.timeout = false ∧ sample.limited = false ∧ sample.nonNegativeDelta = false
  measured : ∀ sample, d.sample = some sample → sample.error = false →
    d.metrics.timeoutReached = some sample.timeout ∧ d.metrics.limitedReached = some sample.limited
      ∧ ∃ delta, d.metrics.scoreDelta = some delta ∧ (sample.nonNegativeDelta = true ↔ 0 ≤ delta)

/-- The figures of the run. -/
structure FiguresCoherent (d : DecisionRecord) : Prop where
  together : d.metrics.scoreDelta.isSome = d.metrics.candidateCycles.isSome
    ∧ d.metrics.timeoutReached.isSome = d.metrics.candidateCycles.isSome
    ∧ d.metrics.limitedReached.isSome = d.metrics.candidateCycles.isSome
  untriggered : d.primaryEnabled = false →
    d.metrics.timeoutReached ≠ some true ∧ d.metrics.limitedReached ≠ some true
  routed : d.routedToV2 = true → d.metrics.candidateCycles = some d.metrics.primaryCycles
  unrouted : d.routedToV2 = false → d.metrics.primaryCycles = d.metrics.baselineCycles

/-- The parts of an audit record agree with each other. -/
structure Coherent (d : DecisionRecord) : Prop where
  candidate : CandidateCoherent d
  sample : SampleCoherent d
  figures : FiguresCoherent d
  rollback : d.rollback.Coherent
  open_of_selected : d.canarySelected = true → d.rollback.activeBefore = false
  mode_iff : d.mode = .primary ↔ d.primaryEnabled = true
  primary_of_reset : d.rollbackResetApplied = true → d.primaryEnabled = true

end DecisionRecord

namespace Rollback

theorem Coherent.active_iff_reasonCode {state : RollbackState} (h : Coherent state) :
    state.active = true ↔ state.reasonCode.isSome = true := by
  constructor
  · exact fun active => (h.active_iff.mp active).1
  · intro known
    by_contra opened
    rw [(h.of_open (Bool.not_eq_true _ ▸ opened)).1] at known
    contradiction

/-- The section of an update that found a coherent state. -/
theorem coherent_report {state : RollbackState} (h : Coherent state) (config : CanaryConfig)
    (runId recordedAt : String) (sample : Option RunSample) {d : DecisionInput}
    (reported : d.rollback = report state config runId recordedAt sample) : d.rollbackSection.Coherent := by
  have after := coherent_next h (.update config runId recordedAt sample)
  unfold DecisionInput.rollbackSection
  rw [reported]
  exact {
    before_iff := h.active_iff_reasonCode
    after_iff := after.active_iff_reasonCode
    triggered_iff := report_triggered_iff state config runId recordedAt sample
    triggerReason := rfl
    kept := by
      intro active
      have same := (step_of_active active config runId recordedAt sample).1
      have kept : (report state config runId recordedAt sample).after = state.snapshot := congrArg RollbackState.snapshot same
      rw [kept]
      exact ⟨active, rfl⟩ }

/-- The section of a run that only looked at a coherent state. -/
theorem coherent_seen {state : RollbackState} (h : Coherent state) {d : DecisionInput}
    (before : d.rollback.before = state.snapshot) (after : d.rollback.after = state.snapshot)
    (untriggered : d.rollback.triggered = false) : d.rollbackSection.Coherent := by
  unfold DecisionInput.rollbackSection
  rw [before, after, untriggered]
  exact {
    before_iff := h.active_iff_reasonCode
    after_iff := h.active_iff_reasonCode
    triggered_iff := by simp
    triggerReason := rfl
    kept := fun active => ⟨active, rfl⟩ }

end Rollback

end CanaryGate
