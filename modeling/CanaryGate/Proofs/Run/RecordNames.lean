import CanaryGate.Proofs.Decision.Assembly
import CanaryGate.Proofs.Json.Distinct
import CanaryGate.Run.Loop

/-! # Records without repeated names

What a run puts in its store is made of fields with names of their own, so that it is read back as it was written.
-/

namespace CanaryGate

open Json

variable {α : Type}

theorem Json.distinct_optional {write : α → Json} (written : ∀ a, Distinct (write a)) (o : Option α) :
    Distinct (Json.optional write o) := by
  cases o with
  | none => exact .null
  | some a => exact written a

theorem RunSample.distinct_toFields (s : RunSample) : Distinct (.obj s.toFields) := by
  simp [RunSample.toFields, Fields.names]

theorem RollbackState.distinct_toFields (s : RollbackState) : Distinct (.obj s.toFields) := by
  refine .obj (by simp [RollbackState.toFields, Fields.names]) ?_
  simp [-distinct_obj, RollbackState.toFields, RunSample.distinct_toFields, distinct_optional]

theorem ErrorInfo.distinct_toFields (e : ErrorInfo) : Distinct (.obj e.toFields) := by
  simp [ErrorInfo.toFields, Fields.names]

theorem ShadowErrorRecord.distinct_toFields (r : ShadowErrorRecord) : Distinct (.obj r.toFields) := by
  refine .obj (by simp [ShadowErrorRecord.toFields, Fields.names]) ?_
  simp [-distinct_obj, ShadowErrorRecord.toFields, ErrorInfo.distinct_toFields, distinct_optional]

theorem SafetyTriggers.distinct_toFields (t : SafetyTriggers) : Distinct (.obj t.toFields) := by
  simp [SafetyTriggers.toFields, Fields.names]

theorem MatcherConfig.distinct_cycleBounds (c : MatcherConfig) : Distinct (integersToJson c.cycleBounds) := by
  simp [integersToJson, MatcherConfig.cycleBounds, Fields.names]

/-! Comparisons. -/

theorem Comparison.distinct_metrics (c : Comparison) (baseline candidate : String) :
    Distinct (.obj (c.metrics baseline candidate)) :=
  distinct_ofList (by simp)

theorem Comparison.distinct_selectedKeys (c : Comparison) (baseline candidate : String) :
    Distinct (.obj (c.selectedKeys baseline candidate)) :=
  distinct_ofList (by simp)

theorem DiffRecord.distinct_of_ofResults {runId recordedAt : String} {baselineConfig candidateConfig : MatcherConfig}
    {baselineResult candidateResult limit : Json} {safety : SafetyTriggers} {r : DiffRecord}
    (made : DiffRecord.ofResults runId recordedAt baselineConfig baselineResult candidateConfig candidateResult limit
      safety = .ok r) : Distinct (.obj r.toFields) := by
  obtain ⟨c, -, made⟩ := except_bind_eq_ok.mp made
  cases made
  refine .obj (by simp [DiffRecord.toFields, Fields.names]) ?_
  simp [-distinct_obj, DiffRecord.toFields, MatcherConfig.distinct_cycleBounds, Comparison.distinct_metrics,
    Comparison.distinct_selectedKeys, SafetyTriggers.distinct_toFields]

theorem AltRecord.distinct_of_recordOf {runId recordedAt : String} {served : Option String} {servedResult limit : Json}
    {matcher : MatcherConfig} {outcome : EngineOutcome} {r : AltRecord}
    (made : AltShadow.recordOf runId recordedAt served servedResult matcher limit outcome = .ok r) :
    Distinct (.obj r.toFields) := by
  cases outcome with
  | ok result =>
      obtain ⟨c, -, made⟩ := except_bind_eq_ok.mp made
      obtain ⟨signals, -, made⟩ := except_bind_eq_ok.mp made
      obtain ⟨engine, -, made⟩ := except_bind_eq_ok.mp made
      cases made
      refine .obj (by simp [AltRecord.toFields, AltShadowRecord.toFields, Fields.names]) ?_
      simp [-distinct_obj, AltRecord.toFields, AltShadowRecord.toFields, MatcherConfig.distinct_cycleBounds,
        Comparison.distinct_metrics, Comparison.distinct_selectedKeys, SafetyTriggers.distinct_toFields]
  | err code failure =>
      obtain ⟨engine, -, made⟩ := except_bind_eq_ok.mp made
      cases made
      exact ShadowErrorRecord.distinct_toFields _

/-! Decisions. -/

theorem WindowSummary.distinct_toFields (s : WindowSummary) : Distinct (.obj s.toFields) := by
  refine .obj ?_ ?_
  · simp [WindowSummary.toFields, Fields.names, Signal.all, WindowSummary.signalFields, Signal.name]
  · simp [-distinct_obj, WindowSummary.toFields, Signal.all, WindowSummary.signalFields, distinct_optional]

theorem DecisionRecord.distinct_toFields {d : DecisionRecord} (summary : Distinct (.obj d.sampleSummary)) :
    Distinct (.obj d.toFields) := by
  have rollback : Distinct (.obj d.rollback.toFields) := by
    refine .obj (by simp [DecisionRollback.toFields, Fields.names]) ?_
    simp [DecisionRollback.toFields, distinct_optional]
  have attempt : Distinct (.obj d.v2.toFields) := by
    refine .obj (by simp [CandidateAttempt.toFields, Fields.names]) ?_
    simp [-distinct_obj, CandidateAttempt.toFields, distinct_optional, ErrorInfo.distinct_toFields]
  have metrics : Distinct (.obj d.metrics.toFields) := by
    refine .obj (by simp [DecisionMetrics.toFields, Fields.names]) ?_
    simp [DecisionMetrics.toFields, distinct_optional]
  refine .obj (by simp [DecisionRecord.toFields, Fields.names]) ?_
  simp [-distinct_obj, DecisionRecord.toFields, rollback, attempt, metrics, summary, distinct_optional,
    RunSample.distinct_toFields]

theorem DecisionInput.distinct_of_record {d : DecisionInput} {r : DecisionRecord}
    (summary : Distinct (.obj d.rollback.summary)) (made : d.record = .ok r) : Distinct (.obj r.toFields) := by
  obtain ⟨metrics, engine, -, -, rfl⟩ := DecisionInput.record_eq_ok made
  exact DecisionRecord.distinct_toFields summary

end CanaryGate
