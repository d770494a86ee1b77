import CanaryGate.Shadow.Alternate

/-!
# Assembling decisions

The sample and the audit record of a run, put together from what was decided about it.
-/

namespace CanaryGate

namespace RunSample

/-- The sample of a selected run. An error hides all else; otherwise the candidate must score at least
as high as the baseline. -/
def ofRun (runId recordedAt : String) (selected : Bool) (error : Option ErrorInfo) (safety : SafetyTriggers)
    (diff : Option DiffRecord) : Except Fault (Option RunSample) :=
  if !selected then .ok none
  else do
    let stated := match diff with
      | some diff => Fields.get diff.metrics "delta_score_sum_scaled"
      | none => .int 0
    let delta ← (stated.orElse (.int 0)).toInteger
    let errored := error.isSome
    return some ⟨runId, recordedAt, errored, !errored && safety.timeoutReached, !errored && safety.maxCyclesReached,
      !errored && decide (0 ≤ delta)⟩

end RunSample

/-- Everything a decision record is put together from. -/
structure DecisionInput where
  runId : String
  recordedAt : String
  canary : CanaryConfig
  primary : PrimaryConfig
  routing : RoutingDecision
  /-- The name of the served engine. -/
  served : String
  fallbackReason : Option String
  resetApplied : Bool
  rollback : RollbackUpdate
  error : Option ErrorInfo
  diff : Option DiffRecord
  baselineResult : Json
  servedResult : Json
  sample : Option RunSample

namespace DecisionInput

/-- A figure of the comparison as an integer, with a default where the comparison lacks it. -/
def figure (metrics : Fields) (name : String) (default : Int) : Except Fault Int :=
  ((Fields.get? metrics name).getD (.int default)).toInteger

/-- The figures of the record. -/
def metrics (d : DecisionInput) : Except Fault DecisionMetrics := do
  let stated : Fields := (d.diff.map (·.metrics)).getD []
  let baselineCycles ← figure stated "v1_candidate_cycles" (← candidateCycles d.baselineResult)
  let candidateCycles ← d.diff.mapM fun _ => figure stated "v2_candidate_cycles" 0
  let primaryCycles ← CanaryGate.candidateCycles d.servedResult
  let scoreDelta ← d.diff.mapM fun _ => figure stated "delta_score_sum_scaled" 0
  return ⟨baselineCycles, candidateCycles, primaryCycles, scoreDelta,
    d.diff.map (·.safety.timeoutReached), d.diff.map (·.safety.maxCyclesReached)⟩

/-- The run was selected, but another engine than the candidate was served. -/
def fellBack (d : DecisionInput) : Bool := d.routing.canarySelected && d.served != "v2"

def rollbackSection (d : DecisionInput) : DecisionRollback :=
  ⟨d.rollback.before.active, d.rollback.before.reasonCode, d.rollback.after.active, d.rollback.after.reasonCode,
    d.rollback.triggered, if d.rollback.triggered then d.rollback.after.reasonCode else none⟩

def record (d : DecisionInput) : Except Fault DecisionRecord := do
  let metrics ← d.metrics
  let engine ← EngineName.check d.served
  return {
    runId := d.runId
    recordedAt := d.recordedAt
    mode := if d.primary.enabled then .primary else .canary
    primaryEngine := engine
    routedToV2 := d.served == "v2"
    fallbackToV1 := d.fellBack
    fallbackReasonCode := if d.fellBack then d.fallbackReason else none
    canarySelected := d.routing.canarySelected
    canaryEnabled := d.canary.enabled
    primaryEnabled := d.primary.enabled
    rollbackResetApplied := d.resetApplied
    skippedReason := d.routing.skippedReason
    rolloutBps := d.canary.rolloutBps
    bucketBps := d.routing.bucketBps
    inRolloutBucket := d.routing.inRolloutBucket
    rollback := d.rollbackSection
    v2 := ⟨d.routing.canarySelected, d.error⟩
    metrics
    sample := d.sample
    sampleSummary := d.rollback.summary }

end DecisionInput

end CanaryGate
