import CanaryGate.Engine.Records
import CanaryGate.Rollback.Records

/-!
# Decision records

How a run was routed, and the audit record of everything that was decided about it.
-/

namespace CanaryGate

/-- Whether a run goes to the candidate, and if not, why. -/
structure RoutingDecision where
  trackingEnabled : Bool
  canarySelected : Bool
  skippedReason : Option String
  bucketBps : Option Int
  inRolloutBucket : Bool
  deriving DecidableEq, Repr

namespace RoutingDecision

def read : Reader RoutingDecision := Reader.record fun f =>
  RoutingDecision.mk
    <$> Fields.required f "tracking_enabled" Reader.boolean
    <*> Fields.required f "canary_selected" Reader.boolean
    <*> Fields.required f "skipped_reason" (Reader.optional Reader.text)
    <*> Fields.required f "bucket_bps" (Reader.optional Reader.integer)
    <*> Fields.required f "in_rollout_bucket" Reader.boolean

def toFields (r : RoutingDecision) : Fields := [
  ("tracking_enabled", .bool r.trackingEnabled),
  ("canary_selected", .bool r.canarySelected),
  ("skipped_reason", Json.optional .str r.skippedReason),
  ("bucket_bps", Json.optional .int r.bucketBps),
  ("in_rollout_bucket", .bool r.inRolloutBucket)]

end RoutingDecision

/-- The latch before and after a run. -/
structure DecisionRollback where
  activeBefore : Bool
  reasonCodeBefore : Option String
  activeAfter : Bool
  reasonCodeAfter : Option String
  triggered : Bool
  triggerReasonCode : Option String
  deriving DecidableEq, Repr

namespace DecisionRollback

def read : Reader DecisionRollback := Reader.record fun f =>
  DecisionRollback.mk
    <$> Fields.required f "active_before" Reader.boolean
    <*> Fields.required f "reason_code_before" (Reader.optional Reader.text)
    <*> Fields.required f "active_after" Reader.boolean
    <*> Fields.required f "reason_code_after" (Reader.optional Reader.text)
    <*> Fields.required f "triggered" Reader.boolean
    <*> Fields.required f "trigger_reason_code" (Reader.optional Reader.text)

def toFields (r : DecisionRollback) : Fields := [
  ("active_before", .bool r.activeBefore),
  ("reason_code_before", Json.optional .str r.reasonCodeBefore),
  ("active_after", .bool r.activeAfter),
  ("reason_code_after", Json.optional .str r.reasonCodeAfter),
  ("triggered", .bool r.triggered),
  ("trigger_reason_code", Json.optional .str r.triggerReasonCode)]

end DecisionRollback

structure CandidateAttempt where
  attempted : Bool
  error : Option ErrorInfo
  deriving DecidableEq, Repr

namespace CandidateAttempt

def read : Reader CandidateAttempt := Reader.record fun f =>
  CandidateAttempt.mk
    <$> Fields.required f "attempted" Reader.boolean
    <*> Fields.defaulted f "error" none (Reader.optional ErrorInfo.read)

def toFields (a : CandidateAttempt) : Fields :=
  [("attempted", .bool a.attempted), ("error", Json.optional (fun e => .obj e.toFields) a.error)]

end CandidateAttempt

/-- The figures a decision rests on; those of the candidate are missing if it was not compared. -/
structure DecisionMetrics where
  baselineCycles : Int
  candidateCycles : Option Int
  primaryCycles : Int
  scoreDelta : Option Int
  timeoutReached : Option Bool
  limitedReached : Option Bool
  deriving DecidableEq, Repr

namespace DecisionMetrics

def read : Reader DecisionMetrics := Reader.record fun f =>
  DecisionMetrics.mk
    <$> Fields.required f "v1_candidate_cycles" Reader.integer
    <*> Fields.required f "v2_candidate_cycles" (Reader.optional Reader.integer)
    <*> Fields.required f "primary_candidate_cycles" Reader.integer
    <*> Fields.required f "delta_score_sum_scaled" (Reader.optional Reader.integer)
    <*> Fields.required f "timeout_reached" (Reader.optional Reader.boolean)
    <*> Fields.required f "limited_reached" (Reader.optional Reader.boolean)

def toFields (m : DecisionMetrics) : Fields := [
  ("v1_candidate_cycles", .int m.baselineCycles),
  ("v2_candidate_cycles", Json.optional .int m.candidateCycles),
  ("primary_candidate_cycles", .int m.primaryCycles),
  ("delta_score_sum_scaled", Json.optional .int m.scoreDelta),
  ("timeout_reached", Json.optional .bool m.timeoutReached),
  ("limited_reached", Json.optional .bool m.limitedReached)]

end DecisionMetrics

/-- The rollout under which a run was decided. -/
inductive RolloutMode where
  /-- The candidate is the primary engine. -/
  | primary
  /-- The candidate gets the share of a canary. -/
  | canary
  deriving DecidableEq, Repr

namespace RolloutMode

def text : RolloutMode → String
  | primary => "v2_primary"
  | canary => "v2_canary"

def read : Reader RolloutMode := Reader.word [("v2_primary", primary), ("v2_canary", canary)]

end RolloutMode

/-- The audit record of a run. -/
structure DecisionRecord where
  runId : String
  recordedAt : String
  mode : RolloutMode
  primaryEngine : EngineName
  routedToV2 : Bool
  fallbackToV1 : Bool
  fallbackReasonCode : Option String
  canarySelected : Bool
  canaryEnabled : Bool
  primaryEnabled : Bool
  rollbackResetApplied : Bool
  skippedReason : Option String
  rolloutBps : Int
  bucketBps : Option Int
  inRolloutBucket : Bool
  rollback : DecisionRollback
  v2 : CandidateAttempt
  metrics : DecisionMetrics
  sample : Option RunSample
  sampleSummary : Fields
  deriving Repr

namespace DecisionRecord

def read : Reader DecisionRecord := Reader.record fun f =>
  DecisionRecord.mk
    <$> Fields.required f "run_id" Reader.text
    <*> Fields.required f "recorded_at" Reader.text
    <*> Fields.required f "mode" RolloutMode.read
    <*> Fields.required f "primary_engine" EngineName.read
    <*> Fields.required f "routed_to_v2" Reader.boolean
    <*> Fields.required f "fallback_to_v1" Reader.boolean
    <*> Fields.required f "fallback_reason_code" (Reader.optional Reader.text)
    <*> Fields.required f "canary_selected" Reader.boolean
    <*> Fields.required f "canary_enabled" Reader.boolean
    <*> Fields.required f "primary_enabled" Reader.boolean
    <*> Fields.required f "rollback_reset_applied" Reader.boolean
    <*> Fields.required f "skipped_reason" (Reader.optional Reader.text)
    <*> Fields.required f "rollout_bps" Reader.integer
    <*> Fields.required f "bucket_bps" (Reader.optional Reader.integer)
    <*> Fields.required f "in_rollout_bucket" Reader.boolean
    <*> Fields.required f "rollback" DecisionRollback.read
    <*> Fields.required f "v2" CandidateAttempt.read
    <*> Fields.required f "metrics" DecisionMetrics.read
    <*> Fields.required f "sample" (Reader.optional RunSample.read)
    <*> Fields.required f "sample_summary" (Reader.mapping Reader.anything)

def toFields (d : DecisionRecord) : Fields := [
  ("run_id", .str d.runId),
  ("recorded_at", .str d.recordedAt),
  ("mode", .str d.mode.text),
  ("primary_engine", .str d.primaryEngine.text),
  ("routed_to_v2", .bool d.routedToV2),
  ("fallback_to_v1", .bool d.fallbackToV1),
  ("fallback_reason_code", Json.optional .str d.fallbackReasonCode),
  ("canary_selected", .bool d.canarySelected),
  ("canary_enabled", .bool d.canaryEnabled),
  ("primary_enabled", .bool d.primaryEnabled),
  ("rollback_reset_applied", .bool d.rollbackResetApplied),
  ("skipped_reason", Json.optional .str d.skippedReason),
  ("rollout_bps", .int d.rolloutBps),
  ("bucket_bps", Json.optional .int d.bucketBps),
  ("in_rollout_bucket", .bool d.inRolloutBucket),
  ("rollback", .obj d.rollback.toFields),
  ("v2", .obj d.v2.toFields),
  ("metrics", .obj d.metrics.toFields),
  ("sample", Json.optional (fun s => .obj s.toFields) d.sample),
  ("sample_summary", .obj d.sampleSummary)]

end DecisionRecord

end CanaryGate
