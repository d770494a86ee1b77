import CanaryGate.Validation.Checked
import CanaryGate.Window

/-!
# Run configuration

The switches and limits of a run: the canary rollout, the graduated rollout, the alternate shadow and
the matcher itself. Each record can be read from a document, with defaults for what is missing, and
written as one.
-/

namespace CanaryGate

/-- The canary rollout and its rollback window. Nothing keeps the salt from holding halves of surrogate pairs. -/
structure CanaryConfig where
  enabled : Bool
  rolloutBps : Int
  salt : List Point
  windowRuns : Int
  forceCanaryError : Bool
  forceShadowError : Bool
  maxShadowDiffs : Int
  shadowEnabled : Bool
  forceBucket : Bool
  forceSkip : Bool
  maxDecisions : Int
  minSamples : Int
  maxErrorRate : Binary64
  maxTimeoutRate : Binary64
  maxLimitedRate : Binary64
  maxNegativeDeltaRate : Binary64
  deriving DecidableEq, Repr

namespace CanaryConfig

def default : CanaryConfig where
  enabled := false
  rolloutBps := 0
  salt := Point.ofString "matching-v2-canary"
  windowRuns := 20
  forceCanaryError := false
  forceShadowError := false
  maxShadowDiffs := 100
  shadowEnabled := false
  forceBucket := false
  forceSkip := false
  maxDecisions := 200
  minSamples := 1
  maxErrorRate := .zero
  maxTimeoutRate := .zero
  maxLimitedRate := .zero
  maxNegativeDeltaRate := .zero

def read : Reader CanaryConfig := Reader.record fun f =>
  CanaryConfig.mk
    <$> Fields.defaulted f "enabled" default.enabled Reader.boolean
    <*> Fields.defaulted f "rollout_bps" default.rolloutBps (Reader.integerWithin 0 10000)
    <*> Fields.defaulted f "salt" default.salt Reader.points
    <*> Fields.defaulted f "rollback_window_runs" default.windowRuns (Reader.integerFrom 1)
    <*> Fields.defaulted f "force_canary_error" default.forceCanaryError Reader.boolean
    <*> Fields.defaulted f "force_shadow_error" default.forceShadowError Reader.boolean
    <*> Fields.defaulted f "max_shadow_diffs" default.maxShadowDiffs (Reader.integerFrom 0)
    <*> Fields.defaulted f "shadow_enabled" default.shadowEnabled Reader.boolean
    <*> Fields.defaulted f "force_bucket_v2" default.forceBucket Reader.boolean
    <*> Fields.defaulted f "force_skip" default.forceSkip Reader.boolean
    <*> Fields.defaulted f "max_canary_decisions" default.maxDecisions (Reader.integerFrom 0)
    <*> Fields.defaulted f "rollback_min_samples" default.minSamples (Reader.integerFrom 1)
    <*> Fields.defaulted f "rollback_max_error_rate" default.maxErrorRate Reader.rate
    <*> Fields.defaulted f "rollback_max_timeout_rate" default.maxTimeoutRate Reader.rate
    <*> Fields.defaulted f "rollback_max_limited_rate" default.maxLimitedRate Reader.rate
    <*> Fields.defaulted f "rollback_max_negative_delta_rate" default.maxNegativeDeltaRate Reader.rate

def toFields (c : CanaryConfig) : Fields := [
  ("enabled", .bool c.enabled),
  ("rollout_bps", .int c.rolloutBps),
  ("salt", .str (Point.toText c.salt)),
  ("rollback_window_runs", .int c.windowRuns),
  ("force_canary_error", .bool c.forceCanaryError),
  ("force_shadow_error", .bool c.forceShadowError),
  ("max_shadow_diffs", .int c.maxShadowDiffs),
  ("shadow_enabled", .bool c.shadowEnabled),
  ("force_bucket_v2", .bool c.forceBucket),
  ("force_skip", .bool c.forceSkip),
  ("max_canary_decisions", .int c.maxDecisions),
  ("rollback_min_samples", .int c.minSamples),
  ("rollback_max_error_rate", .float c.maxErrorRate),
  ("rollback_max_timeout_rate", .float c.maxTimeoutRate),
  ("rollback_max_limited_rate", .float c.maxLimitedRate),
  ("rollback_max_negative_delta_rate", .float c.maxNegativeDeltaRate)]

/-- The limits of the rollback window. -/
def thresholds (c : CanaryConfig) : Thresholds :=
  ⟨.whole c.minSamples, .real c.maxErrorRate, .real c.maxTimeoutRate, .real c.maxLimitedRate,
    .real c.maxNegativeDeltaRate⟩

/-- What reading promises of the limits. -/
structure Valid (c : CanaryConfig) : Prop where
  bps_nonneg : 0 ≤ c.rolloutBps
  bps_le : c.rolloutBps ≤ 10000
  window_pos : 1 ≤ c.windowRuns
  shadowDiffs_nonneg : 0 ≤ c.maxShadowDiffs
  decisions_nonneg : 0 ≤ c.maxDecisions
  samples_pos : 1 ≤ c.minSamples
  errorRate : Binary64.zero.le c.maxErrorRate ∧ c.maxErrorRate.le (Binary64.ofNat 1)
  timeoutRate : Binary64.zero.le c.maxTimeoutRate ∧ c.maxTimeoutRate.le (Binary64.ofNat 1)
  limitedRate : Binary64.zero.le c.maxLimitedRate ∧ c.maxLimitedRate.le (Binary64.ofNat 1)
  negativeDeltaRate : Binary64.zero.le c.maxNegativeDeltaRate ∧ c.maxNegativeDeltaRate.le (Binary64.ofNat 1)

end CanaryConfig

/-- The graduated rollout, in which the candidate is the primary engine. -/
structure PrimaryConfig where
  enabled : Bool
  fallbackOnTimeout : Bool
  fallbackOnLimited : Bool
  forcePrimaryError : Bool
  rollbackReset : Bool
  forceTimeout : Bool
  forceLimited : Bool
  deriving DecidableEq, Repr

namespace PrimaryConfig

def default : PrimaryConfig where
  enabled := false
  fallbackOnTimeout := true
  fallbackOnLimited := true
  forcePrimaryError := false
  rollbackReset := false
  forceTimeout := false
  forceLimited := false

def read : Reader PrimaryConfig := Reader.record fun f =>
  PrimaryConfig.mk
    <$> Fields.defaulted f "enabled" default.enabled Reader.boolean
    <*> Fields.defaulted f "fallback_on_timeout" default.fallbackOnTimeout Reader.boolean
    <*> Fields.defaulted f "fallback_on_limited" default.fallbackOnLimited Reader.boolean
    <*> Fields.defaulted f "force_primary_error" default.forcePrimaryError Reader.boolean
    <*> Fields.defaulted f "rollback_reset" default.rollbackReset Reader.boolean
    <*> Fields.defaulted f "force_timeout_safety" default.forceTimeout Reader.boolean
    <*> Fields.defaulted f "force_limited_safety" default.forceLimited Reader.boolean

def toFields (c : PrimaryConfig) : Fields := [
  ("enabled", .bool c.enabled),
  ("fallback_on_timeout", .bool c.fallbackOnTimeout),
  ("fallback_on_limited", .bool c.fallbackOnLimited),
  ("force_primary_error", .bool c.forcePrimaryError),
  ("rollback_reset", .bool c.rollbackReset),
  ("force_timeout_safety", .bool c.forceTimeout),
  ("force_limited_safety", .bool c.forceLimited)]

end PrimaryConfig

/-- The shadow run of an alternate engine. -/
structure AltShadowConfig where
  enabled : Bool
  forceShadowError : Bool
  maxShadowDiffs : Int
  deriving DecidableEq, Repr

namespace AltShadowConfig

def default : AltShadowConfig := ⟨false, false, 100⟩

def read : Reader AltShadowConfig := Reader.record fun f =>
  AltShadowConfig.mk
    <$> Fields.defaulted f "enabled" default.enabled Reader.boolean
    <*> Fields.defaulted f "force_shadow_error" default.forceShadowError Reader.boolean
    <*> Fields.defaulted f "max_shadow_diffs" default.maxShadowDiffs (Reader.integerFrom 0)

def toFields (c : AltShadowConfig) : Fields := [
  ("enabled", .bool c.enabled),
  ("force_shadow_error", .bool c.forceShadowError),
  ("max_shadow_diffs", .int c.maxShadowDiffs)]

/-- What reading promises of the limit. -/
def Valid (c : AltShadowConfig) : Prop := 0 ≤ c.maxShadowDiffs

end AltShadowConfig

/-- What an engine is asked to search. -/
structure MatcherConfig where
  minCycleLength : Int
  maxCycleLength : Int
  includeDiagnostics : Bool
  maxCyclesExplored : Option Int
  timeoutMs : Option Int
  deriving DecidableEq, Repr

namespace MatcherConfig

def default : MatcherConfig := ⟨2, 3, false, none, none⟩

def read : Reader MatcherConfig := Reader.record fun f =>
  MatcherConfig.mk
    <$> Fields.defaulted f "min_cycle_length" default.minCycleLength (Reader.integerFrom 2)
    <*> Fields.defaulted f "max_cycle_length" default.maxCycleLength (Reader.integerFrom 2)
    <*> Fields.defaulted f "include_cycle_diagnostics" default.includeDiagnostics Reader.boolean
    <*> Fields.defaulted f "max_cycles_explored" none (Reader.optional (Reader.integerFrom 1))
    <*> Fields.defaulted f "timeout_ms" none (Reader.optional (Reader.integerFrom 1))

def toFields (c : MatcherConfig) : Fields := [
  ("min_cycle_length", .int c.minCycleLength),
  ("max_cycle_length", .int c.maxCycleLength),
  ("include_cycle_diagnostics", .bool c.includeDiagnostics),
  ("max_cycles_explored", Json.optional .int c.maxCyclesExplored),
  ("timeout_ms", Json.optional .int c.timeoutMs)]

def cycleBounds (c : MatcherConfig) : List (String × Int) :=
  [("min_cycle_length", c.minCycleLength), ("max_cycle_length", c.maxCycleLength)]

/-- What reading promises of the bounds. -/
structure Valid (c : MatcherConfig) : Prop where
  min_ge : 2 ≤ c.minCycleLength
  max_ge : 2 ≤ c.maxCycleLength
  explored_pos : ∀ n ∈ c.maxCyclesExplored, 1 ≤ n
  timeout_pos : ∀ n ∈ c.timeoutMs, 1 ≤ n

end MatcherConfig

end CanaryGate
