import CanaryGate.Decision.Routing
import CanaryGate.Engine.Boundary

/-!
# Selection

Which result is served. A selected run attempts the candidate; its result is served unless the
attempt failed or, in a graduated rollout, a safety trigger calls for the baseline.
-/

namespace CanaryGate

namespace SafetyTriggers

/-- The triggers of a candidate result; null is no result. They bind only when the candidate is the primary
engine. -/
def ofResult (result : Json) (primary : PrimaryConfig) : Except Fault SafetyTriggers :=
  if !primary.enabled || result.isNull then .ok none
  else do
    let signals ← safetySignals result
    return ⟨signals.timedOut || primary.forceTimeout, signals.limited || primary.forceLimited⟩

end SafetyTriggers

/-- The served result and how it came to be chosen. -/
structure Selection where
  result : Json
  engine : EngineName
  /-- What the attempt at the candidate came to, if there was one. -/
  attempt : Option EngineOutcome
  fallbackReason : Option String
  safety : SafetyTriggers

namespace Selection

/-- The baseline's result, the candidate not attempted. -/
def baseline (result : Json) : Selection := ⟨result, .v1, none, none, .none⟩

/-- The candidate's result, if the attempt gave one; null is none. -/
def candidateResult? (s : Selection) : Option Json :=
  (s.attempt.bind EngineOutcome.result?).filter fun result => !result.isNull

def error? (s : Selection) : Option ErrorInfo := s.attempt.bind EngineOutcome.errorInfo?

/-- The code of a failed attempt. -/
def errorCode (primary : PrimaryConfig) : String :=
  if primary.enabled then "matching_v2_primary_failed" else "matching_v2_canary_failed"

/-- Why a failed attempt falls back. -/
def errorFallback (primary : PrimaryConfig) : String :=
  if primary.enabled then "v2_error" else "canary_error"

/-- The failure that the configuration asks for. -/
def forcedFailure (canary : CanaryConfig) (primary : PrimaryConfig) : Option String :=
  if primary.enabled then
    if primary.forcePrimaryError then some "forced matching v2 primary error" else none
  else if canary.forceCanaryError then some "forced matching v2 canary error" else none

/-- Why a successful attempt falls back all the same. -/
def safetyFallback (primary : PrimaryConfig) (safety : SafetyTriggers) : Option String :=
  if !primary.enabled then none
  else if safety.timeoutReached && primary.fallbackOnTimeout then some "v2_timeout_safety"
  else if safety.maxCyclesReached && primary.fallbackOnLimited then some "v2_limited_safety"
  else none

/-- The choice between a baseline result and an attempt. -/
def ofAttempt (primary : PrimaryConfig) (baselineResult : Json) (attempt : EngineOutcome) :
    Except Fault Selection :=
  match attempt with
  | .err .. => .ok ⟨baselineResult, .v1, some attempt, some (errorFallback primary), .none⟩
  | .ok result => do
    let safety ← SafetyTriggers.ofResult result primary
    match safetyFallback primary safety with
    | some reason => return ⟨baselineResult, .v1, some attempt, some reason, safety⟩
    | none => return ⟨result, .v2, some attempt, none, safety⟩

def select (routing : RoutingDecision) (canary : CanaryConfig) (primary : PrimaryConfig) (baselineResult : Json)
    (candidate : Option (Engine σ)) (request : EngineRequest) : Attempt (World σ) Selection :=
  if !routing.canarySelected then return .baseline baselineResult
  else do
    let attempt ← Engine.executeIfConfigured candidate "v2" request (errorCode primary) (forcedFailure canary primary)
    Attempt.lift (ofAttempt primary baselineResult attempt)

end Selection

end CanaryGate
