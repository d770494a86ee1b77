import CanaryGate.Decision.Assembly
import CanaryGate.Rollback.Controller
import CanaryGate.Shadow.Candidate
import CanaryGate.Time.Instant

/-!
# Runs

One run from request to result. The baseline always runs first and is the safety net; routing, the
candidate, the shadows, the latch and the audit record follow in that order on the shared store.
-/

namespace CanaryGate

structure RunConfigs where
  canary : CanaryConfig
  primary : PrimaryConfig
  altShadow : AltShadowConfig
  baselineMatcher : MatcherConfig
  candidateMatcher : MatcherConfig

/-- The engines of a run. Without a baseline a run cannot be made. -/
structure RunEngines (σ : Type) where
  baseline : Option (Engine σ)
  candidate : Option (Engine σ)
  alternate : Option (Engine σ)

/-- What a run gives back. -/
structure RunResult where
  runId : String
  recordedAt : String
  primaryEngine : EngineName
  proposals : List Fields
  decision : DecisionRecord
  persisted : Bool

namespace Run

def counter : String := "marketplace_matching_run"

/-- The namespace of the decision records. -/
def decisionSpace : String := "marketplace_matching_canary_decisions"

def baselineCode : String := "matching_v1_failed"

/-- A number with its sign in front of leading zeros, at least six characters wide. -/
def paddedNumber (n : Int) : List Char :=
  if n < 0 then '-' :: Instant.padded 5 n.natAbs else Instant.padded 6 n.natAbs

def idOf (n : Int) : String := "mrun_" ++ String.ofList (paddedNumber n)

def nextId : Attempt (World σ) String := do
  let n ← World.onStore (Store.nextSequence counter)
  Attempt.lift (if Json.writable n then .ok (idOf n) else .error .integerTooLong)

def engineRequest (req : RunRequest) (recordedAt : String) (config : MatcherConfig) : EngineRequest :=
  ⟨.arr (req.intents.map .obj), .obj (req.assetValues.map fun e => (e.1, .float e.2)),
    .arr (req.edgeIntents.map .obj), .str recordedAt, config, req.halves⟩

/-- Runs the baseline; its failure ends the run. -/
def baselineResult (engine : Option (Engine σ)) (request : EngineRequest) : Attempt (World σ) Json :=
  match engine with
  | none => Attempt.stop .noFields
  | some engine => do
    match ← engine.execute request baselineCode none with
    | .ok result => return result
    | .err _ failure => Attempt.stop (.baselineFailed failure.name failure.message)

/-- The latch after an untracked run: looked at, and not changed. -/
def untouched (config : CanaryConfig) (before : RollbackSnapshot) : Attempt (World σ) RollbackUpdate := do
  let state ← Rollback.load
  return ⟨before, state.snapshot, (WindowSummary.ofWindow [] config.thresholds).toFields, false⟩

/-- What became of a selected run. -/
def attemptOutcome (d : DecisionRecord) : AttemptOutcome :=
  if d.v2.error.isSome then .error else if d.fallbackToV1 then .fallback else .served

/-- Counts a finished run. -/
def count (d : DecisionRecord) (m : Metrics) : Metrics :=
  let m := { m with runs := m.runs.bump (d.mode, d.primaryEngine) }
  let m := if d.canarySelected then { m with attempts := m.attempts.bump (d.mode, attemptOutcome d) } else m
  match d.fallbackReasonCode with
  | some reason => if reason = "" then m else { m with fallbacks := m.fallbacks.bump reason }
  | none => m

def firstText (a b : Option String) : Option String := (a.filter (· != "")).or b

/-- What a run gives back of the served result: the objects among its proposals, at most `maxProposals` of them. -/
def servedProposals (result : Json) (maxProposals : Int) : Except Fault (List Fields) := do
  let matching ← ((Fields.get (← result.fieldsOf) "matching").orElse (.obj [])).fieldsOf
  return takeUpTo maxProposals (← ((Fields.get matching "proposals").orElse (.arr [])).objectItems)

/-- Of a matching result those proposals are given back that a comparison selects. -/
theorem servedProposals_of_matching {result : Json} (h : isMatchingResult result = true) (maxProposals : Int) :
    servedProposals result maxProposals = selectedProposals result maxProposals := by
  obtain ⟨fields, matching, rfl, found⟩ := isMatchingResult_iff.mp h
  have served : ((Fields.get fields "matching").orElse (.obj [])).fieldsOf = .ok matching := by
    rw [found]
    cases matching with
    | nil => rfl
    | cons field rest => rfl
  unfold servedProposals selectedProposals proposalsOf
  rw [matchingOf_obj found]
  show (((Fields.get fields "matching").orElse (.obj [])).fieldsOf >>= _) = _
  rw [served]
  rfl

/-- Makes a run at a time of the clock. The key of the request wins over the key given beside it. -/
def make (engines : RunEngines σ) (now : Instant) (req : RunRequest) (configs : RunConfigs)
    (headerKey : Option String) : Attempt (World σ) RunResult := do
  let recordedAt := (firstText req.recordedAt none).getD now.text
  let idempotencyKey := firstText req.idempotencyKey headerKey
  let canary := configs.canary
  let primary := configs.primary
  let request := engineRequest req recordedAt
  let runId ← nextId
  let v1Result ← baselineResult engines.baseline (request configs.baselineMatcher)
  let resetApplied := primary.enabled && primary.rollbackReset
  if resetApplied then
    let _ ← Rollback.reset
  let before ← Rollback.snapshot
  let routing ← Attempt.lift (RoutingDecision.route canary primary before (req.actor.origin idempotencyKey recordedAt))
  let candidateRequest := request configs.candidateMatcher
  let selection ← Selection.select routing canary primary v1Result engines.candidate candidateRequest
  let scene : Shadow.Scene := ⟨runId, recordedAt, configs.baselineMatcher, v1Result, configs.candidateMatcher,
    .int req.maxProposals⟩
  let shadow ← Shadow.run scene canary primary routing selection engines.candidate candidateRequest
  let servedMatcher := match selection.engine with
    | .v2 => configs.candidateMatcher
    | .v1 => configs.baselineMatcher
  let _ ← AltShadow.run runId recordedAt configs.altShadow (some selection.engine.text) selection.result servedMatcher
    engines.alternate candidateRequest (.int req.maxProposals)
  let sample ← Attempt.lift
    (RunSample.ofRun runId recordedAt routing.canarySelected selection.error? shadow.safety shadow.diff)
  let rollback ← if routing.trackingEnabled then Rollback.update canary runId recordedAt sample
    else untouched canary before
  let decision ← Attempt.lift (DecisionInput.record {
    runId, recordedAt, canary, primary, routing, served := selection.engine.text
    fallbackReason := selection.fallbackReason, resetApplied, rollback, error := selection.error?
    diff := shadow.diff, baselineResult := v1Result, servedResult := selection.result, sample })
  if routing.trackingEnabled then
    let _ ← World.onStore
      (Store.putAndPrune decisionSpace runId (.obj decision.toFields) canary.maxDecisions)
  World.observe (count decision)
  let proposals ← Attempt.lift (servedProposals selection.result req.maxProposals)
  return ⟨runId, recordedAt, decision.primaryEngine, proposals, decision, routing.trackingEnabled⟩

end Run

end CanaryGate
