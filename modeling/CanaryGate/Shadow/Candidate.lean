import CanaryGate.Decision.Selection
import CanaryGate.Shadow.Records

/-!
# The candidate's shadow

Compares the candidate with the baseline on every run where shadowing is on, using the attempt that
was already made if it gave a result. What comes out, a comparison or an error, is kept under the run
id in a bounded history.
-/

namespace CanaryGate

namespace DiffRecord

/-- The comparison of a run, up to a limit of proposals. -/
def ofResults (runId recordedAt : String) (baselineConfig : MatcherConfig) (baselineResult : Json)
    (candidateConfig : MatcherConfig) (candidateResult limit : Json) (safety : SafetyTriggers) :
    Except Fault DiffRecord := do
  let c ← Comparison.ofResults baselineResult candidateResult limit
  return ⟨runId, recordedAt, baselineConfig.cycleBounds, candidateConfig.cycleBounds, c.metrics "v1" "v2", safety,
    c.selectedKeys "v1" "v2"⟩

end DiffRecord

inductive ShadowRecord where
  | diff (record : DiffRecord)
  | error (record : ShadowErrorRecord)

namespace ShadowRecord

def toFields : ShadowRecord → Fields
  | diff record => record.toFields
  | error record => record.toFields

def kind : ShadowRecord → RecordKind
  | diff _ => .diff
  | error _ => .error

end ShadowRecord

/-- What the shadow of a run found. -/
structure ShadowOutcome where
  attempt : Option EngineOutcome
  safety : SafetyTriggers
  diff : Option DiffRecord
  stored : Option ShadowRecord
  skipped : Bool

namespace Shadow

/-- The namespace of the comparisons. -/
def space : String := "marketplace_matching_shadow_diffs"

def errorCode : String := "matching_v2_shadow_failed"

/-- The failure that the configuration asks for. -/
def forcedMessage : String := "forced matching v2 shadow error"

/-- A run as the shadow sees it. -/
structure Scene where
  runId : String
  recordedAt : String
  baselineConfig : MatcherConfig
  baselineResult : Json
  candidateConfig : MatcherConfig
  /-- How many proposals are compared at most. -/
  limit : Json

namespace Scene

/-- The comparison of the baseline with a candidate result. -/
def compare (scene : Scene) (candidateResult : Json) (safety : SafetyTriggers) : Except Fault DiffRecord :=
  DiffRecord.ofResults scene.runId scene.recordedAt scene.baselineConfig scene.baselineResult scene.candidateConfig
    candidateResult scene.limit safety

def errorRecord (scene : Scene) (error : ErrorInfo) : ShadowRecord :=
  .error ⟨scene.runId, scene.recordedAt, none, error⟩

end Scene

/-- The error that is kept when there is nothing to compare. -/
def fallbackError (attempt : Option EngineOutcome) : ErrorInfo :=
  (attempt.bind EngineOutcome.errorInfo?).getD ⟨errorCode, "EngineError", "v2 shadow execution failed"⟩

/-- What is kept: the error asked for if the served attempt gave a result, else the comparison, else the
error of the shadow attempt. -/
def chooseRecord (scene : Scene) (forceError : Bool) (servedOk : Bool) (diff : Option DiffRecord)
    (shadowAttempt : Option EngineOutcome) : ShadowRecord :=
  if forceError && servedOk then scene.errorRecord ⟨errorCode, "ForcedEngineError", forcedMessage⟩
  else match diff with
    | some diff => .diff diff
    | none => scene.errorRecord (fallbackError shadowAttempt)

def keep (runId : String) (record : ShadowRecord) (limit : Int) : Attempt (World σ) Unit := do
  let _ ← World.onStore (Store.putAndPrune space runId (.obj record.toFields) limit)
  World.observe fun m => { m with shadowRecords := m.shadowRecords.bump (.candidate, record.kind) }

/-- The attempt that counts: the shadow's if it gave a result, else the served one if there was one. -/
def mergeAttempts (served shadow : Option EngineOutcome) : Option EngineOutcome :=
  match shadow with
  | some (.ok result) => some (.ok result)
  | _ => served.or shadow

def run (scene : Scene) (canary : CanaryConfig) (primary : PrimaryConfig) (routing : RoutingDecision)
    (selection : Selection) (candidate : Option (Engine σ)) (request : EngineRequest) :
    Attempt (World σ) ShadowOutcome := do
  let served := selection.candidateResult?
  if !canary.shadowEnabled then
    let diff ← Attempt.lift (served.mapM fun result => scene.compare result selection.safety)
    return ⟨selection.attempt, selection.safety, diff, none, false⟩
  else if primary.enabled && routing.skippedReason == some "rollback_active" && served.isNone then
    return ⟨selection.attempt, selection.safety, none, none, true⟩
  else
    let shadowAttempt ← match served with
      | some _ => pure none
      | none => do
        let force := if canary.forceShadowError then some forcedMessage else none
        pure (some (← Engine.executeIfConfigured candidate "v2" request errorCode force))
    let attempt := mergeAttempts selection.attempt shadowAttempt
    let result := served.or (shadowAttempt.bind EngineOutcome.result?)
    let safety ← match result with
      | some result => Attempt.lift (SafetyTriggers.ofResult result primary)
      | none => pure selection.safety
    let diff ← Attempt.lift (result.mapM fun result => scene.compare result safety)
    let record := chooseRecord scene canary.forceShadowError (selection.attempt.any EngineOutcome.isOk) diff shadowAttempt
    keep scene.runId record canary.maxShadowDiffs
    return ⟨attempt, safety, diff, some record, false⟩

end Shadow

end CanaryGate
