import CanaryGate.Decision.Selection
import CanaryGate.Shadow.Records

/-!
# The alternate shadow

Cross-checks the served result against an independent engine, and keeps the outcome under the run id
in a bounded history of its own.
-/

namespace CanaryGate

namespace EngineName

/-- The engine of a name; a record is not made for another one. -/
def check (name : String) : Except Fault EngineName :=
  match (Reader.word [("v1", v1), ("v2", v2)] (.str name)).under (.field "primary_engine") with
  | .accepted engine => .ok engine
  | .refused issues => .error (.invalid issues)

@[simp] theorem check_text (engine : EngineName) : check engine.text = .ok engine := by
  cases engine <;> rfl

end EngineName

/-- What the alternate shadow keeps. -/
inductive AltRecord where
  | diff (record : AltShadowRecord)
  | error (record : ShadowErrorRecord)

namespace AltRecord

def toFields : AltRecord → Fields
  | diff record => record.toFields
  | error record => record.toFields

def kind : AltRecord → RecordKind
  | diff _ => .diff
  | error _ => .error

end AltRecord

namespace AltShadow

/-- The namespace of the cross-checks. -/
def space : String := "marketplace_matching_alt_shadow_diffs"

def errorCode : String := "matching_alt_shadow_failed"

/-- The record of an execution beside the served result. Only a failure can be recorded without the name of
the served engine. -/
def recordOf (runId recordedAt : String) (served : Option String) (servedResult : Json) (matcher : MatcherConfig)
    (limit : Json) : EngineOutcome → Except Fault AltRecord
  | .ok result => do
    let c ← Comparison.ofResults servedResult result limit
    let signals ← safetySignals result
    let engine ← EngineName.check (served.getD "")
    return .diff ⟨runId, recordedAt, engine, matcher.cycleBounds, c.metrics "primary" "alt",
      ⟨signals.timedOut, signals.limited⟩, c.selectedKeys "primary" "alt"⟩
  | .err code failure => do
    let engine ← served.mapM EngineName.check
    return .error ⟨runId, recordedAt, engine, ⟨code, failure.name, failure.message⟩⟩

/-- Runs the alternate shadow, if it is on. The engine gets the matcher configuration of the served
engine. -/
def run (runId recordedAt : String) (config : AltShadowConfig) (served : Option String) (servedResult : Json)
    (matcher : MatcherConfig) (engine : Option (Engine σ)) (request : EngineRequest) (limit : Json) :
    Attempt (World σ) (Option AltRecord) :=
  if !config.enabled then return none
  else do
    let force := if config.forceShadowError then some "forced matching alt shadow error" else none
    let outcome ← Engine.executeIfConfigured engine "alternate" { request with config := matcher } errorCode force
    let record ← Attempt.lift (recordOf runId recordedAt served servedResult matcher limit outcome)
    World.observe fun m => { m with shadowRecords := m.shadowRecords.bump (.alternate, record.kind) }
    let _ ← World.onStore (Store.putAndPrune space runId (.obj record.toFields) config.maxShadowDiffs)
    return some record

end AltShadow

end CanaryGate
