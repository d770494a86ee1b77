import CanaryGate.Validation.Checked
import CanaryGate.Window

/-!
# Rollback records

The latch as it is stored, with the window of samples that it judges, and what an update reports.
-/

namespace CanaryGate

/-- How one selected run went. -/
structure RunSample where
  runId : String
  recordedAt : String
  error : Bool
  timeout : Bool
  limited : Bool
  nonNegativeDelta : Bool
  deriving DecidableEq, Repr

namespace RunSample

def read : Reader RunSample := Reader.record fun f =>
  RunSample.mk
    <$> Fields.required f "run_id" Reader.text
    <*> Fields.required f "recorded_at" Reader.text
    <*> Fields.required f "error" Reader.boolean
    <*> Fields.required f "timeout" Reader.boolean
    <*> Fields.required f "limited" Reader.boolean
    <*> Fields.required f "non_negative_delta" Reader.boolean

def toFields (s : RunSample) : Fields := [
  ("run_id", .str s.runId),
  ("recorded_at", .str s.recordedAt),
  ("error", .bool s.error),
  ("timeout", .bool s.timeout),
  ("limited", .bool s.limited),
  ("non_negative_delta", .bool s.nonNegativeDelta)]

/-- The flags that the window counts. -/
def flags (s : RunSample) : SampleFlags := ⟨s.error, s.timeout, s.limited, s.nonNegativeDelta⟩

end RunSample

/-- The latch as others see it. -/
structure RollbackSnapshot where
  active : Bool
  reasonCode : Option String
  deriving DecidableEq, Repr

namespace RollbackSnapshot

def read : Reader RollbackSnapshot := Reader.record fun f =>
  RollbackSnapshot.mk
    <$> Fields.defaulted f "active" false Reader.boolean
    <*> Fields.defaulted f "reason_code" none (Reader.optional Reader.text)

def toFields (s : RollbackSnapshot) : Fields :=
  [("active", .bool s.active), ("reason_code", Json.optional .str s.reasonCode)]

end RollbackSnapshot

/-- The latch with its window. -/
structure RollbackState where
  active : Bool
  reasonCode : Option String
  activatedAt : Option String
  runId : Option String
  recentSamples : List RunSample
  deriving DecidableEq, Repr

namespace RollbackState

/-- Open, with an empty window. -/
def clear : RollbackState := ⟨false, none, none, none, []⟩

def read : Reader RollbackState := Reader.record fun f =>
  RollbackState.mk
    <$> Fields.defaulted f "rollback_active" false Reader.boolean
    <*> Fields.defaulted f "rollback_reason_code" none (Reader.optional Reader.text)
    <*> Fields.defaulted f "rollback_activated_at" none (Reader.optional Reader.text)
    <*> Fields.defaulted f "rollback_run_id" none (Reader.optional Reader.text)
    <*> Fields.defaulted f "recent_samples" [] (Reader.list RunSample.read)

def toFields (s : RollbackState) : Fields := [
  ("rollback_active", .bool s.active),
  ("rollback_reason_code", Json.optional .str s.reasonCode),
  ("rollback_activated_at", Json.optional .str s.activatedAt),
  ("rollback_run_id", Json.optional .str s.runId),
  ("recent_samples", .arr (s.recentSamples.map fun sample => .obj sample.toFields))]

/-- What others see of the state. -/
def snapshot (s : RollbackState) : RollbackSnapshot := ⟨s.active, s.reasonCode⟩

end RollbackState

/-- What an update found and did. -/
structure RollbackUpdate where
  before : RollbackSnapshot
  after : RollbackSnapshot
  summary : Fields
  triggered : Bool
  deriving Repr

namespace RollbackUpdate

def read : Reader RollbackUpdate := Reader.record fun f =>
  RollbackUpdate.mk
    <$> Fields.required f "before" RollbackSnapshot.read
    <*> Fields.required f "after" RollbackSnapshot.read
    <*> Fields.required f "summary" (Reader.mapping Reader.anything)
    <*> Fields.required f "triggered" Reader.boolean

def toFields (u : RollbackUpdate) : Fields := [
  ("before", .obj u.before.toFields),
  ("after", .obj u.after.toFields),
  ("summary", .obj u.summary),
  ("triggered", .bool u.triggered)]

end RollbackUpdate

end CanaryGate
