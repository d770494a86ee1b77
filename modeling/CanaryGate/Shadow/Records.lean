import CanaryGate.Engine.Records

/-!
# Shadow records

What is stored about a shadow comparison, or about an attempt at one that failed.
-/

namespace CanaryGate

/-- The candidate compared with the baseline. -/
structure DiffRecord where
  runId : String
  recordedAt : String
  baselineBounds : List (String × Int)
  candidateBounds : List (String × Int)
  metrics : Fields
  safety : SafetyTriggers
  selectedKeys : Fields
  deriving Repr

namespace DiffRecord

def read : Reader DiffRecord := Reader.record fun f =>
  DiffRecord.mk
    <$> Fields.required f "run_id" Reader.text
    <*> Fields.required f "recorded_at" Reader.text
    <*> Fields.required f "v1_cycle_bounds" (Reader.mapping Reader.integer)
    <*> Fields.required f "v2_cycle_bounds" (Reader.mapping Reader.integer)
    <*> Fields.required f "metrics" (Reader.mapping Reader.anything)
    <*> Fields.required f "v2_safety_triggers" SafetyTriggers.read
    <*> Fields.required f "selected_cycle_keys" (Reader.mapping Reader.anything)

def toFields (r : DiffRecord) : Fields := [
  ("run_id", .str r.runId),
  ("recorded_at", .str r.recordedAt),
  ("v1_cycle_bounds", integersToJson r.baselineBounds),
  ("v2_cycle_bounds", integersToJson r.candidateBounds),
  ("metrics", .obj r.metrics),
  ("v2_safety_triggers", .obj r.safety.toFields),
  ("selected_cycle_keys", .obj r.selectedKeys)]

end DiffRecord

/-- An alternate engine compared with the served result. -/
structure AltShadowRecord where
  runId : String
  recordedAt : String
  primaryEngine : EngineName
  bounds : List (String × Int)
  metrics : Fields
  safety : SafetyTriggers
  selectedKeys : Fields
  deriving Repr

namespace AltShadowRecord

def read : Reader AltShadowRecord := Reader.record fun f =>
  AltShadowRecord.mk
    <$> Fields.required f "run_id" Reader.text
    <*> Fields.required f "recorded_at" Reader.text
    <*> Fields.required f "primary_engine" EngineName.read
    <*> Fields.required f "matcher_cycle_bounds" (Reader.mapping Reader.integer)
    <*> Fields.required f "metrics" (Reader.mapping Reader.anything)
    <*> Fields.required f "alt_safety_triggers" SafetyTriggers.read
    <*> Fields.required f "selected_cycle_keys" (Reader.mapping Reader.anything)

def toFields (r : AltShadowRecord) : Fields := [
  ("run_id", .str r.runId),
  ("recorded_at", .str r.recordedAt),
  ("primary_engine", .str r.primaryEngine.text),
  ("matcher_cycle_bounds", integersToJson r.bounds),
  ("metrics", .obj r.metrics),
  ("alt_safety_triggers", .obj r.safety.toFields),
  ("selected_cycle_keys", .obj r.selectedKeys)]

end AltShadowRecord

/-- A shadow attempt that failed. -/
structure ShadowErrorRecord where
  runId : String
  recordedAt : String
  primaryEngine : Option EngineName
  error : ErrorInfo
  deriving DecidableEq, Repr

namespace ShadowErrorRecord

def read : Reader ShadowErrorRecord := Reader.record fun f =>
  ShadowErrorRecord.mk
    <$> Fields.required f "run_id" Reader.text
    <*> Fields.required f "recorded_at" Reader.text
    <*> Fields.defaulted f "primary_engine" none (Reader.optional EngineName.read)
    <*> Fields.required f "error" ErrorInfo.read

def toFields (r : ShadowErrorRecord) : Fields := [
  ("run_id", .str r.runId),
  ("recorded_at", .str r.recordedAt),
  ("primary_engine", Json.optional (fun e => .str e.text) r.primaryEngine),
  ("error", .obj r.error.toFields)]

end ShadowErrorRecord

end CanaryGate
