import CanaryGate.Validation.Checked

/-!
# Engine records

Which engine was served, what its safety triggers were, and how an attempt failed.
-/

namespace CanaryGate

/-- The engine whose result is served. -/
inductive EngineName where
  /-- The baseline. -/
  | v1
  /-- The candidate. -/
  | v2
  deriving DecidableEq, Repr

namespace EngineName

def text : EngineName → String
  | v1 => "v1"
  | v2 => "v2"

def read : Reader EngineName := Reader.word [("v1", v1), ("v2", v2)]

end EngineName

structure SafetyTriggers where
  timeoutReached : Bool
  maxCyclesReached : Bool
  deriving DecidableEq, Repr

namespace SafetyTriggers

def none : SafetyTriggers := ⟨false, false⟩

def read : Reader SafetyTriggers := Reader.record fun f =>
  SafetyTriggers.mk
    <$> Fields.defaulted f "timeout_reached" false Reader.boolean
    <*> Fields.defaulted f "max_cycles_reached" false Reader.boolean

def toFields (t : SafetyTriggers) : Fields :=
  [("timeout_reached", .bool t.timeoutReached), ("max_cycles_reached", .bool t.maxCyclesReached)]

end SafetyTriggers

/-- How an attempt failed. -/
structure ErrorInfo where
  code : String
  name : String
  message : String
  deriving DecidableEq, Repr

namespace ErrorInfo

def read : Reader ErrorInfo := Reader.record fun f =>
  ErrorInfo.mk
    <$> Fields.required f "code" Reader.text
    <*> Fields.required f "name" Reader.text
    <*> Fields.required f "message" Reader.text

def toFields (e : ErrorInfo) : Fields :=
  [("code", .str e.code), ("name", .str e.name), ("message", .str e.message)]

end ErrorInfo

/-- A mapping of names to integers as a document. -/
def integersToJson (entries : List (String × Int)) : Json :=
  .obj (entries.map fun e => (e.1, .int e.2))

end CanaryGate
