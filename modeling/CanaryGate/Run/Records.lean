import CanaryGate.Decision.Records
import CanaryGate.Json.Wide
import CanaryGate.Text.Blank
import CanaryGate.Time.Timestamp

/-!
# Run requests and responses

What a client sends to have a run made, and what it gets back.
-/

namespace CanaryGate

/-- Who asks for a run. Nothing keeps these texts from holding halves of surrogate pairs. -/
structure Actor where
  type : Option (List Point)
  id : Option (List Point)
  deriving DecidableEq, Repr

namespace Actor

/-- Nobody in particular. -/
def unknown : Actor := ⟨none, none⟩

def read : Reader Actor := Reader.record fun f =>
  Actor.mk
    <$> Fields.defaulted f "type" none (Reader.optional Reader.points)
    <*> Fields.defaulted f "id" none (Reader.optional Reader.points)

/-- The actor of a wide document. -/
def ofWide (wide : Json) : Actor := ⟨wide.wideText? "type", wide.wideText? "id"⟩

def toFields (a : Actor) : Fields :=
  let text (s : List Point) : Json := .str (Point.toText s)
  [("type", Json.optional text a.type), ("id", Json.optional text a.id)]

end Actor

structure RunRequest where
  actor : Actor
  idempotencyKey : Option String
  recordedAt : Option String
  intents : List Fields
  assetValues : List (String × Binary64)
  edgeIntents : List Fields
  maxProposals : Int
  /-- The first halves of surrogate pairs in what is passed on to the engines. The values above show them only. -/
  halves : Option Unencodable
  deriving Repr

namespace RunRequest

/-- The letter for a zero offset written as a numeric one. -/
def numericOffset (s : String) : String :=
  String.ofList (s.toList.flatMap fun c => if c = 'Z' then "+00:00".toList else [c])

/-- A request time: a stripped timestamp, or none for a blank text. -/
def readTime : Reader (Option String) := fun input =>
  (Reader.optional Reader.text input).thenRead fun
    | none => .accepted none
    | some s =>
      if blank s then .accepted none
      else if Timestamp.isTimestamp (numericOffset (strip s)) then .accepted (some (strip s))
      else .trouble .refusedValue

def readMappings : Reader (List Fields) := Reader.list (Reader.mapping Reader.anything)

def readFields (f : Fields) : Checked RunRequest :=
  (fun actor idempotencyKey recordedAt intents assetValues edgeIntents maxProposals =>
      RunRequest.mk actor idempotencyKey recordedAt intents assetValues edgeIntents maxProposals none)
    <$> Fields.defaulted f "actor" Actor.unknown Actor.read
    <*> Fields.defaulted f "idempotency_key" none (Reader.optional (Reader.textUpTo 256))
    <*> Fields.defaulted f "recorded_at" none readTime
    <*> Fields.defaulted f "intents" [] readMappings
    <*> Fields.defaulted f "asset_values_usd" [] (Reader.mapping Reader.number)
    <*> Fields.defaulted f "edge_intents" [] readMappings
    <*> Fields.defaulted f "max_proposals" 50 (Reader.integerWithin 1 1000)

/-- A request as it is shown. -/
def read : Reader RunRequest := Reader.record readFields

/-- Half of a pair stands in what the engines are told of a wide document. -/
def tellsHalves (wide : Json) : Bool :=
  (wide.field? "intents").any Json.torn
    || (((wide.field? "asset_values_usd").bind Json.fields?).getD []).any (fun entry => Json.tornText entry.1)
    || (wide.field? "edge_intents").any Json.torn
    || (wide.wideText? "recorded_at").any fun time => !Point.whole time

/-- What the engines are told of a wide document, asset values as they were read. -/
def told (wide : Json) (assetValues : List Binary64) : Json :=
  let part (name : String) (default : Json) := (wide.field? name).getD default
  let time := trimBoth (Point.isIn isBlank) ((wide.wideText? "recorded_at").getD [])
  .obj [
    ("intents", part "intents" (.arr [])),
    ("asset_values_usd", .obj (List.zipWith (fun entry x => (entry.1, .float x))
      ((part "asset_values_usd" (.obj [])).fields?.getD []) assetValues)),
    ("edge_intents", part "edge_intents" (.arr [])),
    ("now_iso", .str (String.ofList (Point.pack time)))]

/-- The first halves of pairs in what the engines are told, by their place in its document. -/
def halvesOf (wide : Json) (assetValues : List Binary64) : Option Unencodable :=
  if tellsHalves wide then
    some (Point.firstHalves (Point.unpack ((told wide assetValues).write .compact)))
  else none

/-- A request that was read as it is shown, with what the wide document holds beyond that. -/
def ofWide (wide : Json) (r : RunRequest) : RunRequest :=
  { r with actor := Actor.ofWide (wide.fieldD "actor"), halves := halvesOf wide (r.assetValues.map (·.2)) }

/-- The length of a text counts, and one with halves of pairs has none. -/
def readKey (wide : Json) : Checked Unit :=
  if (wide.field? "idempotency_key").any Json.torn then .refused [⟨[.field "idempotency_key"], .notUnicode⟩]
  else .accepted ()

/-- A request in a wide document. -/
def readWide : Reader RunRequest := fun wide => (fun r _ => ofWide wide r) <$> read wide.shown <*> readKey wide

def toFields (r : RunRequest) : Fields := [
  ("actor", .obj r.actor.toFields),
  ("idempotency_key", Json.optional .str r.idempotencyKey),
  ("recorded_at", Json.optional .str r.recordedAt),
  ("intents", .arr (r.intents.map .obj)),
  ("asset_values_usd", .obj (r.assetValues.map fun e => (e.1, .float e.2))),
  ("edge_intents", .arr (r.edgeIntents.map .obj)),
  ("max_proposals", .int r.maxProposals)]

end RunRequest

/-- The answer to a request for a run. -/
structure RunResponse where
  runId : String
  recordedAt : String
  primaryEngine : EngineName
  proposals : List Fields
  decision : DecisionRecord
  deriving Repr

namespace RunResponse

/-- The most levels that a field of a proposal can be sent with. -/
def levelLimit : Nat := 255

def sendable (r : RunResponse) : Bool := r.proposals.all fun fields => decide (Json.fieldsLevels fields ≤ levelLimit)

def read : Reader RunResponse := Reader.record fun f =>
  RunResponse.mk
    <$> Fields.required f "run_id" Reader.text
    <*> Fields.required f "recorded_at" Reader.text
    <*> Fields.required f "primary_engine" EngineName.read
    <*> Fields.defaulted f "proposals" [] RunRequest.readMappings
    <*> Fields.required f "decision_record" DecisionRecord.read

def toFields (r : RunResponse) : Fields := [
  ("run_id", .str r.runId),
  ("recorded_at", .str r.recordedAt),
  ("primary_engine", .str r.primaryEngine.text),
  ("proposals", .arr (r.proposals.map .obj)),
  ("decision_record", .obj r.decision.toFields)]

end RunResponse

end CanaryGate
