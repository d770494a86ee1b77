import CanaryGate.Attempt
import CanaryGate.Config.Records
import CanaryGate.Observe.Metrics
import CanaryGate.Observe.Sanitize
import CanaryGate.Store.Transaction

/-!
# The engine boundary

Engines are opaque: they take intents, prices, edges, a time and a matcher configuration, and answer
with a result or fail. Executing one turns every failure into a value, so that whoever asked can go
on. An engine may keep a state of its own between calls.
-/

namespace CanaryGate

/-- What an engine is asked. All but the configuration is passed on as it was given. -/
structure EngineRequest where
  intents : Json
  assetValues : Json
  edgeIntents : Json
  now : Json
  config : MatcherConfig
  /-- The first halves of surrogate pairs in the payload, which shows them only. -/
  halves : Option Unencodable

namespace EngineRequest

def payload (r : EngineRequest) : Fields := [
  ("intents", r.intents),
  ("asset_values_usd", r.assetValues),
  ("edge_intents", r.edgeIntents),
  ("now_iso", r.now),
  ("config", .obj r.config.toFields)]

end EngineRequest

/-- Why an engine gave no result: the kind of failure, its words, and the response status if a
response was the reason. -/
structure EngineFailure where
  name : String
  message : String
  status : Option Int
  deriving DecidableEq, Repr

namespace EngineFailure

def forced (message : String) : EngineFailure := ⟨"ForcedEngineError", message, none⟩

def noResult : EngineFailure := ⟨"EngineResponseError", "engine result is missing a matching object", none⟩

end EngineFailure

/-- An engine with a state of type `σ`, which it shares with the other engines beside it. -/
structure Engine (σ : Type) where
  name : String
  respond : EngineRequest → σ → Except EngineFailure Json × σ

/-- What an execution came to. -/
inductive EngineOutcome where
  /-- A matching result. -/
  | ok (result : Json)
  /-- A failure, under the code of the attempt. -/
  | err (code : String) (failure : EngineFailure)

namespace EngineOutcome

def result? : EngineOutcome → Option Json
  | ok result => some result
  | err .. => none

/-- It came to a result. -/
def isOk : EngineOutcome → Bool
  | ok _ => true
  | err .. => false

/-- The failure as it is recorded. -/
def errorInfo? : EngineOutcome → Option ErrorInfo
  | ok _ => none
  | err code failure => some ⟨code, failure.name, failure.message⟩

def notConfigured (code engine : String) : EngineOutcome :=
  err code ⟨"EngineNotConfigured", "no " ++ engine ++ " matching engine configured", none⟩

end EngineOutcome

/-- An engine that was called, and what it was asked. -/
structure EngineCall where
  engine : String
  request : EngineRequest

/-- Everything that runs change: the store, the metrics, the calls made so far, and the state of the
engines. -/
structure World (σ : Type) where
  store : Store
  metrics : Metrics
  calls : List EngineCall
  engines : σ

namespace World

def storePart : Part (World σ) Store := ⟨fun w => w.store, fun w s => { w with store := s }⟩

def observe (f : Metrics → Metrics) : Attempt (World σ) Unit := Attempt.change fun w => { w with metrics := f w.metrics }

def onStore (a : Attempt Store α) : Attempt (World σ) α := a.on storePart

end World

/-- A result is an object with an object under its matching name. -/
def isMatchingResult (result : Json) : Bool := result.isObject && (result.fieldD "matching").isObject

theorem isMatchingResult_iff {result : Json} : isMatchingResult result = true ↔
    ∃ fields matching, result = .obj fields ∧ Fields.get fields "matching" = .obj matching := by
  constructor
  · intro h
    cases result with
    | obj fields =>
        change (Fields.get fields "matching").isObject = true at h
        cases found : Fields.get fields "matching" with
        | obj matching => exact ⟨fields, matching, rfl, found⟩
        | null | bool b | int n | float x | str s | arr items =>
            rw [found] at h
            cases h
    | null | bool b | int n | float x | str s | arr items => cases h
  · rintro ⟨fields, matching, rfl, found⟩
    show (Fields.get fields "matching").isObject = true
    rw [found]
    rfl

namespace Engine

/-- Asks an engine and checks that the answer is a matching result. -/
def ask (engine : Engine σ) (request : EngineRequest) : Attempt (World σ) (Except EngineFailure Json) :=
  Attempt.ofOutcome fun w =>
    let (answer, engines) := engine.respond request w.engines
    let checked := match answer with
      | .ok result => if isMatchingResult result then .ok result else .error .noResult
      | .error failure => .error failure
    (.ok checked, { w with engines, calls := w.calls ++ [⟨engine.name, request⟩] })

def countLatency (engine : Engine σ) : Attempt (World σ) Unit :=
  World.observe fun m => { m with latencies := m.latencies.bump engine.name }

/-- A failure under a code, which also stands in for missing words. The words are sanitized for the
log on the way. -/
def recordFailure (code : String) (failure : EngineFailure) : Except Fault EngineOutcome := do
  let _ ← LogText.sanitize (.str failure.message)
  return .err code { failure with message := if failure.message = "" then code else failure.message }

/-- Executes an engine. A failure asked for by name keeps the engine from being asked. -/
def execute (engine : Engine σ) (request : EngineRequest) (code : String) (force : Option String) :
    Attempt (World σ) EngineOutcome := do
  let answer ← match force.filter (· != "") with
    | some message => pure (.error (.forced message))
    | none => engine.ask request
  engine.countLatency
  match answer with
  | .ok result => return .ok result
  | .error failure => Attempt.lift (recordFailure code failure)

def executeIfConfigured (engine : Option (Engine σ)) (label : String) (request : EngineRequest)
    (code : String) (force : Option String) : Attempt (World σ) EngineOutcome :=
  match engine with
  | none => return .notConfigured code label
  | some engine => engine.execute request code force

end Engine

end CanaryGate
