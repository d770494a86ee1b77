import CanaryGate.Config.Settings
import CanaryGate.Engine.Remote
import CanaryGate.Gateway.Call
import CanaryGate.Observe.LogLevel
import CanaryGate.Run.Loop
import CanaryGate.Store.FileTree

/-!
# The gateway

The service behind the endpoints. Its store is opened when it is first needed and kept until the service
is restarted; what is on disk outlives a restart, and the counters do too.
-/

namespace CanaryGate

/-- The gateway between two calls, on a network with a state of type `σ`. -/
structure Gateway (σ : Type) where
  store : Option Store
  /-- Where state files are kept. -/
  files : FileTree
  metrics : Metrics
  threshold : LogLevel
  network : σ

/-- What a call meets: the environment, the clock, an id nobody has used, and whether spans can be made. -/
structure Conditions where
  environment : Environment
  now : Instant
  freshId : String
  tracing : Except String Unit

namespace Environment

def runConfigs (env : Environment) : RunConfigs :=
  ⟨canary env, primary env, altShadow env, baselineMatcher, candidateMatcher env⟩

def remoteEngine (env : Environment) (network : Http.Network σ) (correlationId engine : String) :
    Option (Engine σ) :=
  (engineUrl env engine).map fun url => (RemoteEngine.ofAddress engine url (some correlationId)).toEngine network

/-- The engines of a run; none without an address of the baseline. -/
def runEngines (env : Environment) (network : Http.Network σ) (correlationId : String) :
    Except Fault (Option (RunEngines σ)) := do
  let _ ← engineTimeout env
  return (remoteEngine env network correlationId "v1").map fun baseline =>
    ⟨some baseline, remoteEngine env network correlationId "v2", remoteEngine env network correlationId "alt"⟩

/-- The documents of the configuration. -/
def observed (env : Environment) : Fields := [
  ("engines", .obj (["v1", "v2", "alt"].map fun engine => (engine, Json.optional .str (engineUrl env engine)))),
  ("canary", .obj (canary env).toFields),
  ("primary", .obj (primary env).toFields),
  ("alt_shadow", .obj (altShadow env).toFields)]

end Environment

namespace Gateway

def serviceName : String := "matching-gateway"

def version : String := "0.1.0"

/-- The words for a missing baseline. -/
def notConfigured : Reply := .refused 503 "v1 matching engine not configured"

def start (files : FileTree) (network : σ) : Gateway σ := ⟨none, files, .zero, .info, network⟩

/-- The files with what a store leaves. A store that holds nothing has not been written. -/
def filesAfter (files : FileTree) (store : Store) : FileTree :=
  match store.disk with
  | some disk => if store.namespaces.isEmpty then files else files.keep disk.path.toList disk.entry
  | none => files

/-- The service starts again: the store is closed, and its file stays. -/
def restart (g : Gateway σ) : Gateway σ :=
  { g with store := none, files := (g.store.map (filesAfter g.files)).getD g.files }

def opened (g : Gateway σ) (env : Environment) : Except Fault Store :=
  match g.store with
  | some store => .ok store
  | none =>
    match env.statePath with
    | none => .ok (.inMemory [])
    | some path => Store.openFile ⟨path, g.files.entryOf path.toList, []⟩

/-- Answers with the store. A fault that nobody expected breaks the call. -/
def withStore (g : Gateway σ) (env : Environment) (answer : Attempt (World σ) Reply) : Reply × Gateway σ :=
  match g.opened env with
  | .error _ => (.broken, g)
  | .ok store =>
    let (reply, w) := answer.outcome ⟨store, g.metrics, [], g.network⟩
    (match reply with
      | .ok reply => reply
      | .error _ => .broken,
      { g with store := some w.store, metrics := w.metrics, network := w.engines })

def makeRun (c : Conditions) (network : Http.Network σ) (call : Call) (body : CallBody) :
    Attempt (World σ) Reply := do
  match ← Attempt.lift (c.environment.runEngines network (call.correlationId c.freshId)) with
  | none => return notConfigured
  | some engines =>
    match body.runRequest with
    | .error reply => return reply
    | .ok request =>
      match ← (Run.make engines c.now request c.environment.runConfigs call.idempotencyKey).settled with
      | .ok r =>
        let response : RunResponse := ⟨r.runId, r.recordedAt, r.primaryEngine, r.proposals, r.decision⟩
        return if response.sendable then .ok (.obj response.toFields) else .broken
      | .error (.baselineFailed ..) => return .refused 502 "matching baseline engine failed"
      | .error fault => Attempt.stop fault

/-- A record as it is stored under a run id. A record has to be an object. -/
def storedRecord (space runId kind : String) : Attempt (World σ) Reply := do
  match ← World.onStore (Store.get space runId .null) with
  | .null => return .refused 404 ("no " ++ kind ++ " for run " ++ runId)
  | .obj fields => return .ok (.obj fields)
  | _ => Attempt.stop .unsuitable

/-- Whether the baseline engine is there. -/
def readiness (c : Conditions) (network : Http.Network σ) (call : Call) (g : Gateway σ) : Reply × Gateway σ :=
  match c.environment.engineUrl "v1" with
  | none => (notConfigured, g)
  | some url =>
    let engine := RemoteEngine.ofAddress "v1" url (some (call.correlationId c.freshId))
    let (answer, s) := engine.ping network g.network
    (match answer with
      | .ok () => .ok (.obj [("ready", .bool true), ("v1_engine", .str "healthy")])
      | .error _ => .refused 503 "v1 matching engine not ready", { g with network := s })

/-- Whether logging and tracing work. -/
def observability (c : Conditions) (call : Call) (g : Gateway σ) : Reply :=
  let (status, span) := match c.tracing with
    | .ok () => ("healthy", "success")
    | .error message => ("degraded", "failed: " ++ message)
  .ok (.obj [
    ("logging", .obj [("status", .str "healthy"), ("level", .int g.threshold.severity)]),
    ("tracing", .obj [("status", .str status), ("service_name", .str serviceName), ("test_span", .str span)]),
    ("correlation_id", .str (call.correlationId c.freshId))])

def configuration (c : Conditions) (g : Gateway σ) : Reply :=
  let setting (name default : String) : Json := .str ((c.environment.get? name).getD default)
  .ok (.obj ([
    ("service", .obj [("name", .str serviceName), ("version", .str version)]),
    ("logging", .obj [("level", .str g.threshold.text), ("handlers", .arr [.str "StreamHandler"])]),
    ("tracing", .obj [("otlp_endpoint", setting "OTLP_ENDPOINT" "not_set"),
      ("trace_console", setting "TRACE_CONSOLE" "false")])] ++ c.environment.observed))

def changeLogLevel (call : Call) (g : Gateway σ) : Reply × Gateway σ :=
  match call.query.last? "level" with
  | none => (.issues [⟨[.field "query", .field "level"], .missing⟩], g)
  | some word =>
    match LogLevel.read word with
    | none =>
      (.refused 400 ("Invalid log level: " ++ word ++ ". Valid levels: DEBUG, INFO, WARNING, ERROR, CRITICAL"), g)
    | some level =>
      (.ok (.obj [("success", .bool true), ("old_level", .str g.threshold.text), ("new_level", .str (upperCase word))]),
        { g with threshold := level })

def answerAt (c : Conditions) (network : Http.Network σ) (call : Call) (g : Gateway σ) :
    Endpoint → Reply × Gateway σ
  | .health => (.ok (.obj [("ok", .bool true), ("version", .str version)]), g)
  | .readiness => readiness c network call g
  | .metrics => (⟨200, .plain, .lines g.metrics.lines⟩, g)
  | .observability => (observability c call g, g)
  | .configuration => (configuration c g, g)
  | .logLevel => changeLogLevel call g
  | .runs =>
    match call.readBody with
    | .error reply => (reply, g)
    | .ok body => g.withStore c.environment (makeRun c network call body)
  | .decision id => g.withStore c.environment (storedRecord Run.decisionSpace id "canary decision")
  | .shadowDiff id => g.withStore c.environment (storedRecord Shadow.space id "shadow diff")
  | .altShadowDiff id => g.withStore c.environment (storedRecord AltShadow.space id "alternate shadow diff")
  | .canaryState => g.withStore c.environment do return .ok (.obj (← Rollback.load).toFields)
  | .rollbackReset => g.withStore c.environment do
    return .ok (.obj [("reset", .bool true), ("state", .obj (← Rollback.reset).toFields)])
  | .page page => (.page page, g)

def answerFully (c : Conditions) (network : Http.Network σ) (call : Call) (g : Gateway σ) : Reply × Gateway σ :=
  match Endpoint.find? call.path with
  | none => (.refused 404 "Not Found", g)
  | some endpoint =>
    if endpoint.methods.contains call.method then answerAt c network call g endpoint
    else (.refused 405 "Method Not Allowed", g)

/-- Answers a call. One that asks for the head of a reply gets no content. -/
def answer (c : Conditions) (network : Http.Network σ) (call : Call) (g : Gateway σ) : Reply × Gateway σ :=
  let (reply, g) := answerFully c network call g
  (if call.method = "HEAD" then reply.bare else reply, g)

end Gateway

end CanaryGate
