import CanaryGate.Json.Coerce
import CanaryGate.Observe.LogLevel
import CanaryGate.Text.Template

/-!
# Log lines

Each line is an object: who wrote it, how urgent it is, what it says, the service it comes from, and the
ids that tie it to a request and to a span.
-/

namespace CanaryGate

/-- Where lines are written for a service, and from which level on. -/
structure LogSink where
  service : String
  threshold : LogLevel
  deriving DecidableEq, Repr

structure SpanIds where
  trace : String
  span : String
  deriving DecidableEq, Repr

structure LogEntry where
  level : LogLevel
  /-- A template, or an object whose fields go into the line. -/
  message : Json
  args : List Json
  extra : Fields
  /-- The name of the logger. -/
  logger : String
  /-- The id of the request, if there is one. -/
  correlationId : Json
  ids : Option SpanIds

namespace LogSink

/-- The format of a line that is no object, which a level name can be mistaken for. -/
def basicFormat : String := "%(levelname)s:%(name)s:%(message)s"

/-- The level that a name asks for. A name that is none asks for the usual level, but the names of two
other settings are taken for these settings, which are no levels. -/
def thresholdNamed (name : String) : Except Fault LogLevel :=
  if name = "BASIC_FORMAT" then .error (.unknownLogLevel basicFormat)
  else if name = "_STYLES" then .error .unsuitable
  else .ok ((LogLevel.named? name).getD .info)

/-- The name that is asked for: the one given unless it counts as false, else the one of the environment, else
the usual one. -/
def askedName (given : Json) (environment : Option String) : Except Fault String :=
  match given.orElse (.str (environment.getD "INFO")) with
  | .str name => .ok (upperCase name)
  | _ => .error .noFields

/-- The fields of an entry that are taken, so that extra fields must not have their names. -/
def takenNames : List String := [
  "name", "msg", "args", "levelname", "levelno", "pathname", "filename", "module", "exc_info", "exc_text",
  "stack_info", "lineno", "funcName", "created", "msecs", "relativeCreated", "thread", "threadName",
  "processName", "process", "message", "asctime"]

/-- The fields that every line has, beside those of `takenNames`. -/
def standingNames : List String := ["service_name", "trace_id", "span_id", "correlation_id"]

/-- What an entry says, with the fields that it brings along; none if the arguments do not fit. -/
def said (entry : LogEntry) : Option (String × Fields) :=
  match entry.message with
  | .obj fields => some ("", fields)
  | message => (Template.fill message.display entry.args).map fun text => (text, [])

def shown (extra : Fields) : Fields :=
  extra.filter fun f => !standingNames.contains f.1 && f.1.toList.head? != some '_'

/-- The line of an entry; none if its arguments do not fit. An entry without the id of a request gets a
fresh one. -/
def line (sink : LogSink) (freshId : String) (entry : LogEntry) : Option Fields := do
  let (text, brought) ← said entry
  let id := if entry.correlationId.truthy then entry.correlationId else .str freshId
  return Fields.ofList ([
    ("name", .str (if entry.logger = "" then "root" else entry.logger)),
    ("levelname", .str entry.level.text),
    ("message", .str text),
    ("trace_id", Json.optional (fun i => .str i.trace) entry.ids),
    ("span_id", Json.optional (fun i => .str i.span) entry.ids),
    ("correlation_id", id),
    ("service_name", .str sink.service)] ++ brought ++ shown entry.extra)

/-- The loggers of the server have lines of their own: what they and the loggers below them are given does
not come here. -/
def isServerLogger (logger : String) : Bool := logger = "uvicorn" || "uvicorn.".isPrefixOf logger

/-- The lines written for an entry: none below the threshold. -/
def write (sink : LogSink) (freshId : String) (entry : LogEntry) : Except Fault (List Fields) :=
  if !entry.level.passes sink.threshold then .ok []
  else match entry.extra.find? fun f => takenNames.contains f.1 with
    | some (name, _) => .error (.takenLogField name)
    | none => .ok (if isServerLogger entry.logger then [] else (sink.line freshId entry).toList)

/-- An entry of the sink's own service, outside any request. -/
def ownEntry (sink : LogSink) (level : LogLevel) (text : String) (extra : Fields) : LogEntry :=
  ⟨level, .str text, [], extra, sink.service, .null, none⟩

/-- Sets up logging for a service: the sink, and the lines that announce it. -/
def setUp (service : String) (given : Json) (environment : Option String) (freshId : String) :
    Except Fault (LogSink × List Fields) := do
  let name ← askedName given environment
  let sink : LogSink := ⟨service, ← thresholdNamed name⟩
  let lines ← sink.write freshId (sink.ownEntry .info "Structured logging initialized"
    [("log_level", .str name), ("service_name", .str service)])
  return (sink, lines)

end LogSink

end CanaryGate
