import CanaryGate.Config.Settings
import CanaryGate.Observe.LogLevel

/-!
# Tracing set-up

Where spans are exported to. An exporter that cannot be made is noted and left out.
-/

namespace CanaryGate

/-- Where spans are exported to. -/
inductive Exporter where
  | endpoint (address : String)
  | console
  deriving DecidableEq, Repr

/-- Something noted for the log. -/
structure Note where
  level : LogLevel
  text : String
  fields : Fields

/-- The exporters in use, and what was noted while they were made. -/
structure TracingSetUp where
  exporters : List Exporter
  notes : List Note

namespace TracingSetUp

/-- The exporter to the endpoint of the environment; connecting to it may fail with a message. -/
def endpointExporter (env : Environment) (connect : String → Except String Unit) : List Exporter × List Note :=
  match Setting.text (env.get? "OTLP_ENDPOINT") with
  | none => ([], [])
  | some address =>
    match connect address with
    | .ok () => ([.endpoint address], [])
    | .error message => ([], [⟨.warning, "Failed to configure OTLP exporter", [("error", .str message)]⟩])

def consoleExporter (env : Environment) : List Exporter :=
  if (env.get? "TRACE_CONSOLE").any fun s => lowerAscii s = "true" then [.console] else []

def make (service : String) (version : Option Json) (env : Environment) (connect : String → Except String Unit) :
    TracingSetUp :=
  let (remote, notes) := endpointExporter env connect
  let exporters := remote ++ consoleExporter env
  ⟨exporters, notes ++ [⟨.info, "Distributed tracing initialized", [("service_name", .str service),
    ("service_version", version.getD (.str "unknown")), ("exporters", .int exporters.length)]⟩]⟩

end TracingSetUp

end CanaryGate
