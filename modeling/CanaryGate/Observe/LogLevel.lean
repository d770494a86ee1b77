import CanaryGate.Text.Uppercase

/-!
# Log levels

How urgent a log line is, and from which urgency on lines are written.
-/

namespace CanaryGate

inductive LogLevel where
  /-- Everything is written. -/
  | notset
  | debug
  | info
  | warning
  | error
  | critical
  deriving DecidableEq, Repr

namespace LogLevel

/-- The number by which levels are compared. -/
def severity : LogLevel → Nat
  | notset => 0
  | debug => 10
  | info => 20
  | warning => 30
  | error => 40
  | critical => 50

def text : LogLevel → String
  | notset => "NOTSET"
  | debug => "DEBUG"
  | info => "INFO"
  | warning => "WARNING"
  | error => "ERROR"
  | critical => "CRITICAL"

/-- The names of the levels, among them two that say the same as another one. -/
def names : List (String × LogLevel) := [
  ("NOTSET", notset), ("DEBUG", debug), ("INFO", info), ("WARNING", warning), ("WARN", warning),
  ("ERROR", error), ("CRITICAL", critical), ("FATAL", critical)]

def named? (name : String) : Option LogLevel := names.lookup name

def read (word : String) : Option LogLevel := named? (upperCase word)

/-- Lines of the level are written from the threshold on. -/
def passes (level threshold : LogLevel) : Bool := decide (threshold.severity ≤ level.severity)

@[simp] theorem named?_text (level : LogLevel) : named? level.text = some level := by
  cases level <;> rfl

end LogLevel

end CanaryGate
