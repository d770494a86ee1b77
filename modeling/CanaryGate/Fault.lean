import CanaryGate.Json.Reader
import CanaryGate.Text.Point
import CanaryGate.Text.Quoted
import CanaryGate.Validation.Issue

/-!
# Faults

The causes for which an operation stops without a result, and the words for each.
-/

namespace CanaryGate

/-- Why an operation stopped. -/
inductive Fault where
  /-- A value without fields was asked for one. -/
  | noFields
  /-- A value of a kind the operation does not take. -/
  | unsuitable
  /-- No item has the index. -/
  | noSuchItem
  /-- An index is larger than any list. -/
  | hugeIndex
  /-- A text is no numeral. -/
  | numeral (error : NumeralError)
  /-- An infinite double was to become an integer. -/
  | infiniteInteger
  /-- Not-a-number was to become an integer. -/
  | nanInteger
  /-- An integer was to become a double beyond the range of doubles. -/
  | doubleRange
  /-- An integer has too many digits to be written. -/
  | integerTooLong
  /-- A value is too deep to be shown. -/
  | tooDeepToShow
  /-- A text holds half of a pair, so there are no bytes for it. -/
  | unencodable (error : Unencodable)
  /-- A text is no document, or a value is too deep to become one. -/
  | document (error : Json.ReadError)
  /-- The state file at a path holds something else than an object. -/
  | stateNotObject (path : String)
  /-- The state file cannot be replaced because its path is a directory. -/
  | pathIsDirectory
  /-- The state file cannot be written because its path leads nowhere. -/
  | pathUnreachable
  /-- A transaction was broken off on purpose. -/
  | interrupted (message : String)
  /-- A record was refused. -/
  | invalid (issues : List Issue)
  /-- A text was taken for the name of a log level. -/
  | unknownLogLevel (text : String)
  /-- An extra field of a log line has the name of a field that is taken. -/
  | takenLogField (name : String)
  /-- The baseline engine failed, and there is no result to serve. -/
  | baselineFailed (name message : String)
  deriving DecidableEq, Repr

namespace NumeralError

/-- How much of a quoted text the words for a refused integer show. -/
def shownLimit : Nat := 200

/-- The words for a text that is no numeral. -/
def message : NumeralError → String
  | notInteger text =>
    "invalid literal for int() with base 10: " ++ String.ofList ((Quoted.quote text.toList).take shownLimit)
  | notNumber text => "could not convert string to float: " ++ String.ofList (Quoted.quote text.toList)
  | tooManyDigits count => Json.tooManyDigitsWords count

end NumeralError

namespace Fault

/-- The words for a fault; some causes have none. -/
def message : Fault → String
  | numeral error => error.message
  | infiniteInteger => "cannot convert float infinity to integer"
  | nanInteger => "cannot convert float NaN to integer"
  | doubleRange => "int too large to convert to float"
  | integerTooLong =>
    "Exceeds the limit (" ++ toString Numeral.digitLimit
      ++ " digits) for integer string conversion; use sys.set_int_max_str_digits() to increase the limit"
  | tooDeepToShow => "maximum recursion depth exceeded while getting the repr of an object"
  | unencodable error => error.message
  | document error => error.message
  | stateNotObject path => "state file " ++ path ++ " does not hold a JSON object"
  | noSuchItem => "list assignment index out of range"
  | hugeIndex => "cannot fit 'int' into an index-sized integer"
  | interrupted text => text
  | unknownLogLevel text => "Unknown level: " ++ String.ofList (Quoted.quote text.toList)
  | takenLogField name =>
    String.ofList (Quoted.quote ("Attempt to overwrite " ++ String.ofList (Quoted.quote name.toList)
      ++ " in LogRecord").toList)
  | baselineFailed name text => name ++ ": " ++ text
  | noFields | unsuitable | pathIsDirectory | pathUnreachable | invalid _ => ""

end Fault

end CanaryGate
