import CanaryGate.Json.Coerce
import CanaryGate.Json.Writer
import CanaryGate.Text.Blank

/-!
# Sanitized log text

The text of a value made safe for a log line. Text that is a document is written again in compact
form; all other text has its control characters escaped and is cut.
-/

namespace CanaryGate

namespace LogText

/-- The most characters an escaped text keeps. -/
def limit : Nat := 1000

/-- How one character of plain text is escaped. -/
def escape (c : Char) : List Char :=
  if c = backslash then [backslash, backslash]
  else if c = '\n' then [backslash, 'n']
  else if c = '\r' then [backslash, 'r']
  else if c = '\t' then [backslash, 't']
  else if c = doubleQuote then [backslash, doubleQuote]
  else [c]

/-- Text beyond the limit ends in three dots. -/
def cut (s : List Char) : List Char :=
  if limit < s.length then s.take (limit - 3) ++ ['.', '.', '.'] else s

def plain (s : String) : String := String.ofList (cut (s.toList.flatMap escape))

/-- The text starts, blanks aside, like an object, a list or a quoted text. -/
def looksLikeDocument (s : String) : Bool :=
  match (strip s).toList.head? with
  | some c => (c = '\x7b' || c = '[' || c = doubleQuote) && 1 < s.length
  | none => false

def sanitizeText (s : String) : Except Fault String :=
  if looksLikeDocument s then
    match Json.read s with
    | .ok value => .ok (value.render .compact)
    | .error (.flawed ..) => .ok (plain s)
    | .error error => .error (.document error)
  else .ok (plain s)

def sanitize (value : Json) : Except Fault String :=
  match value with
  | .null => .ok "null"
  | value => value.spelled >>= sanitizeText

end LogText

end CanaryGate
