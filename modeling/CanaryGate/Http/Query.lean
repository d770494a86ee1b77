import CanaryGate.Http.Address
import CanaryGate.Json.Display

/-!
# Queries

The query of an address as names and values, in order. A name may be given several times.
-/

namespace CanaryGate

namespace Http

/-- Names and values of a query. -/
abbrev Query := List (String × String)

namespace Query

/-- A name or a value as it is written in a query: a plus sign stands for a space. -/
def readPart (s : List Char) : String :=
  String.ofList (Percent.unescape (s.map fun c => if c = '+' then ' ' else c))

/-- One name with its value, which is empty if nothing is said about it. -/
def readItem (s : List Char) : String × String :=
  let (name, value) := Address.cutAt (· = '=') s
  (readPart name, readPart (value.getD []))

/-- Reads a query. Nothing between two signs is no item. -/
def read (s : List Char) : Query := ((pieces '&' s).filter fun item => !item.isEmpty).map readItem

def valueText : Json → String
  | .null => ""
  | .bool true => "true"
  | .bool false => "false"
  | value => value.display

/-- The query that gives the fields of a record; a list gives its field once for each item. -/
def ofFields (fields : Fields) : Query :=
  fields.flatMap fun (name, value) => match value with
    | .arr items => items.map fun item => (name, valueText item)
    | value => [(name, valueText value)]

def last? (query : Query) (name : String) : Option String :=
  ((query.filter fun item => item.1 = name).getLast?).map (·.2)

/-- Of a name that is given again only the new value counts. -/
theorem last?_append_self (query : Query) (name value : String) :
    last? (query ++ [(name, value)]) name = some value := by
  simp [last?]

end Query

end Http

end CanaryGate
