import CanaryGate.Decimal.Layout
import CanaryGate.Json.Value
import CanaryGate.Text.Quoted

/-!
# Showing values in messages

The text of a value as part of a key or a message. A text shows as itself; inside a list or an
object it is quoted.
-/

namespace CanaryGate

namespace Json

mutual

/-- The text of a value inside another one. -/
def inner : Json → List Char
  | .null => "None".toList
  | .bool true => "True".toList
  | .bool false => "False".toList
  | .int n => integerText n
  | .float x => Layout.display.text x
  | .str s => Quoted.quote s.toList
  | .arr items => '[' :: (innerItems items ++ [']'])
  | .obj fields => '\x7b' :: (innerFields fields ++ ['\x7d'])

def innerItems : List Json → List Char
  | [] => []
  | [item] => inner item
  | item :: rest => inner item ++ ',' :: ' ' :: innerItems rest

def innerFields : List (String × Json) → List Char
  | [] => []
  | [(name, value)] => Quoted.quote name.toList ++ ':' :: ' ' :: inner value
  | (name, value) :: rest =>
    Quoted.quote name.toList ++ ':' :: ' ' :: (inner value ++ ',' :: ' ' :: innerFields rest)

end

/-- The text of a value. -/
def display : Json → String
  | .str s => s
  | value => String.ofList value.inner

end Json

end CanaryGate
