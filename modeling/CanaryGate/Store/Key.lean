import CanaryGate.Json.Reader
import CanaryGate.Json.Writer

/-!
# Keys that are no texts

A store keeps values under texts. A key that is null, a truth value or a number goes by a text that starts
with a mark; in a state file it goes by the way it is written there. Numbers of the same value are one key,
and lists and objects cannot be keys.
-/

namespace CanaryGate

namespace Key

/-- The mark: the last number for a character, which no text uses. -/
def mark : Char := Char.ofNat 0x10FFFF

/-- The text that a key goes by when it is new. -/
def newName : Json → Option String
  | .str s => some s
  | .arr _ | .obj _ => none
  | key => some (String.ofList (mark :: (key.render .stored).toList))

/-- The text by which a key goes in a state file. -/
def filedName (name : String) : String :=
  match name.toList with
  | c :: rest => if c = mark then String.ofList rest else name
  | [] => name

/-- The key that goes by a text. -/
def ofName (name : String) : Json :=
  if filedName name = name then .str name else (Json.read (filedName name)).toOption.getD .null

/-- A truth value or a whole number as an integer. -/
def leveled : Json → Json
  | .bool b => .int (if b then 1 else 0)
  | .float (.finite negative rank) =>
    if Binary64.isWhole rank.val then .int (Binary64.truncate negative rank.val) else .float (.finite negative rank)
  | key => key

def same (a b : Json) : Bool :=
  match leveled a, leveled b with
  | .null, .null => true
  | .int m, .int n => m = n
  | .float x, .float y => x = y && !x.isNan
  | .str s, .str t => s = t
  | _, _ => false

/-- The text by which a key goes among some fields. -/
def nameIn (fields : Fields) (key : Json) : Option String :=
  match key with
  | .str s => some s
  | key => (fields.names.find? fun name => same (ofName name) key).or (newName key)

/-- Fields with the names by which they go in a state file. -/
def filedFields (fields : Fields) : Fields := Fields.ofList (fields.map fun f => (filedName f.1, f.2))

/-- Namespaces as they come back from a state file. -/
def filed (all : Fields) : Fields :=
  filedFields (all.map fun space => (space.1, match space.2 with
    | .obj entries => .obj (filedFields entries)
    | value => value))

theorem nameIn_str (fields : Fields) (s : String) : nameIn fields (.str s) = some s := rfl

end Key

end CanaryGate
