import CanaryGate.Decimal.Layout
import CanaryGate.Json.Value
import CanaryGate.Text.Quoted

/-!
# Writing document values

Document text for stored state, request bodies and log lines. The styles differ in the gaps after
separators and in which characters of a text are written by their code.
-/

namespace CanaryGate

namespace Json

/-- How a document is spaced and escaped. -/
structure Style where
  /-- What stands between two items. -/
  itemGap : List Char
  /-- What stands between a name and its value. -/
  nameGap : List Char
  /-- Characters beyond ASCII are written by their code. -/
  asciiOnly : Bool

/-- A blank after each separator, ASCII only. -/
def Style.stored : Style := ⟨[',', ' '], [':', ' '], true⟩

/-- No blanks, and every character as itself unless the format forbids it. -/
def Style.compact : Style := ⟨[','], [':'], false⟩

/-- A sixteen-bit unit by its code. -/
def unitEscape (n : Nat) : List Char := backslash :: 'u' :: hexDigits 4 n

/-- How one character is written between double quotes. -/
def escape (asciiOnly : Bool) (c : Char) : List Char :=
  if c = doubleQuote ∨ c = backslash then [backslash, c]
  else if c = '\n' then [backslash, 'n']
  else if c = '\r' then [backslash, 'r']
  else if c = '\t' then [backslash, 't']
  else if c.toNat = 12 then [backslash, 'f']
  else if c.toNat = 8 then [backslash, 'b']
  else if c.toNat < 32 then unitEscape c.toNat
  else if !asciiOnly || c.toNat < 127 then [c]
  else if c.toNat < 0x10000 then unitEscape c.toNat
  else
    let offset := c.toNat - 0x10000
    unitEscape (0xD800 + offset / 0x400) ++ unitEscape (0xDC00 + offset % 0x400)

/-- A text between double quotes. -/
def quoted (asciiOnly : Bool) (s : String) : List Char :=
  doubleQuote :: (s.toList.flatMap (escape asciiOnly) ++ [doubleQuote])

mutual

/-- The document text of a value. -/
def write (style : Style) : Json → List Char
  | .null => "null".toList
  | .bool true => "true".toList
  | .bool false => "false".toList
  | .int n => integerText n
  | .float x => Layout.document.text x
  | .str s => quoted style.asciiOnly s
  | .arr items => '[' :: (writeItems style items ++ [']'])
  | .obj fields => '\x7b' :: (writeFields style fields ++ ['\x7d'])

/-- The items of a list with gaps between them. -/
def writeItems (style : Style) : List Json → List Char
  | [] => []
  | [item] => write style item
  | item :: rest => write style item ++ style.itemGap ++ writeItems style rest

/-- The fields of an object with gaps between them. -/
def writeFields (style : Style) : List (String × Json) → List Char
  | [] => []
  | [(name, value)] => quoted style.asciiOnly name ++ style.nameGap ++ write style value
  | (name, value) :: rest =>
    quoted style.asciiOnly name ++ style.nameGap ++ write style value ++ style.itemGap ++ writeFields style rest

end

def render (style : Style) (value : Json) : String := String.ofList (write style value)

end Json

end CanaryGate
