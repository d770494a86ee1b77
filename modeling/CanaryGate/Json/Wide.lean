import CanaryGate.Json.Bytes
import CanaryGate.Text.Packed

/-!
# Wide documents

Nothing keeps the texts of a document from holding halves of surrogate pairs, as they are or by their escapes. A wide
document is a value whose texts are packed; what is shown of it is the value that is read where halves do not matter.
-/

namespace CanaryGate

namespace Json

/-- The unit that four digits spell which are not the end of the text. -/
def unit? (s : List Point) : Option Nat := (readUnit ((s.take 5).map Point.shown)).map (·.1)

/-- What becomes of an escape in a document that is packed. -/
inductive Escape where
  /-- A code point is packed in its place. -/
  | packed (p : Point)
  /-- It stays, with so many of the code points behind its backslash. -/
  | kept (count : Nat)

/-- The escape of the second half of a pair. -/
def isLowEscape : List Point → Bool
  | .char '\\' :: .char 'u' :: digits => (unit? digits).any fun low => decide (0xDC00 ≤ low ∧ low < 0xE000)
  | _ => false

/-- The escape whose backslash stands before some code points. Half of a pair that stands alone cannot stay an
escape, and the mark must not. -/
def Escape.before : List Point → Escape
  | .char 'u' :: digits =>
    match unit? digits with
    | none => kept 1
    | some n =>
      if 0xD800 ≤ n ∧ n < 0xDC00 ∧ isLowEscape (digits.drop 4) then kept 11
      else if isSurrogate n || n == Point.mark.toNat then packed (.ofNat n)
      else kept 5
  | _ => kept 1

/-- The characters of a document with its texts packed. The next `kept` code points stay as they are, or the next
`dropped` ones are left out. -/
def packFrom : (kept dropped : Nat) → List Point → List Char
  | _, _, [] => []
  | kept, dropped + 1, _ :: rest => packFrom kept dropped rest
  | kept + 1, 0, p :: rest => p.packed ++ packFrom kept 0 rest
  | 0, 0, p :: rest =>
    if p = .char backslash then
      match Escape.before rest with
      | .packed q => q.packed ++ packFrom 0 5 rest
      | .kept count => backslash :: packFrom count 0 rest
    else p.packed ++ packFrom 0 0 rest

/-- The wide document in bytes. It is flawed where the value that is shown of it is. -/
def wideOfBytes (bytes : List UInt8) : Except BytesError Json :=
  match Encoding.decode bytes with
  | .error error => .error (.encoding error)
  | .ok points =>
    match readCharacters (points.map Point.shown) with
    | .error error => .error (.document error)
    | .ok value => .ok ((readCharacters (packFrom 0 0 points)).toOption.getD value)

/-- What is shown of a packed text. -/
def shownText (s : String) : String := Point.toText (Point.unpack s.toList)

/-- Half of a pair stands in a packed text. -/
def tornText (s : String) : Bool := !Point.whole (Point.unpack s.toList)

/-- A text as it is packed. -/
def packedText (s : String) : String := String.ofList (Point.pack (Point.ofString s))

mutual

/-- What is shown of a wide document. -/
def shown : Json → Json
  | .null => .null
  | .bool b => .bool b
  | .int n => .int n
  | .float x => .float x
  | .str s => .str (shownText s)
  | .arr items => .arr (itemsShown items)
  | .obj fields => .obj (fieldsShown fields)

def itemsShown : List Json → List Json
  | [] => []
  | item :: rest => shown item :: itemsShown rest

def fieldsShown : List (String × Json) → List (String × Json)
  | [] => []
  | (name, value) :: rest => (shownText name, shown value) :: fieldsShown rest

end

mutual

/-- Half of a pair stands in a text of a wide document. -/
def torn : Json → Bool
  | .str s => tornText s
  | .arr items => itemsTorn items
  | .obj fields => fieldsTorn fields
  | .null | .bool _ | .int _ | .float _ => false

def itemsTorn : List Json → Bool
  | [] => false
  | item :: rest => torn item || itemsTorn rest

def fieldsTorn : List (String × Json) → Bool
  | [] => false
  | (name, value) :: rest => tornText name || torn value || fieldsTorn rest

end

/-- The text of a field of a wide document. -/
def wideText? (wide : Json) (name : String) : Option (List Point) :=
  ((wide.field? name).bind str?).map fun s => Point.unpack s.toList

end Json

end CanaryGate
