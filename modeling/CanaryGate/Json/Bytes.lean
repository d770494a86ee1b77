import CanaryGate.Json.Reader
import CanaryGate.Json.Writer

/-!
# Documents as bytes

Bodies of requests and responses: bytes that first have to be text and then a document, and values that
can be sent as one.
-/

namespace CanaryGate

namespace Json

/-- Why bytes are no document. -/
inductive BytesError where
  | encoding (error : DecodingError)
  | document (error : ReadError)
  deriving DecidableEq, Repr

/-- The words for bytes that are no document. -/
def BytesError.message : BytesError → String
  | encoding error => error.message
  | document error => error.message

/-- The value of a document in bytes, as it is shown: with the replacement character for half of a pair. -/
def ofBytes (bytes : List UInt8) : Except BytesError Json :=
  match Encoding.decode bytes with
  | .error error => .error (.encoding error)
  | .ok points =>
    match readCharacters (points.map Point.shown) with
    | .error error => .error (.document error)
    | .ok value => .ok value

/-- Why a value cannot be sent as a document. -/
inductive Obstacle where
  /-- Not-a-number or an infinity. -/
  | notFinite
  /-- An integer too long to be written. -/
  | longInteger
  deriving DecidableEq, Repr

/-- An integer short enough to be written. -/
def writable (n : Int) : Bool := decide (n.natAbs < Nat.pow 10 Numeral.digitLimit)

/-- What keeps a value from being written at all. -/
inductive Limit where
  /-- The digits of an integer. -/
  | digits
  /-- Lists and objects inside each other. -/
  | depth
  deriving DecidableEq, Repr

mutual

/-- The first limit that a value exceeds where there is room for so many lists and objects inside each other. -/
def exceeded? : (room : Nat) → Json → Option Limit
  | _, .int n => if writable n then none else some .digits
  | 0, .arr _ | 0, .obj _ => some .depth
  | room + 1, .arr items => itemsExceeded? room items
  | room + 1, .obj fields => fieldsExceeded? room fields
  | _, .null | _, .bool _ | _, .float _ | _, .str _ => none

def itemsExceeded? (room : Nat) : List Json → Option Limit
  | [] => none
  | item :: rest => (exceeded? room item).or (itemsExceeded? room rest)

def fieldsExceeded? (room : Nat) : List (String × Json) → Option Limit
  | [] => none
  | (_, value) :: rest => (exceeded? room value).or (fieldsExceeded? room rest)

end

mutual

/-- The first thing in a value that cannot be sent. -/
def obstacle? : Json → Option Obstacle
  | .int n => if writable n then none else some .longInteger
  | .float x => if x.isFinite then none else some .notFinite
  | .arr items => itemsObstacle? items
  | .obj fields => fieldsObstacle? fields
  | .null | .bool _ | .str _ => none

def itemsObstacle? : List Json → Option Obstacle
  | [] => none
  | item :: rest => (obstacle? item).or (itemsObstacle? rest)

def fieldsObstacle? : List (String × Json) → Option Obstacle
  | [] => none
  | (_, value) :: rest => (obstacle? value).or (fieldsObstacle? rest)

end

mutual

/-- With null in place of what has no numeral in a document. -/
def finiteOrNull : Json → Json
  | .float x => if x.isFinite then .float x else .null
  | .arr items => .arr (itemsFiniteOrNull items)
  | .obj fields => .obj (fieldsFiniteOrNull fields)
  | .null => .null
  | .bool b => .bool b
  | .int n => .int n
  | .str s => .str s

def itemsFiniteOrNull : List Json → List Json
  | [] => []
  | item :: rest => finiteOrNull item :: itemsFiniteOrNull rest

def fieldsFiniteOrNull : List (String × Json) → List (String × Json)
  | [] => []
  | (name, value) :: rest => (name, finiteOrNull value) :: fieldsFiniteOrNull rest

end

end Json

end CanaryGate
