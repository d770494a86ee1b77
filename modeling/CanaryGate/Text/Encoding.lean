import CanaryGate.Text.Point

/-!
# Text as bytes

Which encoding a document is in, by its first bytes, and the text that the bytes stand for. The first
byte that cannot be decoded is reported with its place.
-/

namespace CanaryGate

/-- Which byte of a unit comes first. -/
inductive ByteOrder where
  /-- The most significant byte. -/
  | big
  /-- The least significant byte. -/
  | little
  deriving DecidableEq, Repr

/-- How text is written as bytes. -/
inductive Encoding where
  | utf8
  | utf16 (order : ByteOrder)
  | utf32 (order : ByteOrder)
  deriving DecidableEq, Repr

/-- Why bytes stand for no text. -/
inductive DecodingFlaw where
  /-- A byte that cannot start a character. -/
  | startByte
  /-- A byte that cannot go on with the character. -/
  | continuationByte
  /-- The bytes end within a character. -/
  | endOfData
  /-- The bytes end within a unit. -/
  | truncated
  /-- A number beyond the last character. -/
  | beyondRange
  deriving DecidableEq, Repr

/-- Bytes that stand for no text: their encoding, their place, the first of them and their number. -/
structure DecodingError where
  encoding : Encoding
  place : Nat
  first : UInt8
  count : Nat
  flaw : DecodingFlaw
  deriving DecidableEq, Repr

namespace ByteOrder

def number (order : ByteOrder) (bytes : List UInt8) : Nat :=
  let bytes := match order with
    | big => bytes
    | little => bytes.reverse
  bytes.foldl (fun n b => n * 256 + b.toNat) 0

def text : ByteOrder → String
  | big => "be"
  | little => "le"

end ByteOrder

def pairNumber (high low : Nat) : Nat := 0x10000 + (high - 0xD800) * 0x400 + (low - 0xDC00)

namespace Encoding

def text : Encoding → String
  | utf8 => "utf-8"
  | utf16 order => "utf-16-" ++ order.text
  | utf32 order => "utf-32-" ++ order.text

/-- What some bytes start with, and the number of bytes it takes beyond the first; or the number of bytes that
are none and why. -/
abbrev Decoded (α : Type) := Except (Nat × DecodingFlaw) (α × Nat)

/-- Goes on with a character of which `more` bytes are missing, the next of them between `low` and
`high`. -/
def continued : (more taken number low high : Nat) → List UInt8 → Decoded Char
  | 0, taken, number, _, _, _ => .ok (Char.ofNat number, taken - 1)
  | _ + 1, taken, _, _, _, [] => .error (taken, .endOfData)
  | more + 1, taken, number, low, high, b :: rest =>
    if low ≤ b.toNat ∧ b.toNat ≤ high then continued more (taken + 1) (number * 64 + b.toNat % 64) 0x80 0xBF rest
    else .error (taken, .continuationByte)

/-- Half of a pair, written as if it were a character. -/
def writtenHalf? : List UInt8 → Option Point
  | a :: b :: c :: _ =>
    if a.toNat = 0xED ∧ 0xA0 ≤ b.toNat ∧ b.toNat ≤ 0xBF ∧ c.toNat / 64 = 2 then
      some (.ofNat (0xD000 + b.toNat % 64 * 64 + c.toNat % 64))
    else none
  | _ => none

/-- The first character of bytes of one to four for each. -/
def character8 : List UInt8 → Decoded Char
  | [] => .error (0, .endOfData)
  | lead :: rest =>
    let n := lead.toNat
    if n < 0x80 then .ok (Char.ofNat n, 0)
    else if n < 0xC2 then .error (1, .startByte)
    else if n < 0xE0 then continued 1 1 (n % 32) 0x80 0xBF rest
    else if n < 0xF0 then
      continued 2 1 (n % 16) (if n = 0xE0 then 0xA0 else 0x80) (if n = 0xED then 0x9F else 0xBF) rest
    else if n < 0xF5 then
      continued 3 1 (n % 8) (if n = 0xF0 then 0x90 else 0x80) (if n = 0xF4 then 0x8F else 0xBF) rest
    else .error (1, .startByte)

/-- The first code point of bytes of one to four for each. -/
def first8 (bytes : List UInt8) : Decoded Point :=
  match writtenHalf? bytes with
  | some half => .ok (half, 2)
  | none => (character8 bytes).map fun found => (.char found.1, found.2)

/-- The first code point of units of two bytes. -/
def first16 (order : ByteOrder) : List UInt8 → Decoded Point
  | a :: b :: rest =>
    let high := order.number [a, b]
    match rest with
    | c :: d :: _ =>
      let low := order.number [c, d]
      if 0xD800 ≤ high ∧ high < 0xDC00 ∧ 0xDC00 ≤ low ∧ low < 0xE000 then .ok (.ofNat (pairNumber high low), 3)
      else .ok (.ofNat high, 1)
    | _ => .ok (.ofNat high, 1)
  | _ => .error (1, .truncated)

/-- The first code point of units of four bytes. -/
def first32 (order : ByteOrder) : List UInt8 → Decoded Point
  | a :: b :: c :: d :: _ =>
    let n := order.number [a, b, c, d]
    if n < 0x110000 then .ok (.ofNat n, 3) else .error (4, .beyondRange)
  | short => .error (short.length, .truncated)

def first : Encoding → List UInt8 → Decoded Point
  | utf8 => first8
  | utf16 order => first16 order
  | utf32 order => first32 order

/-- The code points of bytes from a place on; the first `skipped` bytes belong to the code point before. -/
def decodeFrom (encoding : Encoding) : (place skipped : Nat) → List UInt8 → Except DecodingError (List Point)
  | _, _, [] => .ok []
  | place, skipped + 1, _ :: rest => decodeFrom encoding (place + 1) skipped rest
  | place, 0, b :: rest =>
    match encoding.first (b :: rest) with
    | .error (count, flaw) => .error ⟨encoding, place, b, count, flaw⟩
    | .ok (p, more) => (decodeFrom encoding (place + 1) more rest).map (p :: ·)

/-- The characters of bytes of one to four for each, with the replacement character for bytes that are
none; the first `skipped` bytes belong to what came before. -/
def looseFrom : (skipped : Nat) → List UInt8 → List Char
  | _, [] => []
  | skipped + 1, _ :: rest => looseFrom skipped rest
  | 0, b :: rest =>
    match character8 (b :: rest) with
    | .ok (c, more) => c :: looseFrom more rest
    | .error (count, _) => Char.ofNat 0xFFFD :: looseFrom (count - 1) rest

def decodeLoosely (bytes : List UInt8) : List Char := looseFrom 0 bytes

/-- The encoding of a document by its first bytes, and the length of the mark in front of it. -/
def detect : List UInt8 → Encoding × Nat
  | 0x00 :: 0x00 :: 0xFE :: 0xFF :: _ => (utf32 .big, 4)
  | 0xFF :: 0xFE :: 0x00 :: 0x00 :: _ => (utf32 .little, 4)
  | 0xFE :: 0xFF :: _ => (utf16 .big, 2)
  | 0xFF :: 0xFE :: _ => (utf16 .little, 2)
  | 0xEF :: 0xBB :: 0xBF :: _ => (utf8, 3)
  | a :: b :: c :: d :: _ =>
    if a = 0 then (if b = 0 then utf32 .big else utf16 .big, 0)
    else if b = 0 then (if c = 0 && d = 0 then utf32 .little else utf16 .little, 0)
    else (utf8, 0)
  | [a, b] => (if a = 0 then utf16 .big else if b = 0 then utf16 .little else utf8, 0)
  | _ => (utf8, 0)

/-- The code points of a document, halves of pairs among them. Places count from the first byte, but after the
mark in front of single bytes. -/
def decode (bytes : List UInt8) : Except DecodingError (List Point) :=
  let (encoding, mark) := detect bytes
  decodeFrom encoding (if encoding = utf8 then 0 else mark) 0 (bytes.drop mark)

end Encoding

def DecodingFlaw.words : DecodingFlaw → String
  | startByte => "invalid start byte"
  | continuationByte => "invalid continuation byte"
  | endOfData => "unexpected end of data"
  | truncated => "truncated data"
  | beyondRange => "code point not in range(0x110000)"

/-- The words for bytes that stand for no text. -/
def DecodingError.message (e : DecodingError) : String :=
  let bytes :=
    if e.count = 1 then
      "byte 0x" ++ String.ofList (hexDigits 2 e.first.toNat) ++ " in position " ++ toString e.place
    else "bytes in position " ++ toString e.place ++ "-" ++ toString (e.place + e.count - 1)
  "'" ++ e.encoding.text ++ "' codec can't decode " ++ bytes ++ ": " ++ e.flaw.words

end CanaryGate
