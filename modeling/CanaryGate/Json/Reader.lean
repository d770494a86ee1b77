import CanaryGate.Json.Value
import CanaryGate.Numeric.Numeral
import CanaryGate.Text.Encoding

/-!
# Reading document values

The document grammar, with `NaN`, `Infinity` and `-Infinity` allowed as values and control
characters refused inside texts. Every function consumes its input from the left and returns the
rest, so a place in the text is known from the length of what remains; a refusal names what was
expected and where.
-/

namespace CanaryGate

namespace Json

/-- What is wrong at a place in a document. -/
inductive Flaw where
  | expectingValue
  | expectingComma
  | expectingColon
  | expectingName
  | unterminatedText
  | controlCharacter
  | badEscape
  | badUnicodeEscape
  | extraData
  | byteOrderMark
  deriving DecidableEq, Repr

/-- The kinds of values that hold other ones. -/
inductive Container where
  | list
  | object
  deriving DecidableEq, Repr

/-- Why a document is refused. -/
inductive ReadError where
  /-- A flaw with its line, its column and its place, the place counted from zero. -/
  | flawed (flaw : Flaw) (line column place : Nat)
  /-- An integer with too many digits. -/
  | tooManyDigits (count : Nat)
  /-- A list or an object inside too many others; of which kind is known where it was read. -/
  | tooDeep (kind : Option Container)
  deriving DecidableEq, Repr

/-- A refusal inside the document, with the number of characters that remained. -/
inductive Stop where
  | flaw (flaw : Flaw) (remaining : Nat)
  | tooManyDigits (count : Nat)
  | tooDeep (kind : Container)
  deriving DecidableEq, Repr

/-- How many lists and objects may stand inside each other in what is read, written or shown. -/
def depthLimit : Nat := 970

/-- Document white space. -/
def isGap (c : Char) : Bool := c = ' ' || c = '\t' || c = '\n' || c = '\r'

def skipGaps (s : List Char) : List Char := s.dropWhile isGap

/-- Four hexadecimal digits that are not the end of the text. -/
def readUnit : List Char → Option (Nat × List Char)
  | a :: b :: c :: d :: next :: rest => do
    let a ← hexValue? a
    let b ← hexValue? b
    let c ← hexValue? c
    let d ← hexValue? d
    return (a * 4096 + b * 256 + c * 16 + d, next :: rest)
  | _ => none

/-- The character written after a backslash and the letter `u`: one unit, or a pair of two escapes. For half of a
pair it is the one that is shown. -/
def readUnicode (s : List Char) : Except Stop (Char × List Char) :=
  match readUnit s with
  | none => .error (.flaw .badUnicodeEscape (s.length + 1))
  | some (high, rest) =>
    match rest with
    | '\\' :: 'u' :: more =>
      if 0xD800 ≤ high ∧ high < 0xDC00 ∧ more.drop 4 ≠ [] then
        match readUnit more with
        | none => .error (.flaw .badUnicodeEscape (more.length + 1))
        | some (low, after) =>
          if 0xDC00 ≤ low ∧ low < 0xE000 then
            .ok (Char.ofNat (pairNumber high low), after)
          else .ok (characterOf high, rest)
      else .ok (characterOf high, rest)
    | _ => .ok (characterOf high, rest)

/-- The character meant by a one-letter escape. -/
def simpleEscape? (c : Char) : Option Char :=
  if c = doubleQuote || c = backslash || c = '/' then some c
  else if c = 'b' then some (Char.ofNat 8)
  else if c = 'f' then some (Char.ofNat 12)
  else if c = 'n' then some '\n'
  else if c = 'r' then some '\r'
  else if c = 't' then some '\t'
  else none

/-- The characters up to the closing quote. `opened` is what remained at the opening quote. -/
def readText (opened : Nat) : Nat → List Char → Except Stop (List Char × List Char)
  | 0, _ | _, [] => .error (.flaw .unterminatedText opened)
  | fuel + 1, c :: rest =>
    if c = doubleQuote then .ok ([], rest)
    else if c = backslash then
      match rest with
      | [] => .error (.flaw .unterminatedText opened)
      | 'u' :: more => do
        let (ch, after) ← readUnicode more
        let (chars, final) ← readText opened fuel after
        return (ch :: chars, final)
      | e :: more =>
        match simpleEscape? e with
        | none => .error (.flaw .badEscape (rest.length + 1))
        | some ch => do
          let (chars, final) ← readText opened fuel more
          return (ch :: chars, final)
    else if c.toNat < 32 then .error (.flaw .controlCharacter (rest.length + 1))
    else do
      let (chars, final) ← readText opened fuel rest
      return (c :: chars, final)

/-- The fraction digits, if a point with a digit follows. -/
def fractionDigits : List Char → Option (List Char × List Char)
  | '.' :: d :: rest =>
    if Numeral.isAsciiDigit d then
      some (d :: rest.takeWhile Numeral.isAsciiDigit, rest.dropWhile Numeral.isAsciiDigit)
    else none
  | _ => none

def exponentDigits : List Char → Option (Int × List Char)
  | e :: rest =>
    if e = 'e' || e = 'E' then
      let (negative, body) := Numeral.takeSign rest
      let digits := body.takeWhile Numeral.isAsciiDigit
      if digits.isEmpty then none
      else some (Numeral.signed negative (Numeral.valueOf digits), body.dropWhile Numeral.isAsciiDigit)
    else none
  | [] => none

/-- The whole digits: a lone zero, or digits that start with another one. -/
def wholeDigits : List Char → Option (List Char × List Char)
  | '0' :: rest => some (['0'], rest)
  | d :: rest =>
    if Numeral.isAsciiDigit d then
      some (d :: rest.takeWhile Numeral.isAsciiDigit, rest.dropWhile Numeral.isAsciiDigit)
    else none
  | [] => none

/-- A number after its sign; `start` is what remained at its first character. A fraction or an
exponent makes it a double. -/
def readNumber (start : Nat) (negative : Bool) (s : List Char) : Except Stop (Json × List Char) :=
  match wholeDigits s with
  | none => .error (.flaw .expectingValue start)
  | some (whole, rest) =>
    let (fraction, afterFraction) := (fractionDigits rest).getD ([], rest)
    match exponentDigits afterFraction with
    | some (e, after) =>
      .ok (.float (Binary64.ofDecimal negative (Numeral.valueOf (whole ++ fraction)) (e - fraction.length)), after)
    | none =>
      if fraction.isEmpty then
        if Numeral.digitLimit < whole.length then .error (.tooManyDigits whole.length)
        else .ok (.int (Numeral.signed negative (Numeral.valueOf whole)), rest)
      else
        .ok (.float (Binary64.ofDecimal negative (Numeral.valueOf (whole ++ fraction)) (-(fraction.length : Int))),
          afterFraction)

def wordValues : List (List Char × Json) := [
  ("null".toList, .null), ("true".toList, .bool true), ("false".toList, .bool false),
  ("NaN".toList, .float .nan), ("Infinity".toList, .float (.infinite false)),
  ("-Infinity".toList, .float (.infinite true))]

/-- A word or a number. -/
def readScalar (s : List Char) : Except Stop (Json × List Char) :=
  match wordValues.find? fun w => w.1.isPrefixOf s with
  | some (word, value) => .ok (value, s.drop word.length)
  | none =>
    match s with
    | '-' :: rest => readNumber s.length true rest
    | _ => readNumber s.length false s

mutual

/-- A value, with no gaps before it; `room` is how many lists and objects it may be deep. -/
def readValue : (room fuel : Nat) → List Char → Except Stop (Json × List Char)
  | _, 0, s => .error (.flaw .expectingValue s.length)
  | room, fuel + 1, s =>
    match s with
    | '[' :: rest =>
      match room with
      | 0 => .error (.tooDeep .list)
      | room + 1 =>
        match skipGaps rest with
        | ']' :: after => .ok (.arr [], after)
        | first => do
          let (items, after) ← readItems room fuel first
          return (.arr items, after)
    | '\x7b' :: rest =>
      match room with
      | 0 => .error (.tooDeep .object)
      | room + 1 =>
        match skipGaps rest with
        | '\x7d' :: after => .ok (.obj [], after)
        | first => do
          let (entries, after) ← readFields room fuel first
          return (.obj (Fields.ofList entries), after)
    | c :: rest =>
      if c = doubleQuote then do
        let (chars, after) ← readText s.length (rest.length + 1) rest
        return (.str (String.ofList chars), after)
      else readScalar s
    | [] => .error (.flaw .expectingValue 0)

def readItems : (room fuel : Nat) → List Char → Except Stop (List Json × List Char)
  | _, 0, s => .error (.flaw .expectingValue s.length)
  | room, fuel + 1, s => do
    let (item, rest) ← readValue room fuel s
    match skipGaps rest with
    | ']' :: after => return ([item], after)
    | ',' :: more =>
      let (items, after) ← readItems room fuel (skipGaps more)
      return (item :: items, after)
    | other => .error (.flaw .expectingComma other.length)

/-- The fields of an object up to its closing brace. -/
def readFields : (room fuel : Nat) → List Char → Except Stop (List (String × Json) × List Char)
  | _, 0, s => .error (.flaw .expectingName s.length)
  | room, fuel + 1, s =>
    match s with
    | [] => .error (.flaw .expectingName 0)
    | c :: inner =>
      if c = doubleQuote then do
        let (name, rest) ← readText s.length (inner.length + 1) inner
        match skipGaps rest with
        | ':' :: more =>
          let (value, rest) ← readValue room fuel (skipGaps more)
          match skipGaps rest with
          | '\x7d' :: after => return ([(String.ofList name, value)], after)
          | ',' :: more =>
            let (entries, after) ← readFields room fuel (skipGaps more)
            return ((String.ofList name, value) :: entries, after)
          | other => .error (.flaw .expectingComma other.length)
        | other => .error (.flaw .expectingColon other.length)
      else .error (.flaw .expectingName s.length)

end

/-- A whole document of at most `room` lists and objects inside each other. -/
def readAll (room : Nat) (s : List Char) : Except Stop Json := do
  let (value, rest) ← readValue room (2 * s.length + 2) (skipGaps s)
  match skipGaps rest with
  | [] => return value
  | extra => .error (.flaw .extraData extra.length)

/-- A flaw with its place in a text of which `remaining` characters were left. -/
def locate (s : List Char) (flaw : Flaw) (remaining : Nat) : ReadError :=
  let place := s.length - remaining
  let before := s.take place
  let line := before.count '\n' + 1
  let column := (before.reverse.takeWhile (· != '\n')).length + 1
  .flawed flaw line column place

/-- The value of a document in characters of at most `room` lists and objects inside each other. -/
def readWithin (room : Nat) (s : List Char) : Except ReadError Json :=
  match readAll room s with
  | .ok value => .ok value
  | .error (.flaw flaw remaining) => .error (locate s flaw remaining)
  | .error (.tooManyDigits count) => .error (.tooManyDigits count)
  | .error (.tooDeep kind) => .error (.tooDeep (some kind))

/-- The value of a document in characters. -/
def readCharacters (s : List Char) : Except ReadError Json := readWithin depthLimit s

/-- The value of a document text, which must not start with a byte order mark. -/
def read (text : String) : Except ReadError Json :=
  let s := text.toList
  if s.head? = some (Char.ofNat 0xFEFF) then .error (locate s .byteOrderMark s.length) else readCharacters s

def Flaw.words : Flaw → String
  | expectingValue => "Expecting value"
  | expectingComma => "Expecting ',' delimiter"
  | expectingColon => "Expecting ':' delimiter"
  | expectingName => "Expecting property name enclosed in double quotes"
  | unterminatedText => "Unterminated string starting at"
  | controlCharacter => "Invalid control character at"
  | badEscape => "Invalid \\escape"
  | badUnicodeEscape => "Invalid \\uXXXX escape"
  | extraData => "Extra data"
  | byteOrderMark => "Unexpected UTF-8 BOM (decode using utf-8-sig)"

def tooManyDigitsWords (count : Nat) : String :=
  "Exceeds the limit (" ++ toString Numeral.digitLimit ++ " digits) for integer string conversion: value has "
    ++ toString count ++ " digits; use sys.set_int_max_str_digits() to increase the limit"

/-- The word for a kind of values that hold other ones. -/
def Container.word : Container → String
  | list => "array"
  | object => "object"

/-- The words for a refused document. -/
def ReadError.message : ReadError → String
  | flawed flaw line column place =>
    flaw.words ++ ": line " ++ toString line ++ " column " ++ toString column ++ " (char " ++ toString place ++ ")"
  | tooManyDigits count => tooManyDigitsWords count
  | tooDeep (some kind) => "maximum recursion depth exceeded while decoding a JSON " ++ kind.word ++ " from a unicode string"
  | tooDeep none => "maximum recursion depth exceeded while calling a Python object"

end Json

end CanaryGate
