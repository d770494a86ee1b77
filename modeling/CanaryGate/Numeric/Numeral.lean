import CanaryGate.Numeric.Binary64
import CanaryGate.Text.Blank
import CanaryGate.Text.DecimalDigit

/-!
# Numerals

Reading integers and doubles from text. Two grammars are in use. The wide one, for settings and
stored values, takes decimal digits of any script and single underscores between digits. The field
grammar, for validated fields, takes ASCII digits.
-/

namespace CanaryGate

/-- Why a text is no integer. -/
inductive NumeralError where
  /-- The text is not written as an integer. -/
  | notInteger (text : String)
  /-- The text is not written as a number. -/
  | notNumber (text : String)
  /-- The integer has more digits than may be converted. -/
  | tooManyDigits (count : Nat)
  deriving DecidableEq, Repr

namespace Numeral

/-- The most digits an integer may have when it is read or printed. -/
def digitLimit : Nat := 4300

/-- An optional sign; true for a minus. -/
def takeSign : List Char → Bool × List Char
  | '-' :: rest => (true, rest)
  | '+' :: rest => (false, rest)
  | s => (false, s)

/-- The number written by ASCII digits. -/
def valueOf (digits : List Char) : Nat := digits.foldl (fun n c => 10 * n + (c.toNat - 48)) 0

def isAsciiDigit (c : Char) : Bool := decide ('0' ≤ c ∧ c ≤ '9')

/-- Digits of any script become ASCII digits; all else stays. -/
def plainDigits (s : List Char) : List Char :=
  s.map fun c => ((digitValue? c).map digitChar).getD c

/-- Removes underscores, each of which must stand between two digits. `afterDigit` tells whether a
digit stands just before. -/
def joinGroups (afterDigit : Bool) : List Char → Option (List Char)
  | [] => some []
  | '_' :: c :: rest => if afterDigit && isAsciiDigit c then (joinGroups true rest).map (c :: ·) else none
  | '_' :: [] => none
  | c :: rest => (joinGroups (isAsciiDigit c) rest).map (c :: ·)

/-- The sign put on a natural number. -/
def signed (negative : Bool) (n : Nat) : Int := if negative then -(n : Int) else n

/-- A wide integer: blanks at the ends, a sign, grouped digits. -/
def integer (text : String) : Except NumeralError Int :=
  let (negative, body) := takeSign (trimBoth isWhiteSpace (plainDigits text.toList))
  let run := body.takeWhile fun c => isAsciiDigit c || c = '_'
  match joinGroups false run with
  | none => .error (.notInteger text)
  | some digits =>
    if digits.isEmpty then .error (.notInteger text)
    else if digitLimit < digits.length then .error (.tooManyDigits digits.length)
    else if run.length < body.length then .error (.notInteger text)
    else .ok (signed negative (valueOf digits))

def exponentPart : List Char → Option Int
  | [] => some 0
  | e :: rest =>
    if e = 'e' || e = 'E' then
      let (negative, digits) := takeSign rest
      if digits.isEmpty || !digits.all isAsciiDigit then none
      else some (signed negative (valueOf digits))
    else none

/-- `digits[.digits][e[sign]digits]`, where one side of the point may be empty. -/
def unsignedDecimal (negative : Bool) (s : List Char) : Option Binary64 :=
  let whole := s.takeWhile isAsciiDigit
  let rest := s.dropWhile isAsciiDigit
  let (fraction, rest) := match rest with
    | '.' :: more => (more.takeWhile isAsciiDigit, more.dropWhile isAsciiDigit)
    | _ => ([], rest)
  if whole.isEmpty && fraction.isEmpty then none
  else (exponentPart rest).map fun e =>
    Binary64.ofDecimal negative (valueOf (whole ++ fraction)) (e - fraction.length)

/-- The special values by name, in any case, else a decimal. -/
def unsignedNumber (negative : Bool) (s : List Char) : Option Binary64 :=
  let word := String.ofList (s.map fun c => if 'A' ≤ c ∧ c ≤ 'Z' then Char.ofNat (c.toNat + 32) else c)
  if word = "inf" || word = "infinity" then some (.infinite negative)
  else if word = "nan" then some .nan
  else unsignedDecimal negative s

/-- A number without blanks or underscores. -/
def plainNumber (s : List Char) : Option Binary64 :=
  let (negative, body) := takeSign s
  unsignedNumber negative body

/-- A wide double. -/
def number (text : String) : Except NumeralError Binary64 :=
  match (joinGroups false (trimBoth isWhiteSpace (plainDigits text.toList))).bind plainNumber with
  | some x => .ok x
  | none => .error (.notNumber text)

/-- No underscore at an end and no two together, and at least one. -/
def underscoresSingle (s : List Char) : Bool :=
  s.contains '_' && s.head? != some '_' && s.getLast? != some '_'
    && !(s.zip (s.drop 1)).any fun p => p.1 = '_' && p.2 = '_'

/-- Why a text is no integer of the field grammar. -/
inductive FieldIntegerError where
  /-- It is not written as an integer. -/
  | unreadable
  /-- It starts with more digits than may be converted. -/
  | oversize
  deriving DecidableEq, Repr

/-- A minus if there is one, and a lone zero or digits that start with another one. -/
def bareInteger (s : List Char) : Except FieldIntegerError Int :=
  let (negative, body) := match s with
    | '-' :: rest => (true, rest)
    | s => (false, s)
  let digits := body.takeWhile isAsciiDigit
  if digits.head? = some '0' then if body = ['0'] then .ok 0 else .error .unreadable
  else if digitLimit < digits.length then .error .oversize
  else if digits.isEmpty || digits.length < body.length then .error .unreadable
  else .ok (signed negative (valueOf digits))

/-- Without a plus in front, unless a minus follows it. -/
def withoutPlus : List Char → List Char
  | '+' :: rest => if rest.head? = some '-' then '+' :: rest else rest
  | s => s

/-- Without the zeros in front of a number, and without underscores among them. A number that is zero keeps
its last one. -/
def withoutZeros (s : List Char) : List Char :=
  if s.head? = some '0' then
    match s.dropWhile fun c => c = '0' || c = '_' with
    | [] => s.drop (s.length - 1)
    | '.' :: rest => s.drop (s.length - rest.length - 2)
    | c :: rest => if isAsciiDigit c then c :: rest else s
  else s

/-- Without a point and zeros behind it. -/
def withoutFraction (s : List Char) : List Char :=
  match s.reverse.dropWhile (· = '0') with
  | '.' :: whole => if s.getLast? = some '0' then whole.reverse else s
  | _ => s

/-- An integer of the field grammar: bare, or with blanks at the ends, a plus, zeros in front, zeros behind
a point, or single underscores. A minus comes right before the first digit that is not zero. -/
def fieldInteger (text : String) : Except FieldIntegerError Int :=
  match bareInteger text.toList with
  | .ok n => .ok n
  | .error .oversize => .error .oversize
  | .error .unreadable =>
    let s := withoutFraction (withoutZeros (withoutPlus (trimBoth isWhiteSpace text.toList)))
    let s := if underscoresSingle s then s.filter (· != '_') else s
    (bareInteger s).mapError fun _ => .unreadable

/-- A double of the field grammar. Blank ends and underscores do not occur together. -/
def fieldNumber (text : String) : Option Binary64 :=
  match plainNumber (trimBoth isWhiteSpace text.toList) with
  | some x => some x
  | none =>
    if underscoresSingle text.toList then plainNumber (text.toList.filter (· != '_')) else none

end Numeral

end CanaryGate
