import CanaryGate.Decimal.Rounded
import CanaryGate.Json.Bytes
import CanaryGate.Json.Coerce
import CanaryGate.Json.Display
import CanaryGate.Text.LowerCase

/-!
# Placeholders

A place in a template where a value is written: a letter says what is written of the value, and further
signs how wide it is and how it is filled up.
-/

namespace CanaryGate

/-- A number in a placeholder: given there, or taken from the arguments. -/
inductive PlaceSize where
  | given (n : Nat)
  | argument
  deriving DecidableEq, Repr

/-- A place for a value. -/
structure Placeholder where
  /-- The name of the value; without a name it is the next argument. -/
  name : Option String
  /-- The signs behind the name, in any order. -/
  flags : List Char
  width : Option PlaceSize
  precision : Option PlaceSize
  letter : Char
  deriving DecidableEq, Repr

/-- What is written of a value, before it is filled up. -/
structure PlacedText where
  sign : List Char
  /-- What stands between the sign and the digits to say which digits they are. -/
  lead : List Char
  body : List Char
  /-- It is a number, which can be filled up with zeros. -/
  numeric : Bool
  deriving DecidableEq, Repr

namespace Placeholder

/-- The largest number that a placeholder can give. -/
def sizeLimit : Nat := 0x7FFFFFFF

def has (p : Placeholder) (flag : Char) : Bool := p.flags.contains flag

/-- The sign in front of a number. -/
def signOf (p : Placeholder) (negative : Bool) : List Char :=
  if negative then ['-'] else if p.has '+' then ['+'] else if p.has ' ' then [' '] else []

/-- The text of a value that is not a number here, cut to the precision. -/
def words (precision : Option Nat) (text : List Char) : PlacedText :=
  ⟨[], [], match precision with
    | some n => text.take n
    | none => text, false⟩

/-- The text of an integer in a base, with as many digits as the precision asks for. -/
def digits (p : Placeholder) (precision : Option Nat) (base : Nat) (lead : List Char) (n : Int) : PlacedText :=
  ⟨p.signOf (decide (n < 0)), if p.has '#' then lead else [],
    Decimal.padded (precision.getD 0) (Nat.toDigits base n.natAbs), true⟩

def double (p : Placeholder) (precision : Option Nat) (x : Binary64) : Option PlacedText := do
  let style ← [('e', DigitStyle.scientific), ('f', .fixed), ('g', .general)].lookup (lowerCharacter p.letter)
  let upper := p.letter.isUpper
  let cased (s : List Char) : List Char := if upper then s.map Char.toUpper else s
  match x with
  | .nan => return ⟨p.signOf false, [], cased ['n', 'a', 'n'], true⟩
  | .infinite negative => return ⟨p.signOf negative, [], cased ['i', 'n', 'f'], true⟩
  | .finite negative rank =>
    return ⟨p.signOf negative, [],
      Decimal.styled style (precision.getD 6) (p.has '#') (if upper then 'E' else 'e') rank.val, true⟩

/-- A single character, or the character of a number. -/
def character (value : Json) : Option Char :=
  match value with
  | .str s => match s.toList with
    | [c] => some c
    | _ => none
  | .int n => if 0 ≤ n ∧ n < 0x110000 then some (characterOf n.toNat) else none
  | .bool b => some (Char.ofNat (if b then 1 else 0))
  | _ => none

def plainQuoted (s : List Char) : List Char := s.flatMap fun c => if c.toNat < 128 then [c] else Quoted.escapeCode c

/-- What is written of a value; none if the value does not suit the letter. -/
def placed (p : Placeholder) (precision : Option Nat) (value : Json) : Option PlacedText :=
  match p.letter with
  | 's' => some (words precision value.display.toList)
  | 'r' => some (words precision value.inner)
  | 'a' => some (words precision (plainQuoted value.inner))
  | 'c' => (character value).map fun c => ⟨[], [], [c], false⟩
  | 'd' | 'i' | 'u' =>
    match value with
    | .int _ | .bool _ | .float _ =>
      (value.toInteger.toOption.filter Json.writable).map (digits p precision 10 [])
    | _ => none
  | 'o' => (value.wholeNumber.toOption).map (digits p precision 8 ['0', 'o'])
  | 'x' => (value.wholeNumber.toOption).map (digits p precision 16 ['0', 'x'])
  | 'X' => (value.wholeNumber.toOption).map fun n =>
    let text := digits p precision 16 ['0', 'X'] n
    { text with body := text.body.map Char.toUpper }
  | _ =>
    match value with
    | .int _ | .bool _ | .float _ => value.toDouble.toOption.bind (double p precision)
    | _ => none

/-- A text filled up to a width: with blanks behind it if it is to stand on the left, with zeros behind its
sign if it is a number and they are asked for, else with blanks in front. -/
def filledUp (p : Placeholder) (leftward : Bool) (width : Nat) (t : PlacedText) : List Char :=
  let missing := width - (t.sign.length + t.lead.length + t.body.length)
  let text := t.sign ++ t.lead ++ t.body
  if leftward then text ++ List.replicate missing ' '
  else if t.numeric && p.has '0' then t.sign ++ t.lead ++ List.replicate missing '0' ++ t.body
  else List.replicate missing ' ' ++ text

end Placeholder

end CanaryGate
