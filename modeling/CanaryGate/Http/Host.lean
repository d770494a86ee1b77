import CanaryGate.Http.HostName
import CanaryGate.Numeric.Numeral
import CanaryGate.Text.LowerCase
import CanaryGate.Text.Percent
import CanaryGate.Text.Pieces

/-!
# Hosts

The host of an address: four numbers between dots, a long number in groups between square brackets, or a
name. A name of plain characters is written in lower case with escapes; any other name is written in its
plain form.
-/

namespace CanaryGate

namespace Http

/-- Why a text names no host. -/
inductive HostError where
  /-- It looks like four numbers between dots and is none. -/
  | dotted (text : List Char)
  /-- What stands between its brackets is no long number in groups. -/
  | grouped (text : List Char)
  /-- A name without a plain form. -/
  | name (text : List Char)
  deriving DecidableEq, Repr

namespace HostError

/-- The words for a text that names no host. -/
def message : HostError → String
  | dotted text => "Invalid IPv4 address: " ++ String.ofList (Quoted.quote text)
  | grouped text => "Invalid IPv6 address: " ++ String.ofList (Quoted.quote text)
  | name text => "Invalid IDNA hostname: " ++ String.ofList (Quoted.quote text)

end HostError

namespace Host

open Numeral (isAsciiDigit valueOf)

/-- One of four numbers: up to three digits, without a zero in front, of a value that a byte has. -/
def isOctet (s : List Char) : Bool :=
  !s.isEmpty && s.all isAsciiDigit && decide (s.length ≤ 3) && (s = ['0'] || s.head? != some '0')
    && decide (valueOf s ≤ 255)

/-- Four numbers between dots. -/
def isDotted (s : List Char) : Bool :=
  let octets := pieces '.' s
  octets.length = 4 && octets.all isOctet

/-- Digits in at least `groups` runs with one character of any kind between two runs, and nothing else. A
long run can be read as several ones. -/
def looksDotted : (groups : Nat) → List Char → Bool
  | 0, _ => false
  | 1, s => !s.isEmpty && s.all isAsciiDigit
  | _ + 2, [] => false
  | groups + 2, c :: rest =>
    isAsciiDigit c && (looksDotted (groups + 1) (rest.drop 1) || looksDotted (groups + 2) rest)
termination_by groups s => (groups, s.length)

/-- One group of a long number: up to four hexadecimal digits. -/
def isGroup (s : List Char) : Bool :=
  !s.isEmpty && s.all (fun c => (hexValue? c).isSome) && decide (s.length ≤ 4)

/-- The last group written as four numbers between dots stands for two groups. -/
def withoutDotted (groups : List (List Char)) : Option (List (List Char)) :=
  match groups.getLast? with
  | some last =>
    if last.contains '.' then
      if isDotted last then some (groups.dropLast ++ [['0'], ['0']]) else none
    else some groups
  | none => some groups

/-- Groups on one side of an omission: the empty group at the outer end stands only next to it. -/
def isSide (atOuterEnd : Option (List Char)) (side : List (List Char)) : Bool :=
  if atOuterEnd = some [] then side.length = 1 else side.all isGroup

/-- How many groups stand on one side of an omission. -/
def sideLength (atOuterEnd : Option (List Char)) (side : List (List Char)) : Nat :=
  if atOuterEnd = some [] then 0 else side.length

/-- The inner groups that are empty, by place. -/
def omissions (groups : List (List Char)) : List Nat :=
  (List.range groups.length).filter fun i => decide (0 < i ∧ i + 1 < groups.length) && groups[i]? = some []

/-- Eight groups, or fewer with one omission that stands for at least one group. -/
def isGroups (groups : List (List Char)) : Bool :=
  match omissions groups with
  | [] => groups.length = 8 && groups.all isGroup
  | [place] =>
    let before := groups.take place
    let behind := groups.drop (place + 1)
    isSide before.head? before && isSide behind.getLast? behind
      && decide (sideLength before.head? before + sideLength behind.getLast? behind ≤ 7)
  | _ => false

/-- A long number in groups, with a zone behind a percent sign if there is one. -/
def isGrouped (s : List Char) : Bool :=
  let number := s.takeWhile (· != '%')
  let zone := s.drop (number.length + 1)
  let zoneFits := number.length = s.length || (!zone.isEmpty && !zone.contains '%')
  let groups := pieces ':' number
  zoneFits && decide (3 ≤ groups.length) && match withoutDotted groups with
    | none => false
    | some groups => decide (groups.length ≤ 9) && isGroups groups

/-- The characters of a plain name that stand as they are. -/
def keptInName (c : Char) : Bool :=
  c.isAlphanum || ("-._~!$&'()*+,;=`\x7b\x7d%|".toList ++ [doubleQuote, backslash]).contains c

def read (s : List Char) : Except HostError (List Char) :=
  if s.isEmpty then .ok []
  else if looksDotted 4 s then if isDotted s then .ok s else .error (.dotted s)
  else if s.head? = some '[' && s.getLast? = some ']' then
    let number := (s.drop 1).dropLast
    if isGrouped number then .ok number else .error (.grouped s)
  else if s.all fun c => c.toNat < 128 then .ok (Percent.escape keptInName (s.map lowerCharacter))
  else match HostName.plain? (lowerCase s) with
    | some name => .ok name
    | none => .error (.name s)

theorem looksDotted_of_letter {c : Char} (letter : isAsciiDigit c = false) (groups : Nat) (rest : List Char) :
    looksDotted (groups + 2) (c :: rest) = false := by
  unfold looksDotted
  rw [letter, Bool.false_and]

end Host

end Http

end CanaryGate
