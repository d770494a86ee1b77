import CanaryGate.Numeric.Numeral
import CanaryGate.Json.Value
import CanaryGate.Text.LowerCase
import CanaryGate.Text.Point
import CanaryGate.Validation.Issue

/-!
# Checked values

Reading records from loosely typed values. A reader either accepts or reports every issue it finds;
combining readers joins their issues, so one bad field never hides another.
-/

namespace CanaryGate

/-- The outcome of reading a value. -/
inductive Checked (α : Type) where
  | accepted (value : α)
  | refused (issues : List Issue)

namespace Checked

def map (f : α → β) : Checked α → Checked β
  | accepted a => accepted (f a)
  | refused issues => refused issues

/-- Both outcomes, with the issues of the first before those of the second. -/
def both (f : Checked (α → β)) (a : Checked α) : Checked β :=
  match f, a with
  | accepted f, accepted a => accepted (f a)
  | accepted _, refused issues => refused issues
  | refused issues, accepted _ => refused issues
  | refused first, refused second => refused (first ++ second)

instance : Functor Checked where
  map := map

instance : Applicative Checked where
  pure := accepted
  seq f a := both f (a ())

/-- A single issue at the value itself. -/
def trouble (t : Trouble) : Checked α := refused [⟨[], t⟩]

/-- Seen from one step further out. -/
def under (step : Step) : Checked α → Checked α
  | accepted a => accepted a
  | refused issues => refused (issues.map (Issue.under step))

/-- A further reading of an accepted value. -/
def thenRead (a : Checked α) (f : α → Checked β) : Checked β :=
  match a with
  | accepted a => f a
  | refused issues => refused issues

def value? : Checked α → Option α
  | accepted a => some a
  | refused _ => none

/-- Two outcomes are accepted together exactly when both are accepted. -/
theorem both_eq_accepted_iff {f : Checked (α → β)} {a : Checked α} {b : β} :
    both f a = accepted b ↔ ∃ g x, f = accepted g ∧ a = accepted x ∧ g x = b := by
  cases f <;> cases a <;> simp [both]

theorem map_eq_accepted_iff {f : α → β} {a : Checked α} {b : β} :
    map f a = accepted b ↔ ∃ x, a = accepted x ∧ f x = b := by
  cases a <;> simp [map]

/-- Looking from further out accepts the same values. -/
theorem under_eq_accepted_iff {step : Step} {a : Checked α} {x : α} :
    a.under step = accepted x ↔ a = accepted x := by
  cases a <;> simp [under]

theorem thenRead_eq_accepted_iff {a : Checked α} {f : α → Checked β} {b : β} :
    a.thenRead f = accepted b ↔ ∃ x, a = accepted x ∧ f x = accepted b := by
  cases a <;> simp [thenRead]

end Checked

/-- Readers of single values. -/
abbrev Reader (α : Type) := Json → Checked α

namespace Reader

/-- Any value. -/
def anything : Reader Json := .accepted

/-- The words for true and for false, in lower case. -/
def trueWords : List String := ["1", "on", "t", "true", "y", "yes"]

/-- See `trueWords`. -/
def falseWords : List String := ["0", "off", "f", "false", "n", "no"]

/-- Zero and one as truth values. -/
def booleanOfInt (n : Int) : Checked Bool :=
  if n = 0 then .accepted false else if n = 1 then .accepted true else .trouble .unreadableBoolean

/-- Strictly inside the signed range of 64 bits. -/
def wordSized (n : Int) : Bool := decide (-0x8000000000000000 < n ∧ n < 0x8000000000000000)

/-- A truth value, a whole zero or one, or a word for one of them. -/
def boolean : Reader Bool
  | .bool b => .accepted b
  | .int n => if -0x8000000000000000 ≤ n ∧ n < 0x8000000000000000 then booleanOfInt n else .trouble .notBoolean
  | .float (.finite negative rank) =>
    let n := Binary64.truncate negative rank.val
    if Binary64.isWhole rank.val && wordSized n then booleanOfInt n else .trouble .notBoolean
  | .str s =>
    let word := lowerAscii s
    if trueWords.contains word then .accepted true
    else if falseWords.contains word then .accepted false
    else .trouble .unreadableBoolean
  | _ => .trouble .notBoolean

/-- A whole double is an integer inside the signed range of 64 bits. -/
def integerOfDouble : Binary64 → Checked Int
  | .finite negative rank =>
    if !Binary64.isWhole rank.val then .trouble .fractionalInteger
    else
      let n := Binary64.truncate negative rank.val
      if wordSized n then .accepted n else .trouble .oversizeInteger
  | _ => .trouble .infiniteInteger

/-- An integer, a truth value, a whole double, or a text of the field grammar. -/
def integer : Reader Int
  | .int n => .accepted n
  | .bool b => .accepted (if b then 1 else 0)
  | .float x => integerOfDouble x
  | .str s => match Numeral.fieldInteger s with
    | .ok n => .accepted n
    | .error .oversize => .trouble .oversizeInteger
    | .error .unreadable => .trouble .unreadableInteger
  | _ => .trouble .notInteger

/-- A double, an integer in the range of doubles, a truth value, or a text of the field grammar. -/
def number : Reader Binary64
  | .float x => .accepted x
  | .int n =>
    let x := Binary64.ofInt n
    if x.isFinite then .accepted x else .trouble .notNumber
  | .bool b => .accepted (Binary64.ofNat (if b then 1 else 0))
  | .str s => match Numeral.fieldNumber s with
    | some x => .accepted x
    | none => .trouble .unreadableNumber
  | _ => .trouble .notNumber

def text : Reader String
  | .str s => .accepted s
  | _ => .trouble .notText

/-- A text, as its code points. -/
def points : Reader (List Point) := fun input => (text input).map Point.ofString

def textUpTo (limit : Nat) : Reader String := fun input =>
  (text input).thenRead fun s => if limit < s.length then .trouble .overlongText else .accepted s

def integerFrom (least : Int) : Reader Int := fun input =>
  (integer input).thenRead fun n => if n < least then .trouble .belowMinimum else .accepted n

def integerWithin (least most : Int) : Reader Int := fun input =>
  (integer input).thenRead fun n =>
    if most < n then .trouble .aboveMaximum
    else if n < least then .trouble .belowMinimum
    else .accepted n

/-- A double from zero to one. Not-a-number is not at most one. -/
def rate : Reader Binary64 := fun input =>
  (number input).thenRead fun x =>
    if !x.le (Binary64.ofNat 1) then .trouble .aboveMaximum
    else if !Binary64.zero.le x then .trouble .belowMinimum
    else .accepted x

/-- Null for none, else what the reader reads. -/
def optional (r : Reader α) : Reader (Option α)
  | .null => .accepted none
  | input => (r input).map some

def word (words : List (String × α)) : Reader α
  | .str s => match words.lookup s with
    | some a => .accepted a
    | none => .trouble .notOneOfTheWords
  | _ => .trouble .notOneOfTheWords

/-- The items read one by one, from the given index on. -/
def items (r : Reader α) : Nat → List Json → Checked (List α)
  | _, [] => .accepted []
  | index, item :: rest =>
    (((r item).under (.item index)).map fun a => (a :: ·)).both (items r (index + 1) rest)

def list (r : Reader α) : Reader (List α)
  | .arr inputs => items r 0 inputs
  | _ => .trouble .notList

/-- The values of a mapping read one by one. -/
def entries (r : Reader α) : Fields → Checked (List (String × α))
  | [] => .accepted []
  | (name, value) :: rest =>
    (((r value).under (.field name)).map fun a => ((name, a) :: ·)).both (entries r rest)

/-- A mapping with values of one kind. -/
def mapping (r : Reader α) : Reader (List (String × α))
  | .obj fields => entries r fields
  | _ => .trouble .notMapping

def record (r : Fields → Checked α) : Reader α
  | .obj fields => r fields
  | _ => .trouble .notRecord

/-- A bounded reader gives integers that are not below its bound. -/
theorem le_of_integerFrom {least n : Int} {input : Json} (h : integerFrom least input = .accepted n) : least ≤ n := by
  obtain ⟨m, _, h⟩ := Checked.thenRead_eq_accepted_iff.1 h
  split at h
  · contradiction
  · rename_i above
    injection h with h
    omega

/-- A reader with two bounds gives integers between them. -/
theorem between_of_integerWithin {least most n : Int} {input : Json}
    (h : integerWithin least most input = .accepted n) : least ≤ n ∧ n ≤ most := by
  obtain ⟨m, _, h⟩ := Checked.thenRead_eq_accepted_iff.1 h
  split at h
  · contradiction
  · split at h
    · contradiction
    · injection h with h
      omega

end Reader

namespace Fields

def required (fields : Fields) (name : String) (r : Reader α) : Checked α :=
  match Fields.get? fields name with
  | some value => (r value).under (.field name)
  | none => (Checked.trouble .missing).under (.field name)

def defaulted (fields : Fields) (name : String) (default : α) (r : Reader α) : Checked α :=
  match Fields.get? fields name with
  | some value => (r value).under (.field name)
  | none => .accepted default

end Fields

end CanaryGate
