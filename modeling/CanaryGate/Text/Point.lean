import CanaryGate.Text.Blank
import CanaryGate.Text.Quoted

/-!
# Code points

The code points of a text are characters, and halves of surrogate pairs that stand alone. A text with such a
half has no bytes. The texts of values hold characters only, so they can always be written.
-/

namespace CanaryGate

/-- Half of a pair of units. -/
def isSurrogate (n : Nat) : Bool := decide (0xD800 ≤ n ∧ n < 0xE000)

/-- A code point of a text. -/
inductive Point where
  | char (c : Char)
  /-- Half of a pair that stands alone, counted from the first of all halves. -/
  | half (index : Fin 0x800)
  deriving DecidableEq, Repr

namespace Point

def ofNat (n : Nat) : Point :=
  if h : 0xD800 ≤ n ∧ n < 0xE000 then half ⟨n - 0xD800, by omega⟩ else char (Char.ofNat n)

def toNat : Point → Nat
  | char c => c.toNat
  | half index => 0xD800 + index

def isChar : Point → Bool
  | char _ => true
  | half _ => false

def char? : Point → Option Char
  | char c => some c
  | half _ => none

/-- Halves of pairs are in no class of characters. -/
def isIn (members : Char → Bool) : Point → Bool
  | char c => members c
  | half _ => false

/-- The character that is held for a code point where only characters can be: for half of a pair the
replacement character. -/
def shown : Point → Char
  | char c => c
  | half _ => Char.ofNat 0xFFFD

/-- A text as it is shown. -/
def toText (s : List Point) : String := String.ofList (s.map shown)

/-- The code points of a text without halves. -/
def ofString (s : String) : List Point := s.toList.map char

/-- No half of a pair stands in the text. -/
def whole (s : List Point) : Bool := s.all isChar

end Point

/-- The character that is held for a number. -/
def characterOf (n : Nat) : Char := (Point.ofNat n).shown

/-- A run of halves of pairs in a text, for which there are no bytes: its place, its length and the number of
its first half. -/
structure Unencodable where
  place : Nat
  count : Nat
  first : Nat
  deriving DecidableEq, Repr

/-- The words for code points that an encoding has no bytes for. -/
def Unencodable.words (encoding : String) (place count : Nat) (shown : List Char) (why : String) : String :=
  let named :=
    if count = 1 then "character '" ++ String.ofList shown ++ "' in position " ++ toString place
    else "characters in position " ++ toString place ++ "-" ++ toString (place + count - 1)
  "'" ++ encoding ++ "' codec can't encode " ++ named ++ ": " ++ why

def Unencodable.message (e : Unencodable) : String :=
  words "utf-8" e.place e.count (backslash :: 'u' :: hexDigits 4 e.first) "surrogates not allowed"

namespace Point

/-- The first run of halves in a text. -/
def firstHalves (s : List Point) : Unencodable :=
  let rest := s.dropWhile isChar
  ⟨(s.takeWhile isChar).length, (rest.takeWhile fun p => !p.isChar).length, (rest.head?.map toNat).getD 0⟩

/-- The bytes of a text, which must be whole. -/
def encode (s : List Point) : Except Unencodable (List UInt8) :=
  if whole s then .ok (String.ofList (s.filterMap char?)).toUTF8.toList else .error (firstHalves s)

@[simp] theorem whole_ofString (s : String) : whole (ofString s) = true := by
  simp [whole, ofString, isChar]

/-- A whole text is shown as it is. -/
theorem ofString_toText {s : List Point} (h : whole s = true) : ofString (toText s) = s := by
  rw [ofString, toText, String.toList_ofList, List.map_map]
  refine (List.map_congr_left fun p member => ?_).trans (List.map_id s)
  cases p with
  | char c => rfl
  | half index => exact nomatch List.all_eq_true.mp h _ member

theorem isChar_of_isIn {members : Char → Bool} (p : Point) (h : isIn members p = true) : isChar p = true := by
  cases p with
  | char c => rfl
  | half index => cases h

/-- Trimming leaves the halves of a text where they are. -/
theorem whole_trimBoth (members : Char → Bool) (s : List Point) : whole (trimBoth (isIn members) s) = whole s :=
  all_trimBoth isChar_of_isIn s

end Point

end CanaryGate
