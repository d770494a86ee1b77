import CanaryGate.Text.Pieces

/-!
# Punycode

Any text in letters, digits and hyphens. The plain characters come first and in order. Behind them stands a
number for each other character, in the order of code points: how many steps lie between it and the one
before, where a step goes one place further in the text or, at its end, on to the next code point. Numbers
are written with digits whose weight grows by a factor that adapts to the numbers before.
-/

namespace CanaryGate

namespace Punycode

/-- The number of digits. -/
def base : Nat := 36

def firstCode : Nat := 128

def firstBias : Nat := 72

/-- A character of the plain part. -/
def isPlain (c : Char) : Bool := c.toNat < firstCode

/-- The digits below the threshold of a place end a number. -/
def threshold (bias place : Nat) : Nat := max 1 (min 26 (base * (place + 1) - bias))

theorem threshold_pos (bias place : Nat) : 0 < threshold bias place := by
  unfold threshold
  omega

/-- The factor by which the next place weighs more. -/
def factor (bias place : Nat) : Nat := base - threshold bias place

/-- How many places a typical number has beyond what is left of it. -/
def spread (number places : Nat) : Nat :=
  if 455 < number then spread (number / 35) (places + 1) else base * places + base * number / (number + 38)
termination_by number
decreasing_by omega

/-- The bias behind a number, with the characters that are there by then. The first number says less than the
others. -/
def adapted (isFirst : Bool) (number characters : Nat) : Nat :=
  let number := if isFirst then number / 700 else number / 2
  spread (number + number / characters) 0

def digit (value : Nat) : Char := if value < 26 then Char.ofNat (97 + value) else Char.ofNat (22 + value)

def value? (c : Char) : Option Nat :=
  if 'a' ≤ c ∧ c ≤ 'z' then some (c.toNat - 97)
  else if '0' ≤ c ∧ c ≤ '9' then some (c.toNat - 22)
  else none

/-- The digits of a number from a place on, the lightest first. -/
def digits (bias place number : Nat) : List Char :=
  let t := threshold bias place
  if number < t then [digit number]
  else digit (t + (number - t) % factor bias place) :: digits bias (place + 1) ((number - t) / factor bias place)
termination_by number
decreasing_by
  have positive := threshold_pos bias place
  exact Nat.lt_of_le_of_lt (Nat.div_le_self _ _) (by omega)

/-- What has been written behind the plain part. -/
structure Writing where
  text : List Char
  /-- The steps since the last number. -/
  steps : Nat
  bias : Nat
  /-- How many characters are written, plain ones and others. -/
  count : Nat
  isFirst : Bool

/-- Passes a character on the way through the text for a code point. -/
def Writing.pass (code : Nat) (w : Writing) (c : Char) : Writing :=
  if c.toNat < code then { w with steps := w.steps + 1 }
  else if c.toNat = code then
    ⟨w.text ++ digits w.bias 0 w.steps, 0, adapted w.isFirst w.steps (w.count + 1), w.count + 1, false⟩
  else w

/-- Goes through the text for each of some code points, in increasing order, from a code point on. -/
def Writing.through (s : List Char) (w : Writing) : (code : Nat) → (codes : List Nat) → Writing
  | _, [] => w
  | code, next :: codes =>
    let w := s.foldl (Writing.pass next) { w with steps := w.steps + (next - code) * (w.count + 1) }
    Writing.through s { w with steps := w.steps + 1 } (next + 1) codes

/-- Puts a number into a list in increasing order, unless it is there. -/
def insertOnce (n : Nat) : List Nat → List Nat
  | [] => [n]
  | m :: rest => if n < m then n :: m :: rest else if n = m then m :: rest else m :: insertOnce n rest

/-- The code points of a text that are not plain, in increasing order. -/
def codes (s : List Char) : List Nat :=
  ((s.filter fun c => !isPlain c).map Char.toNat).foldr insertOnce []

/-- Writes a text. -/
def encode (s : List Char) : List Char :=
  let plain := s.filter isPlain
  let behind := Writing.through s ⟨[], 0, firstBias, plain.length, true⟩ firstCode (codes s)
  (if plain.isEmpty then [] else plain ++ ['-']) ++ behind.text

structure Reading where
  text : List Char
  /-- The code point and the place that the numbers so far lead to. -/
  code : Nat
  position : Nat
  bias : Nat
  isFirst : Bool
  /-- The number that is being read, with its next place and the weight of that. -/
  number : Nat
  place : Nat
  weight : Nat

/-- A number is complete: its character takes its place. -/
def Reading.insert (r : Reading) (number : Nat) : Option Reading :=
  let characters := r.text.length + 1
  let total := r.position + number
  let code := r.code + total / characters
  let position := total % characters
  if code.isValidChar then
    some ⟨r.text.insertIdx position (Char.ofNat code), code, position + 1, adapted r.isFirst number characters, false,
      0, 0, 1⟩
  else none

def Reading.next (r : Reading) (c : Char) : Option Reading := do
  let value ← value? c
  let number := r.number + value * r.weight
  if value < threshold r.bias r.place then r.insert number
  else return { r with number, place := r.place + 1, weight := r.weight * factor r.bias r.place }

/-- Reads a text. The last number has to be complete. -/
def decode (s : List Char) : Option (List Char) := do
  let numbers := (s.reverse.takeWhile (· != '-')).reverse
  let plain := (s.take (s.length - numbers.length)).dropLast
  let r ← numbers.foldlM Reading.next ⟨plain, firstCode, 0, firstBias, true, 0, 0, 1⟩
  if r.place = 0 then some r.text else none

theorem value?_digit {value : Nat} (h : value < base) : value? (digit value) = some value := by
  have all : ∀ n < 36, value? (digit n) = some n := by decide
  exact all value h

/-- A plain text stands as it is, with a hyphen behind it. -/
theorem encode_of_all_isPlain {s : List Char} (h : s.all isPlain = true) (nonempty : s ≠ []) :
    encode s = s ++ ['-'] := by
  have kept : s.filter isPlain = s := List.filter_eq_self.2 (by simpa using h)
  have none : s.filter (fun c => !isPlain c) = [] := by
    rw [List.filter_eq_nil_iff]
    intro c found
    simp [List.all_eq_true.1 h c found]
  simp [encode, kept, codes, none, Writing.through, nonempty]

end Punycode

end CanaryGate
