import CanaryGate.Compression.Bits

/-!
# Prefix codes

Codes given by the lengths of their words alone: shorter words come first, and words of one length follow
each other in the order of their symbols.
-/

namespace CanaryGate

/-- A prefix code: how many words there are of each length from one on, and the symbols in the order of
their words. -/
structure PrefixCode where
  counts : List Nat
  symbols : Array Nat
  deriving Repr

namespace PrefixCode

def longest (lengths : List Nat) : Nat := lengths.foldl max 0

/-- The code of words with these lengths, in the order of the symbols. A length of zero means no word. -/
def ofLengths (lengths : List Nat) : PrefixCode :=
  let width := max 1 (longest lengths)
  let sizes := (List.range width).map (· + 1)
  let placed := lengths.zipIdx
  ⟨sizes.map fun size => lengths.count size,
    (sizes.flatMap fun size => (placed.filter fun p => p.1 = size).map (·.2)).toArray⟩

/-- How many words of the next length are free after those of the lengths before; none if there are more
words than room. -/
def room? : (free : Nat) → (counts : List Nat) → Option Nat
  | free, [] => some free
  | free, count :: more => if 2 * free < count then none else room? (2 * free - count) more

/-- What came of reading a word. -/
inductive Word where
  | symbol (symbol : Nat) (rest : List Bool)
  /-- The bits end within a word. -/
  | unfinished
  /-- No word starts like that. -/
  | unknown

/-- Reads a word. What was read so far is `word` with a zero behind it; `first` is the first word of the
present length, and `index` the place of its symbol. -/
def wordFrom (symbols : Array Nat) : (counts : List Nat) → (word first index : Nat) → List Bool → Word
  | [], _, _, _, _ => .unknown
  | _ :: _, _, _, _, [] => .unfinished
  | count :: more, word, first, index, bit :: bits =>
    if word + bit.toNat < first + count then
      match symbols[index + (word + bit.toNat - first)]? with
      | some symbol => .symbol symbol bits
      | none => .unknown
    else wordFrom symbols more (2 * (word + bit.toNat)) (2 * (first + count)) (index + count) bits

def word (code : PrefixCode) (bits : List Bool) : Word := wordFrom code.symbols code.counts 0 0 0 bits

/-- Reading a symbol uses up at least one bit. -/
theorem length_of_wordFrom {symbols : Array Nat} {counts : List Nat} {word first index symbol : Nat}
    {bits rest : List Bool} (h : wordFrom symbols counts word first index bits = .symbol symbol rest) :
    rest.length < bits.length := by
  induction counts generalizing word first index bits with
  | nil => simp [wordFrom] at h
  | cons count more ih =>
    cases bits with
    | nil => simp [wordFrom] at h
    | cons bit bits =>
      unfold wordFrom at h
      split at h
      · split at h
        · injection h with _ hr
          simp [← hr]
        · contradiction
      · have shorter := ih h
        simp only [List.length_cons]
        omega

end PrefixCode

end CanaryGate
