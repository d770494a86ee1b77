import CanaryGate.Compression.Huffman

/-!
# Inflating

Blocks of compressed bytes: copied bytes, or words of a prefix code for bytes and for repetitions of what
came before. Compressed bytes may end too early; what they gave up to there counts.
-/

namespace CanaryGate

/-- What is wrong with compressed bytes. -/
inductive InflateFlaw where
  | blockType
  | storedLengths
  | symbolCounts
  | codeLengthsSet
  | lengthRepeat
  | noEndOfBlock
  | literalSet
  | distanceSet
  | literalCode
  | distanceCode
  | farDistance
  /-- The bytes do not start like compressed ones. -/
  | header
  | method
  | window
  | headerFlags
  | headerChecksum
  | checksum
  | length
  /-- The bytes can only be read beside others, which are not there. -/
  | dictionary
  deriving DecidableEq, Repr

namespace InflateFlaw

/-- The name of a flaw; the missing dictionary has none. -/
def name? : InflateFlaw → Option String
  | blockType => some "invalid block type"
  | storedLengths => some "invalid stored block lengths"
  | symbolCounts => some "too many length or distance symbols"
  | codeLengthsSet => some "invalid code lengths set"
  | lengthRepeat => some "invalid bit length repeat"
  | noEndOfBlock => some "invalid code -- missing end-of-block"
  | literalSet => some "invalid literal/lengths set"
  | distanceSet => some "invalid distances set"
  | literalCode => some "invalid literal/length code"
  | distanceCode => some "invalid distance code"
  | farDistance => some "invalid distance too far back"
  | header => some "incorrect header check"
  | method => some "unknown compression method"
  | window => some "invalid window size"
  | headerFlags => some "unknown header flags set"
  | headerChecksum => some "header crc mismatch"
  | checksum => some "incorrect data check"
  | length => some "incorrect length check"
  | dictionary => none

def message (flaw : InflateFlaw) : String :=
  match flaw.name? with
  | some name => "Error -3 while decompressing data: " ++ name
  | none => "Error 2 while decompressing data"

end InflateFlaw

/-- Why inflating stops before the end of the last block. -/
inductive InflateStop where
  /-- The bits are used up; what was inflated until then. -/
  | ended (out : Array UInt8)
  | flawed (flaw : InflateFlaw)

namespace Inflate

/-- What was inflated so far, and the bits that are left. -/
abbrev Progress := Array UInt8 × List Bool

/-- The shortest length and the number of further bits for each length symbol. -/
def lengthSymbols : List (Nat × Nat) := [
  (3, 0), (4, 0), (5, 0), (6, 0), (7, 0), (8, 0), (9, 0), (10, 0), (11, 1), (13, 1), (15, 1), (17, 1), (19, 2),
  (23, 2), (27, 2), (31, 2), (35, 3), (43, 3), (51, 3), (59, 3), (67, 4), (83, 4), (99, 4), (115, 4), (131, 5),
  (163, 5), (195, 5), (227, 5), (258, 0)]

/-- The shortest distance and the number of further bits for each distance symbol. -/
def distanceSymbols : List (Nat × Nat) := [
  (1, 0), (2, 0), (3, 0), (4, 0), (5, 1), (7, 1), (9, 2), (13, 2), (17, 3), (25, 3), (33, 4), (49, 4), (65, 5),
  (97, 5), (129, 6), (193, 6), (257, 7), (385, 7), (513, 8), (769, 8), (1025, 9), (1537, 9), (2049, 10),
  (3073, 10), (4097, 11), (6145, 11), (8193, 12), (12289, 12), (16385, 13), (24577, 13)]

def number (width : Nat) (p : Progress) : Except InflateStop (Nat × Progress) :=
  match Bits.take? width p.2 with
  | some (n, rest) => .ok (n, (p.1, rest))
  | none => .error (.ended p.1)

def symbol (code : PrefixCode) (unknown : InflateFlaw) (p : Progress) : Except InflateStop (Nat × Progress) :=
  match code.word p.2 with
  | .symbol n rest => .ok (n, (p.1, rest))
  | .unfinished => .error (.ended p.1)
  | .unknown => .error (.flawed unknown)

/-- A length or a distance by its symbol. -/
def extended (symbols : List (Nat × Nat)) (n : Nat) (unknown : InflateFlaw) (p : Progress) :
    Except InflateStop (Nat × Progress) :=
  match symbols[n]? with
  | none => .error (.flawed unknown)
  | some (least, width) => (number width p).map fun (more, p) => (least + more, p)

/-- The bytes from `distance` back on, one after the other. -/
def repeated (distance : Nat) : (count : Nat) → Array UInt8 → Array UInt8
  | 0, out => out
  | count + 1, out => repeated distance count (out.push (out.getD (out.size - distance) 0))

/-- The end of a block in the code for bytes and lengths. -/
def endOfBlock : Nat := 256

/-- The symbols of a block up to its end. -/
def compressed (literals distances : PrefixCode) : (fuel : Nat) → Progress → Except InflateStop Progress
  | 0, p => .error (.ended p.1)
  | fuel + 1, p => do
    let (n, p) ← symbol literals .literalCode p
    if n < endOfBlock then compressed literals distances fuel (p.1.push n.toUInt8, p.2)
    else if n = endOfBlock then return p
    else
      let (length, p) ← extended lengthSymbols (n - endOfBlock - 1) .literalCode p
      let (n, p) ← symbol distances .distanceCode p
      let (distance, p) ← extended distanceSymbols n .distanceCode p
      if p.1.size < distance then throw (.flawed .farDistance)
      else compressed literals distances fuel (repeated distance length p.1, p.2)

/-- A block of copied bytes. It starts at a whole byte. -/
def stored (p : Progress) : Except InflateStop Progress := do
  let p : Progress := (p.1, p.2.drop (p.2.length % 8))
  let (lengths, p) ← number 32 p
  let length := lengths % 0x10000
  if lengths / 0x10000 ≠ 0xFFFF - length then throw (.flawed .storedLengths)
  else
    let bytes := Bits.toBytes (p.2.take (8 * length))
    let out := p.1 ++ bytes.toArray
    if bytes.length < length then throw (.ended out) else return (out, p.2.drop (8 * length))

/-- The code for bytes and lengths that every block may use. -/
def usualLiterals : PrefixCode := .ofLengths
  (List.replicate 144 8 ++ List.replicate 112 9 ++ List.replicate 24 7 ++ List.replicate 8 8)

/-- The code for distances that every block may use. -/
def usualDistances : PrefixCode := .ofLengths (List.replicate 32 5)

/-- The order in which the lengths of the code for lengths are written. -/
def lengthOrder : List Nat := [16, 17, 18, 0, 8, 7, 9, 6, 10, 5, 11, 4, 12, 3, 13, 2, 14, 1, 15]

/-- Numbers of three bits. -/
def triples : (count : Nat) → Progress → Except InflateStop (List Nat × Progress)
  | 0, p => .ok ([], p)
  | count + 1, p => do
    let (n, p) ← number 3 p
    let (more, p) ← triples count p
    return (n :: more, p)

/-- The lengths of words, written as lengths and as repetitions, the newest first. -/
def wordLengths (code : PrefixCode) (wanted : Nat) :
    (fuel : Nat) → (newest : List Nat) → Progress → Except InflateStop (List Nat × Progress)
  | 0, newest, p => .ok (newest, p)
  | fuel + 1, newest, p =>
    if wanted ≤ newest.length then .ok (newest, p)
    else do
      let (n, p) ← symbol code .lengthRepeat p
      if n < 16 then wordLengths code wanted fuel (n :: newest) p
      else
        let (count, p) ←
          if n = 16 then extended [(3, 2)] 0 .lengthRepeat p
          else if n = 17 then extended [(3, 3)] 0 .lengthRepeat p
          else extended [(11, 7)] 0 .lengthRepeat p
        if (n = 16 ∧ newest.isEmpty) ∨ wanted < newest.length + count then throw (.flawed .lengthRepeat)
        else wordLengths code wanted fuel (List.replicate count (if n = 16 then newest.headD 0 else 0) ++ newest) p

/-- The code for word lengths. If it has no words every bit stands for the length zero. -/
def lengthCode (lengths : List Nat) : Except InflateStop PrefixCode :=
  let code := PrefixCode.ofLengths lengths
  if PrefixCode.longest lengths = 0 then .ok ⟨[2], #[0, 0]⟩
  else if PrefixCode.room? 1 code.counts = some 0 then .ok code
  else .error (.flawed .codeLengthsSet)

/-- A code of a block. Its words leave no room, but a single word of one bit may stand alone, and there may
be none. -/
def blockCode (lengths : List Nat) (flaw : InflateFlaw) : Except InflateStop PrefixCode :=
  let code := PrefixCode.ofLengths lengths
  if PrefixCode.longest lengths = 0 then .ok code
  else match PrefixCode.room? 1 code.counts with
    | some 0 => .ok code
    | some _ => if PrefixCode.longest lengths = 1 then .ok code else .error (.flawed flaw)
    | none => .error (.flawed flaw)

/-- The codes that a block brings along. -/
def broughtCodes (p : Progress) : Except InflateStop ((PrefixCode × PrefixCode) × Progress) := do
  let (counts, p) ← number 14 p
  let literals := counts % 32 + 257
  let distances := counts / 32 % 32 + 1
  let written := counts / 1024 + 4
  if 286 < literals ∨ 30 < distances then throw (.flawed .symbolCounts)
  else
    let (given, p) ← triples written p
    let placed := lengthOrder.zip given
    let code ← lengthCode ((List.range 19).map fun n => (placed.lookup n).getD 0)
    let (newest, p) ← wordLengths code (literals + distances) (literals + distances) [] p
    let lengths := newest.reverse
    if lengths.getD endOfBlock 0 = 0 then throw (.flawed .noEndOfBlock)
    else
      let literalCode ← blockCode (lengths.take literals) .literalSet
      let distanceCode ← blockCode (lengths.drop literals) .distanceSet
      return ((literalCode, distanceCode), p)

/-- A block, and whether it is the last one. -/
def block (p : Progress) : Except InflateStop (Bool × Progress) := do
  let (head, p) ← number 3 p
  let p ← match head / 2 with
    | 0 => stored p
    | 1 => compressed usualLiterals usualDistances (p.2.length + 1) p
    | 2 => do
      let ((literals, distances), p) ← broughtCodes p
      compressed literals distances (p.2.length + 1) p
    | _ => throw (.flawed .blockType)
  return (head % 2 = 1, p)

def blocks : (fuel : Nat) → Progress → Except InflateStop Progress
  | 0, p => .error (.ended p.1)
  | fuel + 1, p => do
    let (last, p) ← block p
    if last then return p else blocks fuel p

/-- Inflates bits: the bytes that they stand for, and the bits behind the last block. -/
def run (bits : List Bool) : Except InflateStop Progress := blocks (bits.length + 1) (#[], bits)

end Inflate

end CanaryGate
