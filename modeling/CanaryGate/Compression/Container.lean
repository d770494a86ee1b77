import CanaryGate.Compression.Checksum
import CanaryGate.Compression.Inflate

/-!
# Compressed content

Compressed bytes come between a head and a tail: the head says how they are to be read, and the tail holds a
checksum of what they stand for. Bytes behind the tail do not count, and bytes that end too early are no
flaw.
-/

namespace CanaryGate

namespace Inflate

/-- The bytes that the outcome stands for. -/
def inflated : Except InflateStop Progress → Except InflateFlaw (List UInt8)
  | .ok p => .ok p.1.toList
  | .error (.ended out) => .ok out.toList
  | .error (.flawed flaw) => .error flaw

/-- A whole number of the lowest byte first, and what is left. -/
def littleEnd (width : Nat) (p : Progress) : Except InflateStop (Nat × Progress) := number (8 * width) p

/-- A number of four bytes with the highest byte first. -/
def bigEnd4 (p : Progress) : Except InflateStop (Nat × Progress) := do
  let (a, p) ← number 8 p
  let (b, p) ← number 8 p
  let (c, p) ← number 8 p
  let (d, p) ← number 8 p
  return (((a * 256 + b) * 256 + c) * 256 + d, p)

/-- The bits behind a place that is a whole byte. -/
def aligned (p : Progress) : Progress := (p.1, p.2.drop (p.2.length % 8))

/-- Bytes without head and tail. -/
def bare (bytes : List UInt8) : Except InflateFlaw (List UInt8) := inflated (run (Bits.ofBytes bytes))

/-- Bytes with a short head and a double sum behind them. -/
def summed (bytes : List UInt8) : Except InflateFlaw (List UInt8) := inflated do
  let (head, p) ← number 16 (#[], Bits.ofBytes bytes)
  let first := head % 256
  let second := head / 256
  if (first * 256 + second) % 31 ≠ 0 then throw (.flawed .header)
  else if first % 16 ≠ 8 then throw (.flawed .method)
  else if 7 < first / 16 then throw (.flawed .window)
  else if second / 32 % 2 = 1 then
    let _ ← number 32 p
    throw (.flawed .dictionary)
  else
    let p ← run p.2
    let (sum, p) ← bigEnd4 (aligned p)
    if sum ≠ Checksum.double p.1.toList then throw (.flawed .checksum) else return p

/-- A text that ends with a zero byte is passed over. -/
def skipText : (fuel : Nat) → Progress → Except InflateStop Progress
  | 0, p => .ok p
  | fuel + 1, p => do
    let (b, p) ← number 8 p
    if b = 0 then return p else skipText fuel p

/-- A part of the head that is there if a flag is up. -/
def passOver (flags place : Nat) (skip : Progress → Except InflateStop Progress) (p : Progress) :
    Except InflateStop Progress := if flags / Nat.pow 2 place % 2 = 1 then skip p else .ok p

/-- Further fields of the head. -/
def skipFields (p : Progress) : Except InflateStop Progress := do
  let (length, p) ← littleEnd 2 p
  let (_, p) ← number (8 * length) p
  return p

/-- The checksum of the head itself. -/
def checkHead (bytes : List UInt8) (p : Progress) : Except InflateStop Progress := do
  let passed := bytes.length - p.2.length / 8
  let (sum, p) ← littleEnd 2 p
  if sum ≠ Checksum.cyclic (bytes.take passed) % 65536 then throw (.flawed .headerChecksum) else return p

/-- Bytes with a long head, and a cyclic sum and their length behind them. -/
def filed (bytes : List UInt8) : Except InflateFlaw (List UInt8) := inflated do
  let start : Progress := (#[], Bits.ofBytes bytes)
  let (mark, p) ← littleEnd 2 start
  if mark ≠ 0x8B1F then throw (.flawed .header)
  else
    let (head, p) ← littleEnd 2 p
    let flags := head / 256
    if head % 256 ≠ 8 then throw (.flawed .method)
    else if 32 ≤ flags then throw (.flawed .headerFlags)
    else
      let (_, p) ← number 48 p
      let p ← passOver flags 2 skipFields p
      let p ← passOver flags 3 (skipText bytes.length) p
      let p ← passOver flags 4 (skipText bytes.length) p
      let p ← passOver flags 1 (checkHead bytes) p
      let p ← run p.2
      let out := p.1.toList
      let (sum, p) ← littleEnd 4 (aligned p)
      if sum ≠ Checksum.cyclic out then throw (.flawed .checksum)
      else
        let (length, p) ← littleEnd 4 p
        if length ≠ out.length % 0x100000000 then throw (.flawed .length) else return p

/-- Bytes with a short head, or without one. -/
def summedOrBare (bytes : List UInt8) : Except InflateFlaw (List UInt8) :=
  match summed bytes with
  | .ok out => .ok out
  | .error _ => bare bytes

end Inflate

end CanaryGate
