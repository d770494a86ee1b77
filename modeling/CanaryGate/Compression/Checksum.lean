/-!
# Checksums

The two sums that are kept beside compressed bytes to see whether they came out right.
-/

namespace CanaryGate

namespace Checksum

/-- One step of the cyclic sum: division by a polynomial, one bit at a time. -/
def divideBit (sum : UInt32) : UInt32 := if sum % 2 = 1 then (sum >>> 1) ^^^ 0xEDB88320 else sum >>> 1

/-- The cyclic sum after one more byte. -/
def addByte (sum : UInt32) (b : UInt8) : UInt32 :=
  let s := sum ^^^ b.toUInt32
  divideBit (divideBit (divideBit (divideBit (divideBit (divideBit (divideBit (divideBit s)))))))

def cyclic (bytes : List UInt8) : Nat := ((bytes.foldl addByte 0xFFFFFFFF) ^^^ 0xFFFFFFFF).toNat

/-- The largest prime below the first number of seventeen bits. -/
def modulus : Nat := 65521

/-- The double sum of bytes: their sum, and the sum of all sums on the way. -/
def double (bytes : List UInt8) : Nat :=
  let (a, b) := bytes.foldl (fun (a, b) byte => ((a + byte.toNat) % modulus, (b + (a + byte.toNat)) % modulus)) (1, 0)
  b * 65536 + a

end Checksum

end CanaryGate
