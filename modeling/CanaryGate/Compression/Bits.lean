/-!
# Bits

Bytes as a row of bits, the lowest bit of each byte first, and numbers read from the front of such a row.
-/

namespace CanaryGate

namespace Bits

/-- The lowest `width` bits of a number, the lowest first. -/
def ofNumber : (width : Nat) → Nat → List Bool
  | 0, _ => []
  | width + 1, n => (n % 2 = 1) :: ofNumber width (n / 2)

def ofBytes (bytes : List UInt8) : List Bool := bytes.flatMap fun b => ofNumber 8 b.toNat

/-- The number of a row of bits, the lowest first. -/
def number : List Bool → Nat
  | [] => 0
  | bit :: more => (if bit then 1 else 0) + 2 * number more

/-- A number of `width` bits and what is left; none if there are fewer bits. -/
def take? (width : Nat) (bits : List Bool) : Option (Nat × List Bool) :=
  let taken := bits.take width
  if taken.length = width then some (number taken, bits.drop width) else none

/-- The bytes of a row of bits; a last byte that is not complete is left off. -/
def toBytes : List Bool → List UInt8
  | a :: b :: c :: d :: e :: f :: g :: h :: rest => (number [a, b, c, d, e, f, g, h]).toUInt8 :: toBytes rest
  | _ => []

theorem number_ofNumber (width n : Nat) : number (ofNumber width n) = n % Nat.pow 2 width := by
  induction width generalizing n with
  | zero => simp [ofNumber, number, Nat.mod_one]
  | succ width ih =>
    have split : n % Nat.pow 2 (width + 1) = n % 2 + 2 * (n / 2 % Nat.pow 2 width) := by
      show n % (Nat.pow 2 width * 2) = _
      rw [Nat.mul_comm, Nat.mod_mul]
    rw [ofNumber, number, ih, split]
    rcases Nat.mod_two_eq_zero_or_one n with h | h <;> simp [h]

end Bits

end CanaryGate
