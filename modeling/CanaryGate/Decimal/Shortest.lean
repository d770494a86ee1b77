import CanaryGate.Numeric.Binary64

/-!
# The shortest decimal of a double

The fewest digits that read back to the same double, and of those the nearest. For one digit, two
digits and so on up to seventeen, the two neighbours of the value on that decimal grid are tried;
the first grid with a neighbour that reads back gives the answer.
-/

namespace CanaryGate

/-- The number `digits * 10 ^ exponent`. -/
structure Decimal where
  digits : Nat
  exponent : Int
  deriving DecidableEq, Repr

namespace Decimal

/-- The double a positive decimal stands for. -/
def toBinary (d : Decimal) : Binary64 := Binary64.ofDecimal false d.digits d.exponent

/-- The decimal without trailing zero digits; `fuel` bounds how many are removed. -/
def trim : Nat → Decimal → Decimal
  | 0, d => d
  | fuel + 1, d =>
    if d.digits ≠ 0 ∧ d.digits % 10 = 0 then trim fuel ⟨d.digits / 10, d.exponent + 1⟩ else d

/-- Steps `e` up while `10 ^ (e + 1) ≤ num / den`, at most `fuel` times. -/
def climb (num den : Nat) : Nat → Int → Int
  | 0, e => e
  | fuel + 1, e =>
    if den * Nat.pow 10 (e + 1).toNat ≤ num * Nat.pow 10 (-(e + 1)).toNat then climb num den fuel (e + 1) else e

/-- The largest `e` with `10 ^ e ≤ num / den`, both positive. The starting point comes from the
binary logarithm and is at most two steps low. -/
def leadingExponent (num den : Nat) : Int :=
  climb num den 4 ((Binary64.floorLog num den * 30103).fdiv 100000 - 1)

/-- Of the two neighbours of `num / den` on the grid of multiples of `10 ^ e`, the one that reads
back to `target`; when both do the nearer, and on a tie the even one. -/
def neighbour? (target : Binary64) (num den : Nat) (e : Int) : Option Decimal :=
  let above := num * Nat.pow 10 (-e).toNat
  let below := den * Nat.pow 10 e.toNat
  let low : Decimal := ⟨above / below, e⟩
  let high : Decimal := ⟨above / below + 1, e⟩
  let lowHits := decide (low.toBinary = target)
  let highHits := decide (high.toBinary = target)
  if lowHits && highHits then some ⟨roundQuotient above below, e⟩
  else if lowHits then some low
  else if highHits then some high
  else none

/-- The shortest decimal of the magnitude of rank `rank`. Seventeen digits always suffice. -/
def shortest (rank : Fin 0x7FF0000000000000) : Decimal :=
  if rank.val = 0 then ⟨0, 0⟩
  else
    let m := Binary64.significand rank.val
    let q := Binary64.scale rank.val
    let num := Binary64.numerator m q
    let den := Binary64.denominator q
    let top := leadingExponent num den
    let tries := (List.range 17).map fun (k : Nat) => top - (k : Int)
    match tries.findSome? (neighbour? (.finite false rank) num den) with
    | some d => trim 20 d
    | none => ⟨num / den, 0⟩

/-- The decimal digits of a natural number, most significant first. -/
def digitsOf (n : Nat) : List Char := Nat.toDigits 10 n

end Decimal

end CanaryGate
