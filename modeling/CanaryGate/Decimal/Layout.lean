import CanaryGate.Decimal.Shortest

/-!
# Laying out a number as text

Where the point goes, when an exponent is written, and how the special values are spelled. The
choices are one record, so that each place that prints numbers names the record it uses.
-/

namespace CanaryGate

/-- The decisions a printed double depends on. -/
structure Layout where
  /-- The least decimal exponent written without an exponent part. -/
  leastPositional : Int
  /-- The first decimal exponent written with an exponent part. -/
  leastScientific : Int
  /-- The least number of digits in an exponent. -/
  exponentWidth : Nat
  nan : String
  infinity : String
  negativeInfinity : String

namespace Layout

/-- Positional from `1e-4` up to below `1e16`; at least two exponent digits. Positional numbers always show
a fraction. -/
def display : Layout := ⟨-4, 16, 2, "nan", "inf", "-inf"⟩

/-- The spelling of the special values in stored documents. -/
def document : Layout := { display with nan := "NaN", infinity := "Infinity", negativeInfinity := "-Infinity" }

/-- The digits with a point put in after `whole` of them, zeros filling any gap. -/
def positional (digits : List Char) (whole : Int) : List Char :=
  if whole ≤ 0 then '0' :: '.' :: (List.replicate (-whole).toNat '0' ++ digits)
  else
    let w := whole.toNat
    if digits.length ≤ w then digits ++ List.replicate (w - digits.length) '0' ++ ['.', '0']
    else digits.take w ++ '.' :: digits.drop w

/-- One digit, the rest after a point, then a signed exponent. -/
def scientific (width : Nat) (digits : List Char) (exponent : Int) : List Char :=
  let mantissa := match digits with
    | [] => ['0']
    | [d] => [d]
    | d :: rest => d :: '.' :: rest
  let places := Decimal.digitsOf exponent.natAbs
  mantissa ++ 'e' :: (if exponent < 0 then '-' else '+')
    :: (List.replicate (width - places.length) '0' ++ places)

/-- The text of a finite magnitude. -/
def magnitude (layout : Layout) (rank : Fin 0x7FF0000000000000) : List Char :=
  if rank.val = 0 then ['0', '.', '0']
  else
    let d := Decimal.shortest rank
    let digits := Decimal.digitsOf d.digits
    let leading := digits.length + d.exponent - 1
    if layout.leastPositional ≤ leading ∧ leading < layout.leastScientific then positional digits (leading + 1)
    else scientific layout.exponentWidth digits leading

/-- The text of a double: the shortest digits that read back, laid out by the record. -/
def text (layout : Layout) : Binary64 → List Char
  | .nan => layout.nan.toList
  | .infinite false => layout.infinity.toList
  | .infinite true => layout.negativeInfinity.toList
  | .finite false rank => layout.magnitude rank
  | .finite true rank => '-' :: layout.magnitude rank

end Layout

def integerText (n : Int) : List Char :=
  if n < 0 then '-' :: Decimal.digitsOf n.natAbs else Decimal.digitsOf n.natAbs

end CanaryGate
