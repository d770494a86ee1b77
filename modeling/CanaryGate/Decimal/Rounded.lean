import CanaryGate.Decimal.Layout

/-!
# Decimals with a given number of digits

The exact value of a double rounded once to a number of places, or to a number of leading digits, a half
going to the even neighbour; and the texts that are made of such digits.
-/

namespace CanaryGate

/-- How a double is written with a given number of digits. -/
inductive DigitStyle where
  /-- So many places behind the point. -/
  | fixed
  /-- One digit in front of the point, so many places, and an exponent. -/
  | scientific
  /-- So many digits in all, without zeros at the end, with an exponent where the point is far off. -/
  | general
  deriving DecidableEq, Repr

namespace Decimal

/-- A magnitude as a numerator over a denominator. -/
def ratio (rank : Nat) : Nat × Nat :=
  (Binary64.numerator (Binary64.significand rank) (Binary64.scale rank), Binary64.denominator (Binary64.scale rank))

/-- Digits with zeros in front, so that there are at least `count`. -/
def padded (count : Nat) (digits : List Char) : List Char := List.replicate (count - digits.length) '0' ++ digits

/-- The digits in front of the point and those of `places` places behind it. -/
def atPlaces (places rank : Nat) : List Char × List Char :=
  let (num, den) := ratio rank
  let digits := padded (places + 1) (digitsOf (roundQuotient (num * Nat.pow 10 places) den))
  digits.splitAt (digits.length - places)

/-- The first `count` digits, of which there is at least one, and the exponent of the first of them. -/
def leading (count rank : Nat) : List Char × Int :=
  let (num, den) := ratio rank
  if num = 0 then (List.replicate count '0', 0)
  else
    let top := leadingExponent num den
    let shift : Int := count - 1 - top
    let digits := digitsOf (roundQuotient (num * Nat.pow 10 shift.toNat) (den * Nat.pow 10 (-shift).toNat))
    if count < digits.length then (digits.dropLast, top + 1) else (digits, top)

/-- Digits with a point after the first `whole` of them. A point at the end is only written if it is asked
for. -/
def pointed (point : Bool) (whole fraction : List Char) : List Char :=
  whole ++ (if fraction.isEmpty then (if point then ['.'] else []) else '.' :: fraction)

/-- An exponent with its sign and at least two digits. -/
def exponentText (mark : Char) (exponent : Int) : List Char :=
  mark :: (if exponent < 0 then '-' else '+') :: padded 2 (digitsOf exponent.natAbs)

/-- Without zeros at the end, but with the first digit. -/
def significant (digits : List Char) : List Char :=
  digits.take 1 ++ ((digits.drop 1).reverse.dropWhile (· = '0')).reverse

/-- The text of a magnitude with `precision` digits or places. -/
def styled (style : DigitStyle) (precision : Nat) (point : Bool) (mark : Char) (rank : Nat) : List Char :=
  match style with
  | .fixed =>
    let (whole, fraction) := atPlaces precision rank
    pointed point whole fraction
  | .scientific =>
    let (digits, exponent) := leading (precision + 1) rank
    pointed point (digits.take 1) (digits.drop 1) ++ exponentText mark exponent
  | .general =>
    let count := max 1 precision
    let (digits, exponent) := leading count rank
    let kept := if point then digits else significant digits
    if exponent < -4 ∨ count ≤ exponent then
      pointed point (kept.take 1) (kept.drop 1) ++ exponentText mark exponent
    else if exponent < 0 then pointed point ['0'] (List.replicate (-exponent - 1).toNat '0' ++ kept)
    else
      let whole := exponent.toNat + 1
      pointed point (kept.take whole ++ List.replicate (whole - kept.length) '0') (kept.drop whole)

end Decimal

end CanaryGate
