import CanaryGate.Decimal.Layout

/-!
# Instants

A reading of the clock and its text in milliseconds.
-/

namespace CanaryGate

/-- A calendar reading in coordinated universal time. -/
structure Instant where
  year : Nat
  month : Nat
  day : Nat
  hour : Nat
  minute : Nat
  second : Nat
  microsecond : Nat
  deriving DecidableEq, Repr

namespace Instant

/-- A number with leading zeros. -/
def padded (width n : Nat) : List Char :=
  let digits := Decimal.digitsOf n
  List.replicate (width - digits.length) '0' ++ digits

/-- The text of an instant. Microseconds are cut, not rounded. -/
def text (t : Instant) : String :=
  String.ofList (padded 4 t.year ++ '-' :: padded 2 t.month ++ '-' :: padded 2 t.day ++ 'T' :: padded 2 t.hour
    ++ ':' :: padded 2 t.minute ++ ':' :: padded 2 t.second ++ '.' :: padded 3 (t.microsecond / 1000) ++ ['Z'])

end Instant

end CanaryGate
