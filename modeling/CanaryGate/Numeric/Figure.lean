import CanaryGate.Json.Value

/-!
# Numbers of either kind

Integers and doubles compared by their exact values, without rounding either to the other's kind.
-/

namespace CanaryGate

/-- An integer or a double. -/
inductive Figure where
  | whole (n : Int)
  | real (x : Binary64)
  deriving DecidableEq, Repr

namespace Figure

/-- The number that a value is; true counts as one. -/
def ofJson? : Json → Option Figure
  | .int n => some (whole n)
  | .bool b => some (whole (if b then 1 else 0))
  | .float x => some (real x)
  | _ => none

/-- The value as a numerator over a denominator; an infinity has the denominator zero, and
not-a-number has no value. -/
def fraction : Figure → Option (Int × Nat)
  | whole n => some (n, 1)
  | real .nan => none
  | real (.infinite negative) => some (if negative then -1 else 1, 0)
  | real (.finite negative rank) =>
    let q := Binary64.scale rank.val
    let m : Int := Binary64.numerator (Binary64.significand rank.val) q
    some (if negative then -m else m, Binary64.denominator q)

/-- Strictly below. -/
def lt (a b : Figure) : Bool :=
  match a, b with
  | real x, real y => x.lt y
  | _, _ => match a.fraction, b.fraction with
    | some (p, q), some (r, s) => decide (p * s < r * q)
    | _, _ => false

/-- At most. -/
def le (a b : Figure) : Bool :=
  match a, b with
  | real x, real y => x.le y
  | _, _ => match a.fraction, b.fraction with
    | some (p, q), some (r, s) => decide (p * s ≤ r * q)
    | _, _ => false

theorem whole_le {a b : Int} : le (whole a) (whole b) = decide (a ≤ b) := by
  simp [le, fraction]

theorem real_lt {x y : Binary64} : lt (real x) (real y) = x.lt y := rfl

end Figure

end CanaryGate
