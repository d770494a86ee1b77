import CanaryGate.Numeric.Rounding

/-!
# Binary64 numbers

IEEE doubles as plain data. A finite double is its sign and the rank of its magnitude among the
finite magnitudes, counted from zero; the rank is also the magnitude's bit pattern, so every double
has exactly one form and equality decides identity. Each operation computes the exact result on
integers and rounds once, to nearest with ties to even.
-/

namespace CanaryGate

/-- A double. All not-a-number patterns are one value: nothing here tells two of them apart. -/
inductive Binary64 where
  /-- Not a number. -/
  | nan
  /-- An infinity. -/
  | infinite (negative : Bool)
  /-- The finite double whose magnitude has `rank` finite magnitudes below it. -/
  | finite (negative : Bool) (rank : Fin 0x7FF0000000000000)
  deriving DecidableEq, Repr

namespace Binary64

/-- Significands of the normal range lie from this power of two up to its double. -/
def unit : Nat := 0x10000000000000

/-- The number of finite magnitudes. -/
def rankLimit : Nat := 0x7FF0000000000000

def zero : Binary64 := .finite false ⟨0, by decide⟩

instance : Inhabited Binary64 := ⟨zero⟩

/-- The double of the given sign and rank; beyond the last rank lies infinity. -/
def ofRank (negative : Bool) (rank : Nat) : Binary64 :=
  if h : rank < 0x7FF0000000000000 then .finite negative ⟨rank, h⟩ else .infinite negative

/-- The integer `m` of a magnitude `m * 2 ^ q`. -/
def significand (rank : Nat) : Nat :=
  if rank < unit then rank else unit + rank % unit

/-- The exponent `q` of a magnitude `m * 2 ^ q`. -/
def scale (rank : Nat) : Int :=
  if rank < unit then -1074 else (rank / unit : Nat) - 1075

/-- `m * 2 ^ q` as a numerator over a denominator. -/
def numerator (m : Nat) (q : Int) : Nat := m * Nat.pow 2 q.toNat

/-- See `numerator`. -/
def denominator (q : Int) : Nat := Nat.pow 2 (-q).toNat

/-- The largest `e` with `2 ^ e ≤ num / den`, both positive. -/
def floorLog (num den : Nat) : Int :=
  let e : Int := (Nat.log2 num : Int) - (Nat.log2 den : Int)
  if num * Nat.pow 2 (-e).toNat < den * Nat.pow 2 e.toNat then e - 1 else e

/-- The double nearest to `num / den`, a tie going to the even significand. -/
def ofRatio (negative : Bool) (num den : Nat) : Binary64 :=
  if num = 0 then ofRank negative 0
  else
    let q : Int := max (-1074) (floorLog num den - 52)
    let m := roundQuotient (num * Nat.pow 2 (-q).toNat) (den * Nat.pow 2 q.toNat)
    ofRank negative ((q + 1074).toNat * unit + m)

/-- The double nearest to `m * 2 ^ q`. -/
def ofScaled (negative : Bool) (m : Nat) (q : Int) : Binary64 :=
  ofRatio negative (numerator m q) (denominator q)

/-- The double nearest to `digits * 10 ^ exponent`. The two early answers cover exponents so large or
small that the power of ten need not be computed. -/
def ofDecimal (negative : Bool) (digits : Nat) (exponent : Int) : Binary64 :=
  if digits = 0 then ofRank negative 0
  else if 400 < exponent then .infinite negative
  else if exponent < -400 - (Nat.log2 digits : Int) then ofRank negative 0
  else ofRatio negative (digits * Nat.pow 10 exponent.toNat) (Nat.pow 10 (-exponent).toNat)

/-- The double nearest to an integer; infinite when the integer is out of range. -/
def ofInt (n : Int) : Binary64 := ofRatio (decide (n < 0)) n.natAbs 1

/-- The double nearest to a natural number. -/
def ofNat (n : Nat) : Binary64 := ofRatio false n 1

def isNan : Binary64 → Bool
  | nan => true
  | _ => false

def isFinite : Binary64 → Bool
  | finite _ _ => true
  | _ => false

/-- Only the two zeros count as false. -/
def truthy : Binary64 → Bool
  | finite _ rank => rank.val != 0
  | _ => true

/-- Position on the number line; the two zeros share one, and not-a-number has none. -/
def position : Binary64 → Option Int
  | nan => none
  | infinite false => some rankLimit
  | infinite true => some (-rankLimit)
  | finite false rank => some rank.val
  | finite true rank => some (-rank.val)

/-- Strictly below; false as soon as one side is not a number. -/
def lt (x y : Binary64) : Bool :=
  match x.position, y.position with
  | some a, some b => decide (a < b)
  | _, _ => false

/-- At most; false as soon as one side is not a number. -/
def le (x y : Binary64) : Bool :=
  match x.position, y.position with
  | some a, some b => decide (a ≤ b)
  | _, _ => false

/-- The signed integer of a finite double in units of `2 ^ q`, for a `q` not above its own scale. -/
def units (negative : Bool) (rank : Nat) (q : Int) : Int :=
  let magnitude : Nat := significand rank * Nat.pow 2 (scale rank - q).toNat
  if negative then -magnitude else magnitude

def add : Binary64 → Binary64 → Binary64
  | nan, _ | _, nan => nan
  | infinite a, infinite b => if a = b then infinite a else nan
  | infinite a, finite _ _ => infinite a
  | finite _ _, infinite b => infinite b
  | finite a r, finite b s =>
    let q := min (scale r) (scale s)
    let sum := units a r q + units b s q
    if sum = 0 then ofRank (a && b) 0 else ofScaled (decide (sum < 0)) sum.natAbs q

def mul : Binary64 → Binary64 → Binary64
  | nan, _ | _, nan => nan
  | infinite a, infinite b => infinite (a != b)
  | infinite a, finite b r | finite b r, infinite a =>
    if r.val = 0 then nan else infinite (a != b)
  | finite a r, finite b s =>
    ofScaled (a != b) (significand r * significand s) (scale r + scale s)

def div : Binary64 → Binary64 → Binary64
  | nan, _ | _, nan => nan
  | infinite _, infinite _ => nan
  | infinite a, finite b _ => infinite (a != b)
  | finite a _, infinite b => ofRank (a != b) 0
  | finite a r, finite b s =>
    if s.val = 0 then if r.val = 0 then nan else infinite (a != b)
    else
      let q := scale r - scale s
      ofRatio (a != b) (significand r * Nat.pow 2 q.toNat) (significand s * Nat.pow 2 (-q).toNat)

/-- The magnitude of a finite double is a whole number. -/
def isWhole (rank : Nat) : Bool :=
  significand rank % denominator (scale rank) == 0

/-- A finite double with its fraction dropped. -/
def truncate (negative : Bool) (rank : Nat) : Int :=
  let magnitude : Nat := numerator (significand rank) (scale rank) / denominator (scale rank)
  if negative then -magnitude else magnitude

/-- The integer nearest to a finite double, a half going to the even one. -/
def nearestInt (negative : Bool) (rank : Nat) : Int :=
  let magnitude : Nat := roundQuotient (numerator (significand rank) (scale rank)) (denominator (scale rank))
  if negative then -magnitude else magnitude

/-- Rounded to `places` decimal places: the exact value is rounded once, half to even, and the
decimal found is read back. -/
def roundTo (places : Nat) : Binary64 → Binary64
  | finite negative rank =>
    let q := scale rank
    ofRatio negative
      (roundQuotient (numerator (significand rank) q * Nat.pow 10 places) (denominator q)) (Nat.pow 10 places)
  | x => x

/-- The interchange bit pattern. -/
def bits : Binary64 → Nat
  | nan => 0x7FF8000000000000
  | infinite negative => (if negative then 0x8000000000000000 else 0) + rankLimit
  | finite negative rank => (if negative then 0x8000000000000000 else 0) + rank.val

theorem ofRank_val (negative : Bool) (rank : Fin 0x7FF0000000000000) :
    ofRank negative rank.val = finite negative rank := by
  simp [ofRank, rank.isLt]

theorem floorLog_self (n : Nat) : floorLog n n = 0 := by
  simp [floorLog]

/-- A number over itself is one. -/
theorem ofRatio_self (negative : Bool) {n : Nat} (h : 0 < n) : ofRatio negative n n = ofRatio negative 1 1 := by
  have rounded : roundQuotient (n * Nat.pow 2 52) (n * Nat.pow 2 0) = Nat.pow 2 52 := by
    show roundQuotient (n * 2 ^ 52) (n * 1) = 2 ^ 52
    rw [Nat.mul_one, roundQuotient_of_dvd h (Nat.dvd_mul_right n _), Nat.mul_div_cancel_left _ h]
  have exponent : max (-1074 : Int) (0 - 52) = -52 := by decide
  calc ofRatio negative n n
    _ = ofRank negative (((-52 : Int) + 1074).toNat * unit + roundQuotient (n * Nat.pow 2 52) (n * Nat.pow 2 0)) := by
      simp only [ofRatio, floorLog_self, Nat.pos_iff_ne_zero.mp h, if_false, exponent]
      rfl
    _ = ofRatio negative 1 1 := by
      rw [rounded]
      rfl

theorem lt_nan (x : Binary64) : lt x nan = false := by
  simp [lt, position]

theorem nan_lt (x : Binary64) : lt nan x = false := by
  simp [lt, position]

end Binary64

end CanaryGate
