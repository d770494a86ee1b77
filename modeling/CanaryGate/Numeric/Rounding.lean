/-!
# Rounding a quotient

Exact division followed by one rounding step, on natural numbers. A half goes to the even
neighbour, so the rule has no bias and needs no sign.
-/

namespace CanaryGate

/-- The integer nearest to `num / den`; a half goes to the even neighbour. -/
def roundQuotient (num den : Nat) : Nat :=
  let floor := num / den
  let twice := 2 * (num % den)
  if twice < den then floor
  else if den < twice then floor + 1
  else if floor % 2 = 0 then floor else floor + 1

theorem roundQuotient_of_dvd {num den : Nat} (hpos : 0 < den) (h : den ∣ num) :
    roundQuotient num den = num / den := by
  have : num % den = 0 := Nat.mod_eq_zero_of_dvd h
  simp [roundQuotient, this, hpos]

theorem roundQuotient_one (num : Nat) : roundQuotient num 1 = num := by
  rw [roundQuotient_of_dvd (by omega) (Nat.one_dvd num), Nat.div_one]

end CanaryGate
