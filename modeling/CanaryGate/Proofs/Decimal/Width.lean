import CanaryGate.Decimal.Layout
import CanaryGate.Proofs.Decimal.Shortest
import CanaryGate.Proofs.Numeric.Numeral

/-! # The width of printed doubles

A double is printed with at most seventeen digits, as its leading exponent is exact and no grid finer than that of
seventeen digits is tried. So its text has at most twenty-four characters, and `-2.2250738585072014e-308` has as many.
-/

namespace CanaryGate

open Binary64

namespace Decimal

/-! The leading exponent is not too low. -/

/-- The estimate of a decimal exponent from a binary one is low by no more than the climb makes up for. -/
theorem two_zpow_le_ten_zpow {t l : ℤ} (h : 30103 * l < 100000 * (t + 1)) (least : -1100 ≤ l) (most : l ≤ 1060) :
    (2 : ℚ) ^ (l + 1) ≤ 10 ^ (t + 4) := by
  -- the logarithm of two lies between 3 / 10 and 10 / 33
  have ten : (1 : ℚ) ≤ 10 := by norm_num
  have below : (10 : ℚ) ^ (3 : ℤ) ≤ 2 ^ (10 : ℤ) := by norm_num
  have above : (2 : ℚ) ^ (33 : ℤ) ≤ 10 ^ (10 : ℤ) := by norm_num
  rcases le_or_gt 0 (l + 1) with up | down
  · obtain ⟨n, power⟩ := Int.eq_ofNat_of_zero_le up
    rw [power, ← pow_le_pow_iff_left₀ (by positivity) (by positivity) (by decide : 33 ≠ 0)]
    calc ((2 : ℚ) ^ (n : ℤ)) ^ 33 = ((2 : ℚ) ^ (33 : ℤ)) ^ n := by
          rw [zpow_natCast, ← pow_mul, Nat.mul_comm, pow_mul]
          rfl
      _ ≤ ((10 : ℚ) ^ (10 : ℤ)) ^ n := pow_le_pow_left₀ (by positivity) above n
      _ = 10 ^ (10 * (n : ℤ)) := by rw [zpow_mul, zpow_natCast]
      _ ≤ 10 ^ ((t + 4) * 33) := zpow_le_zpow_right₀ ten (by omega)
      _ = ((10 : ℚ) ^ (t + 4)) ^ 33 := zpow_mul _ _ _
  · obtain ⟨n, power⟩ := Int.exists_eq_neg_ofNat down.le
    rw [power, ← pow_le_pow_iff_left₀ (by positivity) (by positivity) (by decide : 10 ≠ 0)]
    calc ((2 : ℚ) ^ (-(n : ℤ))) ^ 10 = (((2 : ℚ) ^ (10 : ℤ)) ^ n)⁻¹ := by
          rw [zpow_neg, zpow_natCast, inv_pow, ← pow_mul, Nat.mul_comm, pow_mul]
          rfl
      _ ≤ (((10 : ℚ) ^ (3 : ℤ)) ^ n)⁻¹ := by gcongr
      _ = 10 ^ (-(3 * (n : ℤ))) := by rw [zpow_neg, zpow_mul, zpow_natCast]
      _ ≤ 10 ^ ((t + 4) * 10) := zpow_le_zpow_right₀ ten (by omega)
      _ = ((10 : ℚ) ^ (t + 4)) ^ 10 := zpow_mul _ _ _

/-- What is within reach of the climb is passed. -/
theorem lt_climb {num den : Nat} (hd : 0 < den) (fuel : Nat) {e : ℤ} (h : (num : ℚ) / den < 10 ^ (e + fuel + 1)) :
    (num : ℚ) / den < 10 ^ (climb num den fuel e + 1) := by
  induction fuel generalizing e with
  | zero => simpa [climb] using h
  | succ fuel ih =>
      unfold climb
      split
      · apply ih
        have same : e + 1 + fuel + 1 = e + ((fuel + 1 : Nat) : ℤ) + 1 := by omega
        rw [same]
        exact h
      · rename_i beyond
        rw [Nat.not_le] at beyond
        exact (scaled_lt_iff num hd (by decide) (e + 1)).mp beyond

/-- A magnitude stays below the next power of ten. -/
theorem lt_leadingExponent {rank : Nat} (some : 0 < rank) (h : rank < 0x7FF0000000000000) :
    magnitude rank < (10 : ℚ) ^
      (leadingExponent (numerator (significand rank) (scale rank)) (denominator (scale rank)) + 1) := by
  obtain ⟨least, most⟩ := floorLog_bounds some h
  have log := (floorLog_spec (numerator_pos some) (denominator_pos (scale rank))).2
  rw [← ratio_magnitude rank]
  unfold leadingExponent
  apply lt_climb (denominator_pos (scale rank))
  generalize floorLog (numerator (significand rank) (scale rank)) (denominator (scale rank)) = l at *
  have estimate : 30103 * l < 100000 * ((l * 30103).fdiv 100000 + 1) := by
    rw [Int.mul_comm 30103 l, Int.fdiv_eq_ediv_of_nonneg _ (by decide)]
    omega
  have reach : (l * 30103).fdiv 100000 + 4 = (l * 30103).fdiv 100000 - 1 + (4 : Nat) + 1 := by omega
  rw [← reach]
  exact log.trans_le (two_zpow_le_ten_zpow estimate (by omega) (by omega))

/-! The digits. -/

theorem neighbour?_digits_le {target : Binary64} {num den : Nat} {e : ℤ} {d : Decimal}
    (h : neighbour? target num den e = some d) :
    d.digits ≤ num * Nat.pow 10 (-e).toNat / (den * Nat.pow 10 e.toNat) + 1 := by
  unfold neighbour? at h
  dsimp only at h
  split at h
  · cases h
    dsimp only
    rcases roundQuotient_floor_or_succ (num * Nat.pow 10 (-e).toNat) (den * Nat.pow 10 e.toNat) with floor | next
    · omega
    · omega
  · split at h
    · cases h
      exact Nat.le_succ _
    · split at h
      · cases h
        exact Nat.le_refl _
      · cases h

theorem trim_digits_le (fuel : Nat) (d : Decimal) : (trim fuel d).digits ≤ d.digits := by
  induction fuel generalizing d with
  | zero => exact Nat.le_refl _
  | succ fuel ih =>
      unfold trim
      split
      · exact (ih _).trans (Nat.div_le_self _ _)
      · exact Nat.le_refl _

/-- A power of ten loses its zeros, so that it does not count as a digit more. -/
theorem trim_digits_lt (fuel : Nat) {d : Decimal} {k : Nat} (h : d.digits ≤ 10 ^ (k + 1)) :
    (trim (fuel + 1) d).digits < 10 ^ (k + 1) := by
  have positive : 0 < 10 ^ k := Nat.pow_pos (by decide)
  have power : 10 ^ (k + 1) = 10 ^ k * 10 := Nat.pow_succ 10 k
  unfold trim
  split
  · have fewer := trim_digits_le fuel ⟨d.digits / 10, d.exponent + 1⟩
    dsimp only at fewer
    omega
  · rename_i zeros
    omega

/-- On each grid that is tried a magnitude has at most seventeen digits. -/
theorem floor_lt_of_grid {rank k : Nat} {top : ℤ} (few : k < 17) (high : magnitude rank < (10 : ℚ) ^ (top + 1)) :
    numerator (significand rank) (scale rank) * Nat.pow 10 (-(top - k)).toNat
      / (denominator (scale rank) * Nat.pow 10 (top - k).toNat) < 10 ^ 17 := by
  have power : (0 : ℚ) < (10 : ℕ) ^ (top - k : ℤ) := by positivity
  have step : 0 < denominator (scale rank) * Nat.pow 10 (top - k).toNat :=
    Nat.mul_pos (denominator_pos (scale rank)) (Nat.pow_pos (by decide))
  have most : magnitude rank < 10 ^ 17 * ((10 : ℕ) : ℚ) ^ (top - k : ℤ) := by
    calc magnitude rank < (10 : ℚ) ^ (top + 1) := high
      _ ≤ (10 : ℚ) ^ (17 + (top - k : ℤ)) := zpow_le_zpow_right₀ (by norm_num) (by omega)
      _ = 10 ^ 17 * ((10 : ℕ) : ℚ) ^ (top - k : ℤ) := by
        rw [zpow_add₀ (by norm_num)]
        norm_num
  rw [← div_lt_iff₀ power, ← ratio_magnitude, ← ratio_scaled, div_lt_iff₀ (by exact_mod_cast step)] at most
  rw [Nat.div_lt_iff_lt_mul step]
  exact_mod_cast most

/-- Seventeen digits are the most that are printed. -/
theorem shortest_digits_lt (rank : Fin 0x7FF0000000000000) : (shortest rank).digits < 10 ^ 17 := by
  rcases Nat.eq_zero_or_pos rank.val with none | some
  · have zero : shortest rank = ⟨0, 0⟩ := if_pos none
    rw [zero]
    decide
  · obtain ⟨k, d, few, printed, answer⟩ := shortest_of_pos some
    have floor := floor_lt_of_grid few (lt_leadingExponent some rank.isLt)
    have digits := neighbour?_digits_le answer
    rw [printed]
    exact trim_digits_lt 19 (k := 16) (by omega)

end Decimal

namespace Layout

variable {digits : List Char}

theorem length_positional_le {whole : Int} (few : digits.length ≤ 17) (least : -3 ≤ whole) (most : whole ≤ 16) :
    (positional digits whole).length ≤ 22 := by
  unfold positional
  dsimp only
  split_ifs
  · simp only [List.length_cons, List.length_append, List.length_replicate]
    omega
  · simp only [List.length_cons, List.length_append, List.length_replicate, List.length_nil]
    omega
  · simp only [List.length_append, List.length_cons, List.length_take, List.length_drop]
    omega

theorem length_scientific_le {exponent : Int} (few : digits.length ≤ 17) (small : exponent.natAbs < 1000) :
    (scientific 2 digits exponent).length ≤ 23 := by
  have places := (Decimal.length_digitsOf_le_iff (by decide : 0 < 3)).mpr small
  unfold scientific
  dsimp only
  simp only [List.length_append, List.length_cons, List.length_replicate]
  split
  · simp only [List.length_cons, List.length_nil]
    omega
  · simp only [List.length_cons, List.length_nil]
    omega
  · simp only [List.length_cons] at few ⊢
    omega

theorem length_magnitude_le (rank : Fin 0x7FF0000000000000) : (document.magnitude rank).length ≤ 23 := by
  obtain ⟨-, least, most⟩ := Decimal.shortest_spec rank
  have few := (Decimal.length_digitsOf_le_iff (by decide : 0 < 17)).mpr (Decimal.shortest_digits_lt rank)
  unfold magnitude
  dsimp only
  split_ifs with zero plain
  · decide
  · obtain ⟨low, high⟩ : (-4 : Int) ≤ _ ∧ _ < (16 : Int) := plain
    exact (length_positional_le few (by omega) (by omega)).trans (by decide)
  · exact length_scientific_le few (by omega)

/-- No double takes more than twenty-four characters. -/
theorem length_text_le (x : Binary64) : (document.text x).length ≤ 24 := by
  cases x with
  | nan => decide
  | infinite negative => cases negative with
    | false => decide
    | true => decide
  | finite negative rank =>
      have magnitude := length_magnitude_le rank
      cases negative with
      | false => exact magnitude.trans (by decide)
      | true => exact Nat.succ_le_succ magnitude

end Layout

end CanaryGate
