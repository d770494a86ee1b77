import CanaryGate.Decimal.Shortest
import CanaryGate.Proofs.Numeric.Nearest

/-! # The shortest decimal reads back

Seventeen digits always suffice: the grid of seventeen digits at a magnitude is so fine that the nearer of the
two neighbours of the magnitude rounds back to it. So one of the grids that are tried has a neighbour that
reads back, and zeros at the end of its digits can go without changing the number.
-/

namespace CanaryGate

namespace Binary64

theorem ofRank_sign {rank : Nat} {place : Fin 0x7FF0000000000000} (h : ofRank false rank = .finite false place)
    (negative : Bool) : ofRank negative rank = .finite negative place := by
  unfold ofRank at h ⊢
  split at h
  · rename_i inside
    rw [dif_pos inside]
    cases h
    rfl
  · cases h

theorem ofRatio_sign {num den : Nat} {place : Fin 0x7FF0000000000000}
    (h : ofRatio false num den = .finite false place) (negative : Bool) :
    ofRatio negative num den = .finite negative place := by
  unfold ofRatio at h ⊢
  split at h
  · rename_i none
    rw [if_pos none]
    exact ofRank_sign h negative
  · rename_i some
    rw [if_neg some]
    exact ofRank_sign h negative

/-- A decimal with a sign reads as the double of its magnitude with that sign. -/
theorem ofDecimal_sign {digits : Nat} {exponent : Int} {place : Fin 0x7FF0000000000000}
    (h : ofDecimal false digits exponent = .finite false place) (negative : Bool) :
    ofDecimal negative digits exponent = .finite negative place := by
  unfold ofDecimal at h ⊢
  split at h
  · rename_i none
    rw [if_pos none]
    exact ofRank_sign h negative
  · rename_i some
    rw [if_neg some]
    split at h
    · cases h
    · rename_i small
      rw [if_neg small]
      split at h
      · rename_i tiny
        rw [if_pos tiny]
        exact ofRank_sign h negative
      · rename_i large
        rw [if_neg large]
        exact ofRatio_sign h negative

/-- Within reach the power of ten is computed. -/
theorem ofDecimal_eq (negative : Bool) {digits : Nat} {exponent : Int} (some : 0 < digits) (least : -400 ≤ exponent)
    (most : exponent ≤ 400) : ofDecimal negative digits exponent
      = ofRatio negative (digits * Nat.pow 10 exponent.toNat) (Nat.pow 10 (-exponent).toNat) := by
  unfold ofDecimal
  rw [if_neg some.ne', if_neg (by omega), if_neg (by omega)]

/-- Zeros at the end of the digits count in the exponent. -/
theorem ofDecimal_zeros (negative : Bool) (digits zeros : Nat) {exponent : Int} (least : -400 ≤ exponent)
    (most : exponent + zeros ≤ 400) :
    ofDecimal negative (digits * Nat.pow 10 zeros) exponent = ofDecimal negative digits (exponent + zeros) := by
  rcases Nat.eq_zero_or_pos digits with rfl | some
  · simp [ofDecimal]
  · have more : 0 < digits * Nat.pow 10 zeros := Nat.mul_pos some (Nat.pow_pos (by decide))
    rw [ofDecimal_eq negative more least (by omega), ofDecimal_eq negative some (by omega) most]
    apply ofRatio_congr negative (Nat.pow_pos (by decide)) (Nat.pow_pos (by decide))
    have balance :
        zeros + exponent.toNat + (-(exponent + zeros)).toNat = (exponent + zeros).toNat + (-exponent).toNat := by
      omega
    simp only [Nat.pow_eq, Nat.mul_assoc, ← Nat.pow_add]
    rw [balance]

theorem scale_le {rank : Nat} (h : rank < 0x7FF0000000000000) : scale rank ≤ 971 := by
  unfold scale
  split
  · omega
  · have : rank / unit < 2047 := Nat.div_lt_of_lt_mul h
    omega

theorem ratio_magnitude (rank : Nat) :
    (numerator (significand rank) (scale rank) : ℚ) / denominator (scale rank) = magnitude rank := by
  unfold numerator denominator magnitude
  rw [zpow_eq_div 2 (scale rank)]
  simp only [Nat.pow_eq, Nat.cast_mul, Nat.cast_pow, Nat.cast_ofNat]
  rw [mul_div_assoc]

theorem denominator_pos (q : Int) : 0 < denominator q := Nat.pow_pos (by decide)

theorem numerator_pos {rank : Nat} (h : 0 < rank) : 0 < numerator (significand rank) (scale rank) :=
  Nat.mul_pos (significand_pos h) (Nat.pow_pos (by decide))

/-- The binary logarithms of the magnitudes. -/
theorem floorLog_bounds {rank : Nat} (some : 0 < rank) (h : rank < 0x7FF0000000000000) :
    -1074 ≤ floorLog (numerator (significand rank) (scale rank)) (denominator (scale rank))
      ∧ floorLog (numerator (significand rank) (scale rank)) (denominator (scale rank)) < 1024 := by
  have positive : (0 : ℚ) < 2 ^ scale rank := by positivity
  have low : (1 : ℚ) ≤ significand rank := by exact_mod_cast significand_pos some
  have high : (significand rank : ℚ) < 2 ^ (53 : ℤ) := by exact_mod_cast significand_lt rank
  constructor
  · apply le_floorLog_of_le_ratio (numerator_pos some) (denominator_pos _)
    rw [ratio_magnitude]
    calc (2 : ℚ) ^ (-1074 : ℤ) ≤ 2 ^ scale rank := zpow_le_zpow_right₀ (by norm_num) (le_scale rank)
      _ ≤ magnitude rank := by
        unfold magnitude
        nlinarith
  · apply floorLog_lt_of_ratio_lt (numerator_pos some) (denominator_pos _)
    rw [ratio_magnitude]
    calc magnitude rank < 2 ^ (53 : ℤ) * 2 ^ scale rank := by
          unfold magnitude
          gcongr
      _ = 2 ^ (53 + scale rank) := (zpow_add₀ (by norm_num) _ _).symm
      _ ≤ 2 ^ (1024 : ℤ) := zpow_le_zpow_right₀ (by norm_num) (by have := scale_le h; omega)

end Binary64

namespace Decimal

open Binary64

/-! The decimal exponent of a magnitude. -/

/-- The estimate of a decimal exponent from a binary one is low enough. -/
theorem ten_zpow_le_two_zpow {t l : ℤ} (h : 100000 * t ≤ 30103 * l) (least : -1100 ≤ l) (most : l ≤ 1060) :
    (10 : ℚ) ^ (t - 1) ≤ 2 ^ l := by
  -- the logarithm of two lies between 3 / 10 and 16 / 53
  have ten : (1 : ℚ) ≤ 10 := by norm_num
  have below : (10 : ℚ) ^ (3 : ℤ) ≤ 2 ^ (10 : ℤ) := by norm_num
  have above : (2 : ℚ) ^ (53 : ℤ) ≤ 10 ^ (16 : ℤ) := by norm_num
  rcases le_or_gt 0 l with up | down
  · obtain ⟨n, rfl⟩ := Int.eq_ofNat_of_zero_le up
    rw [← pow_le_pow_iff_left₀ (by positivity) (by positivity) (by decide : 10 ≠ 0)]
    calc ((10 : ℚ) ^ (t - 1)) ^ 10 = 10 ^ ((t - 1) * 10) := (zpow_mul _ _ _).symm
      _ ≤ 10 ^ (3 * (n : ℤ)) := zpow_le_zpow_right₀ ten (by omega)
      _ = ((10 : ℚ) ^ (3 : ℤ)) ^ n := by rw [zpow_mul, zpow_natCast]
      _ ≤ ((2 : ℚ) ^ (10 : ℤ)) ^ n := pow_le_pow_left₀ (by positivity) below n
      _ = ((2 : ℚ) ^ (n : ℤ)) ^ 10 := by
        rw [zpow_natCast, ← pow_mul, Nat.mul_comm, pow_mul]
        rfl
  · obtain ⟨n, rfl⟩ := Int.exists_eq_neg_ofNat down.le
    rw [← pow_le_pow_iff_left₀ (by positivity) (by positivity) (by decide : 53 ≠ 0)]
    have inverse : ((2 : ℚ) ^ (-(n : ℤ))) ^ 53 = (((2 : ℚ) ^ (53 : ℤ)) ^ n)⁻¹ := by
      rw [zpow_neg, zpow_natCast, inv_pow, ← pow_mul, Nat.mul_comm, pow_mul]
      rfl
    rw [inverse]
    calc ((10 : ℚ) ^ (t - 1)) ^ 53 = 10 ^ ((t - 1) * 53) := (zpow_mul _ _ _).symm
      _ ≤ 10 ^ (-(16 * (n : ℤ))) := zpow_le_zpow_right₀ ten (by omega)
      _ = (((10 : ℚ) ^ (16 : ℤ)) ^ n)⁻¹ := by rw [zpow_neg, zpow_mul, zpow_natCast]
      _ ≤ (((2 : ℚ) ^ (53 : ℤ)) ^ n)⁻¹ := by gcongr

theorem climb_spec {num den : Nat} (hd : 0 < den) (fuel : Nat) {e : ℤ} (h : (10 : ℚ) ^ e ≤ num / den) :
    (10 : ℚ) ^ climb num den fuel e ≤ num / den ∧ e ≤ climb num den fuel e ∧ climb num den fuel e ≤ e + fuel := by
  induction fuel generalizing e with
  | zero => exact ⟨h, le_refl e, le_of_eq (Int.add_zero e).symm⟩
  | succ fuel ih =>
    unfold climb
    split
    · rename_i fits
      rw [← Nat.not_lt, scaled_lt_iff num hd (by decide), not_lt] at fits
      obtain ⟨reached, least, most⟩ := ih fits
      exact ⟨reached, by omega, by omega⟩
    · exact ⟨h, le_refl e, by omega⟩

/-- A magnitude reaches the power of ten of its leading exponent. -/
theorem leadingExponent_spec {rank : Nat} (some : 0 < rank) (h : rank < 0x7FF0000000000000) :
    (10 : ℚ) ^ leadingExponent (numerator (significand rank) (scale rank)) (denominator (scale rank)) ≤ magnitude rank
      ∧ -325 ≤ leadingExponent (numerator (significand rank) (scale rank)) (denominator (scale rank))
      ∧ leadingExponent (numerator (significand rank) (scale rank)) (denominator (scale rank)) ≤ 312 := by
  obtain ⟨least, most⟩ := floorLog_bounds some h
  have log := (floorLog_spec (numerator_pos some) (denominator_pos (scale rank))).1
  rw [← ratio_magnitude rank]
  unfold leadingExponent
  generalize floorLog (numerator (significand rank) (scale rank)) (denominator (scale rank)) = l at *
  have estimate : 100000 * (l * 30103).fdiv 100000 ≤ 30103 * l := by
    rw [Int.mul_comm 30103 l, Int.fdiv_eq_ediv_of_nonneg _ (by decide)]
    exact Int.mul_ediv_self_le (by decide)
  have low := ten_zpow_le_two_zpow estimate (by omega) (by omega)
  obtain ⟨reached, up, down⟩ := climb_spec (denominator_pos (scale rank)) 4 (low.trans log)
  rw [Int.fdiv_eq_ediv_of_nonneg _ (by decide)] at *
  exact ⟨reached, by omega, by omega⟩

/-! The neighbours on a grid. -/

theorem neighbour?_spec {target : Binary64} {num den : Nat} {e : ℤ} {d : Decimal}
    (h : neighbour? target num den e = some d) : d.toBinary = target ∧ d.exponent = e := by
  unfold neighbour? at h
  dsimp only at h
  split at h
  · rename_i both
    rw [Bool.and_eq_true, decide_eq_true_eq, decide_eq_true_eq] at both
    cases h
    rcases roundQuotient_floor_or_succ (num * Nat.pow 10 (-e).toNat) (den * Nat.pow 10 e.toNat) with floor | next
    · rw [floor]
      exact ⟨both.1, rfl⟩
    · rw [next]
      exact ⟨both.2, rfl⟩
  · split at h
    · rename_i low
      cases h
      exact ⟨of_decide_eq_true low, rfl⟩
    · split at h
      · rename_i high
        cases h
        exact ⟨of_decide_eq_true high, rfl⟩
      · cases h

/-- A grid with a neighbour that reads back gives an answer. -/
theorem neighbour?_isSome {target : Binary64} {num den : Nat} {e : ℤ}
    (h : Decimal.toBinary ⟨roundQuotient (num * Nat.pow 10 (-e).toNat) (den * Nat.pow 10 e.toNat), e⟩ = target) :
    ∃ d, neighbour? target num den e = some d := by
  unfold neighbour?
  dsimp only
  rcases roundQuotient_floor_or_succ (num * Nat.pow 10 (-e).toNat) (den * Nat.pow 10 e.toNat) with floor | next
  · rw [floor] at h
    rw [decide_eq_true h, Bool.true_and]
    split
    · exact ⟨_, rfl⟩
    · exact ⟨_, rfl⟩
  · rw [next] at h
    rw [decide_eq_true h, Bool.and_true]
    split
    · exact ⟨_, rfl⟩
    · exact ⟨_, rfl⟩

/-- On the grid of seventeen digits the nearer neighbour reads back. -/
theorem toBinary_of_grid {rank : Nat} {e : ℤ} (least : -400 ≤ e) (most : e ≤ 400)
    (fine : (10 : ℚ) ^ (e + 16) ≤ magnitude rank) :
    Decimal.toBinary ⟨roundQuotient (numerator (significand rank) (scale rank) * Nat.pow 10 (-e).toNat)
      (denominator (scale rank) * Nat.pow 10 e.toNat), e⟩ = ofRank false rank := by
  have positive : (0 : ℚ) < 10 ^ e := by positivity
  have grid : (10 : ℚ) ^ (e + 16) = 10 ^ e * 10 ^ 16 := by
    rw [zpow_add₀ (by norm_num)]
    norm_num
  have step : 0 < denominator (scale rank) * Nat.pow 10 e.toNat :=
    Nat.mul_pos (denominator_pos (scale rank)) (Nat.pow_pos (by decide))
  have half := roundQuotient_near (numerator (significand rank) (scale rank) * Nat.pow 10 (-e).toNat) step
  rw [ratio_scaled, ratio_magnitude] at half
  generalize roundQuotient (numerator (significand rank) (scale rank) * Nat.pow 10 (-e).toNat)
    (denominator (scale rank) * Nat.pow 10 e.toNat) = digits at half ⊢
  have units : magnitude rank = magnitude rank / (10 : ℕ) ^ e * 10 ^ e := by
    field_simp
    norm_num
  generalize magnitude rank / ((10 : ℕ) : ℚ) ^ e = ratio at half units
  have large : (10 : ℚ) ^ 16 ≤ ratio := by
    apply le_of_mul_le_mul_right _ positive
    rw [← units]
    linarith
  have digitsPos : 0 < digits := by
    rw [← Nat.cast_pos (α := ℚ)]
    have := neg_abs_le ((digits : ℚ) - ratio)
    linarith
  have value : ((digits * Nat.pow 10 e.toNat : Nat) : ℚ) / (Nat.pow 10 (-e).toNat : Nat) = digits * 10 ^ e := by
    rw [zpow_eq_div 10 e]
    simp only [Nat.pow_eq, Nat.cast_mul, Nat.cast_pow, Nat.cast_ofNat]
    rw [mul_div_assoc]
  unfold toBinary
  dsimp only
  rw [ofDecimal_eq false digitsPos least most]
  have num : 0 < digits * Nat.pow 10 e.toNat := Nat.mul_pos digitsPos (Nat.pow_pos (by decide))
  have den : 0 < Nat.pow 10 (-e).toNat := Nat.pow_pos (by decide)
  apply ofRatio_of_near false num den
  rw [value, units, ← sub_mul, abs_mul, abs_of_pos positive]
  calc 2 * (|(digits : ℚ) - ratio| * 10 ^ e) * 10 ^ 16
      = 2 * |(digits : ℚ) - ratio| * (10 ^ e * 10 ^ 16) := by ring
    _ ≤ 1 * (10 ^ e * 10 ^ 16) := by gcongr
    _ = 10 ^ 16 * 10 ^ e := by ring
    _ ≤ ratio * 10 ^ e := by gcongr

/-! Zeros at the end. -/

theorem trim_spec (fuel : Nat) {d : Decimal} (least : -400 ≤ d.exponent) (most : d.exponent + fuel ≤ 400) :
    (trim fuel d).toBinary = d.toBinary ∧ d.exponent ≤ (trim fuel d).exponent
      ∧ (trim fuel d).exponent ≤ d.exponent + fuel := by
  induction fuel generalizing d with
  | zero => exact ⟨rfl, le_refl _, le_of_eq (Int.add_zero _).symm⟩
  | succ fuel ih =>
    unfold trim
    split
    · rename_i zero
      have whole : d.digits = d.digits / 10 * Nat.pow 10 1 := (Nat.div_mul_cancel (Nat.dvd_of_mod_eq_zero zero.2)).symm
      obtain ⟨same, low, high⟩ :=
        ih (d := ⟨d.digits / 10, d.exponent + 1⟩) (by dsimp only; omega) (by dsimp only; omega)
      dsimp only at low high
      refine ⟨?_, by omega, by omega⟩
      rw [same]
      unfold toBinary
      dsimp only
      conv_rhs => rw [whole]
      exact (ofDecimal_zeros false _ 1 least (by omega)).symm
    · exact ⟨rfl, le_refl _, by omega⟩

/-- One of the grids that are tried gives the answer. -/
theorem shortest_of_pos {rank : Fin 0x7FF0000000000000} (some : 0 < rank.val) :
    ∃ (k : Nat) (d : Decimal), k < 17 ∧ shortest rank = trim 20 d
      ∧ neighbour? (.finite false rank) (numerator (significand rank.val) (scale rank.val)) (denominator (scale rank.val))
        (leadingExponent (numerator (significand rank.val) (scale rank.val)) (denominator (scale rank.val)) - k) = .some d := by
  obtain ⟨reached, least, most⟩ := leadingExponent_spec some rank.isLt
  unfold shortest
  rw [if_neg some.ne']
  dsimp only
  generalize leadingExponent (numerator (significand rank.val) (scale rank.val))
    (denominator (scale rank.val)) = top at *
  have back := toBinary_of_grid (e := top - 16) (by omega) (by omega) (by simpa using reached)
  have hit := neighbour?_isSome (back.trans (ofRank_val false rank))
  have last : top - 16 ∈ (List.range 17).map fun (k : Nat) => top - (k : Int) :=
    List.mem_map_of_mem (a := 16) (by decide)
  obtain ⟨d, found⟩ := Option.isSome_iff_exists.mp (List.findSome?_isSome_iff.mpr
    ⟨top - 16, last, Option.isSome_iff_exists.mpr hit⟩)
  obtain ⟨e, tried, answer⟩ := List.exists_of_findSome?_eq_some found
  obtain ⟨k, within, rfl⟩ := List.mem_map.mp tried
  rw [found]
  exact ⟨k, d, List.mem_range.mp within, rfl, answer⟩

/-- The digits that are printed read back. -/
theorem shortest_spec (rank : Fin 0x7FF0000000000000) :
    (shortest rank).toBinary = .finite false rank ∧ -345 ≤ (shortest rank).exponent
      ∧ (shortest rank).exponent ≤ 335 := by
  rcases Nat.eq_zero_or_pos rank.val with none | some
  · have zero : shortest rank = ⟨0, 0⟩ := if_pos none
    rw [zero]
    refine ⟨?_, by decide, by decide⟩
    rw [← ofRank_val false rank, none]
    rfl
  · obtain ⟨-, least, most⟩ := leadingExponent_spec some rank.isLt
    obtain ⟨k, d, few, printed, answer⟩ := shortest_of_pos some
    obtain ⟨exact, place⟩ := neighbour?_spec answer
    obtain ⟨same, low, high⟩ := trim_spec 20 (d := d) (by omega) (by omega)
    rw [printed]
    exact ⟨same.trans exact, by omega, by omega⟩

theorem shortest_digits_pos {rank : Fin 0x7FF0000000000000} (some : 0 < rank.val) : 0 < (shortest rank).digits := by
  have exact := (shortest_spec rank).1
  apply Nat.pos_of_ne_zero
  intro none
  have zero : (shortest rank).toBinary = ofRank false 0 := if_pos none
  rw [zero, ← ofRank_val false rank] at exact
  have first : rank.val = 0 := by
    unfold ofRank at exact
    rw [dif_pos (by decide), dif_pos rank.isLt] at exact
    exact (congrArg Fin.val (Binary64.finite.inj exact).2).symm
  omega

end Decimal

end CanaryGate
