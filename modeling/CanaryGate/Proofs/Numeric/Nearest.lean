import CanaryGate.Numeric.Binary64
import Mathlib.Algebra.Order.Field.Power
import Mathlib.Tactic.FieldSimp
import Mathlib.Tactic.Linarith
import Mathlib.Tactic.Positivity
import Mathlib.Tactic.Push
import Mathlib.Tactic.Ring

/-! # Rounding to the nearest double

A double is named by its rank, and rounding a ratio picks a rank. Two facts are needed of it: equal ratios
are rounded alike, and a ratio that is close to a magnitude, far closer than half the distance to the next
one, is rounded to it. Close means within one part in ten to the sixteenth of the magnitude, halved: that is
what seventeen decimal digits promise.
-/

namespace CanaryGate

/-- A power with an integer exponent, as it is computed on natural numbers. -/
theorem zpow_eq_div (b : ℚ) (q : ℤ) : b ^ q = b ^ q.toNat / b ^ (-q).toNat := by
  cases q with
  | ofNat n => simp
  | negSucc n =>
      have negated : (-Int.negSucc n).toNat = n + 1 := rfl
      rw [negated, zpow_negSucc]
      simp

/-- A ratio in units of a power of the base `b`. -/
theorem ratio_scaled (num den b : Nat) (q : ℤ) :
    ((num * Nat.pow b (-q).toNat : Nat) : ℚ) / (den * Nat.pow b q.toNat : Nat) = num / den / b ^ q := by
  rw [zpow_eq_div b q]
  simp only [Nat.pow_eq, Nat.cast_mul, Nat.cast_pow]
  rw [div_div_div_eq]

theorem scaled_lt_iff {den b : Nat} (num : Nat) (hd : 0 < den) (hb : 0 < b) (q : ℤ) :
    num * Nat.pow b (-q).toNat < den * Nat.pow b q.toNat ↔ (num : ℚ) / den < b ^ q := by
  have positive : 0 < den * Nat.pow b q.toNat := Nat.mul_pos hd (Nat.pow_pos hb)
  have power : (0 : ℚ) < b ^ q := by positivity
  rw [← Nat.cast_lt (α := ℚ), ← div_lt_one (by exact_mod_cast positive), ratio_scaled, div_lt_one power]

/-! The nearest integer. -/

theorem roundQuotient_mul_right (num den : Nat) {k : Nat} (h : 0 < k) :
    roundQuotient (num * k) (den * k) = roundQuotient num den := by
  have less : ∀ a b : Nat, 2 * (a * k) < b * k ↔ 2 * a < b := by
    intro a b
    rw [← Nat.mul_assoc, Nat.mul_lt_mul_right h]
  have more : ∀ a b : Nat, b * k < 2 * (a * k) ↔ b < 2 * a := by
    intro a b
    rw [← Nat.mul_assoc, Nat.mul_lt_mul_right h]
  simp only [roundQuotient, Nat.mul_div_mul_right _ _ h, Nat.mul_mod_mul_right, less, more]

/-- Equal ratios have the same nearest integer. -/
theorem roundQuotient_congr {a b c d : Nat} (hb : 0 < b) (hd : 0 < d) (same : a * d = c * b) :
    roundQuotient a b = roundQuotient c d := by
  rw [← roundQuotient_mul_right a b hd, ← roundQuotient_mul_right c d hb, same, Nat.mul_comm b d]

theorem roundQuotient_floor_or_succ (num den : Nat) :
    roundQuotient num den = num / den ∨ roundQuotient num den = num / den + 1 := by
  unfold roundQuotient
  dsimp only
  split
  · exact .inl rfl
  · split
    · exact .inr rfl
    · split
      · exact .inl rfl
      · exact .inr rfl

/-- The nearest integer is at most a half away. -/
theorem roundQuotient_near (num : Nat) {den : Nat} (hd : 0 < den) :
    2 * |(roundQuotient num den : ℚ) - num / den| ≤ 1 := by
  have positive : (0 : ℚ) < den := by exact_mod_cast hd
  have whole : num = den * (num / den) + num % den := (Nat.div_add_mod num den).symm
  have small : num % den < den := Nat.mod_lt num hd
  have sides : 2 * (roundQuotient num den * den) ≤ 2 * num + den
      ∧ 2 * num ≤ 2 * (roundQuotient num den * den) + den := by
    unfold roundQuotient
    generalize num / den = floor at *
    generalize num % den = rest at *
    subst whole
    have floors : floor * den = den * floor := Nat.mul_comm _ _
    have next : (floor + 1) * den = den * floor + den := by rw [Nat.succ_mul, floors]
    dsimp only
    split
    · omega
    · split
      · omega
      · split
        · omega
        · omega
  have above : (2 * (roundQuotient num den * den) : ℚ) ≤ 2 * num + den := by exact_mod_cast sides.1
  have below : (2 * num : ℚ) ≤ 2 * (roundQuotient num den * den) + den := by exact_mod_cast sides.2
  have rejoined : (num : ℚ) / den * den = num := div_mul_cancel₀ _ positive.ne'
  have upper : 2 * ((roundQuotient num den : ℚ) - num / den) ≤ 1 := by
    apply le_of_mul_le_mul_right _ positive
    linarith
  have lower : 2 * ((num : ℚ) / den - roundQuotient num den) ≤ 1 := by
    apply le_of_mul_le_mul_right _ positive
    linarith
  rcases abs_cases ((roundQuotient num den : ℚ) - num / den) with ⟨same, -⟩ | ⟨turned, -⟩
  · rw [same]
    exact upper
  · rw [turned, neg_sub]
    exact lower

/-- An integer less than a half away is the nearest one. -/
theorem roundQuotient_eq_of_near {num den k : Nat} (hd : 0 < den) (above : 2 * num < (2 * k + 1) * den)
    (below : 2 * k * den < 2 * num + den) : roundQuotient num den = k := by
  have whole : num = den * (num / den) + num % den := (Nat.div_add_mod num den).symm
  have small : num % den < den := Nat.mod_lt num hd
  unfold roundQuotient
  generalize num / den = floor at *
  generalize num % den = rest at *
  subst whole
  have low : floor < k + 1 := by
    apply Nat.lt_of_mul_lt_mul_right (a := den)
    linarith
  have high : k < floor + 2 := by
    apply Nat.lt_of_mul_lt_mul_right (a := den)
    linarith
  obtain rfl | rfl : k = floor ∨ k = floor + 1 := by omega
  · rw [if_pos (by linarith)]
  · have beyond : den < 2 * rest := by linarith
    rw [if_neg (by omega), if_pos beyond]

theorem roundQuotient_eq_of_ratio {num den k : Nat} (hd : 0 < den) (above : 2 * ((num : ℚ) / den) < 2 * k + 1)
    (below : 2 * k < 2 * ((num : ℚ) / den) + 1) : roundQuotient num den = k := by
  have positive : (0 : ℚ) < den := by exact_mod_cast hd
  refine roundQuotient_eq_of_near hd ?_ ?_
  · rw [mul_div_assoc', div_lt_iff₀ positive] at above
    exact_mod_cast above
  · rw [mul_div_assoc', ← sub_lt_iff_lt_add, lt_div_iff₀ positive] at below
    have : (2 * k * den : ℚ) < 2 * num + den := by linarith
    exact_mod_cast this

namespace Binary64

theorem ratio_shifted (num den : Nat) (q : ℤ) :
    ((num * Nat.pow 2 (-q).toNat : Nat) : ℚ) / (den * Nat.pow 2 q.toNat : Nat) = num / den / 2 ^ q :=
  ratio_scaled num den 2 q

theorem shifted_lt_iff {num den : Nat} (hd : 0 < den) (q : ℤ) :
    num * Nat.pow 2 (-q).toNat < den * Nat.pow 2 q.toNat ↔ (num : ℚ) / den < 2 ^ q :=
  scaled_lt_iff num hd (by decide) q

/-! The binary logarithm. -/

/-- The exponent is the one of the power of two at a ratio or below it. -/
theorem floorLog_spec {num den : Nat} (hn : 0 < num) (hd : 0 < den) :
    (2 : ℚ) ^ floorLog num den ≤ num / den ∧ (num : ℚ) / den < 2 ^ (floorLog num den + 1) := by
  have positive : (0 : ℚ) < den := by exact_mod_cast hd
  have two : (2 : ℚ) ≠ 0 := by norm_num
  have numLow : (2 : ℚ) ^ (num.log2 : ℤ) ≤ num := by exact_mod_cast Nat.log2_self_le hn.ne'
  have numHigh : (num : ℚ) < 2 ^ ((num.log2 : ℤ) + 1) := by exact_mod_cast Nat.lt_log2_self
  have denLow : (2 : ℚ) ^ (den.log2 : ℤ) ≤ den := by exact_mod_cast Nat.log2_self_le hd.ne'
  have denHigh : (den : ℚ) < 2 ^ ((den.log2 : ℤ) + 1) := by exact_mod_cast Nat.lt_log2_self
  have above : (num : ℚ) / den < 2 ^ ((num.log2 : ℤ) - den.log2 + 1) := by
    rw [div_lt_iff₀ positive]
    calc (num : ℚ) < 2 ^ ((num.log2 : ℤ) + 1) := numHigh
      _ = 2 ^ ((num.log2 : ℤ) - den.log2 + 1) * 2 ^ (den.log2 : ℤ) := by
        rw [← zpow_add₀ two]
        congr 1
        omega
      _ ≤ 2 ^ ((num.log2 : ℤ) - den.log2 + 1) * den := by gcongr
  have below : (2 : ℚ) ^ ((num.log2 : ℤ) - den.log2 - 1) ≤ num / den := by
    rw [le_div_iff₀ positive]
    calc (2 : ℚ) ^ ((num.log2 : ℤ) - den.log2 - 1) * den
        ≤ 2 ^ ((num.log2 : ℤ) - den.log2 - 1) * 2 ^ ((den.log2 : ℤ) + 1) := by gcongr
      _ = 2 ^ (num.log2 : ℤ) := by
        rw [← zpow_add₀ two]
        congr 1
        omega
      _ ≤ num := numLow
  unfold floorLog
  dsimp only
  split
  · rename_i small
    rw [shifted_lt_iff hd] at small
    rw [sub_add_cancel]
    exact ⟨below, small⟩
  · rename_i large
    rw [shifted_lt_iff hd] at large
    exact ⟨not_lt.mp large, above⟩

theorem floorLog_lt_of_ratio_lt {num den : Nat} (hn : 0 < num) (hd : 0 < den) {e : ℤ} (h : (num : ℚ) / den < 2 ^ e) :
    floorLog num den < e :=
  (zpow_lt_zpow_iff_right₀ (by norm_num)).mp ((floorLog_spec hn hd).1.trans_lt h)

theorem le_floorLog_of_le_ratio {num den : Nat} (hn : 0 < num) (hd : 0 < den) {e : ℤ} (h : (2 : ℚ) ^ e ≤ num / den) :
    e ≤ floorLog num den :=
  Int.lt_add_one_iff.mp ((zpow_lt_zpow_iff_right₀ (by norm_num)).mp (h.trans_lt (floorLog_spec hn hd).2))

theorem ratio_lt_of_floorLog_lt {num den : Nat} (hn : 0 < num) (hd : 0 < den) {e : ℤ} (h : floorLog num den < e) :
    (num : ℚ) / den < 2 ^ e :=
  (floorLog_spec hn hd).2.trans_le (zpow_le_zpow_right₀ (by norm_num) h)

/-! Rounding. -/

/-- Equal ratios are rounded alike. -/
theorem ofRatio_congr (negative : Bool) {a b c d : Nat} (hb : 0 < b) (hd : 0 < d) (same : a * d = c * b) :
    ofRatio negative a b = ofRatio negative c d := by
  rcases Nat.eq_zero_or_pos a with rfl | ha
  · obtain rfl : c = 0 := by
      rw [Nat.zero_mul, eq_comm, Nat.mul_eq_zero] at same
      omega
    unfold ofRatio
    rw [if_pos rfl, if_pos rfl]
  · have hc : 0 < c := by
      have : 0 < c * b := same ▸ Nat.mul_pos ha hd
      exact Nat.pos_of_mul_pos_right this
    have ratio : (a : ℚ) / b = c / d := by
      rw [div_eq_div_iff (by exact_mod_cast hb.ne') (by exact_mod_cast hd.ne')]
      exact_mod_cast same
    have log : floorLog a b = floorLog c d := by
      apply le_antisymm
      · exact le_floorLog_of_le_ratio hc hd (ratio ▸ (floorLog_spec ha hb).1)
      · exact le_floorLog_of_le_ratio ha hb (ratio ▸ (floorLog_spec hc hd).1)
    unfold ofRatio
    rw [if_neg ha.ne', if_neg hc.ne', log]
    dsimp only
    generalize max (-1074) (floorLog c d - 52) = q
    congr 2
    apply roundQuotient_congr
    · exact Nat.mul_pos hb (Nat.pow_pos (by decide))
    · exact Nat.mul_pos hd (Nat.pow_pos (by decide))
    · calc a * Nat.pow 2 (-q).toNat * (d * Nat.pow 2 q.toNat)
          = a * d * (Nat.pow 2 (-q).toNat * Nat.pow 2 q.toNat) := by ring
        _ = c * Nat.pow 2 (-q).toNat * (b * Nat.pow 2 q.toNat) := by
          rw [same]
          ring

/-- The magnitude of a rank. -/
def magnitude (rank : Nat) : ℚ := significand rank * 2 ^ scale rank

theorem significand_lt (rank : Nat) : significand rank < 2 * unit := by
  unfold significand
  split
  · omega
  · have := Nat.mod_lt rank (by decide : 0 < unit)
    omega

theorem significand_pos {rank : Nat} (h : 0 < rank) : 0 < significand rank := by
  unfold significand
  split
  · exact h
  · have : 0 < unit := by decide
    omega

theorem le_scale (rank : Nat) : -1074 ≤ scale rank := by
  unfold scale
  split
  · exact le_refl _
  · have : 1 ≤ rank / unit := (Nat.one_le_div_iff (by decide)).mpr (by omega)
    omega

/-- Only the least scale has significands below the normal range. -/
theorem scale_or_significand (rank : Nat) : scale rank = -1074 ∨ unit ≤ significand rank := by
  unfold scale significand
  split
  · exact .inl rfl
  · exact .inr (by omega)

/-- A rank is put together from its scale and its significand. -/
theorem rank_eq (rank : Nat) : (scale rank + 1074).toNat * unit + significand rank = rank := by
  unfold scale significand unit
  split
  · simp
  · omega

/-- Close to a magnitude, on the scale of its significand. -/
theorem near_significand {rank : Nat} {x : ℚ} (near : 2 * |x - magnitude rank| * 10 ^ 16 ≤ magnitude rank) :
    2 * 10 ^ 16 * (x / 2 ^ scale rank - significand rank) ≤ significand rank
      ∧ 2 * 10 ^ 16 * (significand rank - x / 2 ^ scale rank) ≤ significand rank := by
  have positive : (0 : ℚ) < 2 ^ scale rank := by positivity
  have shown : magnitude rank = significand rank * 2 ^ scale rank := rfl
  have away : x - magnitude rank = (x / 2 ^ scale rank - significand rank) * 2 ^ scale rank := by
    rw [shown]
    field_simp
  rw [away, abs_mul, abs_of_pos positive, shown] at near
  have close : 2 * |x / 2 ^ scale rank - significand rank| * 10 ^ 16 ≤ significand rank := by
    apply le_of_mul_le_mul_right _ positive
    linarith
  have upper := le_abs_self (x / 2 ^ scale rank - significand rank)
  have lower := neg_abs_le (x / 2 ^ scale rank - significand rank)
  constructor
  · linarith
  · linarith

theorem ratio_lt_scaled_iff {num den rank : Nat} (q : ℤ) :
    (num : ℚ) / den / 2 ^ scale rank < 2 ^ q ↔ (num : ℚ) / den < 2 ^ (q + scale rank) := by
  rw [div_lt_iff₀ (by positivity), ← zpow_add₀ (by norm_num)]

/-- A ratio that is close to a magnitude is rounded on the magnitude's own scale, or on the one below where the
magnitude is the first of its scale. -/
theorem quantum_cases {num den rank : Nat} (hn : 0 < num) (hd : 0 < den)
    (near : 2 * |(num : ℚ) / den - magnitude rank| * 10 ^ 16 ≤ magnitude rank) :
    max (-1074) (floorLog num den - 52) = scale rank
      ∨ max (-1074) (floorLog num den - 52) = scale rank - 1 ∧ significand rank = unit := by
  obtain ⟨above, below⟩ := near_significand near
  have least := le_scale rank
  have top : (significand rank : ℚ) ≤ 2 ^ 53 - 1 := by
    have under : significand rank + 1 ≤ 2 ^ 53 := significand_lt rank
    have : ((significand rank : ℚ) + 1) ≤ 2 ^ 53 := by exact_mod_cast under
    linarith
  have small : floorLog num den < 53 + scale rank := by
    apply floorLog_lt_of_ratio_lt hn hd
    rw [← ratio_lt_scaled_iff]
    have : (2 : ℚ) ^ (53 : ℤ) = 2 ^ 53 := by norm_num
    linarith
  rcases scale_or_significand rank with first | normal
  · left
    omega
  · have floor : (2 : ℚ) ^ 52 ≤ significand rank := by exact_mod_cast normal
    have large : 51 + scale rank ≤ floorLog num den := by
      apply le_floorLog_of_le_ratio hn hd
      rw [← not_lt, ← ratio_lt_scaled_iff, not_lt]
      have : (2 : ℚ) ^ (51 : ℤ) = 2 ^ 51 := by norm_num
      linarith
    by_cases same : floorLog num den = 52 + scale rank
    · left
      omega
    · by_cases edge : scale rank = -1074
      · left
        omega
      · right
        have short : (num : ℚ) / den / 2 ^ scale rank < 2 ^ (52 : ℤ) := by
          rw [ratio_lt_scaled_iff]
          exact ratio_lt_of_floorLog_lt hn hd (by omega)
        have limit : (significand rank : ℚ) < 2 ^ 52 + 1 := by
          have : (2 : ℚ) ^ (52 : ℤ) = 2 ^ 52 := by norm_num
          linarith
        have : significand rank < 2 ^ 52 + 1 := by exact_mod_cast limit
        unfold unit at normal ⊢
        omega

/-- A ratio that is close to a magnitude is rounded to it. -/
theorem ofRatio_of_near (negative : Bool) {num den rank : Nat} (hn : 0 < num) (hd : 0 < den)
    (near : 2 * |(num : ℚ) / den - magnitude rank| * 10 ^ 16 ≤ magnitude rank) :
    ofRatio negative num den = ofRank negative rank := by
  obtain ⟨above, below⟩ := near_significand near
  have top : (significand rank : ℚ) < 2 ^ 53 := by exact_mod_cast significand_lt rank
  have whole := rank_eq rank
  have least := le_scale rank
  have positive : ∀ q : ℤ, 0 < den * Nat.pow 2 q.toNat := fun q => Nat.mul_pos hd (Nat.pow_pos (by decide))
  unfold ofRatio
  rw [if_neg hn.ne']
  dsimp only
  rcases quantum_cases hn hd near with quantum | ⟨quantum, first⟩
  · have nearest : roundQuotient (num * Nat.pow 2 (-scale rank).toNat) (den * Nat.pow 2 (scale rank).toNat)
        = significand rank := by
      apply roundQuotient_eq_of_ratio (positive _)
      · rw [ratio_shifted]
        linarith
      · rw [ratio_shifted]
        linarith
    rw [quantum, nearest, whole]
  · have start : (significand rank : ℚ) = 2 ^ 52 := by
      rw [first]
      norm_num [unit]
    have double : (num : ℚ) / den / 2 ^ (scale rank - 1) = 2 * (num / den / 2 ^ scale rank) := by
      rw [zpow_sub_one₀ (by norm_num)]
      field_simp
    have carry : ((2 * unit : Nat) : ℚ) = 2 ^ 53 := by norm_num [unit]
    have nearest : roundQuotient (num * Nat.pow 2 (-(scale rank - 1)).toNat)
        (den * Nat.pow 2 (scale rank - 1).toNat) = 2 * unit := by
      apply roundQuotient_eq_of_ratio (positive _)
      · rw [ratio_shifted, double, carry]
        linarith
      · rw [ratio_shifted, double, carry]
        linarith
    have step : (scale rank + 1074).toNat = (scale rank - 1 + 1074).toNat + 1 := by omega
    rw [step, first] at whole
    have sum : (scale rank - 1 + 1074).toNat * unit + 2 * unit = rank := by
      rw [Nat.two_mul, ← Nat.add_assoc, ← Nat.add_one_mul, whole]
    rw [quantum, nearest, sum]

end Binary64

end CanaryGate
