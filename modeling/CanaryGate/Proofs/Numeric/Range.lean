import CanaryGate.Proofs.Decimal.Shortest

/-! # Order and range of the doubles

Two numbers are ordered one way or the other, and only not-a-number stands outside the order. A positive ratio is
rounded to a rank that its binary logarithm brackets, and so to a finite double exactly below the overflow. An
integer below the overflow is in range, and a thousandth of a positive one is positive again.
-/

namespace CanaryGate

namespace Binary64

variable {x y : Binary64}

theorem le_of_lt_eq_false (hx : x.isNan = false) (hy : y.isNan = false) (h : x.lt y = false) : y.le x = true := by
  have placed : ∀ {z : Binary64}, z.isNan = false → ∃ p, z.position = some p := by
    intro z number
    cases z with
    | nan => cases number
    | infinite negative => cases negative <;> exact ⟨_, rfl⟩
    | finite negative rank => cases negative <;> exact ⟨_, rfl⟩
  obtain ⟨p, atX⟩ := placed hx
  obtain ⟨q, atY⟩ := placed hy
  simpa [lt, le, atX, atY] using h

theorem isNan_of_le (h : x.le y = true) : x.isNan = false ∧ y.isNan = false := by
  cases x <;> cases y <;> simp_all [le, position, isNan]

theorem lt_of_le (h : x.le y = true) : y.lt x = false := by
  unfold le at h
  unfold lt
  split at h
  · rename_i p q atX atY
    simp [atX, atY] at h ⊢
    exact h
  · cases h

theorem le_rfl (number : x.isNan = false) : x.le x = true := by
  cases x with
  | nan => cases number
  | infinite negative => cases negative <;> rfl
  | finite negative rank => cases negative <;> simp [le, position]

end Binary64

/-! The nearest integer. -/

theorem le_roundQuotient {num den k : Nat} (hd : 0 < den) (h : (k : ℚ) ≤ num / den) :
    k ≤ roundQuotient num den := by
  have positive : (0 : ℚ) < den := by exact_mod_cast hd
  rw [le_div_iff₀ positive] at h
  have floor : k ≤ num / den := (Nat.le_div_iff_mul_le hd).mpr (by exact_mod_cast h)
  rcases roundQuotient_floor_or_succ num den with down | up <;> omega

theorem roundQuotient_le {num den k : Nat} (hd : 0 < den) (h : (num : ℚ) / den < k) :
    roundQuotient num den ≤ k := by
  have positive : (0 : ℚ) < den := by exact_mod_cast hd
  rw [div_lt_iff₀ positive] at h
  have floor : num / den < k := (Nat.div_lt_iff_lt_mul hd).mpr (by exact_mod_cast h)
  rcases roundQuotient_floor_or_succ num den with down | up <;> omega

/-- A quotient is rounded to less than an even integer exactly if it is more than a half below it: the half itself
goes up. -/
theorem roundQuotient_lt_iff_of_even {num den k : Nat} (hd : 0 < den) (even : k % 2 = 0) :
    roundQuotient num den < k ↔ 2 * ((num : ℚ) / den) < 2 * k - 1 := by
  have positive : (0 : ℚ) < den := by exact_mod_cast hd
  have whole : num = den * (num / den) + num % den := (Nat.div_add_mod num den).symm
  have small : num % den < den := Nat.mod_lt num hd
  have cleared : 2 * ((num : ℚ) / den) < 2 * k - 1 ↔ 2 * num + den < 2 * (k * den) := by
    rw [mul_div_assoc', div_lt_iff₀ positive, sub_mul, one_mul, lt_sub_iff_add_lt, mul_assoc]
    exact_mod_cast Iff.rfl
  rw [cleared]
  unfold roundQuotient
  generalize num / den = floor at *
  generalize num % den = rest at *
  subst whole
  have floors : den * floor = floor * den := Nat.mul_comm _ _
  rcases Nat.lt_trichotomy (floor + 1) k with below | rfl | above
  · have room : (floor + 2) * den ≤ k * den := Nat.mul_le_mul_right den below
    rw [Nat.add_mul] at room
    dsimp only
    split
    · omega
    · split
      · omega
      · split <;> omega
  · rw [Nat.add_mul]
    dsimp only
    split
    · omega
    · split
      · omega
      · split <;> omega
  · have room : k * den ≤ floor * den := Nat.mul_le_mul_right den (by omega)
    dsimp only
    split
    · omega
    · split
      · omega
      · split <;> omega

namespace Binary64

variable {num den : Nat}

/-! The range of ratios. -/

/-- From this ratio on there is no finite double: it lies half a unit beyond the greatest one. -/
def overflow : ℚ := 2 ^ (1024 : ℤ) - 2 ^ (970 : ℤ)

theorem zpow_le_overflow : (2 : ℚ) ^ (1023 : ℤ) ≤ overflow := by
  have double : (2 : ℚ) ^ (1024 : ℤ) = 2 ^ (1023 : ℤ) * 2 := zpow_add_one₀ (by norm_num) 1023
  have less : (2 : ℚ) ^ (970 : ℤ) ≤ 2 ^ (1023 : ℤ) := zpow_le_zpow_right₀ (by norm_num) (by omega)
  rw [overflow, double, mul_two, le_sub_iff_add_le]
  exact add_le_add_right less _

theorem isFinite_ofRank_iff (negative : Bool) (rank : Nat) :
    (ofRank negative rank).isFinite = true ↔ rank < 2047 * unit := by
  unfold ofRank
  split
  · rename_i inside
    exact iff_of_true rfl inside
  · rename_i outside
    exact iff_of_false (by simp [isFinite]) outside

/-- The rank that a ratio is rounded to. -/
def nearestRank (num den : Nat) : Nat :=
  let q : Int := max (-1074) (floorLog num den - 52)
  (q + 1074).toNat * unit + roundQuotient (num * Nat.pow 2 (-q).toNat) (den * Nat.pow 2 q.toNat)

theorem ofRatio_eq (negative : Bool) (hn : 0 < num) :
    ofRatio negative num den = ofRank negative (nearestRank num den) := by
  unfold ofRatio nearestRank
  rw [if_neg hn.ne']

theorem unit_mul_zpow (q : ℤ) : (unit : ℚ) * 2 ^ q = 2 ^ (q + 52) := by
  have power : (unit : ℚ) = 2 ^ (52 : ℤ) := by norm_num [unit]
  rw [power, ← zpow_add₀ (by norm_num), add_comm]

theorem nearestRank_of_subnormal (hn : 0 < num) (hd : 0 < den) (small : floorLog num den < -1022) :
    nearestRank num den ≤ unit := by
  have quantum : max (-1074) (floorLog num den - 52) = -1074 := by omega
  have positive : 0 < den * Nat.pow 2 (-1074 : ℤ).toNat := Nat.mul_pos hd (Nat.pow_pos (by decide))
  have least : roundQuotient (num * Nat.pow 2 (-(-1074 : ℤ)).toNat) (den * Nat.pow 2 (-1074 : ℤ).toNat) ≤ unit := by
    apply roundQuotient_le positive
    rw [ratio_shifted, div_lt_iff₀ (by positivity)]
    calc (num : ℚ) / den
      _ < 2 ^ (-1022 : ℤ) := ratio_lt_of_floorLog_lt hn hd small
      _ = unit * 2 ^ (-1074 : ℤ) := by
        have place : (-1074 + 52 : ℤ) = -1022 := rfl
        rw [unit_mul_zpow, place]
  have lowest : (-1074 + 1074 : ℤ).toNat = 0 := rfl
  unfold nearestRank
  rw [quantum]
  dsimp only
  rw [lowest, Nat.zero_mul, Nat.zero_add]
  exact least

/-- In the normal range the scale is counted in whole units of ranks, and the significand is rounded on it. -/
theorem nearestRank_of_normal (hn : 0 < num) (hd : 0 < den) (normal : -1022 ≤ floorLog num den) :
    ∃ m, nearestRank num den = (floorLog num den + 1022).toNat * unit + m ∧ unit ≤ m ∧ m ≤ 2 * unit
      ∧ (m < 2 * unit ↔ (num : ℚ) / den < 2 ^ (floorLog num den + 1) - 2 ^ (floorLog num den - 53)) := by
  obtain ⟨low, high⟩ := floorLog_spec hn hd
  have two : (2 : ℚ) ≠ 0 := by norm_num
  have quantum : max (-1074) (floorLog num den - 52) = floorLog num den - 52 := by omega
  unfold nearestRank
  rw [quantum]
  dsimp only
  generalize floorLog num den = e at *
  have positive : 0 < den * Nat.pow 2 (e - 52).toNat := Nat.mul_pos hd (Nat.pow_pos (by decide))
  have scaled : (0 : ℚ) < 2 ^ (e - 52) := by positivity
  have place : e - 52 + 1074 = e + 1022 := by omega
  have bottom : (2 : ℚ) ^ e = unit * 2 ^ (e - 52) := by rw [unit_mul_zpow, sub_add_cancel]
  have top : (2 : ℚ) ^ (e + 1) = (2 * unit : Nat) * 2 ^ (e - 52) := by
    rw [zpow_add₀ two, bottom]
    push_cast
    ring
  have half : (2 : ℚ) ^ (e - 53) * 2 = 2 ^ (e - 52) := by
    rw [← zpow_add_one₀ two]
    congr 1
    omega
  refine ⟨_, by rw [place], ?_, ?_, ?_⟩
  · apply le_roundQuotient positive
    rw [ratio_shifted, le_div_iff₀ scaled, ← bottom]
    exact low
  · apply roundQuotient_le positive
    rw [ratio_shifted, div_lt_iff₀ scaled, ← top]
    exact high
  · rw [roundQuotient_lt_iff_of_even positive (by decide), ratio_shifted, mul_div_assoc', div_lt_iff₀ scaled, top]
    constructor
    · intro below
      linarith
    · intro below
      linarith

/-- A ratio is rounded to a finite double exactly below the overflow. -/
theorem isFinite_ofRatio_iff (negative : Bool) (hn : 0 < num) (hd : 0 < den) :
    (ofRatio negative num den).isFinite = true ↔ (num : ℚ) / den < overflow := by
  have one : (1 : ℚ) ≤ 2 := by norm_num
  have first := zpow_le_overflow
  have last : overflow ≤ 2 ^ (1024 : ℤ) := sub_le_self _ (by positivity)
  rw [ofRatio_eq negative hn, isFinite_ofRank_iff]
  have filled : 0 < unit := by decide
  rcases lt_or_ge (floorLog num den) (-1022) with small | normal
  · have rank := nearestRank_of_subnormal hn hd small
    have ratio : (num : ℚ) / den < 2 ^ (1023 : ℤ) := ratio_lt_of_floorLog_lt hn hd (by omega)
    exact iff_of_true (by omega) (ratio.trans_le first)
  · obtain ⟨m, rank, least, most, edge⟩ := nearestRank_of_normal hn hd normal
    rcases lt_trichotomy (floorLog num den) 1023 with below | same | above
    · have ratio : (num : ℚ) / den < 2 ^ (1023 : ℤ) := ratio_lt_of_floorLog_lt hn hd below
      have room : (floorLog num den + 1022).toNat * unit ≤ 2044 * unit := Nat.mul_le_mul_right unit (by omega)
      exact iff_of_true (by omega) (ratio.trans_le first)
    · rw [same] at rank edge
      have : nearestRank num den < 2047 * unit ↔ m < 2 * unit := by
        have place : (1023 + 1022 : ℤ).toNat = 2045 := rfl
        rw [rank, place]
        omega
      rw [this, edge]
      rfl
    · have ratio : (2 : ℚ) ^ (1024 : ℤ) ≤ num / den :=
        (zpow_le_zpow_right₀ one above).trans (floorLog_spec hn hd).1
      have room : 2046 * unit ≤ (floorLog num den + 1022).toNat * unit := Nat.mul_le_mul_right unit (by omega)
      exact iff_of_false (by omega) (not_lt.mpr (last.trans ratio))

/-- An integer is in the range of doubles exactly below the overflow. -/
theorem isFinite_ofInt_iff (n : Int) : (ofInt n).isFinite = true ↔ (n.natAbs : ℚ) < overflow := by
  unfold ofInt
  rcases Nat.eq_zero_or_pos n.natAbs with none | some
  · rw [none]
    have positive : (0 : ℚ) < overflow := sub_pos.mpr (zpow_lt_zpow_right₀ (by norm_num) (by omega))
    exact iff_of_true rfl (by exact_mod_cast positive)
  · rw [isFinite_ofRatio_iff _ some (by omega), Nat.cast_one, div_one]

/-- A natural number is in range exactly below the overflow. -/
theorem isFinite_ofInt_of_nonneg {n : Int} (natural : 0 ≤ n) :
    (ofInt n).isFinite = true ↔ n < 2 ^ 1024 - 2 ^ 970 := by
  have size : (n.natAbs : ℚ) = (n : ℚ) := by
    calc (n.natAbs : ℚ)
      _ = ((n.natAbs : ℤ) : ℚ) := (Int.cast_natCast _).symm
      _ = n := by rw [Int.natAbs_of_nonneg natural]
  have limit : overflow = ((2 ^ 1024 - 2 ^ 970 : ℤ) : ℚ) := by
    rw [overflow, Int.cast_sub, Int.cast_pow, Int.cast_pow]
    rfl
  rw [isFinite_ofInt_iff, size, limit, Int.cast_lt]

theorem one_le_magnitude {rank : Nat} (h : 1023 * unit ≤ rank) : 1 ≤ magnitude rank := by
  have filled : 0 < unit := by decide
  have normal : ¬ rank < unit := by omega
  have scaled : -52 ≤ scale rank := by
    have : 1023 ≤ rank / unit := (Nat.le_div_iff_mul_le filled).mpr h
    unfold scale
    rw [if_neg normal]
    omega
  have whole : (unit : ℚ) ≤ significand rank := by
    unfold significand
    rw [if_neg normal]
    exact_mod_cast Nat.le_add_right unit _
  have power : (2 : ℚ) ^ (-52 : ℤ) ≤ 2 ^ scale rank := zpow_le_zpow_right₀ (by norm_num) scaled
  calc (1 : ℚ)
    _ = unit * 2 ^ (-52 : ℤ) := by norm_num [unit]
    _ ≤ significand rank * 2 ^ scale rank := by gcongr

theorem magnitude_lt {rank : Nat} (h : rank < 0x7FF0000000000000) : magnitude rank < 2 ^ (1024 : ℤ) := by
  have whole : (significand rank : ℚ) < 2 ^ (53 : ℤ) := by exact_mod_cast significand_lt rank
  have power : (2 : ℚ) ^ scale rank ≤ 2 ^ (971 : ℤ) := zpow_le_zpow_right₀ (by norm_num) (scale_le h)
  have positive : (0 : ℚ) < 2 ^ scale rank := by positivity
  calc significand rank * (2 : ℚ) ^ scale rank
    _ < 2 ^ (53 : ℤ) * 2 ^ scale rank := mul_lt_mul_of_pos_right whole positive
    _ ≤ 2 ^ (53 : ℤ) * 2 ^ (971 : ℤ) := by gcongr
    _ = 2 ^ (1024 : ℤ) := (zpow_add₀ (by norm_num) 53 971).symm

/-- A quotient is rounded from the ratio of the magnitudes. -/
theorem div_finite (a b : Bool) (r s : Fin 0x7FF0000000000000) (hs : 0 < s.val) :
    ∃ num den : Nat, 0 < den ∧ (num : ℚ) / den = magnitude r / magnitude s
      ∧ (finite a r).div (finite b s) = ofRatio (a != b) num den := by
  refine ⟨significand r * Nat.pow 2 (scale r - scale s).toNat, significand s * Nat.pow 2 (-(scale r - scale s)).toNat,
    Nat.mul_pos (significand_pos hs) (Nat.pow_pos (by decide)), ?_, ?_⟩
  · have two : (2 : ℚ) ≠ 0 := by norm_num
    have shift := zpow_eq_div 2 (scale r - scale s)
    simp only [Nat.pow_eq, Nat.cast_mul, Nat.cast_pow, Nat.cast_ofNat]
    rw [mul_div_mul_comm, ← shift, zpow_sub₀ two, magnitude, magnitude, mul_div_mul_comm]
  · simp [div, hs.ne']

/-- A positive integer in range is rounded to a magnitude from one on. -/
theorem ofInt_of_pos {n : Int} (some : 1 ≤ n) (inside : (ofInt n).isFinite = true) :
    ∃ rank, ofInt n = finite false rank ∧ 1 ≤ magnitude rank.val := by
  have positive : 0 < n.natAbs := by omega
  have plus : decide (n < 0) = false := by simpa using (by omega : 0 ≤ n)
  have log : 0 ≤ floorLog n.natAbs 1 := by
    apply le_floorLog_of_le_ratio positive Nat.one_pos
    rw [zpow_zero, Nat.cast_one, div_one]
    exact_mod_cast positive
  obtain ⟨m, place, least, -, -⟩ := nearestRank_of_normal positive Nat.one_pos (by omega)
  have room : 1022 * unit ≤ (floorLog n.natAbs 1 + 1022).toNat * unit := Nat.mul_le_mul_right unit (by omega)
  unfold ofInt at inside ⊢
  rw [plus, ofRatio_eq false positive] at inside ⊢
  have fits := (isFinite_ofRank_iff false _).mp inside
  exact ⟨⟨nearestRank n.natAbs 1, fits⟩, ofRank_val false ⟨_, fits⟩, one_le_magnitude (by dsimp only; omega)⟩

theorem ofNat_thousand : ∃ rank, ofNat 1000 = finite false rank ∧ 0 < rank.val ∧ magnitude rank.val = 1000 := by
  refine ⟨⟨4652007308841189376, by decide⟩, by decide +kernel, by decide, ?_⟩
  have parts : significand 4652007308841189376 = 1000 * 2 ^ 43 ∧ scale 4652007308841189376 = -43 := by decide +kernel
  rw [magnitude, parts.1, parts.2]
  norm_num

/-- A ratio between the normal range's ends is rounded to a positive number. -/
theorem ofRatio_of_normal (hn : 0 < num) (hd : 0 < den) (low : (2 : ℚ) ^ (-1022 : ℤ) ≤ num / den)
    (high : (num : ℚ) / den < overflow) :
    (ofRatio false num den).isFinite = true ∧ zero.lt (ofRatio false num den) = true := by
  have inside := (isFinite_ofRatio_iff false hn hd).mpr high
  refine ⟨inside, ?_⟩
  obtain ⟨m, place, least, -, -⟩ := nearestRank_of_normal hn hd (le_floorLog_of_le_ratio hn hd low)
  have filled : 0 < unit := by decide
  have some : 0 < nearestRank num den := by omega
  rw [ofRatio_eq false hn] at inside ⊢
  have fits := (isFinite_ofRank_iff false _).mp inside
  have shown : ofRank false (nearestRank num den) = finite false ⟨_, fits⟩ := ofRank_val false ⟨_, fits⟩
  rw [shown]
  simpa [lt, position, zero] using some

/-- A thousandth of a positive integer in range is a positive number again. -/
theorem thousandth_of_pos {n : Int} (some : 1 ≤ n) (inside : (ofInt n).isFinite = true) :
    ((ofInt n).div (ofNat 1000)).isFinite = true ∧ zero.lt ((ofInt n).div (ofNat 1000)) = true := by
  obtain ⟨r, dividend, least⟩ := ofInt_of_pos some inside
  obtain ⟨s, divisor, hs, thousand⟩ := ofNat_thousand
  obtain ⟨num, den, hd, ratio, quotient⟩ := div_finite false false r s hs
  rw [thousand] at ratio
  have low : (2 : ℚ) ^ (-1022 : ℤ) ≤ num / den := by
    calc (2 : ℚ) ^ (-1022 : ℤ)
      _ ≤ 2 ^ (-10 : ℤ) := zpow_le_zpow_right₀ (by norm_num) (by omega)
      _ ≤ 1 / 1000 := by norm_num
      _ ≤ magnitude r / 1000 := by gcongr
      _ = num / den := ratio.symm
  have high : (num : ℚ) / den < overflow := by
    have double : (2 : ℚ) ^ (1024 : ℤ) = 2 ^ (1023 : ℤ) * 2 := zpow_add_one₀ (by norm_num) 1023
    refine lt_of_lt_of_le ?_ zpow_le_overflow
    rw [ratio, div_lt_iff₀ (by norm_num)]
    calc magnitude r
      _ < 2 ^ (1023 : ℤ) * 2 := double ▸ magnitude_lt r.isLt
      _ ≤ 2 ^ (1023 : ℤ) * 1000 := by gcongr; norm_num
  have hn : 0 < num := by
    rcases Nat.eq_zero_or_pos num with rfl | some
    · rw [Nat.cast_zero, zero_div] at ratio
      linarith
    · exact some
  rw [dividend, divisor, quotient]
  exact ofRatio_of_normal hn hd low high

end Binary64

end CanaryGate
