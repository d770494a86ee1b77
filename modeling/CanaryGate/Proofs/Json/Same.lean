import CanaryGate.Json.Coerce
import CanaryGate.Json.Order
import CanaryGate.Proofs.Decimal.Shortest
import CanaryGate.Proofs.Json.Limits

/-! # Values that are the same

Values that are the same may be written differently: a number as an integer or as a double, and the fields of an
object in any order. Whatever stands for a number stands for the same double all the same, and objects that are the
same have values that are the same under each name.
-/

namespace CanaryGate

namespace Binary64

/-- A magnitude is rounded to itself. -/
theorem ofRatio_magnitude (negative : Bool) {rank : Fin 0x7FF0000000000000} (some : 0 < rank.val) :
    ofRatio negative (numerator (significand rank.val) (scale rank.val)) (denominator (scale rank.val))
      = .finite negative rank := by
  rw [← ofRank_val]
  apply ofRatio_of_near negative (numerator_pos some) (denominator_pos _)
  rw [ratio_magnitude, sub_self, abs_zero, mul_zero, zero_mul]
  unfold magnitude
  positivity

theorem numerator_eq_zero_iff {rank : Nat} : numerator (significand rank) (scale rank) = 0 ↔ rank = 0 := by
  constructor
  · intro nothing
    by_contra some
    exact (numerator_pos (Nat.pos_of_ne_zero some)).ne' nothing
  · rintro rfl
    exact Nat.zero_mul _

/-- An integer that is a ratio is rounded as that ratio. -/
theorem ofInt_eq_ofRatio {n : Int} {negative : Bool} {num den : Nat} (some : n ≠ 0) (positive : 0 < den)
    (h : n * den = if negative then -(num : Int) else num) : ofInt n = ofRatio negative num den ∧ 0 < num := by
  have sizes : n.natAbs * den = num := by
    have sizes := congrArg Int.natAbs h
    rw [Int.natAbs_mul, Int.natAbs_natCast] at sizes
    rw [sizes]
    split
    · rw [Int.natAbs_neg, Int.natAbs_natCast]
    · rw [Int.natAbs_natCast]
  have num_pos : 0 < num := sizes ▸ Nat.mul_pos (Int.natAbs_pos.mpr some) positive
  have sign : decide (n < 0) = negative := by
    have den_pos : (0 : Int) < den := Int.natCast_pos.mpr positive
    cases negative with
    | false =>
        have above : 0 < n * den := by simpa [h] using num_pos
        simpa using ((pos_iff_pos_of_mul_pos above).mpr den_pos).le
    | true =>
        have below : n * den < 0 := by simpa [h] using num_pos
        simpa using (neg_iff_pos_of_mul_neg below).mpr den_pos
  refine ⟨?_, num_pos⟩
  unfold ofInt
  rw [sign, ofRatio_congr negative Nat.one_pos positive (sizes.trans (Nat.mul_one num).symm)]

/-- Doubles in one place are one, unless both are zero. -/
theorem eq_or_zero_of_le {x y : Binary64} (h : x.le y = true) (h' : y.le x = true) :
    x = y ∨ x.truthy = false ∧ y.truthy = false := by
  unfold le at h h'
  -- doubles with a place have the same one, and only zero has it with either sign
  rcases x with _ | (_ | _) | ⟨(_ | _), r⟩ <;> rcases y with _ | (_ | _) | ⟨(_ | _), s⟩ <;>
    simp [position, rankLimit, truthy] at h h' ⊢ <;> omega

end Binary64

namespace Figure

/-- The double that a number is read as, where zero stands in for every zero. -/
def double : Figure → Except Fault Binary64
  | whole n => if n = 0 then .ok .zero else Json.doubleOfInt n
  | real x => .ok (if x.truthy then x else .zero)

/-- An integer and a double of one value are read as one double. -/
theorem double_whole_eq_real {n : Int} {x : Binary64} (h : Json.sameFigure (whole n) (real x) = true) :
    (whole n).double = (real x).double := by
  unfold Json.sameFigure le at h
  cases x with
  | nan => simp [fraction] at h
  | infinite negative => cases negative with
    | false => simp [fraction] at h
    | true => simp [fraction] at h
  | finite negative rank =>
    simp only [fraction, Bool.and_eq_true, decide_eq_true_eq, Nat.cast_one, mul_one] at h
    have equal := Int.le_antisymm h.1 h.2
    -- a zero is read as zero whatever its sign, so it cannot go through the rounding
    by_cases zero : n = 0
    · have nothing : Binary64.numerator (Binary64.significand rank.val) (Binary64.scale rank.val) = 0 := by
        rw [zero, zero_mul] at equal
        split at equal
        · omega
        · omega
      simp [double, zero, Binary64.truthy, Binary64.numerator_eq_zero_iff.mp nothing]
    · obtain ⟨rounded, num_pos⟩ := Binary64.ofInt_eq_ofRatio zero (Binary64.denominator_pos _) equal
      have some : rank.val ≠ 0 := mt Binary64.numerator_eq_zero_iff.mpr num_pos.ne'
      rw [Binary64.ofRatio_magnitude negative (Nat.pos_of_ne_zero some)] at rounded
      have present : (Binary64.finite negative rank).truthy = true := bne_iff_ne.mpr some
      rw [double, if_neg zero, double, present, Json.doubleOfInt, rounded]
      rfl

theorem double_congr {a b : Figure} (h : Json.sameFigure a b = true) : a.double = b.double := by
  cases a with
  | whole n => cases b with
    | whole m =>
        simp only [Json.sameFigure, whole_le, Bool.and_eq_true, decide_eq_true_eq] at h
        rw [Int.le_antisymm h.1 h.2]
    | real y => exact double_whole_eq_real h
  | real x => cases b with
    | whole m => exact (double_whole_eq_real ((Bool.and_comm _ _).trans h)).symm
    | real y =>
        rw [Json.sameFigure, Bool.and_eq_true] at h
        rcases Binary64.eq_or_zero_of_le h.1 h.2 with rfl | ⟨zero, zero'⟩
        · rfl
        · simp [double, zero, zero']

end Figure

namespace Json

theorem toDouble_orElse_zero {value : Json} {number : Figure} (h : Figure.ofJson? value = some number) :
    (value.orElse (.float .zero)).toDouble = number.double := by
  unfold orElse
  cases value with
  | null | str s | arr items | obj fields => cases h
  | int n =>
      cases h
      by_cases zero : n = 0
      · simp [truthy, Figure.double, zero, toDouble]
      · simp [truthy, Figure.double, zero, toDouble]
  | bool b =>
      cases h
      cases b with
      | false => rfl
      | true => decide +kernel
  | float x =>
      cases h
      cases held : x.truthy with
      | false => simp [truthy, Figure.double, held, toDouble]
      | true => simp [truthy, Figure.double, held, toDouble]

/-- Values that are the same are read as the same double. -/
theorem toDouble_of_same {v w : Json} (h : same v w = true) :
    (v.orElse (.float .zero)).toDouble = (w.orElse (.float .zero)).toDouble := by
  unfold same at h
  split at h
  · rename_i items others
    cases items with
    | nil => cases others with
      | nil => rfl
      | cons other rest => simp [itemsSame] at h
    | cons item rest => cases others with
      | nil => simp [itemsSame] at h
      | cons other others => rfl
  · rename_i fields others
    cases fields with
    | nil => cases others with
      | nil => rfl
      | cons other rest => simp at h
    | cons field rest => cases others with
      | nil => simp at h
      | cons other others => rfl
  · rw [of_decide_eq_true h]
  · rfl
  · split at h
    · rename_i numeric numeric'
      rw [toDouble_orElse_zero numeric, toDouble_orElse_zero numeric', Figure.double_congr h]
    · contradiction

theorem fieldsSame_iff {fields others : Fields} : fieldsSame fields others = true ↔
    ∀ field ∈ fields, ∃ value, Fields.get? others field.1 = some value ∧ same field.2 value = true := by
  induction fields with
  | nil => simp [fieldsSame]
  | cons field rest ih => simp [fieldsSame, ih, Option.any_eq_true]

theorem same_obj {fields others : Fields} : same (.obj fields) (.obj others) = true ↔
    fields.length = others.length ∧ fieldsSame fields others = true := by
  simp [same]

/-- Objects that are the same have the same names. -/
theorem names_perm_of_same {fields others : Fields} (distinct : (Fields.names fields).Nodup)
    (h : same (.obj fields) (.obj others) = true) : (Fields.names fields).Perm (Fields.names others) := by
  obtain ⟨sizes, held⟩ := same_obj.mp h
  have known : Fields.names fields ⊆ Fields.names others := by
    intro name member
    obtain ⟨field, listed, rfl⟩ := List.mem_map.mp member
    obtain ⟨value, found, -⟩ := fieldsSame_iff.mp held field listed
    exact (Fields.get?_isSome_iff others field.1).mp (Option.isSome_of_eq_some found)
  apply (distinct.subperm known).perm_of_length_le
  rw [Fields.names, Fields.names, List.length_map, List.length_map, sizes]

/-- Objects that are the same have nothing under a name, or values that are the same. -/
theorem get?_of_same {fields others : Fields} (distinct : (Fields.names fields).Nodup)
    (h : same (.obj fields) (.obj others) = true) (name : String) :
    Fields.get? fields name = none ∧ Fields.get? others name = none
      ∨ ∃ v w, Fields.get? fields name = some v ∧ Fields.get? others name = some w ∧ same v w = true := by
  cases found : Fields.get? fields name with
  | none =>
      refine .inl ⟨rfl, ?_⟩
      rw [← Option.not_isSome_iff_eq_none, Fields.get?_isSome_iff, ← (names_perm_of_same distinct h).mem_iff,
        ← Fields.get?_isSome_iff, found]
      simp
  | some v =>
      obtain ⟨w, other, equal⟩ := fieldsSame_iff.mp (same_obj.mp h).2 _ (Fields.mem_of_get? found)
      exact .inr ⟨v, w, rfl, other, equal⟩

end Json

end CanaryGate
