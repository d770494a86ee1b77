import CanaryGate.Json.Bytes
import CanaryGate.Proofs.Decimal.Shortest
import CanaryGate.Proofs.Numeric.Numeral

/-! # Numbers in documents

What is written for a number reads back as that number, and leaves what follows it. An integer is a row of
digits, and a double always shows a point or an exponent: that keeps the two kinds apart.
-/

namespace CanaryGate

open Numeral Decimal

namespace Json

/-- A row of digits ends here. -/
def Apart (rest : List Char) : Prop := ∀ c ∈ rest.head?, isAsciiDigit c = false

/-- What may follow a value inside a document. -/
def Closes (rest : List Char) : Prop := ∀ c ∈ rest.head?, c = ',' ∨ c = ']' ∨ c = '\x7d'

variable {rest : List Char}

theorem apart_cons {c : Char} (h : isAsciiDigit c = false) : Apart (c :: rest) := by
  intro d member
  cases member
  exact h

theorem Closes.apart (h : Closes rest) : Apart rest := by
  intro c member
  rcases h c member with rfl | rfl | rfl <;> rfl

/-! The parts of a number. -/

theorem takeWhile_digits {digits : List Char} (all : ∀ c ∈ digits, isAsciiDigit c = true) (apart : Apart rest) :
    (digits ++ rest).takeWhile isAsciiDigit = digits ∧ (digits ++ rest).dropWhile isAsciiDigit = rest := by
  rw [List.takeWhile_append_of_pos all, List.dropWhile_append_of_pos all]
  cases rest with
  | nil => exact ⟨List.append_nil digits, rfl⟩
  | cons c rest =>
      have stop : isAsciiDigit c = false := apart c rfl
      constructor
      · rw [List.takeWhile_cons_of_neg (by simp [stop]), List.append_nil]
      · rw [List.dropWhile_cons_of_neg (by simp [stop])]

/-- Whole digits as numbers have them: a lone zero, or digits that start with another one. -/
structure Whole (digits : List Char) : Prop where
  digit : ∀ c ∈ digits, isAsciiDigit c = true
  some : digits ≠ []
  first : digits = ['0'] ∨ ∀ c ∈ digits.head?, c ≠ '0'

theorem Whole.zero : Whole ['0'] := ⟨by simp [isAsciiDigit], by simp, .inl rfl⟩

theorem whole_digitsOf (n : Nat) : Whole (digitsOf n) := by
  refine ⟨isAsciiDigit_of_mem_digitsOf, digitsOf_ne_nil n, ?_⟩
  rcases Nat.eq_zero_or_pos n with rfl | some
  · exact .inl rfl
  · exact .inr (head_digitsOf some)

theorem wholeDigits_append {whole : List Char} (h : Whole whole) (apart : Apart rest) :
    wholeDigits (whole ++ rest) = some (whole, rest) := by
  rcases h.first with rfl | first
  · rfl
  · obtain ⟨d, more, rfl⟩ := List.exists_cons_of_ne_nil h.some
    have digit : isAsciiDigit d = true := h.digit d (.head _)
    obtain ⟨taken, left⟩ := takeWhile_digits (fun c member => h.digit c (.tail _ member)) apart
    rw [List.cons_append]
    unfold wholeDigits
    split
    · rename_i same
      exact absurd (List.cons.inj same).1 (first d rfl)
    · rename_i same
      cases same
      rw [if_pos digit, taken, left]
    · rename_i same
      cases same

theorem fractionDigits_append {fraction : List Char} (all : ∀ c ∈ fraction, isAsciiDigit c = true)
    (some : fraction ≠ []) (apart : Apart rest) :
    fractionDigits ('.' :: (fraction ++ rest)) = Option.some (fraction, rest) := by
  obtain ⟨d, more, rfl⟩ := List.exists_cons_of_ne_nil some
  obtain ⟨taken, left⟩ := takeWhile_digits (fun c member => all c (.tail _ member)) apart
  have shown : fractionDigits ('.' :: (d :: more ++ rest)) = if isAsciiDigit d = true then
      Option.some (d :: (more ++ rest).takeWhile isAsciiDigit, (more ++ rest).dropWhile isAsciiDigit) else none := rfl
  rw [shown, if_pos (all d (.head _)), taken, left]

theorem fractionDigits_none (h : ∀ c ∈ rest.head?, c ≠ '.') : fractionDigits rest = none := by
  unfold fractionDigits
  split
  · exact absurd rfl (h '.' rfl)
  · rfl

theorem exponentDigits_append (negative : Bool) {places : List Char} (all : ∀ c ∈ places, isAsciiDigit c = true)
    (some : places ≠ []) (apart : Apart rest) :
    exponentDigits ('e' :: (if negative then '-' else '+') :: (places ++ rest))
      = Option.some (signed negative (valueOf places), rest) := by
  obtain ⟨taken, left⟩ := takeWhile_digits all apart
  have sign : takeSign ((if negative then '-' else '+') :: (places ++ rest)) = (negative, places ++ rest) := by
    cases negative <;> rfl
  have full : places.isEmpty = false := by simpa using some
  unfold exponentDigits
  dsimp only
  rw [if_pos (by decide), sign]
  dsimp only
  rw [taken, left, full]
  rfl

theorem exponentDigits_none (h : Closes rest) : exponentDigits rest = none := by
  cases rest with
  | nil => rfl
  | cons c rest => rcases h c rfl with rfl | rfl | rfl <;> rfl

theorem Closes.ne_point (h : Closes rest) : ∀ c ∈ rest.head?, c ≠ '.' := by
  intro c member
  rcases h c member with rfl | rfl | rfl <;> decide

/-! Numbers. -/

variable {whole fraction : List Char} (start : Nat) (negative : Bool)

theorem readNumber_whole (h : Whole whole) (few : whole.length ≤ digitLimit) (closes : Closes rest) :
    readNumber start negative (whole ++ rest) = .ok (.int (signed negative (valueOf whole)), rest) := by
  unfold readNumber
  rw [wholeDigits_append h closes.apart]
  dsimp only
  rw [fractionDigits_none closes.ne_point, Option.getD_none]
  dsimp only
  rw [exponentDigits_none closes]
  dsimp only
  rw [List.isEmpty_nil, if_pos rfl, if_neg (Nat.not_lt.mpr few)]

theorem readNumber_point (h : Whole whole) (all : ∀ c ∈ fraction, isAsciiDigit c = true) (some : fraction ≠ [])
    (closes : Closes rest) : readNumber start negative (whole ++ '.' :: (fraction ++ rest))
      = .ok (.float (Binary64.ofDecimal negative (valueOf (whole ++ fraction)) (-(fraction.length : Int))), rest) := by
  have full : fraction.isEmpty = false := by simpa using some
  unfold readNumber
  rw [wholeDigits_append h (apart_cons rfl)]
  dsimp only
  rw [fractionDigits_append all some closes.apart, Option.getD_some]
  dsimp only
  rw [exponentDigits_none closes, full]
  rfl

theorem readNumber_exponent (h : Whole whole) (down : Bool) {places : List Char}
    (all : ∀ c ∈ places, isAsciiDigit c = true) (some : places ≠ []) (closes : Closes rest) :
    readNumber start negative (whole ++ 'e' :: (if down then '-' else '+') :: (places ++ rest))
      = .ok (.float (Binary64.ofDecimal negative (valueOf whole) (signed down (valueOf places))), rest) := by
  unfold readNumber
  rw [wholeDigits_append h (apart_cons rfl)]
  dsimp only
  rw [fractionDigits_none (by simp), Option.getD_none]
  dsimp only
  rw [exponentDigits_append down all some closes.apart]
  dsimp only
  rw [List.append_nil, List.length_nil, Nat.cast_zero, Int.sub_zero]

theorem readNumber_point_exponent (h : Whole whole) (behind : ∀ c ∈ fraction, isAsciiDigit c = true)
    (more : fraction ≠ []) (down : Bool) {places : List Char} (all : ∀ c ∈ places, isAsciiDigit c = true)
    (some : places ≠ []) (closes : Closes rest) :
    readNumber start negative (whole ++ '.' :: (fraction ++ 'e' :: (if down then '-' else '+') :: (places ++ rest)))
      = .ok (.float (Binary64.ofDecimal negative (valueOf (whole ++ fraction))
          (signed down (valueOf places) - fraction.length)), rest) := by
  unfold readNumber
  rw [wholeDigits_append h (apart_cons rfl)]
  dsimp only
  rw [fractionDigits_append behind more (apart_cons rfl), Option.getD_some]
  dsimp only
  rw [exponentDigits_append down all some closes.apart]

theorem isAsciiDigit_zeros (n : Nat) : ∀ c ∈ List.replicate n '0', isAsciiDigit c = true := by
  intro c member
  rw [List.eq_of_mem_replicate member]
  rfl

theorem isAsciiDigit_append {front back : List Char} (left : ∀ c ∈ front, isAsciiDigit c = true)
    (right : ∀ c ∈ back, isAsciiDigit c = true) : ∀ c ∈ front ++ back, isAsciiDigit c = true := by
  intro c member
  exact (List.mem_append.mp member).elim (left c) (right c)

/-- Zeros between the point and the digits. -/
theorem readNumber_zeros_digits (n zeros : Nat) (closes : Closes rest) :
    readNumber start negative (['0'] ++ '.' :: (List.replicate zeros '0' ++ digitsOf n ++ rest))
      = .ok (.float (Binary64.ofDecimal negative n (-(zeros + (digitsOf n).length : Nat))), rest) := by
  have all := isAsciiDigit_append (isAsciiDigit_zeros zeros) (isAsciiDigit_of_mem_digitsOf (n := n))
  have value : valueOf (['0'] ++ (List.replicate zeros '0' ++ digitsOf n)) = n := by
    rw [valueOf_append, valueOf_append, valueOf_zeros, valueOf_digitsOf]
    simp [valueOf]
  rw [readNumber_point start negative Whole.zero all (by simp [digitsOf_ne_nil]) closes, value, List.length_append,
    List.length_replicate]

/-- Zeros between the digits and the point. -/
theorem readNumber_digits_zeros {n : Nat} (zeros : Nat) (some : 0 < n) (most : zeros ≤ 400) (closes : Closes rest) :
    readNumber start negative (digitsOf n ++ List.replicate zeros '0' ++ '.' :: (['0'] ++ rest))
      = .ok (.float (Binary64.ofDecimal negative n zeros), rest) := by
  have digit := isAsciiDigit_append (isAsciiDigit_of_mem_digitsOf (n := n)) (isAsciiDigit_zeros zeros)
  have whole : Whole (digitsOf n ++ List.replicate zeros '0') := by
    refine ⟨digit, by simp [digitsOf_ne_nil], .inr ?_⟩
    obtain ⟨d, more, split⟩ := List.exists_cons_of_ne_nil (digitsOf_ne_nil n)
    have first := head_digitsOf some
    rw [split] at first ⊢
    exact first
  have value : valueOf (digitsOf n ++ List.replicate zeros '0' ++ ['0']) = n * Nat.pow 10 (zeros + 1) := by
    rw [valueOf_append, valueOf_append, valueOf_zeros, valueOf_digitsOf, List.length_replicate, Nat.pow_eq,
      Nat.pow_succ]
    simp [valueOf, Nat.mul_assoc]
  have place : -((['0'].length : Nat) : Int) + ((zeros + 1 : Nat) : Int) = zeros := by
    rw [List.length_singleton]
    omega
  have zero : ∀ c ∈ ['0'], isAsciiDigit c = true := isAsciiDigit_zeros 1
  rw [readNumber_point start negative whole zero (by decide) closes, value,
    Binary64.ofDecimal_zeros negative n (zeros + 1) (by decide) (by rw [place]; omega), place]

/-- The point between the digits. -/
theorem readNumber_split {n w : Nat} (some : 0 < n) (front : 0 < w) (behind : w < (digitsOf n).length)
    (closes : Closes rest) : readNumber start negative ((digitsOf n).take w ++ '.' :: ((digitsOf n).drop w ++ rest))
      = .ok (.float (Binary64.ofDecimal negative n (-((digitsOf n).length - w : Nat))), rest) := by
  have digit := isAsciiDigit_of_mem_digitsOf (n := n)
  have whole : Whole ((digitsOf n).take w) := by
    refine ⟨fun c member => digit c (List.mem_of_mem_take member), ?_, .inr ?_⟩
    · rw [ne_eq, List.take_eq_nil_iff, not_or]
      exact ⟨front.ne', digitsOf_ne_nil n⟩
    · rw [List.head?_take, if_neg front.ne']
      exact head_digitsOf some
  have more : (digitsOf n).drop w ≠ [] := by
    rw [ne_eq, List.drop_eq_nil_iff]
    omega
  rw [readNumber_point start negative whole (fun c member => digit c (List.mem_of_mem_drop member)) more closes,
    List.take_append_drop, valueOf_digitsOf, List.length_drop]

/-- Digits with a point among them or zeros around them have the value of the digits. -/
theorem readNumber_positional {n : Nat} {e : Int} (some : 0 < n) (most : e ≤ 400) (closes : Closes rest) :
    readNumber start negative (Layout.positional (digitsOf n) ((digitsOf n).length + e) ++ rest)
      = .ok (.float (Binary64.ofDecimal negative n e), rest) := by
  unfold Layout.positional
  dsimp only
  split
  · have place : -((-((digitsOf n).length + e)).toNat + (digitsOf n).length : Nat) = e := by omega
    have shown := readNumber_zeros_digits start negative n (-((digitsOf n).length + e)).toNat closes
    rw [place] at shown
    exact shown
  · split
    · have shown := readNumber_digits_zeros start negative e.toNat some (by omega) closes
      rw [show ((digitsOf n).length + e).toNat - (digitsOf n).length = e.toNat by omega, List.append_assoc _ _ rest]
      rw [Int.toNat_of_nonneg (by omega)] at shown
      exact shown
    · have place : -((digitsOf n).length - ((digitsOf n).length + e).toNat : Nat) = e := by omega
      have shown :=
        readNumber_split start negative (w := ((digitsOf n).length + e).toNat) some (by omega) (by omega) closes
      rw [place] at shown
      rw [List.append_assoc]
      exact shown

/-- Digits with an exponent have the value of the digits and the exponent. -/
theorem readNumber_scientific (width : Nat) {n : Nat} (e : Int) (some : 0 < n) (closes : Closes rest) :
    readNumber start negative (Layout.scientific width (digitsOf n) ((digitsOf n).length + e - 1) ++ rest)
      = .ok (.float (Binary64.ofDecimal negative n e), rest) := by
  have digit := isAsciiDigit_of_mem_digitsOf (n := n)
  have first := head_digitsOf some
  have value := valueOf_digitsOf n
  obtain ⟨d, more, split⟩ := List.exists_cons_of_ne_nil (digitsOf_ne_nil n)
  rw [split] at digit first value ⊢
  generalize shift : (((d :: more).length : Nat) : Int) + e - 1 = exponent
  have whole : Whole [d] := ⟨fun c member => digit c (List.mem_singleton.mp member ▸ .head _), by simp, .inr first⟩
  have all := isAsciiDigit_append (isAsciiDigit_zeros (width - (digitsOf exponent.natAbs).length))
    (isAsciiDigit_of_mem_digitsOf (n := exponent.natAbs))
  have full : List.replicate (width - (digitsOf exponent.natAbs).length) '0' ++ digitsOf exponent.natAbs ≠ [] := by
    simp [digitsOf_ne_nil]
  have power : signed (decide (exponent < 0)) (valueOf (List.replicate (width - (digitsOf exponent.natAbs).length) '0'
      ++ digitsOf exponent.natAbs)) = exponent := by
    rw [valueOf_append, valueOf_zeros, valueOf_digitsOf, Nat.zero_mul, Nat.zero_add]
    unfold signed
    split
    · rename_i down
      have := of_decide_eq_true down
      omega
    · rename_i up
      have := of_decide_eq_false (Bool.eq_false_of_not_eq_true up)
      omega
  have sign : (if decide (exponent < 0) = true then '-' else '+') = if exponent < 0 then '-' else '+' := by
    simp only [decide_eq_true_eq]
  unfold Layout.scientific
  dsimp only
  cases more with
  | nil =>
      have shown := readNumber_exponent start negative whole (decide (exponent < 0)) all full closes
      have place : exponent = e := by
        rw [← shift, List.length_singleton]
        omega
      rw [power, value, sign, place] at shown
      rw [place]
      simpa only [List.append_assoc, List.cons_append] using shown
  | cons next more =>
      have shown := readNumber_point_exponent start negative whole (fun c member => digit c (.tail _ member)) (by simp)
        (decide (exponent < 0)) all full closes
      have place : exponent - ((next :: more).length : Nat) = e := by
        rw [← shift, List.length_cons]
        omega
      have joined : [d] ++ next :: more = d :: next :: more := rfl
      rw [power, joined, value, sign, place] at shown
      simpa only [List.append_assoc, List.cons_append, List.nil_append] using shown

/-- The text of a magnitude reads back. -/
theorem readNumber_magnitude (rank : Fin 0x7FF0000000000000) (closes : Closes rest) :
    readNumber start negative (Layout.document.magnitude rank ++ rest)
      = .ok (.float (.finite negative rank), rest) := by
  rcases Nat.eq_zero_or_pos rank.val with none | some
  · have zero : Binary64.finite negative rank = Binary64.ofDecimal negative (valueOf ['0', '0']) (-1) := by
      rw [← Binary64.ofRank_val negative rank, none]
      rfl
    rw [Layout.magnitude, if_pos none, zero]
    exact readNumber_point start negative Whole.zero (isAsciiDigit_zeros 1) (by decide) closes
  · obtain ⟨exact, least, most⟩ := shortest_spec rank
    have signed := Binary64.ofDecimal_sign exact negative
    have digits := shortest_digits_pos some
    rw [Layout.magnitude, if_neg some.ne']
    dsimp only
    split
    · rw [sub_add_cancel, readNumber_positional start negative digits (by omega) closes, signed]
    · rw [readNumber_scientific start negative _ _ digits closes, signed]

/-! Words and numbers. -/

theorem find?_words {s : List Char} (h : ∀ word ∈ wordValues.map (·.1), ¬ word <+: s) :
    wordValues.find? (fun w => w.1.isPrefixOf s) = none := by
  rw [List.find?_eq_none]
  intro w member found
  exact h w.1 (List.mem_map_of_mem member) (List.isPrefixOf_iff_prefix.mp found)

/-- No word starts with a digit, and none has a digit behind a minus. -/
theorem no_word_of_digit {c : Char} (digit : isAsciiDigit c = true) :
    ∀ word ∈ wordValues.map (·.1), ¬ word <+: c :: rest ∧ ¬ word <+: '-' :: c :: rest := by
  have heads : ∀ word ∈ wordValues.map (·.1), ∃ a b more, word = a :: b :: more ∧ isAsciiDigit a = false
      ∧ isAsciiDigit b = false := by
    simp [wordValues, isAsciiDigit]
  intro word member
  obtain ⟨a, b, more, rfl, first, second⟩ := heads word member
  constructor
  · intro found
    rw [(List.cons_prefix_cons.mp found).1, digit] at first
    cases first
  · intro found
    rw [(List.cons_prefix_cons.mp (List.cons_prefix_cons.mp found).2).1, digit] at second
    cases second

theorem readScalar_digit {c : Char} (digit : isAsciiDigit c = true) :
    readScalar (c :: rest) = readNumber (c :: rest).length false (c :: rest) := by
  unfold readScalar
  rw [find?_words fun word member => (no_word_of_digit digit word member).1]
  dsimp only
  split
  · rename_i same
    cases same
    exact absurd digit (by decide)
  · rfl

theorem readScalar_minus {c : Char} (digit : isAsciiDigit c = true) :
    readScalar ('-' :: c :: rest) = readNumber ('-' :: c :: rest).length true (c :: rest) := by
  unfold readScalar
  rw [find?_words fun word member => (no_word_of_digit digit word member).2]
  rfl

theorem readScalar_signed (rest : List Char) {text : List Char}
    (first : ∃ c more, text = c :: more ∧ isAsciiDigit c = true)
    (negative : Bool) : ∃ start, readScalar ((if negative then '-' :: text else text) ++ rest)
      = readNumber start negative (text ++ rest) := by
  obtain ⟨c, more, rfl, digit⟩ := first
  cases negative with
  | false => exact ⟨_, readScalar_digit digit⟩
  | true => exact ⟨_, readScalar_minus digit⟩

theorem Whole.starts {whole : List Char} (h : Whole whole) : ∃ c more, whole = c :: more ∧ isAsciiDigit c = true := by
  obtain ⟨c, more, rfl⟩ := List.exists_cons_of_ne_nil h.some
  exact ⟨c, more, rfl, h.digit c (.head _)⟩

theorem integerText_eq (n : Int) :
    integerText n = if decide (n < 0) then '-' :: digitsOf n.natAbs else digitsOf n.natAbs := by
  simp only [integerText, decide_eq_true_eq]

theorem document_text_finite (negative : Bool) (rank : Fin 0x7FF0000000000000) :
    Layout.document.text (.finite negative rank)
      = if negative then '-' :: Layout.document.magnitude rank else Layout.document.magnitude rank := by
  cases negative <;> rfl

/-- An integer reads back. -/
theorem readScalar_integer {n : Int} (short : writable n = true) (closes : Closes rest) :
    readScalar (integerText n ++ rest) = .ok (.int n, rest) := by
  have few : (digitsOf n.natAbs).length ≤ digitLimit := by
    rw [writable, decide_eq_true_eq] at short
    rw [length_digitsOf_le_iff (by decide)]
    exact short
  have value : signed (decide (n < 0)) n.natAbs = n := by
    unfold signed
    split
    · rename_i down
      have := of_decide_eq_true down
      omega
    · rename_i up
      have := of_decide_eq_false (Bool.eq_false_of_not_eq_true up)
      omega
  obtain ⟨start, same⟩ := readScalar_signed rest (whole_digitsOf n.natAbs).starts (decide (n < 0))
  rw [integerText_eq, same, readNumber_whole start _ (whole_digitsOf n.natAbs) few closes, valueOf_digitsOf, value]

/-- The text of a magnitude starts with a digit. -/
theorem magnitude_starts (layout : Layout) (rank : Fin 0x7FF0000000000000) :
    ∃ c more, layout.magnitude rank = c :: more ∧ isAsciiDigit c = true := by
  unfold Layout.magnitude
  split
  · exact ⟨_, _, rfl, rfl⟩
  · obtain ⟨d, more, split, digit⟩ := (whole_digitsOf (shortest rank).digits).starts
    dsimp only
    rw [split]
    generalize (((d :: more).length : Nat) : Int) + (shortest rank).exponent - 1 = leading
    split
    · unfold Layout.positional
      dsimp only
      split
      · exact ⟨_, _, rfl, rfl⟩
      · split
        · exact ⟨_, _, rfl, digit⟩
        · obtain ⟨w, count⟩ := Nat.exists_eq_succ_of_ne_zero (n := (leading + 1).toNat) (by omega)
          rw [count]
          exact ⟨_, _, rfl, digit⟩
    · unfold Layout.scientific
      cases more with
      | nil => exact ⟨_, _, rfl, digit⟩
      | cons next more => exact ⟨_, _, rfl, digit⟩

/-- A double reads back, the special values and both zeros included. -/
theorem readScalar_double (x : Binary64) (closes : Closes rest) :
    readScalar (Layout.document.text x ++ rest) = .ok (.float x, rest) := by
  cases x with
  | nan => rfl
  | infinite negative => cases negative <;> rfl
  | finite negative rank =>
      obtain ⟨start, same⟩ := readScalar_signed rest (magnitude_starts Layout.document rank) negative
      rw [document_text_finite, same, readNumber_magnitude start negative rank closes]

end Json

end CanaryGate
