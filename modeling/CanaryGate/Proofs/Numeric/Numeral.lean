import CanaryGate.Decimal.Shortest
import CanaryGate.Numeric.Numeral
import Mathlib.Data.List.TakeWhile
import Mathlib.Tactic.Ring

/-! # Digits and their numbers

The digits of a number have that number as their value, and the first of them is no zero unless the number is. A
text of digits is read as their number, unless they are too many.
-/

namespace CanaryGate

open Decimal Numeral

namespace Numeral

theorem isAsciiDigit_eq (c : Char) : isAsciiDigit c = c.isDigit := by
  unfold isAsciiDigit Char.isDigit
  rw [Bool.decide_and]
  rfl

@[simp] theorem valueOf_digitsOf (n : Nat) : valueOf (digitsOf n) = n :=
  Nat.ofDigitChars_toDigits (by decide) (by decide)

theorem valueOf_append (front back : List Char) :
    valueOf (front ++ back) = valueOf front * 10 ^ back.length + valueOf back := by
  suffices shifted : ∀ (start : Nat) (digits : List Char), digits.foldl (fun n c => 10 * n + (c.toNat - 48)) start
      = start * 10 ^ digits.length + valueOf digits by
    unfold valueOf
    rw [List.foldl_append]
    exact shifted _ back
  intro start digits
  induction digits generalizing start with
  | nil => simp [valueOf]
  | cons d rest ih =>
      have first : valueOf (d :: rest) = (d.toNat - 48) * 10 ^ rest.length + valueOf rest := by
        unfold valueOf
        rw [List.foldl_cons, ih]
        simp [valueOf]
      rw [List.foldl_cons, ih, first, List.length_cons, Nat.pow_succ]
      ring

@[simp] theorem valueOf_zeros (n : Nat) : valueOf (List.replicate n '0') = 0 := by
  induction n with
  | zero => rfl
  | succ n ih =>
      have split : List.replicate (n + 1) '0' = ['0'] ++ List.replicate n '0' := rfl
      rw [split, valueOf_append, ih]
      simp [valueOf]

/-- Digits are worth less than a one with a zero for each of them. -/
theorem valueOf_lt {digits : List Char} (all : ∀ c ∈ digits, isAsciiDigit c = true) :
    valueOf digits < 10 ^ digits.length := by
  induction digits with
  | nil => decide
  | cons d rest ih =>
      have range : '0' ≤ d ∧ d ≤ '9' := of_decide_eq_true (all d (.head _))
      have first : valueOf [d] ≤ 9 := by
        have below : d.toNat ≤ 57 := range.2
        simp only [valueOf, List.foldl_cons, List.foldl_nil]
        omega
      have later := ih fun c member => all c (.tail _ member)
      have scaled := Nat.mul_le_mul_right (10 ^ rest.length) first
      rw [← List.singleton_append, valueOf_append, List.length_append, List.length_singleton, pow_add, pow_one]
      omega

end Numeral

namespace Decimal

theorem digitsOf_ne_nil (n : Nat) : digitsOf n ≠ [] := Nat.toDigits_ne_nil

theorem isAsciiDigit_of_mem_digitsOf {n : Nat} : ∀ c ∈ digitsOf n, isAsciiDigit c = true := by
  intro c member
  rw [isAsciiDigit_eq]
  exact Nat.isDigit_of_mem_toDigits (by decide) (by decide) member

theorem length_digitsOf_le_iff {n k : Nat} (h : 0 < k) : (digitsOf n).length ≤ k ↔ n < Nat.pow 10 k :=
  Nat.length_toDigits_le_iff (by decide) h

/-- A number that is not zero starts with another digit than zero. -/
theorem head_digitsOf {n : Nat} (some : 0 < n) : ∀ c ∈ (digitsOf n).head?, c ≠ '0' := by
  induction n using Nat.strongRecOn with
  | _ n ih =>
      unfold digitsOf at ih ⊢
      rw [Nat.toDigits_eq_if (by decide)]
      split
      · rename_i small
        have digit : n.digitChar ≠ '0' := by
          rw [ne_eq, Nat.digitChar_eq_zero]
          omega
        simpa using digit
      · rename_i large
        obtain ⟨first, rest, front⟩ := List.exists_cons_of_ne_nil (Nat.toDigits_ne_nil (n := n / 10) (b := 10))
        have same : (Nat.toDigits 10 (n / 10) ++ [(n % 10).digitChar]).head? = (Nat.toDigits 10 (n / 10)).head? := by
          rw [front]
          rfl
        rw [same]
        exact ih (n / 10) (by omega) (by omega)

end Decimal

/-! What the digits are read as. -/

namespace Numeral

/-- The digits that are written are the ten of ASCII. -/
theorem mem_digits_of_isAsciiDigit {c : Char} (h : isAsciiDigit c = true) : c ∈ "0123456789".toList := by
  have range : '0' ≤ c ∧ c ≤ '9' := of_decide_eq_true h
  have codes : ∀ n < 58, 48 ≤ n → Char.ofNat n ∈ "0123456789".toList := by decide
  rw [← Char.ofNat_toNat c]
  exact codes c.toNat (Nat.lt_succ_of_le range.2) range.1

theorem trimBoth_eq_self {drop : Char → Bool} {s : List Char} (kept : ∀ c ∈ s, drop c = false) :
    trimBoth drop s = s := by
  have unchanged : ∀ t : List Char, (∀ c ∈ t, drop c = false) → t.dropWhile drop = t := by
    intro t kept
    refine List.dropWhile_eq_self_iff.mpr fun some => ?_
    simp [kept _ (List.getElem_mem some)]
  unfold trimBoth
  rw [unchanged s kept, unchanged s.reverse fun c inside => kept c (List.mem_reverse.mp inside), List.reverse_reverse]

theorem joinGroups_digits (afterDigit : Bool) {digits : List Char} (all : ∀ c ∈ digits, isAsciiDigit c = true) :
    joinGroups afterDigit digits = some digits := by
  induction digits generalizing afterDigit with
  | nil => rfl
  | cons c rest ih =>
    have noUnderscore : c ≠ '_' := by
      rintro rfl
      cases all '_' List.mem_cons_self
    have more := ih (isAsciiDigit c) fun d later => all d (List.mem_cons_of_mem c later)
    unfold joinGroups
    split <;> simp_all

/-- The digits of a natural number are read as that number, if they are not too many. -/
theorem integer_digitsOf {n : Nat} (short : (digitsOf n).length ≤ digitLimit) :
    integer (String.ofList (digitsOf n)) = .ok n := by
  have digit : ∀ c ∈ digitsOf n, isAsciiDigit c = true := isAsciiDigit_of_mem_digitsOf
  have listed : ∀ c ∈ digitsOf n, c ∈ "0123456789".toList :=
    fun c inside => mem_digits_of_isAsciiDigit (digit c inside)
  have plain : plainDigits (digitsOf n) = digitsOf n := by
    have fixed : "0123456789".toList.all (fun c => ((digitValue? c).map digitChar).getD c = c) = true := by decide
    calc plainDigits (digitsOf n)
      _ = (digitsOf n).map id := List.map_congr_left fun c inside =>
          of_decide_eq_true (List.all_eq_true.mp fixed c (listed c inside))
      _ = digitsOf n := List.map_id _
  have trimmed : trimBoth isWhiteSpace (digitsOf n) = digitsOf n := by
    have written : "0123456789".toList.all (fun c => isWhiteSpace c = false) = true := by decide
    exact trimBoth_eq_self fun c inside => of_decide_eq_true (List.all_eq_true.mp written c (listed c inside))
  have unsigned : takeSign (digitsOf n) = (false, digitsOf n) := by
    unfold takeSign
    split
    · rename_i same
      cases digit '-' (same ▸ List.mem_cons_self)
    · rename_i same
      cases digit '+' (same ▸ List.mem_cons_self)
    · rfl
  have run : (digitsOf n).takeWhile (fun c => isAsciiDigit c || c = '_') = digitsOf n := by
    refine List.takeWhile_eq_self_iff.mpr fun c inside => ?_
    simp [digit c inside]
  have filled : (digitsOf n).isEmpty = false := by simpa using digitsOf_ne_nil n
  simp [integer, plain, trimmed, unsigned, run, joinGroups_digits false digit, filled, short, signed]

end Numeral

end CanaryGate
