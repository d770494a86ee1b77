import CanaryGate.Json.Bytes
import CanaryGate.Proofs.Attempt.Success
import CanaryGate.Proofs.Numeric.Numeral

/-! # What is read from documents

A property that the words, the texts and the numbers of documents have, and that lists and objects have with what
stands in them, is one of every value that is read. The integers among the numbers are short enough to be written
again, since the reader stops at a longer one.
-/

namespace CanaryGate

namespace Json

/-- Whatever a document can spell has the property. An object is made of entries that may repeat a name. -/
structure Spelled (P : Json → Prop) : Prop where
  null : P .null
  bool : ∀ b, P (.bool b)
  int : ∀ n, writable n = true → P (.int n)
  float : ∀ x, P (.float x)
  str : ∀ s, P (.str s)
  arr : ∀ items : List Json, (∀ item ∈ items, P item) → P (.arr items)
  obj : ∀ entries : List (String × Json), (∀ entry ∈ entries, P entry.2) → P (.obj (Fields.ofList entries))

/-! Integers. -/

theorem isAsciiDigit_of_wholeDigits {s whole rest : List Char} (h : wholeDigits s = some (whole, rest)) :
    ∀ c ∈ whole, Numeral.isAsciiDigit c = true := by
  unfold wholeDigits at h
  split at h
  · cases h
    exact List.forall_mem_singleton.mpr rfl
  · split at h
    · rename_i digit
      cases h
      exact List.forall_mem_cons.mpr ⟨digit, fun c member => List.mem_takeWhile_imp member⟩
    · contradiction
  · contradiction

theorem natAbs_signed (negative : Bool) (n : Nat) : (Numeral.signed negative n).natAbs = n := by
  cases negative <;> simp [Numeral.signed]

/-- Digits that are not too many spell an integer that can be written. -/
theorem writable_signed {digits : List Char} (all : ∀ c ∈ digits, Numeral.isAsciiDigit c = true)
    (few : digits.length ≤ Numeral.digitLimit) (negative : Bool) :
    writable (Numeral.signed negative (Numeral.valueOf digits)) = true := by
  have below : ∀ limit, digits.length ≤ limit → Numeral.valueOf digits < Nat.pow 10 limit := fun limit few =>
    (Numeral.valueOf_lt all).trans_le (Nat.pow_le_pow_right (by decide) few)
  rw [writable, decide_eq_true_eq, natAbs_signed]
  exact below Numeral.digitLimit few

namespace Spelled

variable {P : Json → Prop} (spelled : Spelled P)

include spelled

theorem of_readNumber {start : Nat} {negative : Bool} {s rest : List Char} {v : Json}
    (h : readNumber start negative s = .ok (v, rest)) : P v := by
  unfold readNumber at h
  split at h
  · cases h
  · rename_i whole after found
    dsimp only at h
    split at h
    · cases h
      exact spelled.float _
    · split at h
      · split at h
        · cases h
        · rename_i few
          cases h
          exact spelled.int _ (writable_signed (isAsciiDigit_of_wholeDigits found) (Nat.le_of_not_lt few) negative)
      · cases h
        exact spelled.float _

theorem of_readScalar {s rest : List Char} {v : Json} (h : readScalar s = .ok (v, rest)) : P v := by
  have words : ∀ w ∈ wordValues, P w.2 := by
    simp only [wordValues, List.forall_mem_cons]
    exact ⟨spelled.null, spelled.bool _, spelled.bool _, spelled.float _, spelled.float _, spelled.float _, by simp⟩
  unfold readScalar at h
  split at h
  · rename_i word value found
    cases h
    exact words (word, v) (List.mem_of_find?_eq_some found)
  · split at h
    · exact spelled.of_readNumber h
    · exact spelled.of_readNumber h

end Spelled

/-- The readers give values with the property, however much fuel they have. -/
structure ReadersGive (P : Json → Prop) (fuel : Nat) : Prop where
  value : ∀ {room s v rest}, readValue room fuel s = .ok (v, rest) → P v
  items : ∀ {room s items rest}, readItems room fuel s = .ok (items, rest) → ∀ item ∈ items, P item
  fields : ∀ {room s entries rest}, readFields room fuel s = .ok (entries, rest) → ∀ entry ∈ entries, P entry.2

namespace ReadersGive

variable {P : Json → Prop} {fuel room : Nat} {s rest : List Char}

theorem of_readValue (spelled : Spelled P) (ih : ReadersGive P fuel) {v : Json}
    (h : readValue room (fuel + 1) s = .ok (v, rest)) : P v := by
  unfold readValue at h
  split at h
  · split at h
    · cases h
    · split at h
      · cases h
        exact spelled.arr [] (by simp)
      · obtain ⟨⟨items, after⟩, read, given⟩ := except_bind_eq_ok.mp h
        cases given
        exact spelled.arr items (ih.items read)
  · split at h
    · cases h
    · split at h
      · cases h
        exact spelled.obj [] (by simp)
      · obtain ⟨⟨entries, after⟩, read, given⟩ := except_bind_eq_ok.mp h
        cases given
        exact spelled.obj entries (ih.fields read)
  · split at h
    · obtain ⟨⟨chars, after⟩, read, given⟩ := except_bind_eq_ok.mp h
      cases given
      exact spelled.str _
    · exact spelled.of_readScalar h
  · cases h

theorem of_readItems (ih : ReadersGive P fuel) {items : List Json}
    (h : readItems room (fuel + 1) s = .ok (items, rest)) : ∀ item ∈ items, P item := by
  unfold readItems at h
  obtain ⟨⟨item, left⟩, first, h⟩ := except_bind_eq_ok.mp h
  dsimp only at h
  split at h
  · cases h
    simpa using ih.value first
  · obtain ⟨⟨more, after⟩, others, given⟩ := except_bind_eq_ok.mp h
    cases given
    exact List.forall_mem_cons.mpr ⟨ih.value first, ih.items others⟩
  · cases h

theorem of_readFields (ih : ReadersGive P fuel) {entries : List (String × Json)}
    (h : readFields room (fuel + 1) s = .ok (entries, rest)) : ∀ entry ∈ entries, P entry.2 := by
  unfold readFields at h
  split at h
  · cases h
  · split at h
    · obtain ⟨⟨name, left⟩, -, h⟩ := except_bind_eq_ok.mp h
      dsimp only at h
      split at h
      · obtain ⟨⟨value, left⟩, first, h⟩ := except_bind_eq_ok.mp h
        dsimp only at h
        split at h
        · cases h
          simpa using ih.value first
        · obtain ⟨⟨more, after⟩, others, given⟩ := except_bind_eq_ok.mp h
          cases given
          exact List.forall_mem_cons.mpr ⟨ih.value first, ih.fields others⟩
        · cases h
      · cases h
    · cases h

end ReadersGive

theorem Spelled.readers {P : Json → Prop} (spelled : Spelled P) (fuel : Nat) : ReadersGive P fuel := by
  induction fuel with
  | zero =>
      refine ⟨?_, ?_, ?_⟩
      · intro room s v rest h
        simp [readValue] at h
      · intro room s items rest h
        simp [readItems] at h
      · intro room s entries rest h
        simp [readFields] at h
  | succ fuel ih => exact ⟨ih.of_readValue spelled, ih.of_readItems, ih.of_readFields⟩

/-- A document is a value from its first character on. -/
theorem readValue_of_readCharacters {s : List Char} {v : Json} (h : readCharacters s = .ok v) :
    ∃ fuel rest, readValue depthLimit fuel (skipGaps s) = .ok (v, rest) := by
  unfold readCharacters readWithin at h
  split at h
  · rename_i value all
    cases h
    unfold readAll at all
    obtain ⟨⟨value, rest⟩, front, given⟩ := except_bind_eq_ok.mp all
    dsimp only at given
    split at given
    · cases given
      exact ⟨_, rest, front⟩
    · cases given
  all_goals cases h

theorem readCharacters_of_read {text : String} {v : Json} (h : read text = .ok v) :
    readCharacters text.toList = .ok v := by
  unfold read at h
  dsimp only at h
  split at h
  · cases h
  · exact h

namespace Spelled

variable {P : Json → Prop} (spelled : Spelled P)

include spelled

theorem of_readCharacters {s : List Char} {v : Json} (h : readCharacters s = .ok v) : P v := by
  obtain ⟨fuel, rest, front⟩ := readValue_of_readCharacters h
  exact (spelled.readers fuel).value front

theorem of_read {text : String} {v : Json} (h : read text = .ok v) : P v :=
  spelled.of_readCharacters (readCharacters_of_read h)

end Spelled

end Json

end CanaryGate
