import CanaryGate.Comparison
import Mathlib.Data.Finset.Card
import Mathlib.Data.List.Dedup

/-! # Lists of keys

The keys of a comparison are listed in increasing order and without repetition, so a list is known by its members.
Whatever is asked of the keys of one side divides them into two lists, and together these are as long as there are
different keys.
-/

namespace CanaryGate

theorem pairwise_sortTexts (texts : List String) : (sortTexts texts).Pairwise (· ≤ ·) := by
  have transitive : ∀ a b c : String, (!decide (b < a)) = true → (!decide (c < b)) = true → (!decide (c < a)) = true := by
    simp only [Bool.not_eq_true', decide_eq_false_iff_not, String.not_lt]
    exact fun a b c => String.le_trans
  have total : ∀ a b : String, (!decide (b < a) || !decide (a < b)) = true := by
    simp only [Bool.or_eq_true, Bool.not_eq_true', decide_eq_false_iff_not, String.not_lt]
    exact String.le_total
  refine (List.pairwise_mergeSort transitive total texts).imp fun {a b} ordered => ?_
  rwa [Bool.not_eq_true', decide_eq_false_iff_not, String.not_lt] at ordered

/-- Texts in another order are sorted alike. -/
theorem sortTexts_of_perm {texts others : List String} (h : texts.Perm others) : sortTexts others = sortTexts texts := by
  refine List.Perm.eq_of_pairwise (fun a b _ _ => String.le_antisymm) (pairwise_sortTexts others)
    (pairwise_sortTexts texts) ?_
  exact (sortTexts_perm others).trans (h.symm.trans (sortTexts_perm texts).symm)

theorem nodup_eraseDups (texts : List String) : texts.eraseDups.Nodup := by
  cases texts with
  | nil => exact List.nodup_nil
  | cons first rest =>
      rw [List.eraseDups_cons, List.nodup_cons]
      exact ⟨by simp, nodup_eraseDups _⟩
termination_by texts.length
decreasing_by exact Nat.lt_succ_of_le (List.length_filter_le _ _)

namespace Comparison

variable {test : String → Bool} {keys : List String}

theorem mem_keysWhere {key : String} : key ∈ keysWhere test keys ↔ key ∈ keys ∧ test key = true := by
  unfold keysWhere
  rw [(sortTexts_perm _).mem_iff, List.mem_eraseDups, List.mem_filter]

theorem nodup_keysWhere : (keysWhere test keys).Nodup := (sortTexts_perm _).nodup_iff.mpr (nodup_eraseDups _)

theorem increasing_keysWhere : (keysWhere test keys).Pairwise (· < ·) :=
  ((pairwise_sortTexts _).and nodup_keysWhere).imp fun h => Std.lt_of_le_of_ne h.1 h.2

/-- Lists of keys with the same members are the same. -/
theorem keysWhere_congr {test' : String → Bool} {keys' : List String}
    (h : ∀ key, key ∈ keys ∧ test key = true ↔ key ∈ keys' ∧ test' key = true) :
    keysWhere test keys = keysWhere test' keys' := by
  have members : (keysWhere test keys).Perm (keysWhere test' keys') := by
    rw [List.perm_ext_iff_of_nodup nodup_keysWhere nodup_keysWhere]
    exact fun key => mem_keysWhere.trans ((h key).trans mem_keysWhere.symm)
  exact members.eq_of_pairwise (fun a b _ _ => String.le_antisymm) (pairwise_sortTexts _) (pairwise_sortTexts _)

theorem toFinset_keysWhere : (keysWhere test keys).toFinset = keys.toFinset.filter fun key => test key = true := by
  ext key
  rw [List.mem_toFinset, mem_keysWhere, Finset.mem_filter, List.mem_toFinset]

/-- The keys with a property and those without it are all the different keys. -/
theorem length_keysWhere_add : (keysWhere test keys).length + (keysWhere (!test ·) keys).length = keys.toFinset.card := by
  rw [← List.toFinset_card_of_nodup nodup_keysWhere, ← List.toFinset_card_of_nodup nodup_keysWhere, toFinset_keysWhere,
    toFinset_keysWhere]
  simp only [Bool.not_eq_true', ← Bool.not_eq_true]
  exact Finset.card_filter_add_card_filter_not fun key => test key = true

theorem card_toFinset_eq_length_iff : keys.toFinset.card = keys.length ↔ keys.Nodup :=
  Multiset.toFinset_card_eq_card_iff_nodup (m := (keys : Multiset String))

end Comparison

end CanaryGate
