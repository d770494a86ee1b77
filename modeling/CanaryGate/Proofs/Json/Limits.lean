import CanaryGate.Json.Bytes

/-! # Values within the limits of writing

A value can be written if its integers are short enough and not too many lists and objects stand inside each
other. What is put into an object, or found in one, is as far inside as the other fields are.
-/

namespace CanaryGate

namespace Fields

/-- What stands among fields after a value was put there is that value, or stood there before. -/
theorem of_mem_set {fields : Fields} {name : String} {value : Json} {field : String × Json}
    (h : field ∈ set fields name value) : field = (name, value) ∨ field ∈ fields := by
  induction fields with
  | nil =>
      rw [set, List.mem_singleton] at h
      exact .inl h
  | cons entry rest ih =>
      obtain ⟨key, old⟩ := entry
      unfold set at h
      split at h
      · rename_i same
        rcases List.mem_cons.mp h with here | there
        · exact .inl (same ▸ here)
        · exact .inr (.tail _ there)
      · rcases List.mem_cons.mp h with here | there
        · exact .inr (here ▸ .head _)
        · exact (ih there).imp_right (.tail _)

theorem forall_mem_set {fields : Fields} {P : Json → Prop} (kept : ∀ field ∈ fields, P field.2) {value : Json}
    (new : P value) (name : String) : ∀ field ∈ set fields name value, P field.2 := by
  intro field member
  rcases of_mem_set member with here | there
  · rw [here]
    exact new
  · exact kept field there

theorem forall_mem_ofList {P : Json → Prop} {entries : List (String × Json)} (all : ∀ entry ∈ entries, P entry.2) :
    ∀ field ∈ ofList entries, P field.2 := by
  suffices kept : ∀ done : Fields, (∀ field ∈ done, P field.2) →
      ∀ field ∈ entries.foldl (fun fs e => fs.set e.1 e.2) done, P field.2 from kept [] (by simp)
  induction entries with
  | nil => exact fun _ known => known
  | cons entry rest ih =>
      exact fun done known => ih (fun e member => all e (.tail _ member)) _
        (forall_mem_set known (all entry (.head _)) entry.1)

theorem mem_of_get? {fields : Fields} {name : String} {value : Json} (h : get? fields name = some value) :
    (name, value) ∈ fields := by
  induction fields with
  | nil => simp [get?] at h
  | cons entry rest ih =>
      obtain ⟨key, old⟩ := entry
      rw [get?_cons] at h
      split at h
      · rename_i same
        cases h
        exact same ▸ .head _
      · exact .tail _ (ih h)

end Fields

namespace Json

/-- The value can be written where there is room for so many lists and objects inside each other. -/
def Within (room : Nat) (value : Json) : Prop := exceeded? room value = none

variable {room : Nat}

theorem itemsExceeded?_eq_none_iff {items : List Json} :
    itemsExceeded? room items = none ↔ ∀ item ∈ items, Within room item := by
  induction items with
  | nil => simp [itemsExceeded?]
  | cons item rest ih => simp [itemsExceeded?, ih, Within]

theorem fieldsExceeded?_eq_none_iff {fields : Fields} :
    fieldsExceeded? room fields = none ↔ ∀ field ∈ fields, Within room field.2 := by
  induction fields with
  | nil => simp [fieldsExceeded?]
  | cons field rest ih => simp [fieldsExceeded?, ih, Within]

@[simp] theorem within_arr {items : List Json} : Within (room + 1) (.arr items) ↔ ∀ item ∈ items, Within room item :=
  itemsExceeded?_eq_none_iff

@[simp] theorem within_obj {fields : Fields} :
    Within (room + 1) (.obj fields) ↔ ∀ field ∈ fields, Within room field.2 := fieldsExceeded?_eq_none_iff

@[simp] theorem not_within_zero_arr (items : List Json) : ¬ Within 0 (.arr items) := nofun

@[simp] theorem not_within_zero_obj (fields : Fields) : ¬ Within 0 (.obj fields) := nofun

@[simp] theorem within_int {n : Int} : Within room (.int n) ↔ writable n = true := by
  simp [Within, exceeded?]

theorem writable_digit {n : Int} (h : n.natAbs < 10) : writable n = true := by
  have below : ∀ k, k ≠ 0 → n.natAbs < Nat.pow 10 k := fun k some =>
    Nat.lt_of_lt_of_le h (Nat.le_self_pow some 10)
  rw [writable, decide_eq_true_eq]
  exact below Numeral.digitLimit (by decide)

@[simp] theorem within_null : Within room .null := rfl

@[simp] theorem within_bool (b : Bool) : Within room (.bool b) := rfl

@[simp] theorem within_float (x : Binary64) : Within room (.float x) := rfl

@[simp] theorem within_str (s : String) : Within room (.str s) := rfl

end Json

end CanaryGate
