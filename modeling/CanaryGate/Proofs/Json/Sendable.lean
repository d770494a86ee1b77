import CanaryGate.Proofs.Json.Limits
import CanaryGate.Proofs.Json.Readers

/-! # What keeps a value from being sent

A value is sent as a document if its integers are short and its doubles are finite. The integers of a value that was
read are short, so nothing but not-a-number and the infinities is in its way.
-/

namespace CanaryGate

namespace Json

/-- Each integer is short enough to be written. -/
inductive Short : Json → Prop where
  | null : Short .null
  | bool (b : Bool) : Short (.bool b)
  | int {n : Int} (short : writable n = true) : Short (.int n)
  | float (x : Binary64) : Short (.float x)
  | str (s : String) : Short (.str s)
  | arr {items : List Json} (inner : ∀ item ∈ items, Short item) : Short (.arr items)
  | obj {fields : Fields} (inner : ∀ field ∈ fields, Short field.2) : Short (.obj fields)

/-- Each double is finite. -/
inductive Finite : Json → Prop where
  | null : Finite .null
  | bool (b : Bool) : Finite (.bool b)
  | int (n : Int) : Finite (.int n)
  | float {x : Binary64} (finite : x.isFinite = true) : Finite (.float x)
  | str (s : String) : Finite (.str s)
  | arr {items : List Json} (inner : ∀ item ∈ items, Finite item) : Finite (.arr items)
  | obj {fields : Fields} (inner : ∀ field ∈ fields, Finite field.2) : Finite (.obj fields)

@[simp] theorem short_arr {items : List Json} : Short (.arr items) ↔ ∀ item ∈ items, Short item :=
  ⟨fun | .arr inner => inner, .arr⟩

@[simp] theorem short_obj {fields : Fields} : Short (.obj fields) ↔ ∀ field ∈ fields, Short field.2 :=
  ⟨fun | .obj inner => inner, .obj⟩

@[simp] theorem finite_float {x : Binary64} : Finite (.float x) ↔ x.isFinite = true :=
  ⟨fun | .float finite => finite, .float⟩

@[simp] theorem finite_arr {items : List Json} : Finite (.arr items) ↔ ∀ item ∈ items, Finite item :=
  ⟨fun | .arr inner => inner, .arr⟩

@[simp] theorem finite_obj {fields : Fields} : Finite (.obj fields) ↔ ∀ field ∈ fields, Finite field.2 :=
  ⟨fun | .obj inner => inner, .obj⟩

theorem spelled_short : Spelled Short where
  null := .null
  bool := .bool
  int _ := .int
  float := .float
  str := .str
  arr _ all := .arr all
  obj _ all := .obj (Fields.forall_mem_ofList all)

theorem itemsObstacle?_eq (items : List Json) : itemsObstacle? items = items.findSome? obstacle? := by
  induction items with
  | nil => rfl
  | cons item rest ih =>
      rw [itemsObstacle?, ih, List.findSome?_cons]
      cases obstacle? item <;> rfl

theorem fieldsObstacle?_eq (fields : Fields) :
    fieldsObstacle? fields = fields.findSome? fun field => obstacle? field.2 := by
  induction fields with
  | nil => rfl
  | cons field rest ih =>
      rw [fieldsObstacle?, ih, List.findSome?_cons]
      cases obstacle? field.2 <;> rfl

/-- Whether a value can be sent is a matter of its doubles. -/
structure Judged (v : Json) : Prop where
  sent : Finite v → obstacle? v = none
  held : ¬ Finite v → obstacle? v = some .notFinite

/-- What is judged one by one is judged together. -/
theorem judged_findSome {α : Type} (value : α → Json) {parts : List α} (inner : ∀ part ∈ parts, Judged (value part)) :
    ((∀ part ∈ parts, Finite (value part)) → parts.findSome? (fun part => obstacle? (value part)) = none)
      ∧ (¬ (∀ part ∈ parts, Finite (value part)) →
        parts.findSome? (fun part => obstacle? (value part)) = some .notFinite) := by
  constructor
  · intro finite
    exact List.findSome?_eq_none_iff.mpr fun part member => (inner part member).sent (finite part member)
  · intro unfinite
    induction parts with
    | nil => exact absurd (by simp) unfinite
    | cons part rest ih =>
        rw [List.findSome?_cons]
        by_cases first : Finite (value part)
        · rw [(inner part (.head _)).sent first]
          refine ih (fun other member => inner other (.tail _ member)) fun others => ?_
          exact unfinite (List.forall_mem_cons.mpr ⟨first, others⟩)
        · rw [(inner part (.head _)).held first]

/-- Nothing but a double that is not finite keeps a value with short integers from being sent. -/
theorem Short.judged {v : Json} (short : Short v) : Judged v := by
  induction short with
  | null => exact ⟨fun _ => rfl, fun unfinite => absurd .null unfinite⟩
  | bool b => exact ⟨fun _ => rfl, fun unfinite => absurd (.bool b) unfinite⟩
  | int short =>
      refine ⟨fun _ => ?_, fun unfinite => absurd (.int _) unfinite⟩
      rw [obstacle?, short, if_pos rfl]
  | float x =>
      refine ⟨fun finite => if_pos (finite_float.mp finite), fun unfinite => if_neg ?_⟩
      exact fun finite => unfinite (.float finite)
  | str s => exact ⟨fun _ => rfl, fun unfinite => absurd (.str s) unfinite⟩
  | @arr items inner judged =>
      have all := judged_findSome id judged
      refine ⟨fun finite => ?_, fun unfinite => ?_⟩
      · exact (itemsObstacle?_eq items).trans (all.1 (finite_arr.mp finite))
      · exact (itemsObstacle?_eq items).trans (all.2 fun finite => unfinite (.arr finite))
  | @obj fields inner judged =>
      have all := judged_findSome Prod.snd judged
      refine ⟨fun finite => ?_, fun unfinite => ?_⟩
      · exact (fieldsObstacle?_eq fields).trans (all.1 (finite_obj.mp finite))
      · exact (fieldsObstacle?_eq fields).trans (all.2 fun finite => unfinite (.obj finite))

theorem Short.obstacle?_eq_none_iff {v : Json} (short : Short v) : obstacle? v = none ↔ Finite v := by
  refine ⟨fun sent => ?_, short.judged.sent⟩
  by_contra unfinite
  rw [short.judged.held unfinite] at sent
  contradiction

end Json

end CanaryGate
