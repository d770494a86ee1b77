import CanaryGate.Proofs.Json.Limits
import CanaryGate.Proofs.Json.Readers

/-! # Names that occur once

The objects of a value have each of their names once. Reading a document gives only such values, since a repeated
name keeps its first place and its last value, and so does putting such a value among the fields of another.
-/

namespace CanaryGate

namespace Json

/-- Each name of each object occurs once. -/
inductive Distinct : Json → Prop where
  | null : Distinct .null
  | bool (b : Bool) : Distinct (.bool b)
  | int (n : Int) : Distinct (.int n)
  | float (x : Binary64) : Distinct (.float x)
  | str (s : String) : Distinct (.str s)
  | arr {items : List Json} (inner : ∀ item ∈ items, Distinct item) : Distinct (.arr items)
  | obj {fields : Fields} (names : (Fields.names fields).Nodup) (inner : ∀ field ∈ fields, Distinct field.2) :
      Distinct (.obj fields)

attribute [simp] Distinct.null Distinct.bool Distinct.int Distinct.float Distinct.str

@[simp] theorem distinct_arr {items : List Json} : Distinct (.arr items) ↔ ∀ item ∈ items, Distinct item :=
  ⟨fun | .arr inner => inner, .arr⟩

@[simp] theorem distinct_obj {fields : Fields} :
    Distinct (.obj fields) ↔ (Fields.names fields).Nodup ∧ ∀ field ∈ fields, Distinct field.2 :=
  ⟨fun | .obj names inner => ⟨names, inner⟩, fun h => .obj h.1 h.2⟩

theorem distinct_empty : Distinct (.obj []) := .obj List.nodup_nil (by simp)

end Json

namespace Fields

theorem set_append {fields : Fields} {name : String} (absent : name ∉ names fields) (value : Json) :
    set fields name value = fields ++ [(name, value)] := by
  induction fields with
  | nil => rfl
  | cons entry rest ih =>
      obtain ⟨key, old⟩ := entry
      rw [names, List.map_cons, List.mem_cons, not_or] at absent
      rw [set, if_neg (Ne.symm absent.1), ih absent.2]
      rfl

/-- Fields with each name once are as they were written. -/
theorem ofList_eq {fields : Fields} (distinct : (names fields).Nodup) : ofList fields = fields := by
  suffices written : ∀ done left : Fields, (names (done ++ left)).Nodup →
      left.foldl (fun fs e => fs.set e.1 e.2) done = done ++ left from written [] fields distinct
  intro done left
  induction left generalizing done with
  | nil =>
      intro _
      exact (List.append_nil done).symm
  | cons entry left ih =>
      intro distinct
      have absent : entry.1 ∉ names done := by
        rw [names, List.map_append, List.map_cons, List.nodup_append] at distinct
        exact fun member => distinct.2.2 _ member _ (.head _) rfl
      have joined : done ++ entry :: left = done ++ [entry] ++ left := by simp
      rw [joined] at distinct ⊢
      rw [List.foldl_cons, set_append absent]
      exact ih _ distinct

theorem nodup_names_ofList (entries : List (String × Json)) : (names (ofList entries)).Nodup := by
  suffices kept : ∀ done : Fields, (names done).Nodup →
      (names (entries.foldl (fun fs e => fs.set e.1 e.2) done)).Nodup from kept [] List.nodup_nil
  induction entries with
  | nil => exact fun _ distinct => distinct
  | cons entry rest ih => exact fun done distinct => ih _ (nodup_names_set distinct entry.1 entry.2)

theorem erase_sublist (fields : Fields) (name : String) : (erase fields name).Sublist fields := by
  induction fields with
  | nil => exact .slnil
  | cons entry rest ih =>
      obtain ⟨key, old⟩ := entry
      unfold erase
      split
      · exact List.sublist_cons_self _ _
      · exact ih.cons_cons _

end Fields

namespace Json

theorem distinct_set {fields : Fields} (h : Distinct (.obj fields)) {value : Json} (new : Distinct value)
    (name : String) :
    Distinct (.obj (Fields.set fields name value)) := by
  obtain ⟨names, inner⟩ := distinct_obj.mp h
  exact .obj (Fields.nodup_names_set names name value) (Fields.forall_mem_set inner new name)

theorem distinct_sublist {fields fewer : Fields} (h : Distinct (.obj fields)) (part : fewer.Sublist fields) :
    Distinct (.obj fewer) := by
  obtain ⟨names, inner⟩ := distinct_obj.mp h
  exact .obj (names.sublist (part.map _)) fun field member => inner field (part.subset member)

theorem distinct_ofList {entries : List (String × Json)} (all : ∀ entry ∈ entries, Distinct entry.2) :
    Distinct (.obj (Fields.ofList entries)) :=
  .obj (Fields.nodup_names_ofList entries) (Fields.forall_mem_ofList all)

/-! What is read. -/

theorem spelled_distinct : Spelled Distinct where
  null := .null
  bool := .bool
  int n _ := .int n
  float := .float
  str := .str
  arr _ all := .arr all
  obj _ all := distinct_ofList all

theorem distinct_of_read {text : String} {v : Json} (h : read text = .ok v) : Distinct v := spelled_distinct.of_read h

end Json

end CanaryGate
