import CanaryGate.Json.Wide
import CanaryGate.Proofs.Json.Sendable

/-! # Wide documents and what is shown of them

What is shown of a wide document has the numbers of the document. Half of a pair in a part of a document is one in the
document.
-/

namespace CanaryGate

namespace Json

theorem Spelled.of_wideOfBytes {P : Json → Prop} (spelled : Spelled P) {bytes : List UInt8} {wide : Json}
    (h : wideOfBytes bytes = .ok wide) : P wide := by
  unfold wideOfBytes at h
  split at h
  · cases h
  · next points _ =>
    split at h
    · cases h
    · next value shown =>
      cases h
      cases packed : readCharacters (packFrom 0 0 points) with
      | error error => exact spelled.of_readCharacters shown
      | ok wide => exact spelled.of_readCharacters packed

theorem itemsShown_eq (items : List Json) : itemsShown items = items.map shown := by
  induction items with
  | nil => rfl
  | cons item rest ih => rw [itemsShown, ih, List.map_cons]

theorem fieldsShown_eq (fields : Fields) :
    fieldsShown fields = fields.map fun field => (shownText field.1, shown field.2) := by
  induction fields with
  | nil => rfl
  | cons field rest ih => rw [fieldsShown, ih, List.map_cons]

theorem Short.shown {v : Json} (short : Short v) : Short v.shown := by
  induction short with
  | null => exact .null
  | bool b => exact .bool b
  | int short => exact .int short
  | float x => exact .float x
  | str s => exact .str _
  | @arr items inner ih =>
      rw [Json.shown, itemsShown_eq, short_arr]
      exact List.forall_mem_map.mpr ih
  | @obj fields inner ih =>
      rw [Json.shown, fieldsShown_eq, short_obj]
      exact List.forall_mem_map.mpr ih

/-! Halves of pairs. -/

theorem fieldsTorn_eq (fields : Fields) :
    fieldsTorn fields = fields.any fun field => tornText field.1 || torn field.2 := by
  induction fields with
  | nil => rfl
  | cons field rest ih => rw [fieldsTorn, ih, List.any_cons]

theorem untorn_of_mem {fields : Fields} (untorn : torn (.obj fields) = false) {entry : String × Json}
    (member : entry ∈ fields) : tornText entry.1 = false ∧ torn entry.2 = false := by
  rw [torn, fieldsTorn_eq, List.any_eq_false] at untorn
  simpa using untorn entry member

theorem untorn_of_field? {wide part : Json} {name : String} (untorn : wide.torn = false)
    (found : wide.field? name = some part) : part.torn = false := by
  cases wide with
  | obj fields => exact (untorn_of_mem untorn (Fields.mem_of_get? found)).2
  | null | bool b | int n | float x | str s | arr items => cases found

theorem whole_wideText? {wide : Json} {name : String} {s : List Point} (untorn : wide.torn = false)
    (found : wide.wideText? name = some s) : Point.whole s = true := by
  obtain ⟨text, standing, rfl⟩ := Option.map_eq_some_iff.mp found
  obtain ⟨part, stands, isText⟩ := Option.bind_eq_some_iff.mp standing
  have whole := untorn_of_field? untorn stands
  cases part with
  | str t =>
      cases isText
      simpa [torn, tornText] using whole
  | null | bool b | int n | float x | arr items | obj fields => cases isText

end Json

end CanaryGate
