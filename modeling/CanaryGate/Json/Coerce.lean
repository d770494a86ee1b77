import CanaryGate.Fault
import CanaryGate.Json.Bytes
import CanaryGate.Json.Display

/-!
# Values as numbers, sequences and texts

How loosely typed values are read where an engine's answer or a stored counter stands for a number,
for a list or for a text.
-/

namespace CanaryGate

namespace Json

/-- A whole number: texts are read, doubles lose their fraction, true counts as one. -/
def toInteger : Json → Except Fault Int
  | .int n => .ok n
  | .bool b => .ok (if b then 1 else 0)
  | .float .nan => .error .nanInteger
  | .float (.infinite _) => .error .infiniteInteger
  | .float (.finite negative rank) => .ok (Binary64.truncate negative rank)
  | .str s => (Numeral.integer s).mapError .numeral
  | _ => .error .unsuitable

/-- An integer or a truth value; true counts as one. -/
def wholeNumber : Json → Except Fault Int
  | .int n => .ok n
  | .bool b => .ok (if b then 1 else 0)
  | _ => .error .unsuitable

/-- The double of an integer, if it is in range. -/
def doubleOfInt (n : Int) : Except Fault Binary64 :=
  let x := Binary64.ofInt n
  if x.isFinite then .ok x else .error .doubleRange

/-- A double: texts are read, true counts as one. -/
def toDouble : Json → Except Fault Binary64
  | .float x => .ok x
  | .int n => doubleOfInt n
  | .bool b => .ok (Binary64.ofNat (if b then 1 else 0))
  | .str s => (Numeral.number s).mapError .numeral
  | _ => .error .unsuitable

/-- The items of a value: those of a list, the names of an object, the characters of a text. Other values have
none at all. -/
def itemsOf : Json → Except Fault (List Json)
  | .arr items => .ok items
  | .obj fields => .ok (fields.map fun f => .str f.1)
  | .str s => .ok (s.toList.map fun c => .str (String.ofList [c]))
  | _ => .error .unsuitable

/-- The fields of a value that has to be an object. -/
def fieldsOf : Json → Except Fault Fields
  | .obj fields => .ok fields
  | _ => .error .noFields

/-- The objects among the items of a value. The items of a text and of an object are texts, so there
are none among them; other values have no items at all. -/
def objectItems : Json → Except Fault (List Fields)
  | .arr items => .ok (items.filterMap Json.fields?)
  | .str _ | .obj _ => .ok []
  | _ => .error .unsuitable

/-- The objects of a value are those among its items. -/
theorem objectItems_eq (value : Json) :
    value.objectItems = (itemsOf value).map fun items => items.filterMap Json.fields? := by
  cases value with
  | arr items => rfl
  | obj fields => simp [objectItems, itemsOf, Except.map, Json.fields?, List.filterMap_map, Function.comp_def]
  | str s => simp [objectItems, itemsOf, Except.map, Json.fields?, List.filterMap_map, Function.comp_def]
  | null | bool _ | int _ | float _ => rfl

/-- The text of a value, if all integers in it can be written and it is not too deep. -/
def spelled (value : Json) : Except Fault String :=
  match value.exceeded? depthLimit with
  | none => .ok value.display
  | some .digits => .error .integerTooLong
  | some .depth => .error .tooDeepToShow

theorem eq_display_of_spelled {value : Json} {text : String} (h : value.spelled = .ok text) : text = value.display := by
  unfold spelled at h
  split at h
  · exact (Except.ok.inj h).symm
  all_goals cases h

/-- The value, or a stand-in where it counts as false. -/
def orElse (value standIn : Json) : Json := if value.truthy then value else standIn

/-- Zero as a stand-in changes no integer. -/
theorem toInteger_orElse_int (n : Int) : ((Json.int n).orElse (.int 0)).toInteger = .ok n := by
  unfold orElse
  split
  · rfl
  · rename_i zero
    have zero : n = 0 := by simpa [truthy] using zero
    rw [zero]
    rfl

end Json

end CanaryGate
