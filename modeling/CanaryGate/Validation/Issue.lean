/-!
# Issues

What validation reports about an input: where, and what kind of thing is wrong there. All issues of
an input are reported together, in the order of the fields.
-/

namespace CanaryGate

/-- One step from a value to a part of it. -/
inductive Step where
  /-- The field of a name. -/
  | field (name : String)
  /-- The item of an index. -/
  | item (index : Nat)
  deriving DecidableEq, Repr

inductive Trouble where
  | missing
  | notRecord
  | notRecordInBody
  | notBoolean
  | unreadableBoolean
  | notInteger
  | unreadableInteger
  | fractionalInteger
  | infiniteInteger
  | oversizeInteger
  | notNumber
  | unreadableNumber
  | notText
  | notUnicode
  | overlongText
  | notOneOfTheWords
  | belowMinimum
  | aboveMaximum
  | notList
  | notMapping
  | refusedValue
  | unreadableDocument
  deriving DecidableEq, Repr

def Trouble.code : Trouble → String
  | missing => "missing"
  | notRecord => "model_type"
  | notRecordInBody => "model_attributes_type"
  | notBoolean => "bool_type"
  | unreadableBoolean => "bool_parsing"
  | notInteger => "int_type"
  | unreadableInteger => "int_parsing"
  | fractionalInteger => "int_from_float"
  | infiniteInteger => "finite_number"
  | oversizeInteger => "int_parsing_size"
  | notNumber => "float_type"
  | unreadableNumber => "float_parsing"
  | notText => "string_type"
  | notUnicode => "string_unicode"
  | overlongText => "string_too_long"
  | notOneOfTheWords => "literal_error"
  | belowMinimum => "greater_than_equal"
  | aboveMaximum => "less_than_equal"
  | notList => "list_type"
  | notMapping => "dict_type"
  | refusedValue => "value_error"
  | unreadableDocument => "json_invalid"

/-- A kind of trouble at a place. -/
structure Issue where
  place : List Step
  trouble : Trouble
  deriving DecidableEq, Repr

namespace Issue

/-- The same issue seen from one step further out. -/
def under (step : Step) (issue : Issue) : Issue := ⟨step :: issue.place, issue.trouble⟩

end Issue

end CanaryGate
