import CanaryGate.Json.Coerce
import CanaryGate.Numeric.Numeral

/-!
# Namespaces

The contents of a store: namespaces by name, each an object whose entries keep their order. A state
file may hold anything under a namespace, so every operation also says what it does with a value that
is no object.
-/

namespace CanaryGate

/-- Namespaces by name, in the order in which they were first used. -/
abbrev Namespaces := Fields

namespace Namespaces

/-- The value under a name, or an empty namespace. -/
def entriesOf (all : Namespaces) (space : String) : Json := (Fields.get? all space).getD (.obj [])

/-- With an empty namespace under the name, if there was nothing. -/
def ensure (all : Namespaces) (space : String) : Namespaces :=
  if (Fields.get? all space).isSome then all else Fields.set all space (.obj [])

/-- The value under a key. -/
def find? (all : Namespaces) (space key : String) : Except Fault (Option Json) :=
  match entriesOf all space with
  | .obj entries => .ok (Fields.get? entries key)
  | _ => .error .noFields

/-- The entries in order. -/
def items (all : Namespaces) (space : String) : Except Fault Fields :=
  match entriesOf all space with
  | .obj entries => .ok entries
  | _ => .error .noFields

def set (all : Namespaces) (space key : String) (value : Json) : Except Fault Unit × Namespaces :=
  let all := ensure all space
  match entriesOf all space with
  | .obj entries => (.ok (), Fields.set all space (.obj (Fields.set entries key value)))
  | _ => (.error .unsuitable, all)

def delete (all : Namespaces) (space key : String) : Except Fault Unit × Namespaces :=
  let all := ensure all space
  match entriesOf all space with
  | .obj entries => (.ok (), Fields.set all space (.obj (Fields.erase entries key)))
  | .arr _ => (.error .unsuitable, all)
  | _ => (.error .noFields, all)

/-- How many of `length` entries are beyond `limit`. A negative limit counts as zero. -/
def overflow (length : Nat) (limit : Int) : Nat := length - limit.toNat

/-- The place of a list item by its index, which counts from the end if it is negative. -/
def placeOf (length : Nat) (index : Json) : Except Fault Nat := do
  let i ← index.wholeNumber
  if i < -0x8000000000000000 ∨ 0x8000000000000000 ≤ i then throw .hugeIndex
  else
    let place := if i < 0 then i + length else i
    if 0 ≤ place ∧ place < length then return place.toNat else throw .noSuchItem

def removeIndices (items : List Json) : List Json → Except Fault Unit × List Json
  | [] => (.ok (), items)
  | index :: more =>
    match placeOf items.length index with
    | .ok place => removeIndices (items.eraseIdx place) more
    | .error fault => (.error fault, items)

/-- Removes the oldest entries until at most `limit` are left, and gives back their keys. A list under
the name is pruned by what its own first items say. -/
def prune (all : Namespaces) (space : String) (limit : Int) : Except Fault (List Json) × Namespaces :=
  let all := ensure all space
  match entriesOf all space with
  | .obj entries =>
    let n := overflow entries.length limit
    (.ok ((entries.take n).map fun e => .str e.1),
      if n = 0 then all else Fields.set all space (.obj (entries.drop n)))
  | .arr entries =>
    let evicted := entries.take (overflow entries.length limit)
    match removeIndices entries evicted with
    | (.ok (), rest) => (.ok evicted, Fields.set all space (.arr rest))
    | (.error fault, rest) => (.error fault, Fields.set all space (.arr rest))
  | .str s => if overflow s.length limit = 0 then (.ok [], all) else (.error .unsuitable, all)
  | _ => (.error .unsuitable, all)

/-- How many entries a value counts as. -/
def lengthOf : Json → Nat
  | .obj entries => entries.length
  | .arr items => items.length
  | .str s => s.length
  | _ => 0

/-- The limit that a value stands for where there are `length` entries. A double can only say that all of them
go, or that none does. -/
def limitOf (length : Nat) : Json → Except Fault Int
  | .float x =>
    if x.lt .zero then .ok 0
    else if (Binary64.ofNat length).le x then .ok length
    else .error .unsuitable
  | limit => limit.wholeNumber

def pruneTo (all : Namespaces) (space : String) (limit : Json) : Except Fault (List Json) × Namespaces :=
  let all := ensure all space
  match limitOf (lengthOf (entriesOf all space)) limit with
  | .ok limit => prune all space limit
  | .error fault => (.error fault, all)

def sequences : String := "sequences"

/-- Counts one further and gives the new count; a counter starts at zero. -/
def advance (all : Namespaces) (name : String) : Except Fault Int × Namespaces :=
  let all := ensure all sequences
  match entriesOf all sequences with
  | .obj counters =>
    match ((Fields.get? counters name).getD (.int 0)).toInteger with
    | .ok n => (.ok (n + 1), Fields.set all sequences (.obj (Fields.set counters name (.int (n + 1)))))
    | .error fault => (.error fault, all)
  | _ => (.error .noFields, all)

end Namespaces

end CanaryGate
