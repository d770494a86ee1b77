import CanaryGate.Numeric.Binary64

/-!
# Document values

The values that requests, engine answers, stored records and log lines are made of. An integer and
a double are different values even where they are equal numbers, and the fields of an object keep
the order in which they were first written.
-/

namespace CanaryGate

inductive Json where
  | null
  | bool (value : Bool)
  | int (value : Int)
  | float (value : Binary64)
  | str (value : String)
  | arr (items : List Json)
  /-- Fields in order; a name is meant to occur once. -/
  | obj (fields : List (String × Json))
  deriving Repr, Inhabited

/-- Named values in order. -/
abbrev Fields := List (String × Json)

namespace Fields

def get? (fields : Fields) (name : String) : Option Json := List.lookup name fields

def get (fields : Fields) (name : String) : Json := (get? fields name).getD .null

/-- Puts a value under a name: in place if the name is there, else at the end. -/
def set : Fields → String → Json → Fields
  | [], name, value => [(name, value)]
  | (key, old) :: rest, name, value =>
    if key = name then (key, value) :: rest else (key, old) :: set rest name value

/-- Without the entry of a name. -/
def erase : Fields → String → Fields
  | [], _ => []
  | (key, old) :: rest, name => if key = name then rest else (key, old) :: erase rest name

def names (fields : Fields) : List String := fields.map (·.1)

/-- Fields written one after the other; a repeated name keeps its first place and its last value. -/
def ofList (entries : List (String × Json)) : Fields := entries.foldl (fun fs e => fs.set e.1 e.2) []

theorem get?_cons (key : String) (value : Json) (rest : Fields) (name : String) :
    get? ((key, value) :: rest) name = if name = key then some value else get? rest name := by
  unfold get?
  by_cases h : name = key
  · subst h
    simp
  · have differ : (name == key) = false := by simpa using h
    rw [if_neg h, List.lookup_cons, differ]

/-- Putting a value changes what is under its name and nothing else. -/
theorem get?_set (fields : Fields) (name : String) (value : Json) (other : String) :
    get? (set fields name value) other = if other = name then some value else get? fields other := by
  induction fields with
  | nil => simp [set, get?_cons]
  | cons entry rest ih =>
    obtain ⟨key, old⟩ := entry
    unfold set
    split
    · rename_i same
      subst same
      simp only [get?_cons]
      split <;> rfl
    · rename_i differ
      simp only [get?_cons, ih]
      split
      · rename_i here
        subst here
        rw [if_neg differ]
      · rfl

/-- Of two values that are put under one name the last one stays. -/
theorem set_set (fields : Fields) (name : String) (old new : Json) :
    set (set fields name old) name new = set fields name new := by
  induction fields with
  | nil => simp [set]
  | cons entry rest ih =>
    obtain ⟨key, value⟩ := entry
    by_cases here : key = name
    · simp [set, here]
    · simp [set, here, ih]

/-- A new name comes last, and a known name keeps its place. -/
theorem names_set (fields : Fields) (name : String) (value : Json) :
    names (set fields name value) = if name ∈ names fields then names fields else names fields ++ [name] := by
  induction fields with
  | nil => simp [set, names]
  | cons entry rest ih =>
    obtain ⟨key, old⟩ := entry
    unfold set
    split
    · rename_i same
      simp [names, same]
    · rename_i differ
      have apart : name ≠ key := fun h => differ h.symm
      simp only [names, List.map_cons] at ih ⊢
      rw [ih]
      by_cases h : name ∈ List.map (·.1) rest <;> simp [h, apart]

theorem names_erase (fields : Fields) (name : String) :
    names (erase fields name) = (names fields).erase name := by
  induction fields with
  | nil => rfl
  | cons entry rest ih =>
    obtain ⟨key, old⟩ := entry
    unfold erase
    split
    · rename_i same
      simp [names, same]
    · rename_i differ
      simpa [names, List.erase_cons, differ] using ih

/-- Something stands under a name exactly when the name is there. -/
theorem get?_isSome_iff (fields : Fields) (name : String) : (get? fields name).isSome ↔ name ∈ names fields := by
  induction fields with
  | nil => simp [get?, names]
  | cons entry rest ih =>
    obtain ⟨key, old⟩ := entry
    rw [get?_cons]
    by_cases h : name = key
    · simp [h, names]
    · simpa [h, names] using ih

/-- Names that are all different stay so when a value is put. -/
theorem nodup_names_set {fields : Fields} (distinct : (names fields).Nodup) (name : String) (value : Json) :
    (names (set fields name value)).Nodup := by
  rw [names_set]
  split
  · exact distinct
  · rename_i absent
    rw [List.nodup_append]
    exact ⟨distinct, by simp, fun a ha b hb same => absent (by simp at hb; rw [← hb, ← same]; exact ha)⟩

end Fields

namespace Json

/-- Null, false, zero, and everything empty count as false; not-a-number counts as true. -/
def truthy : Json → Bool
  | null => false
  | bool b => b
  | int n => n != 0
  | float x => x.truthy
  | str s => s != ""
  | arr items => !items.isEmpty
  | obj fields => !fields.isEmpty

def isNull : Json → Bool
  | null => true
  | _ => false

def fields? : Json → Option Fields
  | obj fields => some fields
  | _ => none

def field? (value : Json) (name : String) : Option Json :=
  value.fields?.bind fun fields => Fields.get? fields name

/-- The value under a name of an object, null when there is none. -/
def fieldD (value : Json) (name : String) : Json := (value.field? name).getD null

def isObject : Json → Bool
  | obj _ => true
  | _ => false

/-- The text, where the value is one. -/
def str? : Json → Option String
  | str s => some s
  | _ => none

mutual

/-- The levels of a value: one of its own, and those of its deepest part. -/
def levels : Json → Nat
  | arr items => itemsLevels items + 1
  | obj fields => fieldsLevels fields + 1
  | null | bool _ | int _ | float _ | str _ => 1

def itemsLevels : List Json → Nat
  | [] => 0
  | item :: rest => max (levels item) (itemsLevels rest)

def fieldsLevels : List (String × Json) → Nat
  | [] => 0
  | (_, value) :: rest => max (levels value) (fieldsLevels rest)

end

theorem levels_pos (value : Json) : 0 < levels value := by
  cases value <;> simp [levels]

/-- A text, or null for none. -/
def optional (f : α → Json) : Option α → Json
  | none => null
  | some a => f a

end Json

end CanaryGate
