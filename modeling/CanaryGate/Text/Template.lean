import CanaryGate.Text.Placeholder

/-!
# Message templates

A template has placeholders, each a percent sign with a letter: behind the sign there may be a name in round
brackets, flags, a width, a precision behind a point, and a letter that is passed over. A doubled sign stands
for the sign itself. Without arguments a template stands for itself; with arguments, their number has to
fit.
-/

namespace CanaryGate

namespace Template

inductive Piece where
  | character (c : Char)
  | place (p : Placeholder)
  deriving DecidableEq, Repr

/-- A name up to the bracket that closes it; brackets inside it come in pairs. -/
def takeName : (depth : Nat) → List Char → Option (List Char × List Char)
  | _, [] => none
  | depth, c :: rest =>
    if c = ')' then
      match depth with
      | 0 => some ([], rest)
      | depth + 1 => (takeName depth rest).map fun (name, rest) => (c :: name, rest)
    else (takeName (if c = '(' then depth + 1 else depth) rest).map fun (name, rest) => (c :: name, rest)

/-- A number of a placeholder, if there is one; none if it is too large. -/
def takeSize (s : List Char) : Option (Option PlaceSize × List Char) :=
  match s with
  | '*' :: rest => some (some .argument, rest)
  | s =>
    let digits := s.takeWhile Numeral.isAsciiDigit
    let n := Numeral.valueOf digits
    if digits.isEmpty then some (none, s)
    else if Placeholder.sizeLimit < n then none
    else some (some (.given n), s.drop digits.length)

/-- A precision behind a point; a point alone asks for none at all. -/
def takePrecision : List Char → Option (Option PlaceSize × List Char)
  | '.' :: rest => (takeSize rest).map fun (size, rest) => (some (size.getD (.given 0)), rest)
  | s => some (none, s)

/-- The placeholder that follows a sign, and the rest; none if the template ends within it. -/
def takePlace (s : List Char) : Option (Placeholder × List Char) := do
  let (name, s) ← match s with
    | '(' :: rest => (takeName 0 rest).map fun (name, rest) => (some (String.ofList name), rest)
    | s => some (none, s)
  let isFlag (c : Char) : Bool := "-+ #0".toList.contains c
  let flags := s.takeWhile isFlag
  let (width, s) ← takeSize (s.dropWhile isFlag)
  let (precision, s) ← takePrecision s
  let s := match s with
    | c :: rest => if c = 'h' || c = 'l' || c = 'L' then rest else s
    | [] => []
  match s with
  | letter :: rest => return (⟨name, flags, width, precision, letter⟩, rest)
  | [] => none

/-- The pieces of a template; none if it ends within a placeholder. The template has at most `fuel`
characters. -/
def pieces : (fuel : Nat) → List Char → Option (List Piece)
  | _, [] => some []
  | 0, _ :: _ => none
  | fuel + 1, '%' :: '%' :: rest => (pieces fuel rest).map (.character '%' :: ·)
  | fuel + 1, '%' :: rest => do
    let (place, rest) ← takePlace rest
    return .place place :: (← pieces fuel rest)
  | fuel + 1, c :: rest => (pieces fuel rest).map (.character c :: ·)

/-- The arguments that are not used yet: a row of them, or a single one that can be used once. -/
inductive Supply where
  | row (left : List Json)
  | single (value : Json)
  | used
  deriving Repr

def Supply.next : Supply → Option (Json × Supply)
  | row (value :: left) => some (value, row left)
  | single value => some (value, used)
  | row [] | used => none

/-- A number of a placeholder. -/
def sizeFrom (size : Option PlaceSize) (supply : Supply) : Option (Option Int × Supply) :=
  match size with
  | none => some (none, supply)
  | some (.given n) => some (some n, supply)
  | some .argument => do
    let (value, supply) ← supply.next
    let n ← value.wholeNumber.toOption
    if Placeholder.sizeLimit < n.natAbs then none else return (some n, supply)

/-- The text for a placeholder, and the arguments that are left. A width below zero moves the text to the
left; a precision below zero counts as none at all. -/
def written (names : Option Fields) (p : Placeholder) (supply : Supply) : Option (List Char × Supply) := do
  let supply ← match p.name with
    | some name => (names.bind fun fields => Fields.get? fields name).map Supply.single
    | none => some supply
  let (width, supply) ← sizeFrom p.width supply
  let (precision, supply) ← sizeFrom p.precision supply
  let (value, supply) ← supply.next
  let text ← p.placed (precision.map Int.toNat) value
  let width := width.getD 0
  return (p.filledUp (p.has '-' || decide (width < 0)) width.natAbs text, supply)

/-- The pieces with their places filled from left to right, and the arguments that were not used. -/
def filled (names : Option Fields) : List Piece → Supply → Option (List Char × Supply)
  | [], supply => some ([], supply)
  | .character c :: rest, supply => (filled names rest supply).map fun (text, supply) => (c :: text, supply)
  | .place p :: rest, supply => do
    let (text, supply) ← written names p supply
    let (more, supply) ← filled names rest supply
    return (text ++ more, supply)

/-- A single argument with names in it. -/
def namesOf : List Json → Option Fields
  | [.obj fields] => if fields.isEmpty then none else some fields
  | _ => none

/-- The template with its arguments; none if they do not fit. A single argument with names in it need not be
used. -/
def fill (template : String) (args : List Json) : Option String :=
  let s := template.toList
  if args.isEmpty then some template
  else do
    let pieces ← pieces s.length s
    match namesOf args with
    | some fields =>
      let (text, _) ← filled (some fields) pieces (.single (.obj fields))
      return String.ofList text
    | none =>
      match ← filled none pieces (.row args) with
      | (text, .row []) => return String.ofList text
      | _ => none

end Template

end CanaryGate
