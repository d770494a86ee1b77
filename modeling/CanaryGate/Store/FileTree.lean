import CanaryGate.Store.Transaction
import CanaryGate.Text.Pieces

/-!
# File trees

What stands at the places of a file system, and where a path leads in it. A path is walked name by name,
and every place on the way has to be a directory; but the directories that are made for a file are found
from the text of its path alone.
-/

namespace CanaryGate

/-- The names on the way to a place. The top of the file system has one empty name, the directory from which
paths start has none. -/
abbrev Place := List (List Char)

namespace Place

def start (path : List Char) : Place := if path.head? = some '/' then [[]] else []

/-- One place further up. Nothing is above the top. -/
def up (place : Place) : Place := if place = [[]] then place else place.dropLast

def stays (name : List Char) : Bool := name.isEmpty || name = ['.']

/-- One name further, whatever stands there. -/
def next (place : Place) (name : List Char) : Place :=
  if stays name then place else if name = ['.', '.'] then place.up else place ++ [name]

def ofText (path : List Char) : Place := (pieces '/' path).foldl next (start path)

/-- The places on the way to a place, and the place itself. -/
def way (place : Place) : List Place := (List.range place.length).map fun n => place.take (n + 1)

end Place

/-- Places at which something stands. -/
structure FileTree where
  entries : List (Place × FileEntry)

namespace FileTree

def entryAt (t : FileTree) (place : Place) : FileEntry :=
  if place = [] || place = [[]] then .directory else (t.entries.lookup place).getD .absent

def put (t : FileTree) (place : Place) (entry : FileEntry) : FileTree :=
  ⟨(place, entry) :: t.entries.filter fun e => e.1 ≠ place⟩

/-- The most bytes of a name. -/
def nameLimit : Nat := 255

def canName (name : List Char) : Bool := decide ((String.ofList name).utf8ByteSize ≤ nameLimit)

/-- One name further along a path, from a directory. -/
def step (t : FileTree) (place : Place) (name : List Char) : Option Place :=
  if t.entryAt place = .directory && canName name then some (place.next name) else none

def find? (t : FileTree) (path : List Char) : Option Place :=
  (pieces '/' path).foldlM t.step (Place.start path)

/-- Makes a directory if nothing is there. -/
def addDirectory (t : FileTree) (place : Place) : Option FileTree :=
  match t.entryAt place with
  | .directory => some t
  | .absent => if place.getLast?.all canName then some (t.put place .directory) else none
  | _ => none

/-- Makes all directories on the way to the file of a path. -/
def addDirectories (t : FileTree) (path : List Char) : Option FileTree :=
  (Place.ofText path).up.way.foldlM addDirectory t

/-- The tree in which a file can be written at a path, and the place of the file. -/
def prepare (t : FileTree) (path : List Char) : Option (FileTree × Place) := do
  let t ← t.addDirectories path
  return (t, ← t.find? path)

/-- What a store finds at a path. -/
def entryOf (t : FileTree) (path : List Char) : FileEntry :=
  match (t.find? path).map t.entryAt with
  | some (.document text) => .document text
  | some .directory => .directory
  | _ => if (t.prepare path).isSome then .absent else .unreachable

/-- What stands at the path of a store is kept. Even a path that leads nowhere leaves the directories that
were made for it. -/
def keep (t : FileTree) (path : List Char) (entry : FileEntry) : FileTree :=
  match entry with
  | .document text =>
    match t.prepare path with
    | some (t, place) => t.put place (.document text)
    | none => t
  | .unreachable => (t.addDirectories path).getD t
  | .absent | .directory => t

def ofDirectories (places : List Place) : FileTree := ⟨places.map fun place => (place, .directory)⟩

/-- What was put at a place stands there, unless it is a place where paths start. -/
theorem entryAt_put_self (t : FileTree) {place : Place} (entry : FileEntry) (h : place ≠ []) (top : place ≠ [[]]) :
    (t.put place entry).entryAt place = entry := by
  simp [entryAt, put, h, top]

/-- A path is walked from directories only. -/
theorem entryAt_of_step {t : FileTree} {place there : Place} {name : List Char} (h : t.step place name = some there) :
    t.entryAt place = .directory := by
  unfold step at h
  split at h
  · rename_i found
    simp only [Bool.and_eq_true, decide_eq_true_eq] at found
    exact found.1
  · cases h

end FileTree

end CanaryGate
