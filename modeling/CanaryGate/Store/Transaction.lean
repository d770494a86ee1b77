import CanaryGate.Attempt
import CanaryGate.Json.Bytes
import CanaryGate.Store.Namespaces

/-!
# Stores and transactions

A store keeps namespaces in memory and, if it has a file, writes them all to the file whenever an
outermost transaction ends well. The new text goes to a temporary file that then takes the place of
the old one, so the file never holds half a state. A transaction that is broken off writes nothing,
and leaves the memory as it is.
-/

namespace CanaryGate

/-- What stands at the path of a state file. -/
inductive FileEntry where
  | absent
  | document (text : String)
  /-- A directory, which a file cannot replace. -/
  | directory
  /-- The way there leads through what is missing or no directory. -/
  | unreachable
  deriving DecidableEq, Repr

/-- The place of a state file and the temporary files beside it. -/
structure Disk where
  path : String
  entry : FileEntry
  temporaries : List String
  deriving DecidableEq, Repr

/-- Namespaces with the number of transactions that are open, and the file, if there is one. -/
structure Store where
  namespaces : Namespaces
  depth : Nat
  disk : Option Disk

namespace Disk

def encode (state : Namespaces) : Except Fault String :=
  let value := Json.obj state
  match value.exceeded? Json.depthLimit with
  | none => .ok (value.render .stored)
  | some .digits => .error .integerTooLong
  | some .depth => .error (.document (.tooDeep none))

/-- A temporary file is made. -/
def addTemporary (d : Disk) (text : String) : Disk := { d with temporaries := text :: d.temporaries }

/-- The newest temporary file is removed. -/
def dropTemporary (d : Disk) : Disk := { d with temporaries := d.temporaries.drop 1 }

/-- The newest temporary file takes the place of the state file. -/
def replace (d : Disk) : Except Fault Unit × Disk :=
  match d.entry, d.temporaries with
  | .directory, _ => (.error .pathIsDirectory, d)
  | .unreachable, _ => (.error .pathUnreachable, d)
  | _, text :: rest => (.ok (), { d with entry := .document text, temporaries := rest })
  | _, [] => (.ok (), d)

/-- Writes a state by way of a temporary file, which is gone afterwards in any case. -/
def write (d : Disk) (state : Namespaces) : Except Fault Unit × Disk :=
  match encode state with
  | .error fault => (.error fault, (d.addTemporary "").dropTemporary)
  | .ok text =>
    match (d.addTemporary text).replace with
    | (.ok (), d) => (.ok (), d)
    | (.error fault, d) => (.error fault, d.dropTemporary)

/-- Line ends of any kind become line feeds, as text files are read. -/
def normalizeLines : List Char → List Char
  | [] => []
  | '\r' :: '\n' :: rest => '\n' :: normalizeLines rest
  | '\r' :: rest => '\n' :: normalizeLines rest
  | c :: rest => c :: normalizeLines rest

/-- The state that the file holds; none if there is no file. -/
def read (d : Disk) : Except Fault (Option Namespaces) :=
  match d.entry with
  | .absent | .unreachable => .ok none
  | .directory => .error .pathIsDirectory
  | .document text =>
    match Json.read (String.ofList (normalizeLines text.toList)) with
    | .ok (.obj fields) => .ok (some fields)
    | .ok _ => .error (.stateNotObject d.path)
    | .error error => .error (.document error)

/-- Writing leaves no temporary file of its own behind. -/
theorem temporaries_write (d : Disk) (state : Namespaces) :
    (d.write state).2.temporaries = d.temporaries := by
  unfold write
  cases encode state with
  | error fault => rfl
  | ok text => cases h : d.entry <;> simp [addTemporary, dropTemporary, replace, h]

/-- A write that fails leaves what stands at the path. -/
theorem entry_write_error {d : Disk} {state : Namespaces} {fault : Fault}
    (h : (d.write state).1 = .error fault) : (d.write state).2.entry = d.entry := by
  unfold write at h ⊢
  cases he : encode state with
  | error fault => rfl
  | ok text =>
    cases hd : d.entry with
    | directory => simp [addTemporary, dropTemporary, replace, hd]
    | unreachable => simp [addTemporary, dropTemporary, replace, hd]
    | absent => simp [he, addTemporary, replace, hd] at h
    | document old => simp [he, addTemporary, replace, hd] at h

/-- A write that goes well puts the text of the state at the path. -/
theorem entry_write_ok {d : Disk} {state : Namespaces} (h : (d.write state).1 = .ok ()) :
    ∃ text, encode state = .ok text ∧ (d.write state).2.entry = .document text := by
  unfold write at h ⊢
  cases he : encode state with
  | error fault => simp [he] at h
  | ok text =>
    refine ⟨text, rfl, ?_⟩
    cases hd : d.entry with
    | directory => simp [he, addTemporary, replace, hd] at h
    | unreachable => simp [he, addTemporary, replace, hd] at h
    | absent => simp [addTemporary, replace, hd]
    | document old => simp [addTemporary, replace, hd]

end Disk

namespace Store

/-- A store without a file. -/
def inMemory (namespaces : Namespaces) : Store := ⟨namespaces, 0, none⟩

def openFile (disk : Disk) : Except Fault Store := do
  let state ← disk.read
  return ⟨state.getD [], 0, some disk⟩

/-- One more transaction is open. -/
def enter (s : Store) : Store := { s with depth := s.depth + 1 }

/-- One transaction fewer is open. -/
def leave (s : Store) : Store := { s with depth := s.depth - 1 }

/-- Writes the state to the file, if there is one and no transaction is open. -/
def commit (s : Store) : Except Fault Unit × Store :=
  if s.depth = 0 then
    match s.disk with
    | none => (.ok (), s)
    | some disk =>
      let (r, disk) := disk.write s.namespaces
      (r, { s with disk := some disk })
  else (.ok (), s)

/-- Runs a body as one transaction on the store that is a part of the state. -/
def transaction (p : Part σ Store) (body : Attempt σ α) : Attempt σ α := Attempt.ofOutcome fun s =>
  let (r, s) := body.outcome (p.put s (p.view s).enter)
  let s := p.put s (p.view s).leave
  match r with
  | .error fault => (.error fault, s)
  | .ok a =>
    let (c, store) := (p.view s).commit
    (c.map fun _ => a, p.put s store)

def onNamespaces (f : Namespaces → Except Fault α × Namespaces) : Attempt Store α :=
  Attempt.ofOutcome fun s =>
    let (r, namespaces) := f s.namespaces
    (r, { s with namespaces })

/-- The value under a key. -/
def find? (space key : String) : Attempt Store (Option Json) := Attempt.ofOutcome fun s =>
  (s.namespaces.find? space key, s)

def get (space key : String) (default : Json) : Attempt Store Json := do
  return (← find? space key).getD default

/-- The entries of a namespace in order. -/
def items (space : String) : Attempt Store Fields := Attempt.ofOutcome fun s => (s.namespaces.items space, s)

def set (space key : String) (value : Json) : Attempt Store Unit :=
  transaction .self (onNamespaces fun all => all.set space key value)

def delete (space key : String) : Attempt Store Unit :=
  transaction .self (onNamespaces fun all => all.delete space key)

/-- Removes the oldest entries beyond a limit, and gives back their keys. -/
def prune (space : String) (limit : Int) : Attempt Store (List Json) :=
  transaction .self (onNamespaces fun all => all.prune space limit)

/-- Puts a value under a key, then prunes, as one transaction. -/
def putAndPrune (space key : String) (value : Json) (limit : Int) : Attempt Store (List Json) :=
  transaction .self do
    set space key value
    prune space limit

/-- Removes the oldest entries beyond a limit of any kind, and gives back their keys. -/
def pruneTo (space : String) (limit : Json) : Attempt Store (List Json) :=
  transaction .self (onNamespaces fun all => all.pruneTo space limit)

/-- Puts a value under a key, then prunes to a limit of any kind, as one transaction. -/
def putAndPruneTo (space key : String) (value limit : Json) : Attempt Store (List Json) :=
  transaction .self do
    set space key value
    pruneTo space limit

/-- Asks for a key that cannot be one: the namespace is made, and nothing else. -/
def refuseKey (space : String) : Attempt Store α :=
  transaction .self (onNamespaces fun all => (.error .unsuitable, all.ensure space))

def nextSequence (name : String) : Attempt Store Int :=
  transaction .self (onNamespaces fun all => all.advance name)

@[simp] theorem depth_enter (s : Store) : s.enter.depth = s.depth + 1 := rfl

@[simp] theorem leave_enter (s : Store) : s.enter.leave = s := rfl

/-- As long as a transaction is open nothing is written. -/
theorem commit_of_open {s : Store} (h : s.depth ≠ 0) : s.commit = (.ok (), s) := by
  simp [commit, h]

/-- Writing the file changes neither the namespaces nor the number of open transactions. -/
theorem commit_keeps (s : Store) :
    s.commit.2.namespaces = s.namespaces ∧ s.commit.2.depth = s.depth := by
  unfold commit
  split
  · split <;> exact ⟨rfl, rfl⟩
  · exact ⟨rfl, rfl⟩

end Store

end CanaryGate
