import CanaryGate.Proofs.Attempt.Success
import CanaryGate.Proofs.Json.Limits
import CanaryGate.Proofs.Store.Frame

/-! # Stores that can be committed

A store in memory is always committed. One with a file is committed when its file can take the place it has
and the namespaces are within the limits of writing. Where every namespace is an object nothing else keeps a
record from being stored, so an outermost operation succeeds exactly when what it leaves can be committed.
-/

namespace CanaryGate

open Attempt

variable {σ α : Type}

namespace Namespaces

variable {all : Namespaces} {space : String}

/-- Every namespace is an object. -/
def Regular (all : Namespaces) : Prop := ∀ space, ∃ entries, entriesOf all space = .obj entries

theorem regular_nil : Regular [] := fun _ => ⟨[], rfl⟩

theorem regular_put (regular : Regular all) (space : String) (entries : Fields) :
    Regular (Fields.set all space (.obj entries)) := by
  intro other
  by_cases h : other = space
  · subst h
    exact ⟨entries, entriesOf_set _⟩
  · obtain ⟨kept, here⟩ := regular other
    refine ⟨kept, ?_⟩
    unfold entriesOf at here ⊢
    rw [Fields.get?_set, if_neg h]
    exact here

theorem regular_ensure (regular : Regular all) (space : String) : Regular (ensure all space) := by
  unfold ensure
  split
  · exact regular
  · exact regular_put regular space []

theorem regular_set (regular : Regular all) (space key : String) (value : Json) : Regular (set all space key value).2 := by
  obtain ⟨entries, here⟩ := regular space
  rw [set_of_entries here]
  exact regular_put (regular_ensure regular space) space _

/-- The namespaces are within the limits of writing. -/
def Writable (all : Namespaces) : Prop := (Json.obj all).Within Json.depthLimit

theorem writable_iff : Writable all ↔ ∀ field ∈ all, field.2.Within (Json.depthLimit - 1) := Json.within_obj

theorem writable_put (kept : Writable all) {value : Json} (short : value.Within (Json.depthLimit - 1))
    (space : String) : Writable (Fields.set all space value) :=
  writable_iff.mpr (Fields.forall_mem_set (writable_iff.mp kept) short space)

theorem within_of_entriesOf (kept : Writable all) {entries : Fields} (here : entriesOf all space = .obj entries) :
    ∀ field ∈ entries, field.2.Within (Json.depthLimit - 2) := by
  unfold entriesOf at here
  cases found : Fields.get? all space with
  | none =>
      rw [found] at here
      cases here
      simp
  | some shown =>
      rw [found] at here
      obtain rfl : shown = .obj entries := here
      exact Json.within_obj.mp (writable_iff.mp kept _ (Fields.mem_of_get? found))

theorem writable_ensure (kept : Writable all) (space : String) : Writable (ensure all space) := by
  unfold ensure
  split
  · exact kept
  · exact writable_put kept (Json.within_obj.mpr (by simp)) space

theorem writable_set (kept : Writable all) {entries : Fields} (here : entriesOf all space = .obj entries)
    (key : String) {value : Json} (short : value.Within (Json.depthLimit - 2)) :
    Writable (set all space key value).2 := by
  have grown : (Json.obj (Fields.set entries key value)).Within (Json.depthLimit - 1) :=
    Json.within_obj.mpr (Fields.forall_mem_set (within_of_entriesOf kept here) short key)
  rw [set_of_entries here]
  exact writable_put (writable_ensure kept space) grown space

theorem prune_of_entries {entries : Fields} (here : entriesOf all space = .obj entries) (limit : Int) :
    prune all space limit = (.ok ((entries.take (overflow entries.length limit)).map fun e => .str e.1),
      if overflow entries.length limit = 0 then ensure all space
      else Fields.set (ensure all space) space (.obj (entries.drop (overflow entries.length limit)))) := by
  have ensured : entriesOf (ensure all space) space = .obj entries := entriesOf_ensure.trans here
  simp only [prune, ensured]

theorem regular_prune (regular : Regular all) (space : String) (limit : Int) : Regular (prune all space limit).2 := by
  obtain ⟨entries, here⟩ := regular space
  rw [prune_of_entries here]
  dsimp only
  split
  · exact regular_ensure regular space
  · exact regular_put (regular_ensure regular space) space _

theorem regular_advance (regular : Regular all) (name : String) : Regular (advance all name).2 := by
  have ensured := regular_ensure regular sequences
  unfold advance
  dsimp only
  split
  · split
    · exact regular_put ensured sequences _
    · exact ensured
  · exact ensured

theorem entriesOf_prune {entries : Fields} (here : entriesOf all space = .obj entries) (limit : Int) :
    entriesOf (prune all space limit).2 space = .obj (entries.drop (overflow entries.length limit)) := by
  rw [prune_of_entries here]
  dsimp only
  split
  · rename_i none
    rw [entriesOf_ensure, here, none, List.drop_zero]
  · exact entriesOf_set _

/-- The namespaces once a value was put in one of them, and the oldest entries were removed from it. -/
def kept (all : Namespaces) (space key : String) (value : Json) (limit : Int) : Namespaces :=
  (prune (set all space key value).2 space limit).2

theorem entriesOf_kept {entries : Fields} (here : entriesOf all space = .obj entries) (key : String) (value : Json)
    (limit : Int) : entriesOf (kept all space key value limit) space
      = .obj ((Fields.set entries key value).drop (overflow (Fields.set entries key value).length limit)) := by
  have grown : entriesOf (set all space key value).2 space = .obj (Fields.set entries key value) := by
    rw [set_of_entries here, entriesOf_set]
  exact entriesOf_prune grown limit

end Namespaces

namespace Disk

/-- A file can take the place at the path. -/
def Free (d : Disk) : Prop := d.entry ≠ .directory ∧ d.entry ≠ .unreachable

theorem succeeds_encode {state : Namespaces} : Succeeds (encode state) ↔ state.Writable := by
  unfold encode Namespaces.Writable Json.Within
  dsimp only
  cases (Json.obj state).exceeded? Json.depthLimit with
  | none => exact iff_of_true (succeeds_ok _) rfl
  | some limit =>
      cases limit with
      | digits => exact iff_of_false (not_succeeds_error _) nofun
      | depth => exact iff_of_false (not_succeeds_error _) nofun

theorem succeeds_write {d : Disk} {state : Namespaces} :
    Succeeds (d.write state).1 ↔ d.Free ∧ state.Writable := by
  rw [← succeeds_encode]
  unfold write Free
  cases encoded : encode state with
  | error fault => simp [not_succeeds_error]
  | ok text =>
      cases here : d.entry with
      | absent => simp [addTemporary, replace, here, succeeds_ok]
      | document old => simp [addTemporary, replace, here, succeeds_ok]
      | directory => simp [addTemporary, replace, here, not_succeeds_error]
      | unreachable => simp [addTemporary, replace, here, not_succeeds_error]

theorem free_write {d : Disk} {state : Namespaces} (h : Succeeds (d.write state).1) : (d.write state).2.Free := by
  obtain ⟨_, written⟩ := h
  obtain ⟨text, -, here⟩ := entry_write_ok written
  unfold Free
  rw [here]
  exact ⟨nofun, nofun⟩

end Disk

namespace Store

/-- The store has no file, or one that the namespaces can be written to. -/
def Committable (s : Store) : Prop := ∀ disk, s.disk = some disk → disk.Free ∧ s.namespaces.Writable

theorem succeeds_commit {s : Store} (outermost : s.depth = 0) : Succeeds s.commit.1 ↔ s.Committable := by
  unfold commit Committable
  rw [if_pos outermost]
  cases here : s.disk with
  | none => simp [succeeds_ok]
  | some disk =>
      simp only [Option.some.injEq, forall_eq']
      exact Disk.succeeds_write

/-- Inside of a transaction nothing is written, and so nothing can fail. -/
theorem succeeds_commit_iff {s : Store} : Succeeds s.commit.1 ↔ (s.depth = 0 → s.Committable) := by
  by_cases outermost : s.depth = 0
  · rw [succeeds_commit outermost]
    exact ⟨fun can _ => can, fun can => can outermost⟩
  · rw [commit_of_open outermost]
    exact iff_of_true (succeeds_ok ()) fun closed => absurd closed outermost

/-- A store that can be committed is committed, at any depth, and can be committed again. -/
theorem commit_of_committable {s : Store} (h : s.Committable) :
    s.commit.1 = .ok () ∧ s.commit.2.Committable := by
  unfold commit
  split
  · cases here : s.disk with
    | none => exact ⟨rfl, h⟩
    | some disk =>
        have written := Disk.succeeds_write.mpr (h disk here)
        refine ⟨written.choose_spec, fun other same => ?_⟩
        obtain rfl : (disk.write s.namespaces).2 = other := Option.some.inj same
        exact ⟨Disk.free_write written, (h disk here).2⟩
  · exact ⟨rfl, h⟩

/-- A value in the place of another one is no obstacle, if it is within the limits itself. -/
theorem committable_set {s : Store} {space : String} {entries : Fields} (here : s.namespaces.entriesOf space = .obj entries)
    (key : String) {old new : Json} (short : new.Within (Json.depthLimit - 2))
    (can : Committable { s with namespaces := (s.namespaces.set space key old).2 }) :
    Committable { s with namespaces := (s.namespaces.set space key new).2 } := by
  intro disk there
  obtain ⟨free, writable⟩ := can disk there
  have replaced : (s.namespaces.set space key old).2.entriesOf space = .obj (Fields.set entries key old) := by
    rw [Namespaces.set_of_entries here]
    exact Namespaces.entriesOf_set _
  have stored := Namespaces.writable_set writable replaced key short
  rw [Namespaces.set_twice here] at stored
  exact ⟨free, stored⟩

/-- In a store that can be committed a transaction ends as its body does. -/
theorem outcome_transaction {p : Part σ Store} (lawful : p.Lawful) {body : Attempt σ α} {s t : σ}
    {r : Except Fault α} (ran : body.outcome (p.put s (p.view s).enter) = (r, t)) (after : (p.view t).Committable) :
    ((transaction p body).outcome s).1 = r ∧ (p.view ((transaction p body).outcome s).2).Committable := by
  have shown : ∀ t store, p.view (p.put t store) = store := lawful
  have left : (p.view t).leave.Committable := after
  unfold transaction
  rw [outcome_ofOutcome, ran]
  cases r with
  | error fault => exact ⟨rfl, by simpa only [shown] using left⟩
  | ok a =>
      obtain ⟨committed, again⟩ := commit_of_committable left
      simp only [shown, committed]
      exact ⟨rfl, again⟩

/-- So many transactions are open, and every namespace is an object. -/
structure Orderly (depth : Nat) (s : Store) : Prop where
  opened : s.depth = depth
  regular : s.namespaces.Regular

theorem orderly_transaction {p : Part σ Store} (lawful : p.Lawful) {depth : Nat} {body : Attempt σ α}
    (inner : Keeps (fun s => (p.view s).Orderly (depth + 1)) body) :
    Keeps (fun s => (p.view s).Orderly depth) (transaction p body) := by
  intro s before
  have shown : ∀ t store, p.view (p.put t store) = store := lawful
  have entered : (p.view (p.put s (p.view s).enter)).Orderly (depth + 1) := by
    rw [shown]
    exact ⟨congrArg (· + 1) before.opened, before.regular⟩
  have inside := inner _ entered
  unfold transaction
  rw [outcome_ofOutcome]
  cases ran : body.outcome (p.put s (p.view s).enter) with
  | mk r t =>
      rw [ran] at inside
      have left : (p.view t).leave.Orderly depth := ⟨by simp [leave, inside.opened], inside.regular⟩
      cases r with
      | error fault => simpa only [shown] using left
      | ok a =>
          obtain ⟨namespaces, opened⟩ := commit_keeps (p.view t).leave
          simp only [shown]
          exact ⟨opened.trans left.opened, by rw [namespaces]; exact left.regular⟩

theorem orderly_onNamespaces {f : Namespaces → Except Fault α × Namespaces}
    (regular : ∀ all, all.Regular → (f all).2.Regular) (depth : Nat) : Keeps (Orderly depth) (onNamespaces f) :=
  fun s before => ⟨before.opened, regular s.namespaces before.regular⟩

theorem orderly_set (space key : String) (value : Json) (depth : Nat) : Keeps (Orderly depth) (set space key value) :=
  orderly_transaction Part.lawful_self (orderly_onNamespaces (fun _ h => Namespaces.regular_set h space key value) _)

theorem orderly_prune (space : String) (limit : Int) (depth : Nat) : Keeps (Orderly depth) (prune space limit) :=
  orderly_transaction Part.lawful_self (orderly_onNamespaces (fun _ h => Namespaces.regular_prune h space limit) _)

theorem orderly_putAndPrune (space key : String) (value : Json) (limit : Int) (depth : Nat) :
    Keeps (Orderly depth) (putAndPrune space key value limit) :=
  orderly_transaction Part.lawful_self ((orderly_set space key value _).bind fun _ => orderly_prune space limit _)

theorem orderly_nextSequence (name : String) (depth : Nat) : Keeps (Orderly depth) (nextSequence name) :=
  orderly_transaction Part.lawful_self (orderly_onNamespaces (fun _ h => Namespaces.regular_advance h name) _)

theorem outcome_onNamespaces (f : Namespaces → Except Fault α × Namespaces) (s : Store) :
    (transaction .self (onNamespaces f)).outcome s =
      match (f s.namespaces).1 with
      | .error fault => (.error fault, { s with namespaces := (f s.namespaces).2 })
      | .ok a => ((commit { s with namespaces := (f s.namespaces).2 }).1.map fun _ => a,
          (commit { s with namespaces := (f s.namespaces).2 }).2) := by
  have entered : s.enter.namespaces = s.namespaces := rfl
  unfold transaction onNamespaces
  simp only [outcome_ofOutcome, Part.self, id, entered]
  cases f s.namespaces with
  | mk r all =>
      cases r with
      | error fault => rfl
      | ok a => rfl

/-- Putting a value is one change and one commit. -/
theorem outcome_set {s : Store} {space : String} {entries : Fields} (here : s.namespaces.entriesOf space = .obj entries)
    (key : String) (value : Json) :
    (set space key value).outcome s = commit { s with namespaces := (s.namespaces.set space key value).2 } := by
  have answered : ∀ r : Except Fault Unit, (r.map fun _ => ()) = r := by
    intro r
    cases r with
    | error fault => rfl
    | ok a => rfl
  unfold set
  rw [outcome_onNamespaces, Namespaces.set_of_entries here]
  exact Prod.ext (answered _) rfl

/-- A value is put in a namespace if the store can be committed with it. -/
theorem set_finishes_of_after {s : Store} {space : String} {entries : Fields}
    (here : s.namespaces.entriesOf space = .obj entries) (key : String) (value : Json)
    (after : Committable { s with namespaces := (s.namespaces.set space key value).2 }) :
    ∃ s', (set space key value).outcome s = (.ok (), s') ∧ s'.Committable := by
  obtain ⟨committed, again⟩ := commit_of_committable after
  rw [outcome_set here]
  exact ⟨_, Prod.ext committed rfl, again⟩

theorem set_finishes {s : Store} (can : s.Committable) {space : String} {entries : Fields}
    (here : s.namespaces.entriesOf space = .obj entries) (key : String) {value : Json}
    (short : value.Within (Json.depthLimit - 2)) : ∃ s', (set space key value).outcome s = (.ok (), s') ∧ s'.Committable :=
  set_finishes_of_after here key value fun disk there =>
    ⟨(can disk there).1, Namespaces.writable_set (can disk there).2 here key short⟩

/-- The store once a value was put in one of its namespaces. -/
def keeping (s : Store) (space key : String) (value : Json) (limit : Int) : Store :=
  { s with namespaces := s.namespaces.kept space key value limit }

theorem outcome_set_of_open {s : Store} (opened : s.depth ≠ 0) {space : String} {entries : Fields}
    (here : s.namespaces.entriesOf space = .obj entries) (key : String) (value : Json) :
    (set space key value).outcome s = (.ok (), { s with namespaces := (s.namespaces.set space key value).2 }) := by
  rw [outcome_set here]
  exact commit_of_open opened

/-- Pruning a namespace is one change and one commit, and gives back the keys of the oldest entries. -/
theorem outcome_prune {s : Store} {space : String} {entries : Fields} (here : s.namespaces.entriesOf space = .obj entries)
    (limit : Int) : (prune space limit).outcome s
      = ((commit { s with namespaces := (s.namespaces.prune space limit).2 }).1.map fun _ =>
          (entries.take (Namespaces.overflow entries.length limit)).map fun e => .str e.1,
        (commit { s with namespaces := (s.namespaces.prune space limit).2 }).2) := by
  unfold prune
  rw [outcome_onNamespaces, Namespaces.prune_of_entries here]

/-- Putting and pruning does what pruning does to the store once the value was put. -/
theorem outcome_putAndPrune_eq {s : Store} {space : String} {entries : Fields}
    (here : s.namespaces.entriesOf space = .obj entries) (key : String) (value : Json) (limit : Int) :
    (putAndPrune space key value limit).outcome s
      = (prune space limit).outcome { s with namespaces := (s.namespaces.set space key value).2 } := by
  have grown : (s.namespaces.set space key value).2.entriesOf space = .obj (Fields.set entries key value) := by
    rw [Namespaces.set_of_entries here, Namespaces.entriesOf_set]
  -- inside of the transaction nothing is written; the one commit comes when it is left
  have put : (set space key value).outcome s.enter
      = (.ok (), { s.enter with namespaces := (s.namespaces.set space key value).2 }) :=
    outcome_set_of_open (s := s.enter) (by simp) here key value
  obtain ⟨keys, pruned⟩ : ∃ keys, ∀ t : Store, t.namespaces = (s.namespaces.set space key value).2 →
      (prune space limit).outcome t
        = ((commit { t with namespaces := (t.namespaces.prune space limit).2 }).1.map fun _ => keys,
          (commit { t with namespaces := (t.namespaces.prune space limit).2 }).2) :=
    ⟨_, fun t same => outcome_prune (same ▸ grown) limit⟩
  have inside : (prune space limit).outcome { s.enter with namespaces := (s.namespaces.set space key value).2 }
      = (.ok keys, { s.enter with namespaces := s.namespaces.kept space key value limit }) := by
    rw [pruned _ rfl, commit_of_open (by simp)]
    rfl
  have body : (set space key value >>= fun _ => prune space limit).outcome s.enter
      = (.ok keys, { s.enter with namespaces := s.namespaces.kept space key value limit }) := by
    rw [outcome_bind_of_ok put, inside]
  rw [pruned _ rfl]
  exact transaction_of_ok (p := .self) body rfl

/-- Where the namespaces are objects, putting and pruning is one change and one commit. -/
theorem outcome_putAndPrune {s : Store} (regular : s.namespaces.Regular) (space key : String) (value : Json)
    (limit : Int) : ∃ evicted, (putAndPrune space key value limit).outcome s
      = ((s.keeping space key value limit).commit.1.map fun _ => evicted,
          (s.keeping space key value limit).commit.2) := by
  obtain ⟨entries, here⟩ := regular space
  obtain ⟨rest, after⟩ := Namespaces.regular_set regular space key value space
  rw [outcome_putAndPrune_eq here, outcome_prune after]
  exact ⟨_, rfl⟩

/-- An outermost record is stored exactly when the namespaces that it leaves can be committed. -/
theorem finishes_putAndPrune {s : Store} (orderly : s.Orderly 0) {space key : String} {value : Json} {limit : Int} :
    Finishes (putAndPrune space key value limit) s ↔ (s.keeping space key value limit).Committable := by
  obtain ⟨evicted, ran⟩ := outcome_putAndPrune orderly.regular space key value limit
  have outermost : (s.keeping space key value limit).depth = 0 := orderly.opened
  rw [← succeeds_commit outermost]
  unfold Finishes
  rw [ran]
  exact succeeds_map

theorem committable_putAndPrune {s s' : Store} (orderly : s.Orderly 0) {space key : String} {value : Json} {limit : Int}
    {evicted : List Json} (ran : (putAndPrune space key value limit).outcome s = (.ok evicted, s')) :
    s'.Committable := by
  have can := (finishes_putAndPrune orderly).mp (finishes_of_eq ran)
  obtain ⟨_, whole⟩ := outcome_putAndPrune orderly.regular space key value limit
  rw [whole] at ran
  obtain ⟨-, rfl⟩ := Prod.mk.inj ran
  exact (commit_of_committable can).2

theorem committable_onNamespaces {f : Namespaces → Except Fault α × Namespaces} {s s' : Store} (outermost : s.depth = 0)
    {a : α} (ran : (transaction .self (onNamespaces f)).outcome s = (.ok a, s')) : s'.Committable := by
  rw [outcome_onNamespaces] at ran
  split at ran
  · cases congrArg Prod.fst ran
  · have left : Store.depth { s with namespaces := (f s.namespaces).2 } = 0 := outermost
    obtain ⟨given, rfl⟩ := Prod.mk.inj ran
    refine (commit_of_committable ((succeeds_commit left).mp ?_)).2
    cases committed : (commit { s with namespaces := (f s.namespaces).2 }).1 with
    | error fault =>
        rw [committed] at given
        contradiction
    | ok _ => exact succeeds_ok _

end Store

end CanaryGate
