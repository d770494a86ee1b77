import CanaryGate.Proofs.Rollback.Persistence
import CanaryGate.Proofs.Run.RecordNames
import CanaryGate.Proofs.Store.Durability

/-! # Loading undoes saving

A state that was saved is loaded as it was, whatever it is and whatever stood in its place before: from memory, and
from a store that was opened again on the file. The whole store comes back from the file, so that a process that
goes on and one that starts over see the same. Saving what was loaded changes nothing, not even in the file.
-/

namespace CanaryGate

open Attempt

variable {σ : Type}

/-- A value that is put where it stands changes nothing. -/
theorem Fields.set_of_get? {fields : Fields} {name : String} {value : Json} (h : get? fields name = some value) :
    set fields name value = fields := by
  induction fields with
  | nil => simp [get?] at h
  | cons entry rest ih =>
      obtain ⟨key, old⟩ := entry
      rw [get?_cons] at h
      unfold set
      split at h
      · rename_i same
        rw [if_pos same.symm, Option.some.inj h]
      · rename_i apart
        rw [if_neg (Ne.symm apart), ih h]

namespace Namespaces

variable {all : Namespaces} {space key : String} {value : Json}

theorem set_of_find? (h : all.find? space key = .ok (some value)) : set all space key value = (.ok (), all) := by
  obtain ⟨entries, here, found⟩ := entries_of_find h
  have shown : Fields.get? all space = some (.obj entries) := by
    unfold entriesOf at here
    cases there : Fields.get? all space with
    | none =>
        rw [there] at here
        cases here
        simp [Fields.get?] at found
    | some other =>
        rw [there] at here
        exact congrArg some here
  rw [set_of_entries here, ensure_of_some shown, Fields.set_of_get? found, Fields.set_of_get? shown]

theorem find?_set {entries : Fields} (here : all.entriesOf space = .obj entries) (key : String) (value : Json) :
    (set all space key value).2.find? space key = .ok (some value) := by
  have there : (set all space key value).2.entriesOf space = .obj (Fields.set entries key value) := by
    rw [set_of_entries here, entriesOf_set]
  simp [find?, there, Fields.get?_set]

end Namespaces

namespace Disk

/-- A state that was written takes the place of itself. -/
theorem write_again {d d' : Disk} {state : Namespaces} (written : d.write state = (.ok (), d')) :
    d'.write state = (.ok (), d') := by
  have ok : (d.write state).1 = .ok () := congrArg Prod.fst written
  obtain ⟨text, encoded, here⟩ := entry_write_ok ok
  rw [written] at here
  obtain ⟨path, entry, temporaries⟩ := d'
  obtain rfl : entry = .document text := here
  unfold write
  rw [encoded]
  rfl

end Disk

namespace Store

theorem commit_of_file {s : Store} {disk : Disk} (outermost : s.depth = 0) (file : s.disk = some disk) :
    s.commit = ((disk.write s.namespaces).1, { s with disk := some (disk.write s.namespaces).2 }) := by
  unfold commit
  rw [if_pos outermost, file]

theorem commit_of_unfiled {s : Store} (unfiled : s.disk = none) : s.commit = (.ok (), s) := by
  unfold commit
  rw [unfiled]
  exact ite_self _

/-- A store that was committed is not changed by committing it again. -/
theorem commit_again {s s' : Store} (committed : s.commit = (.ok (), s')) : s'.commit = (.ok (), s') := by
  by_cases outermost : s.depth = 0
  · cases file : s.disk with
    | none =>
        rw [commit_of_unfiled file] at committed
        obtain ⟨-, rfl⟩ := Prod.mk.inj committed
        exact commit_of_unfiled file
    | some disk =>
        rw [commit_of_file outermost file] at committed
        rcases wrote : disk.write s.namespaces with ⟨r, disk'⟩
        rw [wrote] at committed
        obtain ⟨rfl, rfl⟩ := Prod.mk.inj committed
        show commit { s with disk := some disk' } = (.ok (), { s with disk := some disk' })
        rw [commit_of_file (s := { s with disk := some disk' }) outermost rfl]
        rw [Disk.write_again wrote]
  · rw [commit_of_open outermost] at committed
    obtain ⟨-, rfl⟩ := Prod.mk.inj committed
    exact commit_of_open outermost

/-- The store that was committed is the one that is opened on the file. -/
theorem openFile_of_committed {s s' : Store} {disk : Disk} (outermost : s.Outermost) (committed : s.commit = (.ok (), s'))
    (file : s'.disk = some disk) : openFile disk = .ok s' := by
  have left := namespaces_commit s
  have closed := (depth_commit s).trans outermost.closed
  have place := (surroundings_commit s).1
  rw [committed] at left closed place
  rw [file] at place
  obtain ⟨before, there, -⟩ := Option.map_eq_some_iff.mp place.symm
  obtain ⟨after, here, read⟩ := read_of_commit there outermost.closed outermost.distinct (congrArg Prod.fst committed)
  rw [committed, file] at here
  obtain rfl := Option.some.inj here
  obtain ⟨namespaces, depth, disk'⟩ := s'
  obtain rfl : namespaces = s.namespaces := left
  obtain rfl : depth = 0 := closed
  obtain rfl : disk' = some disk := file
  exact openFile_of_read read

theorem entries_of_set {s s' : Store} {space key : String} {value : Json}
    (stored : (set space key value).outcome s = (.ok (), s')) : ∃ entries, s.namespaces.entriesOf space = .obj entries := by
  by_contra none
  push Not at none
  unfold set at stored
  rw [outcome_onNamespaces, Namespaces.set_of_not_entries none] at stored
  cases congrArg Prod.fst stored

end Store

namespace Rollback

/-- The namespace of the state is one, and the file can be written once the state is in it. -/
def Saveable (s : Store) : Prop :=
  (∃ entries, s.namespaces.items space = .ok entries) ∧ (s.depth = 0 → Replaceable s)

/-- The store with a state in its place, before it is written. -/
def holdingState (s : Store) (state : RollbackState) : Store :=
  s.holding (s.namespaces.set space key (.obj state.toFields)).2

theorem save_eq_ok {w w' : World σ} {state : RollbackState} : (save state).outcome w = (.ok (), w') ↔
    ∃ entries s', w.store.namespaces.entriesOf space = .obj entries
      ∧ (holdingState w.store state).commit = (.ok (), s')
      ∧ w' = { w with store := s', metrics := { w.metrics with rollbackActive := state.active } } := by
  constructor
  · intro saved
    obtain ⟨⟨⟩, v, stored, shown⟩ := bind_eq_ok.mp saved
    have put : (Store.set space key (.obj state.toFields)).outcome w.store = (.ok (), v.store)
        ∧ v = { w with store := v.store } := by
      unfold World.onStore at stored
      rw [outcome_on] at stored
      obtain ⟨ok, rfl⟩ := Prod.mk.inj stored
      exact ⟨Prod.ext ok rfl, rfl⟩
    obtain ⟨entries, here⟩ := Store.entries_of_set put.1
    rw [Store.outcome_set here] at put
    rw [put.2] at shown
    exact ⟨entries, v.store, here, put.1, (congrArg Prod.snd shown).symm⟩
  · rintro ⟨entries, s', here, committed, rfl⟩
    exact save_of_commit here committed

theorem entries_of_saveable {s : Store} (h : Saveable s) : ∃ entries, s.namespaces.entriesOf space = .obj entries := by
  obtain ⟨⟨entries, found⟩, -⟩ := h
  exact ⟨entries, Namespaces.entries_of_items found⟩

/-- Nothing else keeps a state from being saved: it is of no account which state it is. -/
theorem finishes_save_iff {w : World σ} {state : RollbackState} : Finishes (save state) w ↔ Saveable w.store := by
  constructor
  · intro h
    obtain ⟨⟨⟩, w', ran⟩ := h.eq
    obtain ⟨entries, s', here, committed, -⟩ := save_eq_ok.mp ran
    refine ⟨⟨entries, Namespaces.items_of_entries here⟩, fun outermost => ?_⟩
    have can : Store.Committable (holdingState w.store state) :=
      Store.succeeds_commit_iff.mp ⟨(), congrArg Prod.fst committed⟩ outermost
    exact Store.committable_set here key Json.within_null can
  · intro h
    obtain ⟨entries, here⟩ := entries_of_saveable h
    have goes : Succeeds (holdingState w.store state).commit.1 :=
      Store.succeeds_commit_iff.mpr fun outermost => (h.2 outermost).committable here state
    obtain ⟨⟨⟩, committed⟩ := goes
    exact finishes_of_eq (save_eq_ok.mpr ⟨entries, _, here, Prod.ext committed rfl, rfl⟩)

/-- The state is in its place, and nothing is left to do. -/
structure Settled (state : RollbackState) (w : World σ) : Prop where
  loads : load.outcome w = (.ok state, w)
  gauge : w.metrics.rollbackActive = state.active
  stored : w.store.namespaces.find? space key = .ok (some (.obj state.toFields))
  /-- Saving what is loaded changes nothing: neither the store nor its file nor the gauge. -/
  again : (load >>= save).outcome w = (.ok (), w)

theorem settled_of_stored {w : World σ} {state : RollbackState}
    (stored : w.store.namespaces.find? space key = .ok (some (.obj state.toFields)))
    (gauge : w.metrics.rollbackActive = state.active) (committed : w.store.commit = (.ok (), w.store)) : Settled state w := by
  have loads : load.outcome w = (.ok state, w) := by
    rw [outcome_load, latch_of_stored stored, decode_toFields]
  refine ⟨loads, gauge, stored, ?_⟩
  obtain ⟨entries, here, -⟩ := Namespaces.entries_of_find stored
  have unchanged : holdingState w.store state = w.store := by
    unfold holdingState Store.holding
    rw [Namespaces.set_of_find? stored]
  rw [outcome_bind_of_ok loads]
  refine save_eq_ok.mpr ⟨entries, w.store, here, unchanged.symm ▸ committed, ?_⟩
  rw [← gauge]

theorem settled_of_saved {w w' : World σ} {state : RollbackState} (saved : (save state).outcome w = (.ok (), w')) :
    Settled state w' := by
  obtain ⟨entries, s', here, committed, rfl⟩ := save_eq_ok.mp saved
  have left : s'.namespaces = (w.store.namespaces.set space key (.obj state.toFields)).2 := by
    have kept := Store.namespaces_commit (holdingState w.store state)
    rwa [committed] at kept
  refine settled_of_stored ?_ rfl (Store.commit_again committed)
  rw [left]
  exact Namespaces.find?_set here key _

/-- A state can be saved wherever its namespace is one and the file can be written. Then it is loaded as it was, from
memory as from the file, and saving it again changes nothing. -/
theorem load_undoes_save (w : World σ) (state : RollbackState) :
    (Finishes (save state) w ↔ Saveable w.store)
      ∧ ∀ w', (save state).outcome w = (.ok (), w') → Settled state w'
        ∧ ∀ before, w.store.disk = some before → w.store.Outermost →
          ∃ after reopened, w'.store.disk = some after ∧ after.path = before.path
            ∧ Store.openFile after = .ok reopened ∧ Settled state { w' with store := reopened } := by
  refine ⟨finishes_save_iff, fun w' saved => ?_⟩
  have settled := settled_of_saved saved
  refine ⟨settled, fun before file outermost => ?_⟩
  obtain ⟨entries, s', -, committed, rfl⟩ := save_eq_ok.mp saved
  have place := (Store.surroundings_commit (holdingState w.store state)).1
  rw [committed, show (holdingState w.store state).disk = some before from file] at place
  obtain ⟨after, here, path⟩ := Option.map_eq_some_iff.mp place
  have still : (holdingState w.store state).Outermost :=
    ⟨outermost.closed, Namespaces.distinct_namespaces_set outermost.distinct space key state.distinct_toFields⟩
  exact ⟨after, s', here, path, Store.openFile_of_committed still committed here, settled⟩

/-- An open latch that knows a reason and has twice the same sample, which no history leads to. -/
def unreached : RollbackState :=
  let sample : RunSample := ⟨"mrun_000001", "é\n😀", true, false, true, false⟩
  ⟨false, some "", none, some "mrun_000007", [sample, sample]⟩

theorem saveable_fresh : Saveable Store.fresh := by
  refine ⟨⟨[], rfl⟩, fun _ disk there => ?_⟩
  cases there
  refine ⟨⟨nofun, nofun⟩, ?_⟩
  exact Namespaces.writable_set (Json.within_obj.mpr (by simp)) (rfl : Namespaces.entriesOf [] space = .obj []) key
    Json.within_null

theorem load_undoes_save_of_unreached :
    let w : World Unit := ⟨.fresh, .zero, [], ()⟩
    ∃ w' after reopened, (save unreached).outcome w = (.ok (), w') ∧ load.outcome w' = (.ok unreached, w')
      ∧ w'.store.disk = some after ∧ after.path = "state.json" ∧ Store.openFile after = .ok reopened
      ∧ Settled unreached { w' with store := reopened } := by
  intro w
  obtain ⟨finishes, settles⟩ := load_undoes_save w unreached
  obtain ⟨⟨⟩, w', saved⟩ := (finishes.mpr saveable_fresh).eq
  obtain ⟨settled, reopens⟩ := settles w' saved
  obtain ⟨after, reopened, here, path, opened, again⟩ := reopens _ rfl ⟨rfl, Json.distinct_empty⟩
  exact ⟨w', after, reopened, saved, settled.loads, here, path, opened, again⟩

end Rollback

end CanaryGate
