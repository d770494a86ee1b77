import CanaryGate.Proofs.Store.Commit
import CanaryGate.Rollback.Controller

/-! # The latch in its store

The whole of the rollback state is one entry of one namespace. `stateIn` says which state a shown
namespace stands for, and `written` what the namespace shows once a state was saved; every operation
of the controller is described by these two, also where it fails. A saved state is read back as it was.
-/

namespace CanaryGate

open Attempt

variable {σ α β : Type}

namespace Checked

@[simp] theorem map_accepted (f : α → β) (a : α) : f <$> accepted a = accepted (f a) := rfl

@[simp] theorem seq_accepted (f : α → β) (a : α) : accepted f <*> accepted a = accepted (f a) := rfl

@[simp] theorem under_accepted (step : Step) (a : α) : (accepted a).under step = accepted a := rfl

end Checked

namespace Reader

theorem items_map {r : Reader α} {write : α → Json} (h : ∀ a, r (write a) = .accepted a) (index : Nat)
    (xs : List α) : items r index (xs.map write) = .accepted xs := by
  induction xs generalizing index with
  | nil => rfl
  | cons x rest ih => simp [items, h, ih, Checked.map, Checked.both]

theorem optional_text (s : Option String) : optional text (Json.optional .str s) = .accepted s := by
  cases s with
  | none => rfl
  | some s => rfl

end Reader

theorem RunSample.read_toFields (s : RunSample) : RunSample.read (.obj s.toFields) = .accepted s := by
  simp [RunSample.read, Reader.record, RunSample.toFields, Fields.required, Fields.get?_cons, Reader.text,
    Reader.boolean]

theorem RollbackState.read_toFields (s : RollbackState) : RollbackState.read (.obj s.toFields) = .accepted s := by
  have samples := Reader.items_map RunSample.read_toFields 0 s.recentSamples
  simp [RollbackState.read, Reader.record, RollbackState.toFields, Fields.defaulted, Fields.get?_cons,
    Reader.boolean, Reader.optional_text, Reader.list, samples]

@[simp] theorem Json.within_optional_str (room : Nat) (text : Option String) :
    (Json.optional .str text).Within room := by
  cases text with
  | none => exact within_null
  | some text => exact within_str text

/-- A state holds no integers and is three levels deep, and so it can be written. -/
theorem RollbackState.within_toFields (s : RollbackState) (room : Nat) : (Json.obj s.toFields).Within (room + 3) := by
  have sample : ∀ sample : RunSample, (Json.obj sample.toFields).Within (room + 1) := by
    intro sample
    simp [RunSample.toFields]
  simp [RollbackState.toFields, sample]

namespace Rollback

theorem decode_toFields (s : RollbackState) : decode (.obj s.toFields) = .ok s := by
  have present : (Json.obj s.toFields).truthy = true := rfl
  simp [decode, present, RollbackState.read_toFields]

/-- The entries of a shown namespace; one that is missing is empty. -/
def entriesIn (shown : Option Json) : Json := shown.getD (.obj [])

/-- The state that a shown namespace stands for. -/
def stateIn (shown : Option Json) : Except Fault RollbackState :=
  match entriesIn shown with
  | .obj entries => decode (Fields.get entries key)
  | _ => .error .noFields

/-- What the namespace shows once a state was saved in it. A value that is no object takes nothing. -/
def written (shown : Option Json) (state : RollbackState) : Option Json :=
  match entriesIn shown with
  | .obj entries => some (.obj (Fields.set entries key (.obj state.toFields)))
  | _ => shown

theorem stateIn_none : stateIn none = .ok .clear := rfl

theorem stateIn_written_of_entries {shown : Option Json} {entries : Fields} (here : entriesIn shown = .obj entries)
    (new : RollbackState) : stateIn (written shown new) = .ok new := by
  have after : entriesIn (written shown new) = .obj (Fields.set entries key (.obj new.toFields)) := by
    simp only [written, here]
    rfl
  simp [stateIn, after, Fields.get, Fields.get?_set, decode_toFields]

theorem stateIn_written {shown : Option Json} {old : RollbackState} (h : stateIn shown = .ok old)
    (new : RollbackState) : stateIn (written shown new) = .ok new := by
  unfold stateIn at h
  split at h
  · rename_i entries here
    exact stateIn_written_of_entries here new
  · contradiction

/-- What the namespace shows once the state that it stands for was replaced. What stands for no state is left
as it is. -/
def changed (shown : Option Json) (f : RollbackState → RollbackState) : Option Json :=
  match stateIn shown with
  | .ok state => written shown (f state)
  | .error _ => shown

theorem stateIn_changed {shown : Option Json} {state : RollbackState} (h : stateIn shown = .ok state)
    (f : RollbackState → RollbackState) : stateIn (changed shown f) = .ok (f state) := by
  unfold changed
  rw [h]
  exact stateIn_written h (f state)

end Rollback

namespace World

def latch (w : World σ) : Except Fault RollbackState := Rollback.stateIn (w.shows Rollback.space)

theorem outcome_get (space key : String) (default : Json) (w : World σ) :
    (onStore (Store.get space key default) : Attempt (World σ) Json).outcome w
      = ((w.store.namespaces.find? space key).map (·.getD default), w) := by
  unfold onStore Store.get
  rw [outcome_on, outcome_bind]
  simp only [Store.find?, outcome_ofOutcome, storePart]
  cases w.store.namespaces.find? space key with
  | error fault => rfl
  | ok found => rfl

theorem latch_of_leaves {a : Attempt (World σ) α} (h : Leaves (shows Rollback.space) a) : Leaves latch a :=
  fun w => congrArg Rollback.stateIn (h w)

end World

namespace Rollback

theorem outcome_load (w : World σ) : (load : Attempt (World σ) RollbackState).outcome w = (w.latch, w) := by
  unfold load
  rw [outcome_bind, World.outcome_get]
  unfold World.latch stateIn entriesIn World.shows Store.shows Namespaces.find? Namespaces.entriesOf
  cases (Fields.get? w.store.namespaces space).getD (.obj []) with
  | obj entries => rfl
  | null | bool | int | float | str | arr => rfl

theorem latch_of_stored {w : World σ} {raw : Json} (stored : w.store.namespaces.find? space key = .ok (some raw)) :
    w.latch = decode raw := by
  obtain ⟨entries, here, found⟩ := Namespaces.entries_of_find stored
  have shown : (w.shows space).getD (.obj []) = .obj entries := here
  unfold World.latch stateIn entriesIn
  simp only [shown, Fields.get, found, Option.getD_some]

theorem outcome_snapshot (w : World σ) :
    (snapshot : Attempt (World σ) RollbackSnapshot).outcome w = (w.latch.map RollbackState.snapshot, w) := by
  unfold snapshot
  rw [outcome_bind, outcome_load]
  cases w.latch with
  | error fault => rfl
  | ok state => rfl

theorem get?_set_space (all : Namespaces) (state : RollbackState) :
    Fields.get? (all.set space key (.obj state.toFields)).2 space = written (Fields.get? all space) state := by
  unfold written entriesIn
  split
  · rename_i entries here
    rw [Namespaces.set_of_entries here, Fields.get?_set, if_pos rfl]
  · rename_i no
    rw [Namespaces.set_of_not_entries fun entries here => no entries here]

theorem shows_save (state : RollbackState) (w : World σ) :
    ((save state).outcome w).2.shows space = written (w.shows space) state := by
  have stored : ((World.onStore (Store.set space key (.obj state.toFields)) : Attempt (World σ) Unit).outcome w).2.shows
      space = written (w.shows space) state := by
    have left : ((Store.set space key (.obj state.toFields)).outcome w.store).2.namespaces
        = (w.store.namespaces.set space key (.obj state.toFields)).2 := Store.namespaces_onNamespaces _ w.store
    exact (congrArg (Fields.get? · space) left).trans (get?_set_space w.store.namespaces state)
  exact (Leaves.bind_after (fun _ => World.leaves_observe _) w).trans stored

/-- Loading a state and going on to save another one, as one transaction of the store. -/
theorem shows_transaction {rest : RollbackState → Attempt (World σ) α} {f : RollbackState → RollbackState}
    (saves : ∀ state w, ((rest state).outcome w).2.shows space = written (w.shows space) (f state)) (w : World σ) :
    ((Store.transaction World.storePart (load >>= rest)).outcome w).2.shows space = changed (w.shows space) f := by
  have inside := Store.namespaces_transaction World.lawful_storePart (load >>= rest) w
  refine (congrArg (Fields.get? · space) inside).trans ?_
  show (((load >>= rest).outcome (World.storePart.put w w.store.enter)).2.shows space) = _
  have same : (World.storePart.put w w.store.enter).shows space = w.shows space := rfl
  rw [outcome_bind, outcome_load, ← same]
  unfold changed World.latch
  cases stateIn ((World.storePart.put w w.store.enter).shows space) with
  | error fault => rfl
  | ok state => exact saves state _

theorem shows_reset (w : World σ) :
    ((reset : Attempt (World σ) RollbackState).outcome w).2.shows space
      = changed (w.shows space) fun _ => .clear := by
  have saved := shows_transaction (f := fun _ => .clear) (fun _ w => shows_save .clear w) w
  exact (Leaves.bind_after (fun _ => .pure _) w).trans saved

/-- The report of an update that found a state. -/
def report (state : RollbackState) (config : CanaryConfig) (runId recordedAt : String)
    (sample : Option RunSample) : RollbackUpdate :=
  let (after, summary, triggered) := step state config runId recordedAt sample
  ⟨state.snapshot, after.snapshot, summary.toFields, triggered⟩

/-- What an update does between loading the state and the end of its transaction. -/
def judge (config : CanaryConfig) (runId recordedAt : String) (sample : Option RunSample) (state : RollbackState) :
    Attempt (World σ) (RollbackSnapshot × RollbackState × WindowSummary × Bool) := do
  let (after, summary, triggered) := step state config runId recordedAt sample
  save after
  return (state.snapshot, after, summary, triggered)

/-- What an update does once its transaction has ended. -/
def announce : RollbackSnapshot × RollbackState × WindowSummary × Bool → Attempt (World σ) RollbackUpdate :=
  fun (before, after, summary, triggered) => do
    if triggered then
      World.observe fun m => { m with trips := m.trips.bump (after.reasonCode.getD "") }
    return ⟨before, after.snapshot, summary.toFields, triggered⟩

theorem update_eq (config : CanaryConfig) (runId recordedAt : String) (sample : Option RunSample) :
    (update config runId recordedAt sample : Attempt (World σ) RollbackUpdate)
      = Store.transaction World.storePart (load >>= judge config runId recordedAt sample) >>= announce := rfl

theorem judge_eq (config : CanaryConfig) (runId recordedAt : String) (sample : Option RunSample)
    (state : RollbackState) : (judge config runId recordedAt sample state : Attempt (World σ) _)
      = save (step state config runId recordedAt sample).1 >>= fun _ =>
        pure (state.snapshot, step state config runId recordedAt sample) := rfl

theorem outcome_announce (found : RollbackSnapshot × RollbackState × WindowSummary × Bool) (w : World σ) :
    ∃ w', (announce found).outcome w
      = (.ok ⟨found.1, found.2.1.snapshot, found.2.2.1.toFields, found.2.2.2⟩, w') ∧ w'.store = w.store := by
  obtain ⟨before, after, summary, triggered⟩ := found
  cases triggered with
  | false => exact ⟨w, rfl, rfl⟩
  | true => exact ⟨_, rfl, rfl⟩

theorem leaves_announce (found : RollbackSnapshot × RollbackState × WindowSummary × Bool) :
    Leaves World.store (announce found : Attempt (World σ) RollbackUpdate) := by
  intro w
  obtain ⟨w', ran, same⟩ := outcome_announce found w
  rw [ran]
  exact same

theorem shows_judge (config : CanaryConfig) (runId recordedAt : String) (sample : Option RunSample)
    (state : RollbackState) (w : World σ) :
    ((judge config runId recordedAt sample state).outcome w).2.shows space
      = written (w.shows space) (step state config runId recordedAt sample).1 := by
  rw [judge_eq]
  exact (Leaves.bind_after (fun _ => .pure _) w).trans (shows_save _ w)

theorem shows_update (config : CanaryConfig) (runId recordedAt : String) (sample : Option RunSample) (w : World σ) :
    ((update config runId recordedAt sample).outcome w).2.shows space
      = changed (w.shows space) fun state => (step state config runId recordedAt sample).1 := by
  have judged := shows_transaction (shows_judge config runId recordedAt sample) w
  rw [update_eq]
  exact (Leaves.bind_after (fun found => World.leaves_of_store (leaves_announce found)) w).trans judged

theorem report_of_update {config : CanaryConfig} {runId recordedAt : String} {sample : Option RunSample}
    {w w' : World σ} {u : RollbackUpdate} (h : (update config runId recordedAt sample).outcome w = (.ok u, w')) :
    ∃ state, w.latch = .ok state ∧ u = report state config runId recordedAt sample := by
  rw [update_eq] at h
  obtain ⟨found, t, transacted, announced⟩ := bind_eq_ok.mp h
  obtain ⟨t', judged⟩ := Store.body_of_transaction transacted
  obtain ⟨state, t'', loaded, judged⟩ := bind_eq_ok.mp judged
  rw [outcome_load] at loaded
  obtain ⟨held, -⟩ := Prod.mk.injEq .. ▸ loaded
  rw [judge_eq] at judged
  obtain ⟨_, t''', -, returned⟩ := bind_eq_ok.mp judged
  cases returned
  obtain ⟨w'', ran, -⟩ := outcome_announce (state.snapshot, step state config runId recordedAt sample) t
  rw [ran] at announced
  exact ⟨state, held, (Except.ok.inj (congrArg Prod.fst announced)).symm⟩

/-! Where a state was read, nothing keeps another one from being stored, if the store can be committed with
it. Whether it could be committed before is of no account: the stored value is replaced. -/

/-- The store can be committed once another value stands in the place of the state. -/
def Replaceable (s : Store) : Prop :=
  Store.Committable { s with namespaces := (s.namespaces.set space key .null).2 }

theorem entries_of_holds {w : World σ} {state : RollbackState} (held : w.latch = .ok state) :
    ∃ entries, w.store.namespaces.entriesOf space = .obj entries := by
  unfold World.latch stateIn at held
  split at held
  · exact ⟨_, by assumption⟩
  · contradiction

theorem replaceable_of_committable {s : Store} (can : s.Committable) {entries : Fields}
    (here : s.namespaces.entriesOf space = .obj entries) : Replaceable s :=
  fun disk there => ⟨(can disk there).1, Namespaces.writable_set (can disk there).2 here key Json.within_null⟩

theorem Replaceable.committable {s : Store} (replaceable : Replaceable s) {entries : Fields}
    (here : s.namespaces.entriesOf space = .obj entries) (state : RollbackState) :
    Store.Committable { s with namespaces := (s.namespaces.set space key (.obj state.toFields)).2 } :=
  Store.committable_set here key (state.within_toFields _) replaceable

/-- A state is saved, and the gauge set, once the store was committed with it. -/
theorem save_of_commit {w : World σ} {entries : Fields} (here : w.store.namespaces.entriesOf space = .obj entries)
    {state : RollbackState} {s : Store} (committed : Store.commit
      { w.store with namespaces := (w.store.namespaces.set space key (.obj state.toFields)).2 } = (.ok (), s)) :
    (save state).outcome w
      = (.ok (), { w with store := s, metrics := { w.metrics with rollbackActive := state.active } }) := by
  have stored : (World.onStore (Store.set space key (.obj state.toFields)) : Attempt (World σ) Unit).outcome w
      = (.ok (), World.storePart.put w s) := by
    unfold World.onStore
    rw [outcome_on]
    exact congrArg (fun o => (o.1, World.storePart.put w o.2)) ((Store.outcome_set here key _).trans committed)
  unfold save
  rw [outcome_bind_of_ok stored]
  rfl

theorem save_finishes {w : World σ} (replaceable : Replaceable w.store) {entries : Fields}
    (here : w.store.namespaces.entriesOf space = .obj entries) (state : RollbackState) :
    ∃ w', (save state).outcome w = (.ok (), w') ∧ w'.store.Committable := by
  obtain ⟨committed, left⟩ := Store.commit_of_committable (replaceable.committable here state)
  exact ⟨_, save_of_commit here (Prod.ext committed rfl), left⟩

/-- A transaction that loads the state and finishes from there finishes. -/
theorem transaction_finishes {w : World σ} {state : RollbackState} (held : w.latch = .ok state)
    {rest : RollbackState → Attempt (World σ) α} {a : α}
    (goes : ∃ t, (rest state).outcome (World.storePart.put w w.store.enter) = (.ok a, t) ∧ t.store.Committable) :
    ∃ w', (Store.transaction World.storePart (load >>= rest)).outcome w = (.ok a, w') ∧ w'.store.Committable := by
  obtain ⟨t, ran, kept⟩ := goes
  have body : (load >>= rest).outcome (World.storePart.put w w.store.enter) = (.ok a, t) := by
    rw [outcome_bind_of_ok (x := state) (t := World.storePart.put w w.store.enter), ran]
    rw [outcome_load]
    exact congrArg (·, _) held
  obtain ⟨ended, left⟩ := Store.outcome_transaction World.lawful_storePart body kept
  exact ⟨_, Prod.ext ended rfl, left⟩

theorem update_of_replaceable {w : World σ} {state : RollbackState} (replaceable : Replaceable w.store)
    (held : w.latch = .ok state) (config : CanaryConfig) (runId recordedAt : String) (sample : Option RunSample) :
    ∃ w', (update config runId recordedAt sample).outcome w
        = (.ok (report state config runId recordedAt sample), w') ∧ w'.store.Committable := by
  obtain ⟨entries, here⟩ := entries_of_holds held
  obtain ⟨t, saved, kept⟩ := save_finishes (w := World.storePart.put w w.store.enter) replaceable here
    (step state config runId recordedAt sample).1
  have judged : (judge config runId recordedAt sample state).outcome (World.storePart.put w w.store.enter)
      = (.ok (state.snapshot, step state config runId recordedAt sample), t) := by
    rw [judge_eq, outcome_bind_of_ok saved]
    rfl
  obtain ⟨t', ran, left⟩ := transaction_finishes held ⟨t, judged, kept⟩
  obtain ⟨w', announced, same⟩ := outcome_announce (state.snapshot, step state config runId recordedAt sample) t'
  rw [update_eq, outcome_bind_of_ok ran]
  exact ⟨w', announced, by rw [same]; exact left⟩

theorem reset_of_replaceable {w : World σ} {state : RollbackState} (replaceable : Replaceable w.store)
    (held : w.latch = .ok state) :
    ∃ w', (reset : Attempt (World σ) RollbackState).outcome w = (.ok .clear, w') ∧ w'.store.Committable := by
  obtain ⟨entries, here⟩ := entries_of_holds held
  have saved := save_finishes (w := World.storePart.put w w.store.enter) replaceable here .clear
  obtain ⟨w', ran, left⟩ : ∃ w', (Store.transaction World.storePart (load >>= fun _ => save .clear)).outcome w
      = (.ok (), w') ∧ w'.store.Committable := transaction_finishes held saved
  exact ⟨w', outcome_bind_of_ok ran, left⟩

theorem update_finishes {w : World σ} {state : RollbackState} (can : w.store.Committable) (held : w.latch = .ok state)
    (config : CanaryConfig) (runId recordedAt : String) (sample : Option RunSample) :
    ∃ w', (update config runId recordedAt sample).outcome w
        = (.ok (report state config runId recordedAt sample), w') ∧ w'.store.Committable := by
  obtain ⟨entries, here⟩ := entries_of_holds held
  exact update_of_replaceable (replaceable_of_committable can here) held config runId recordedAt sample

theorem reset_finishes {w : World σ} {state : RollbackState} (can : w.store.Committable) (held : w.latch = .ok state) :
    ∃ w', (reset : Attempt (World σ) RollbackState).outcome w = (.ok .clear, w') ∧ w'.store.Committable := by
  obtain ⟨entries, here⟩ := entries_of_holds held
  exact reset_of_replaceable (replaceable_of_committable can here) held

end Rollback

end CanaryGate
