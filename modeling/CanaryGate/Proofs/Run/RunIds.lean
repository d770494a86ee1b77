import CanaryGate.Proofs.Rollback.Persistence
import CanaryGate.Proofs.Run.Journal
import CanaryGate.Proofs.Run.Numbers

/-! # Where the ids of runs stand

The id of a run is the key of its records and stands in them; the latch keeps the ids of the runs in its window and
of the one that closed it. None of them is ahead of the counter: a run is numbered before anything is kept in its
name, and what is there already was numbered before.
-/

namespace CanaryGate

open Attempt

variable {σ : Type}

/-- A kept value names a run: as its own, as the one that closed the latch, or in a sample. -/
inductive Json.Names : Json → String → Prop where
  | own {fields : Fields} {id : String} (field : ("run_id", .str id) ∈ fields) : Names (.obj fields) id
  | closed {fields : Fields} {id : String} (field : ("rollback_run_id", .str id) ∈ fields) : Names (.obj fields) id
  | sample {fields : Fields} {sample : Json} {id : String} (field : ("sample", sample) ∈ fields)
      (inside : Names sample id) : Names (.obj fields) id
  | recent {fields : Fields} {samples : List Json} {sample : Json} {id : String}
      (field : ("recent_samples", .arr samples) ∈ fields) (member : sample ∈ samples) (inside : Names sample id) :
      Names (.obj fields) id

/-- The namespaces name a run: as the key of a record, in a record, or in the latch. -/
inductive Namespaces.Names (all : Namespaces) (id : String) : Prop where
  | key (shelf : Shelf) {entries : Fields} (here : all.items shelf.space = .ok entries)
      (member : id ∈ Fields.names entries)
  | record (shelf : Shelf) {entries : Fields} (here : all.items shelf.space = .ok entries) {entry : String × Json}
      (member : entry ∈ entries) (inside : entry.2.Names id)
  | latch {raw : Json} (here : all.find? Rollback.space Rollback.key = .ok (some raw)) (inside : raw.Names id)

/-! The ids in a record are those of its run. -/

open Json (Names)

/-- Fields without samples, and without the run that closed the latch, name no run but their own. -/
theorem Json.Names.own_of_plain {fields : Fields} {id : String} (h : Names (.obj fields) id)
    (plain : ∀ name ∈ ["rollback_run_id", "sample", "recent_samples"], name ∉ Fields.names fields) :
    ("run_id", .str id) ∈ fields := by
  have absent : ∀ {name value}, (name, value) ∈ fields → name ∉ ["rollback_run_id", "sample", "recent_samples"] :=
    fun field listed => plain _ listed (List.mem_map_of_mem field)
  cases h with
  | own field => exact field
  | closed field => exact absurd (by simp) (absent field)
  | sample field inside => exact absurd (by simp) (absent field)
  | recent field member inside => exact absurd (by simp) (absent field)

theorem RunSample.runId_of_names {s : RunSample} {id : String} (h : Names (.obj s.toFields) id) : id = s.runId := by
  simpa [toFields] using h.own_of_plain (by simp [toFields, Fields.names])

theorem ShadowErrorRecord.runId_of_names {r : ShadowErrorRecord} {id : String} (h : Names (.obj r.toFields) id) :
    id = r.runId := by
  simpa [toFields] using h.own_of_plain (by simp [toFields, Fields.names])

theorem DiffRecord.runId_of_names {r : DiffRecord} {id : String} (h : Names (.obj r.toFields) id) : id = r.runId := by
  simpa [toFields, integersToJson] using h.own_of_plain (by simp [toFields, Fields.names])

theorem AltShadowRecord.runId_of_names {r : AltShadowRecord} {id : String} (h : Names (.obj r.toFields) id) :
    id = r.runId := by
  simpa [toFields, integersToJson] using h.own_of_plain (by simp [toFields, Fields.names])

theorem DecisionRecord.mem_runIds_of_names {d : DecisionRecord} {id : String} (h : Names (.obj d.toFields) id) :
    id ∈ (Record.decision d).runIds := by
  cases h with
  | own field => simp_all [toFields, Record.runIds]
  | closed field => simp [toFields] at field
  | sample field inside =>
      rename_i sample
      have here : sample = Json.optional (fun s => .obj s.toFields) d.sample := by simpa [toFields] using field
      cases taken : d.sample with
      | none =>
          rw [here, taken] at inside
          cases inside
      | some s =>
          rw [here, taken] at inside
          simp [Record.runIds, taken, RunSample.runId_of_names inside]
  | recent field member inside => simp [toFields] at field

theorem Record.mem_runIds_of_names {r : Record} {id : String} (h : Names (.obj r.toFields) id) : id ∈ r.runIds := by
  cases r with
  | decision record => exact DecisionRecord.mem_runIds_of_names h
  | comparison record =>
      cases record with
      | diff record => exact List.mem_singleton.mpr (DiffRecord.runId_of_names h)
      | error record => exact List.mem_singleton.mpr (ShadowErrorRecord.runId_of_names h)
  | crossCheck record =>
      cases record with
      | diff record => exact List.mem_singleton.mpr (AltShadowRecord.runId_of_names h)
      | error record => exact List.mem_singleton.mpr (ShadowErrorRecord.runId_of_names h)

/-! The ids in the latch. -/

namespace RollbackState

/-- The run that closed the latch, and those in the window. -/
def runIds (s : RollbackState) : List String := s.runId.toList ++ s.recentSamples.map RunSample.runId

theorem mem_runIds_of_names {s : RollbackState} {id : String} (h : Names (.obj s.toFields) id) : id ∈ s.runIds := by
  unfold runIds
  cases h with
  | own field => simp [toFields] at field
  | closed field =>
      have here : Json.str id = Json.optional .str s.runId := by simpa [toFields] using field
      cases closed : s.runId with
      | none =>
          rw [closed] at here
          cases here
      | some runId =>
          rw [closed] at here
          cases here
          exact List.mem_append_left _ List.mem_cons_self
  | sample field inside => simp [toFields] at field
  | recent field member inside =>
      obtain rfl : _ = s.recentSamples.map fun sample => Json.obj sample.toFields := by simpa [toFields] using field
      obtain ⟨sample, there, rfl⟩ := List.mem_map.mp member
      refine List.mem_append_right _ (List.mem_map.mpr ⟨sample, there, ?_⟩)
      exact (RunSample.runId_of_names inside).symm

end RollbackState

namespace Rollback

/-- An update brings in the run that it is about, and nobody else. -/
theorem mem_runIds_step {state : RollbackState} {config : CanaryConfig} {runId recordedAt : String}
    {sample : Option RunSample} (own : ∀ s, sample = some s → s.runId = runId) {id : String}
    (h : id ∈ (step state config runId recordedAt sample).1.runIds) : id ∈ state.runIds ∨ id = runId := by
  have window : ∀ s ∈ (if state.active then state.recentSamples
      else windowAfter state.recentSamples config.windowRuns sample), s.runId ∈ state.runIds ∨ s.runId = runId := by
    intro s member
    have known : s ∈ state.recentSamples ++ sample.toList := by
      split at member
      · exact List.mem_append_left _ member
      · exact (windowAfter_suffix ..).subset member
    rcases List.mem_append.mp known with old | new
    · exact .inl (List.mem_append_right _ (List.mem_map_of_mem old))
    · exact .inr (own s (Option.mem_toList.mp new))
  unfold step at h
  dsimp only at h
  split at h
  · rcases List.mem_append.mp h with closing | recent
    · exact .inr (List.mem_singleton.mp closing)
    · obtain ⟨s, member, rfl⟩ := List.mem_map.mp recent
      exact window s member
  · rcases List.mem_append.mp h with closed | recent
    · exact .inl (List.mem_append_left _ closed)
    · obtain ⟨s, member, rfl⟩ := List.mem_map.mp recent
      exact window s member

/-- What the latch shows is a state, all of whose runs have the property. -/
def Tells (P : String → Prop) (shown : Option Json) : Prop := ∀ entries raw, entriesIn shown = .obj entries →
  Fields.get? entries key = some raw → ∃ state : RollbackState, raw = .obj state.toFields ∧ ∀ id ∈ state.runIds, P id

variable {P : String → Prop} {shown : Option Json}

theorem tells_none : Tells P none := by
  intro entries raw here stored
  cases here
  cases stored

theorem Tells.imp {Q : String → Prop} (h : Tells P shown) (weaker : ∀ id, P id → Q id) : Tells Q shown := by
  intro entries raw here stored
  obtain ⟨state, same, known⟩ := h entries raw here stored
  exact ⟨state, same, fun id member => weaker id (known id member)⟩

theorem Tells.state {state : RollbackState} (h : Tells P shown) (found : stateIn shown = .ok state) :
    ∃ entries, entriesIn shown = .obj entries ∧ ∀ id ∈ state.runIds, P id := by
  unfold stateIn at found
  split at found
  · rename_i entries here
    refine ⟨entries, here, ?_⟩
    cases stored : Fields.get? entries key with
    | none =>
        rw [Fields.get, stored] at found
        cases found
        exact fun id member => absurd member List.not_mem_nil
    | some raw =>
        obtain ⟨held, rfl, known⟩ := h entries raw here stored
        rw [Fields.get, stored, Option.getD_some, decode_toFields] at found
        cases found
        exact known
  · cases found

theorem Tells.changed (h : Tells P shown) {f : RollbackState → RollbackState}
    (kept : ∀ state, (∀ id ∈ state.runIds, P id) → ∀ id ∈ (f state).runIds, P id) : Tells P (changed shown f) := by
  unfold Rollback.changed
  cases found : stateIn shown with
  | error fault => exact h
  | ok state =>
      obtain ⟨entries, here, known⟩ := h.state found
      have after : entriesIn (written shown (f state)) = .obj (Fields.set entries key (.obj (f state).toFields)) := by
        simp only [written, here]
        rfl
      intro entries' raw here' stored
      obtain rfl := Json.obj.inj (after.symm.trans here')
      rw [Fields.get?_set, if_pos rfl] at stored
      exact ⟨f state, (Option.some.inj stored).symm, kept state known⟩

end Rollback

namespace Run

/-- The id is that of a run with such a number. -/
def Known (count : Int) (id : String) : Prop := ∃ n, n ≤ count ∧ id = idOf n

theorem Known.mono {low high : Int} {id : String} (h : Known low id) (below : low ≤ high) : Known high id := by
  obtain ⟨n, early, named⟩ := h
  exact ⟨n, Int.le_trans early below, named⟩

end Run

open Run (Known)

namespace Namespaces

variable {all : Namespaces} {count : Int}

/-- So many runs have been numbered, and no others are named. -/
structure Tidy (all : Namespaces) (count : Int) : Prop where
  regular : all.Regular
  counts : all.Counts count
  records : ∀ (shelf : Shelf) entries, all.entriesOf shelf.space = .obj entries → ∀ entry ∈ entries,
    Known count entry.1 ∧ ∀ id, entry.2.Names id → Known count id
  latch : Rollback.Tells (Known count) (Fields.get? all Rollback.space)

theorem tidy_nil : Tidy [] 0 where
  regular := regular_nil
  counts := counts_nil
  records := by
    intro shelf entries here
    cases here
    exact nofun
  latch := Rollback.tells_none

theorem Tidy.known (tidy : all.Tidy count) {id : String} (named : all.Names id) : Known count id := by
  cases named with
  | key shelf here member =>
      obtain ⟨entry, there, rfl⟩ := List.mem_map.mp member
      exact (tidy.records shelf _ (entries_of_items here) entry there).1
  | record shelf here member inside => exact (tidy.records shelf _ (entries_of_items here) _ member).2 id inside
  | latch here inside =>
      obtain ⟨entries, found, stored⟩ := entries_of_find here
      obtain ⟨state, rfl, known⟩ := tidy.latch entries _ found stored
      exact known id (RollbackState.mem_runIds_of_names inside)

end Namespaces

namespace Moment

variable {m : Moment σ} {count : Int}

/-- What is no part of the change is as tidy as it was. -/
theorem records_after (tidy : m.before.store.namespaces.Tidy count) {shelf : Shelf} (apart : shelf.space ≠ m.change.space)
    {entries : Fields} (here : m.after.store.namespaces.entriesOf shelf.space = .obj entries) :
    ∀ entry ∈ entries, Known count entry.1 ∧ ∀ id, entry.2.Names id → Known count id :=
  tidy.records shelf entries ((m.entriesOf_after apart).symm.trans here)

theorem tidy_number {w : World σ} (tidy : w.store.namespaces.Tidy count) :
    (Moment.after ⟨w, .number⟩).store.namespaces.Tidy (count + 1) where
  regular := Moment.regular_after _ tidy.regular
  counts := Moment.counts_number tidy.counts
  records := by
    intro shelf entries here entry member
    obtain ⟨key, inside⟩ := records_after (m := ⟨w, .number⟩) tidy shelf.space_ne_sequences here entry member
    exact ⟨key.mono (by omega), fun id named => (inside id named).mono (by omega)⟩
  latch := by
    have apart : Rollback.space ≠ Namespaces.sequences := by decide
    rw [Moment.shows_after (⟨w, .number⟩ : Moment σ) apart]
    exact tidy.latch.imp fun id known => known.mono (by omega)

theorem records_of_put {p : Run.Plan σ} {w : World σ} {q : Put} {n : Int} (tidy : w.store.namespaces.Tidy count)
    (own : q.By p (Run.idOf n)) (numbered : n ≤ count) {entries : Fields}
    (here : (Moment.after ⟨w, .put q⟩).store.namespaces.entriesOf q.shelf.space = .obj entries) :
    ∀ entry ∈ entries, Known count entry.1 ∧ ∀ id, entry.2.Names id → Known count id := by
  intro entry member
  obtain ⟨old, before⟩ := tidy.regular q.shelf.space
  rw [Moment.namespaces_of_put tidy.regular, Namespaces.entriesOf_kept before] at here
  rw [← Json.obj.inj here] at member
  rcases Fields.of_mem_set (List.mem_of_mem_drop member) with rfl | there
  · refine ⟨⟨n, numbered, own.named⟩, fun id named => ⟨n, numbered, ?_⟩⟩
    exact own.own id (Record.mem_runIds_of_names named)
  · exact tidy.records q.shelf old before entry there

/-- The latch takes over the run that it is judged after. -/
theorem tells_after {p : Run.Plan σ} {n : Int} (tells : Rollback.Tells (Known count) (m.before.shows Rollback.space))
    (own : m.change.By p (Run.idOf n)) (numbered : n ≤ count) :
    Rollback.Tells (Known count) (m.after.shows Rollback.space) := by
  obtain ⟨w, c⟩ := m
  cases c with
  | number =>
      have apart : Rollback.space ≠ Namespaces.sequences := by decide
      have shown : (Moment.after ⟨w, .number⟩).shows Rollback.space = w.shows Rollback.space :=
        Moment.shows_after (⟨w, .number⟩ : Moment σ) apart
      exact shown ▸ tells
  | reset =>
      have shown := Rollback.shows_reset w
      exact shown ▸ tells.changed fun _ _ => nofun
  | judge config runId recordedAt sample =>
      obtain ⟨rfl, sampled⟩ := own
      have shown := Rollback.shows_update config (Run.idOf n) recordedAt sample w
      refine shown ▸ tells.changed fun state known id member => ?_
      rcases Rollback.mem_runIds_step sampled member with old | rfl
      · exact known id old
      · exact ⟨n, numbered, rfl⟩
  | put q =>
      have shown : (Moment.after ⟨w, .put q⟩).shows Rollback.space = w.shows Rollback.space :=
        Moment.shows_after (⟨w, .put q⟩ : Moment σ) q.shelf.space_ne_rollback.symm
      exact shown ▸ tells

/-- A change that a run makes names no run but those that were numbered. -/
theorem tidy_change {p : Run.Plan σ} {n : Int} (tidy : m.before.store.namespaces.Tidy count)
    (own : m.change.By p (Run.idOf n)) (numbered : n ≤ count) (later : 1 ≤ m.change.stage) :
    m.after.store.namespaces.Tidy count where
  regular := m.regular_after tidy.regular
  counts := m.counts_after tidy.counts later
  records := by
    intro shelf entries here
    by_cases same : shelf.space = m.change.space
    · obtain ⟨q, put, rfl⟩ := Change.put_of_space same
      obtain ⟨w, c⟩ := m
      cases put
      exact records_of_put tidy own numbered here
    · exact records_after tidy same here
  latch := tells_after tidy.latch own numbered

end Moment

end CanaryGate
