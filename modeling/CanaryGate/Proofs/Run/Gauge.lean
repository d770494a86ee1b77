import CanaryGate.Proofs.Run.Counting
import CanaryGate.Proofs.Run.Openings

/-! # What the gauge shows

The latch is kept in the store, the gauge in the process. Only the saving of a state sets the gauge, and it sets it
to the state that it puts into the store, whether that can be written or not. So the gauge shows what the latch is
from the first reset or update of the process on; up to then it shows an open latch, whatever the process has found.
-/

namespace CanaryGate

open Attempt

variable {σ α : Type}

namespace World

/-- All that is seen of the latch: its namespace and the gauge. -/
def signs (w : World σ) : Option Json × Bool := (w.shows Rollback.space, w.metered Metrics.rollbackActive)

/-- The gauge shows what the latch is. -/
def Truthful (w : World σ) : Prop := ∃ state, Holds state w ∧ w.metrics.rollbackActive = state.active

theorem leaves_signs {a : Attempt (World σ) α} (shown : Leaves (shows Rollback.space) a)
    (metered : Leaves (metered Metrics.rollbackActive) a) : Leaves signs a := shown.both metered

theorem keeps_truthful {a : Attempt (World σ) α} (h : Leaves signs a) : Keeps Truthful a :=
  h.keeps fun seen => ∃ state, Rollback.stateIn seen.1 = .ok state ∧ seen.2 = state.active

theorem truthful_of_signs {w w' : World σ} (same : w'.signs = w.signs) (truthful : Truthful w) : Truthful w' := by
  obtain ⟨state, held, shown⟩ := truthful
  have readable := congrArg (fun seen : Option Json × Bool => Rollback.stateIn seen.1) same
  exact ⟨state, readable.trans held, (congrArg Prod.snd same).trans shown⟩

theorem readable_of_signs {w w' : World σ} (same : w'.signs = w.signs) (readable : Readable w) : Readable w' := by
  obtain ⟨state, held⟩ := readable
  exact ⟨state, (congrArg (fun seen : Option Json × Bool => Rollback.stateIn seen.1) same).trans held⟩

end World

open World

namespace Rollback

/-- Inside a transaction a state is saved with its gauge. -/
theorem metrics_save {w : World σ} (inside : w.store.depth ≠ 0) {found : RollbackState} (held : Holds found w)
    (state : RollbackState) :
    ((save state).outcome w).2.metrics = w.metrics.showing state.active := by
  obtain ⟨entries, here⟩ := entries_of_holds held
  rw [save_of_commit here (Store.commit_of_open inside)]
  rfl

/-- A transaction that replaces the state sets the gauge, also if it cannot be written. -/
theorem metrics_saving {rest : RollbackState → Attempt (World σ) α} (after : RollbackState → RollbackState)
    (answer : RollbackState → α) (saves : ∀ state, rest state = save (after state) >>= fun _ => pure (answer state))
    {w : World σ} {found : RollbackState} (held : Holds found w) :
    ((Store.transaction storePart (load >>= rest)).outcome w).2.metrics = w.metrics.showing (after found).active := by
  have entered : Holds found (storePart.put w w.store.enter) := held
  have loaded : (load : Attempt (World σ) RollbackState).outcome (storePart.put w w.store.enter)
      = (.ok found, storePart.put w w.store.enter) := by
    rw [outcome_load]
    exact congrArg (·, _) entered
  have outside : ∀ (v : World σ) s, World.metrics (storePart.put v s) = World.metrics v := fun _ _ => rfl
  rw [apart_transaction outside, outcome_bind_of_ok loaded, saves]
  refine (Leaves.bind_after (fun _ => .pure _) _).trans ?_
  exact metrics_save (Nat.succ_ne_zero _) entered (after found)

theorem leaves_showing_announce (found : RollbackSnapshot × RollbackState × WindowSummary × Bool) :
    Leaves (metered Metrics.rollbackActive) (announce found : Attempt (World σ) RollbackUpdate) := by
  obtain ⟨before, after, summary, triggered⟩ := found
  cases triggered with
  | false => exact .pure _
  | true =>
      have unseen : Metrics.Unseen Metrics.rollbackActive (Metrics.tripped (after.reasonCode.getD "")) := fun _ => rfl
      exact (leaves_metered_observe unseen).bind fun _ => .pure _

/-- After a call that could read the latch the gauge shows what the latch is. -/
theorem Call.truthful_leave {w : World σ} (readable : Readable w) (call : Call) : Truthful (call.leave w) := by
  obtain ⟨found, held⟩ := readable
  refine ⟨_, latch_leave held call, ?_⟩
  cases call with
  | update config runId recordedAt sample =>
      have judged := metrics_saving _ _ (judge_eq config runId recordedAt sample) held
      have announced := Leaves.bind_after (a := Store.transaction storePart (load >>= judge config runId recordedAt sample))
        leaves_showing_announce w
      exact announced.trans (congrArg Metrics.rollbackActive judged)
  | reset =>
      have emptied := @metrics_saving σ Unit (fun _ => save .clear) (fun _ => .clear) (fun _ => ())
        (fun _ => (bind_pure _).symm) w found held
      have replies : ∀ _ : Unit, Leaves (metered Metrics.rollbackActive : World σ → Bool) (pure RollbackState.clear) :=
        fun _ => .pure _
      have returned := Leaves.bind_after (a := Store.transaction storePart (load >>= fun _ => save .clear)) replies w
      exact returned.trans (congrArg Metrics.rollbackActive emptied)

end Rollback

namespace Run

theorem leaves_showing_count (decision : DecisionRecord) :
    Leaves (metered Metrics.rollbackActive) (World.observe (count decision) : Attempt (World σ) Unit) := by
  refine leaves_metered_observe fun m => ?_
  unfold count
  split <;> split <;> (try split) <;> rfl

namespace Plan

variable (p : Plan σ)

/-- The candidate, its shadow and the alternate, on the latch as it is. -/
def testing (runId : String) (baseline : Json) : Attempt (World σ) Trial := do
  let before ← Rollback.snapshot
  let selection ← p.selecting baseline before
  let shadow ← p.shadowing runId baseline before selection
  let _ ← p.crossing runId selection
  return ⟨before, selection, shadow⟩

/-- All of a run until it has its sample. -/
def sampled : Attempt (World σ) ((String × Json) × Trial × Option RunSample) := do
  let o ← p.opening
  let t ← p.trying o.1 o.2
  let sample ← Attempt.lift (p.sampling o.1 t)
  return (o, t, sample)

/-- The latch and the audit record. -/
def concluding (runId : String) (baseline : Json) (t : Trial) (sample : Option RunSample) :
    Attempt (World σ) RunResult := do
  let rollback ← p.latching runId t.before sample
  let decision ← Attempt.lift (p.input runId baseline t sample rollback).record
  p.recording runId t.before decision
  World.observe (count decision)
  let proposals ← Attempt.lift (servedProposals t.selection.result p.request.maxProposals)
  return ⟨runId, p.recordedAt, decision.primaryEngine, proposals, decision, (p.routing t.before).trackingEnabled⟩

/-- The run resets the latch, or updates it. -/
def Saves (w : World σ) : Prop := p.resets = true ∧ Finishes p.opening w ∨ p.tracked = true ∧ Finishes p.sampled w

theorem attempt_eq_sampled : p.attempt = p.sampled >>= fun found => p.concluding found.1.1 found.1.2 found.2.1 found.2.2 := by
  rw [p.attempt_eq]
  simp only [sampled, bind_assoc, pure_bind]
  rfl

theorem leaves_signs_opening : Leaves signs p.opening :=
  leaves_signs (p.leaves_opening (by decide)) (leaves_metered_nextId.bind fun _ =>
    (leaves_metered_baselineResult (fun _ _ _ => rfl) _).bind fun _ => .pure _)

theorem leaves_signs_testing (runId : String) (baseline : Json) : Leaves signs (p.testing runId baseline) := by
  have unseen : ∀ {engine : Option (Engine σ)} (e : Engine σ), engine = some e →
      Metrics.Unseen Metrics.rollbackActive (Metrics.executed e.name) := fun _ _ _ => rfl
  refine (leaves_signs (leaves_of_store Rollback.leaves_snapshot) Rollback.leaves_metered_snapshot).bind fun before => ?_
  refine .bind ?selected fun selection => .bind ?shadowed fun _ => .bind ?crossed fun _ => .pure _
  case selected =>
    exact leaves_signs (leaves_of_store (p.leaves_selecting baseline before))
      (p.leaves_metered_selecting unseen baseline before)
  case shadowed =>
    exact leaves_signs (p.leaves_shadowing (by decide) runId baseline before selection)
      (Shadow.leaves_metered_run unseen (fun _ _ => rfl) _ _ _ _ _ _)
  case crossed =>
    exact leaves_signs (p.leaves_crossing (by decide) runId selection)
      (AltShadow.leaves_metered_run unseen (fun _ _ => rfl) _ _ _ _ _ _ _ _)

theorem leaves_signs_sampled (quiet : p.resets = false) : Leaves signs p.sampled := by
  have unreset : Leaves signs p.resetting := by
    unfold resetting
    rw [quiet]
    exact .pure _
  exact p.leaves_signs_opening.bind fun o => (unreset.bind fun _ => p.leaves_signs_testing o.1 o.2).bind fun _ =>
    .bind (.lift _) fun _ => .pure _

/-- What follows the latch leaves it alone. -/
theorem signs_concluding (runId : String) (baseline : Json) (t : Trial) (sample : Option RunSample) (w : World σ) :
    ((p.concluding runId baseline t sample).outcome w).2.signs
      = ((p.latching runId t.before sample).outcome w).2.signs := by
  refine Leaves.bind_after (fun _ => .bind (.lift _) fun decision => ?_) w
  refine (leaves_signs (p.leaves_recording (by decide) runId t.before decision)
    (leaves_metered_recording runId t.before decision)).bind fun _ => ?_
  exact (leaves_signs (leaves_observe _) (leaves_showing_count decision)).bind fun _ => .bind (.lift _) fun _ => .pure _

variable {p} {w : World σ}

theorem truthful_concluding (tracked : p.tracked = true) (readable : Readable w) (runId : String) (baseline : Json)
    (t : Trial) (sample : Option RunSample) : Truthful ((p.concluding runId baseline t sample).outcome w).2 := by
  have latched : Truthful ((p.latching runId t.before sample).outcome w).2 := by
    unfold latching
    rw [p.trackingEnabled_routing, tracked]
    exact Rollback.Call.truthful_leave readable (.update p.configs.canary runId p.recordedAt sample)
  exact truthful_of_signs (p.signs_concluding runId baseline t sample w) latched

theorem leaves_signs_concluding (untracked : p.tracked = false) (runId : String) (baseline : Json) (t : Trial)
    (sample : Option RunSample) : Leaves signs (p.concluding runId baseline t sample) := by
  intro w
  rw [signs_concluding]
  unfold latching
  rw [p.trackingEnabled_routing, untracked]
  exact (leaves_signs (leaves_of_store Rollback.leaves_load) Rollback.leaves_metered_load).bind (fun _ => .pure _) w

theorem keeps_truthful_concluding (runId : String) (baseline : Json) (t : Trial) (sample : Option RunSample) :
    Keeps Truthful (p.concluding runId baseline t sample) := by
  cases tracked : p.tracked with
  | false => exact keeps_truthful (leaves_signs_concluding tracked runId baseline t sample)
  | true =>
      rintro w ⟨state, held, -⟩
      exact truthful_concluding tracked ⟨state, held⟩ runId baseline t sample

/-- A run that comes to its reset has it as its first change of the latch. -/
theorem truthful_sampled (resets : p.resets = true) (opened : Finishes p.opening w) (readable : Readable w) :
    Truthful (p.sampled.outcome w).2 := by
  obtain ⟨o, t, opening⟩ := opened.eq
  have found : Readable t := readable_of_signs (p.leaves_signs_opening.of_eq opening) readable
  have emptied : Truthful (p.resetting.outcome t).2 := by
    unfold resetting
    rw [resets]
    exact Keeps.onward (Rollback.Call.truthful_leave found .reset) fun _ => .pure _
  unfold sampled
  rw [outcome_bind_of_ok opening]
  exact Keeps.onward (Keeps.onward emptied fun _ => keeps_truthful (p.leaves_signs_testing o.1 o.2)) fun _ =>
    .bind (.lift _) fun _ => .pure _

theorem truthful_of_saves (readable : Readable w) (saves : p.Saves w) : Truthful (p.attempt.outcome w).2 := by
  rw [p.attempt_eq_sampled]
  have reset : p.resets = true → Finishes p.opening w →
      Truthful ((p.sampled >>= fun found => p.concluding found.1.1 found.1.2 found.2.1 found.2.2).outcome w).2 :=
    fun resets opened => Keeps.onward (truthful_sampled resets opened readable) fun _ =>
      keeps_truthful_concluding _ _ _ _
  rcases saves with ⟨resets, opened⟩ | ⟨tracked, finished⟩
  · exact reset resets opened
  · cases quiet : p.resets with
    | true => exact reset quiet (finishes_bind_then.mp finished).1
    | false =>
        obtain ⟨found, v, ran⟩ := finished.eq
        rw [outcome_bind_of_ok ran]
        exact truthful_concluding tracked (readable_of_signs ((p.leaves_signs_sampled quiet).of_eq ran) readable) _ _ _ _

/-- A run that neither comes to its reset nor to its update changes nothing about the latch. -/
theorem signs_of_not_saves (unsaved : ¬ p.Saves w) : (p.attempt.outcome w).2.signs = w.signs := by
  by_cases opened : Finishes p.opening w
  · have quiet : p.resets = false := Bool.eq_false_iff.mpr fun resets => unsaved (.inl ⟨resets, opened⟩)
    rw [p.attempt_eq_sampled]
    by_cases finished : Finishes p.sampled w
    · have untracked : p.tracked = false := Bool.eq_false_iff.mpr fun tracked => unsaved (.inr ⟨tracked, finished⟩)
      exact (p.leaves_signs_sampled quiet).bind (fun _ => leaves_signs_concluding untracked _ _ _ _) w
    · rw [left_of_unfinished finished]
      exact p.leaves_signs_sampled quiet w
  · rw [outcome_of_unopened opened]
    exact p.leaves_signs_opening w

end Plan

end Run

namespace Event

/-- The event saves the latch: a run that resets or updates it, or a call of the controller. -/
def Saves (w : World σ) : Event σ → Prop
  | run plan => plan.Saves w
  | call _ => True

theorem truthful_leave {w : World σ} (readable : Readable w) {event : Event σ} (saves : event.Saves w) :
    Truthful (event.leave w) := by
  cases event with
  | call c => exact c.truthful_leave readable
  | run plan => exact Run.Plan.truthful_of_saves readable saves

theorem signs_leave {w : World σ} {event : Event σ} (unsaved : ¬ event.Saves w) :
    (event.leave w).signs = w.signs := by
  cases event with
  | call c => exact absurd trivial unsaved
  | run plan => exact Run.Plan.signs_of_not_saves unsaved

end Event

namespace World

/-- Some event of the history saves the latch. -/
def Saves : World σ → List (Event σ) → Prop
  | _, [] => False
  | w, event :: rest => event.Saves w ∨ Saves (event.leave w) rest

theorem truthful_after {w : World σ} (truthful : Truthful w) (events : List (Event σ)) : Truthful (w.after events) := by
  induction events generalizing w with
  | nil => exact truthful
  | cons event rest ih =>
      refine ih ?_
      by_cases saves : event.Saves w
      · exact Event.truthful_leave (truthful.imp fun _ told => told.1) saves
      · exact truthful_of_signs (Event.signs_leave saves) truthful

/-- Up to the first event that saves the latch all that is seen of it stays as it was, and from then on the gauge shows
what it is. -/
theorem signs_after {w : World σ} (readable : Readable w) (events : List (Event σ)) :
    (w.Saves events ∧ Truthful (w.after events)) ∨ (¬ w.Saves events ∧ (w.after events).signs = w.signs) := by
  induction events generalizing w with
  | nil => exact .inr ⟨id, rfl⟩
  | cons event rest ih =>
      by_cases saves : event.Saves w
      · exact .inl ⟨.inl saves, truthful_after (event.truthful_leave readable saves) rest⟩
      · have same := event.signs_leave saves
        rcases ih (readable_of_signs same readable) with ⟨later, told⟩ | ⟨never, still⟩
        · exact .inl ⟨.inr later, told⟩
        · exact .inr ⟨not_or.mpr ⟨saves, never⟩, still.trans same⟩

/-- A process that finds an open latch has a gauge that always shows what the latch is; one that finds it closed, from
its first reset or update on. The gauge never shows a closed latch that is open. -/
theorem gauge_truthful_iff {w : World σ} (opened : Store.Opened σ w.store) (zero : w.metrics = .zero)
    (events : List (Event σ)) : ∃ found state, Holds found w ∧ Holds state (w.after events)
      ∧ ((w.after events).metrics.rollbackActive = state.active ↔ found.active = false ∨ w.Saves events)
      ∧ ((w.after events).metrics.rollbackActive = true → state.active = true) := by
  obtain ⟨found, held⟩ := (opened.throughout lasting_latched).memory
  have unlit : w.metrics.rollbackActive = false := by rw [zero]; rfl
  rcases signs_after ⟨found, held⟩ events with ⟨saves, state, now, shown⟩ | ⟨unsaved, same⟩
  · refine ⟨found, state, held, now, iff_of_true shown (.inr saves), fun lit => ?_⟩
    rw [← shown, lit]
  · have still : Holds found (w.after events) :=
      (congrArg (fun seen : Option Json × Bool => Rollback.stateIn seen.1) same).trans held
    have dark : (w.after events).metrics.rollbackActive = false := (congrArg Prod.snd same).trans unlit
    refine ⟨found, found, held, still, ?_, fun lit => ?_⟩
    · rw [dark, or_iff_left unsaved]
      exact eq_comm
    · rw [dark] at lit
      contradiction

/-- A run that is to be served by a candidate, and has none. -/
def forsaken : Run.Plan Unit :=
  ⟨⟨some ⟨"v1", fun _ s => (.ok (.obj [("matching", .obj [])]), s)⟩, none, none⟩, ⟨2026, 3, 1, 12, 0, 0, 0⟩,
    ⟨.unknown, none, none, [], [], [], 50, none⟩,
    ⟨.default, { PrimaryConfig.default with enabled := true }, .default, .default, .default⟩, none⟩

/-- A process in which such a run has closed the latch. -/
def earlier : World Unit := Event.leave ⟨.inMemory [], .zero, [], ()⟩ (.run forsaken)

/-- The process that is handed its store. -/
def inherited : World Unit := ⟨.inMemory earlier.store.namespaces, .zero, [], ()⟩

theorem opened_inherited : Store.Opened Unit inherited.store := by
  have started : Store.Reached Unit (World.mk (.inMemory []) .zero [] ()).store := .start .memory
  exact .handed (started.event (.run forsaken))

theorem active_inherited : inherited.latch.map (·.active) = .ok true := by decide +kernel

/-- The next run of the same kind sets the gauge. -/
theorem gauge_truthful_after_run : Store.Opened Unit inherited.store ∧ inherited.metrics = .zero
    ∧ ∃ state, Holds state (inherited.after [.run forsaken]) ∧ state.active = true
      ∧ (inherited.after [.run forsaken]).metrics.rollbackActive = state.active := by
  obtain ⟨found, state, -, now, told, lit⟩ := gauge_truthful_iff opened_inherited rfl [.run forsaken]
  have saves : inherited.Saves [.run forsaken] := by
    refine .inl (.inr ⟨rfl, finishes_iff_isOk.mpr ?_⟩)
    decide +kernel
  have shown := told.mpr (.inr saves)
  exact ⟨opened_inherited, rfl, state, now, lit (by decide +kernel), shown⟩

/-- Before that the gauge is dark, although the latch is closed. -/
theorem gauge_dark_on_inherited : Store.Opened Unit inherited.store ∧ inherited.metrics = .zero
    ∧ (∃ state, Holds state inherited ∧ state.active = true) ∧ inherited.metrics.rollbackActive = false := by
  obtain ⟨state, held⟩ : Readable inherited := (opened_inherited.throughout lasting_latched).memory
  have closed := active_inherited
  rw [held] at closed
  exact ⟨opened_inherited, rfl, ⟨state, held, Except.ok.inj closed⟩, rfl⟩

end World

end CanaryGate
