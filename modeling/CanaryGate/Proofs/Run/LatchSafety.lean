import CanaryGate.Proofs.Run.Frame
import CanaryGate.Proofs.Run.History
import CanaryGate.Proofs.Run.Returned

/-! # A closed latch stays closed

Runs, updates and resets happen to one store in any order, under any configurations and with any engines,
and some of them fail half way. Every stage of a run either leaves the latch alone or goes through
`Rollback.step`, which returns a closed latch as it was; so from the moment it closes nothing but a reset
changes it, and every run in between is served by the baseline.
-/

namespace CanaryGate

open Attempt

variable {σ : Type}

namespace World

/-- The store holds the state. -/
def Holds (state : RollbackState) (w : World σ) : Prop := w.latch = .ok state

/-- The store holds some state; nothing in it keeps the latch from being read. -/
def Readable (w : World σ) : Prop := ∃ state, Holds state w

end World

open World

namespace Rollback

theorem holds_update {state : RollbackState} {w : World σ} (held : Holds state w) (config : CanaryConfig)
    (runId recordedAt : String) (sample : Option RunSample) :
    Holds (step state config runId recordedAt sample).1
      ((update config runId recordedAt sample : Attempt (World σ) RollbackUpdate).outcome w).2 :=
  Call.latch_leave held (.update config runId recordedAt sample)

theorem keeps_update {state : RollbackState} (active : state.active = true) (config : CanaryConfig)
    (runId recordedAt : String) (sample : Option RunSample) :
    Keeps (Holds state) (update config runId recordedAt sample : Attempt (World σ) RollbackUpdate) := by
  intro w held
  have after := holds_update held config runId recordedAt sample
  rwa [(step_of_active active config runId recordedAt sample).1] at after

end Rollback

namespace Run

/-- What is said about the latch, and survives what a run does to it. -/
structure Stable (p : Plan σ) (P : Except Fault RollbackState → Prop) : Prop where
  reset : p.resets = true → Keeps (fun w => P w.latch) (Rollback.reset : Attempt (World σ) RollbackState)
  update : ∀ runId sample, Keeps (fun w => P w.latch) (Rollback.update p.configs.canary runId p.recordedAt sample :
    Attempt (World σ) RollbackUpdate)

namespace Stable

variable {p : Plan σ} {P : Except Fault RollbackState → Prop}

theorem keeps {α : Type} {a : Attempt (World σ) α} (h : Leaves (shows Rollback.space) a) :
    Keeps (fun w => P w.latch) a := (latch_of_leaves h).keeps P

theorem opening : Keeps (fun w => P w.latch) p.opening := keeps (p.leaves_opening (by decide))

theorem resetting (stable : Stable p P) : Keeps (fun w => P w.latch) p.resetting := by
  unfold Plan.resetting
  cases asked : p.resets with
  | false => exact .pure _
  | true => exact (stable.reset asked).bind fun _ => .pure _

theorem latching (stable : Stable p P) (runId : String) (before : RollbackSnapshot) (sample : Option RunSample) :
    Keeps (fun w => P w.latch) (p.latching runId before sample) :=
  .ite (stable.update runId sample) (keeps (leaves_of_store (leaves_untouched _ _)))

theorem attempt (stable : Stable p P) : Keeps (fun w => P w.latch) p.attempt :=
  Preserves.attempt (P := fun s => P (Rollback.stateIn (s.shows Rollback.space))) {
    opening := opening
    resetting := stable.resetting
    shadowing := fun runId baseline before selection =>
      keeps (p.leaves_shadowing (by decide) runId baseline before selection)
    crossing := fun runId selection => keeps (p.leaves_crossing (by decide) runId selection)
    latching := stable.latching
    recording := fun runId before decision => keeps (p.leaves_recording (by decide) runId before decision) }

end Stable

theorem Plan.outcome_of_unopened {p : Plan σ} {w : World σ} (h : ¬ Finishes p.opening w) :
    (p.attempt.outcome w).2 = (p.opening.outcome w).2 := by
  rw [p.attempt_eq]
  exact left_of_unfinished h

theorem stable_maintained {P : RollbackState → Prop} (maintained : Rollback.Maintained P) (p : Plan σ) :
    Stable p fun found => ∃ state, found = .ok state ∧ P state where
  reset := by
    rintro - w ⟨state, held, h⟩
    exact ⟨_, Rollback.Call.latch_leave held .reset, maintained.next h .reset⟩
  update := by
    rintro runId sample w ⟨state, held, h⟩
    exact ⟨_, Rollback.holds_update held p.configs.canary runId p.recordedAt sample, maintained.next h (.update ..)⟩

theorem stable_holds {p : Plan σ} (quiet : p.resets = false) {state : RollbackState} (active : state.active = true) :
    Stable p fun found => found = .ok state where
  reset := by
    intro asked
    rw [quiet] at asked
    contradiction
  update := fun runId sample => Rollback.keeps_update active p.configs.canary runId p.recordedAt sample

/-- The result of a run that a closed latch kept away from the candidate. -/
structure KeptAway (result : RunResult) : Prop where
  unselected : result.decision.canarySelected = false
  served : result.primaryEngine = .v1
  recorded : result.decision.primaryEngine = .v1
  unsampled : result.decision.sample = none
  untriggered : result.decision.rollback.triggered = false

theorem keptAway_of_unselected {p : Plan σ} {w w' : World σ} {result : RunResult} (r : Returned p w result w')
    (unselected : (p.routing r.trial.before).canarySelected = false) (untriggered : r.rollback.triggered = false) :
    KeptAway result := by
  obtain ⟨metrics, engine, -, named, decided⟩ := DecisionInput.record_eq_ok r.deciding
  have chosen : r.trial.selection = .baseline r.baseline := by
    have selecting := (Plan.select_of_selecting r.trying.selecting).2
    simp only [Selection.select, unselected, Bool.not_false, if_true, outcome_pure] at selecting
    exact (Except.ok.inj (congrArg Prod.fst selecting)).symm
  have unsampled : r.sample = none := by
    have sampling := r.sampling
    simp only [Plan.sampling, RunSample.ofRun, unselected, Bool.not_false, if_true] at sampling
    exact (Except.ok.inj sampling).symm
  have served : engine = .v1 := by
    have checked : EngineName.check r.trial.selection.engine.text = .ok engine := named
    rw [chosen, EngineName.check_text] at checked
    exact (Except.ok.inj checked).symm
  have engineOf : result.decision.primaryEngine = .v1 := by rw [decided, served]
  exact {
    unselected := by rw [decided]; exact unselected
    served := r.engine_eq.trans engineOf
    recorded := engineOf
    unsampled := by rw [decided]; exact unsampled
    untriggered := by rw [decided]; exact untriggered }

theorem holds_tried {p : Plan σ} {runId : String} {baseline : Json} {w w' : World σ} {t : Trial}
    (tried : Tried p runId baseline w t w') {state : RollbackState} (held : Holds state tried.settled) :
    Holds state w' := by
  have chosen := (latch_of_leaves (leaves_of_store (p.leaves_selecting _ _))).of_eq tried.selecting
  have shadowed := (latch_of_leaves (p.leaves_shadowing (by decide) _ _ _ _)).of_eq tried.shadowing
  have crossed := (latch_of_leaves (p.leaves_crossing (by decide) _ _)).of_eq tried.crossing
  exact (crossed.trans (shadowed.trans chosen)).trans held

theorem untriggered_of_holds {p : Plan σ} {runId : String} {before : RollbackSnapshot} {sample : Option RunSample}
    {w w' : World σ} {u : RollbackUpdate} {state : RollbackState} (active : state.active = true)
    (held : Holds state w) (latching : (p.latching runId before sample).outcome w = (.ok u, w')) :
    u.triggered = false := by
  unfold Plan.latching at latching
  split at latching
  · obtain ⟨found, holds, rfl⟩ := Rollback.report_of_update latching
    obtain rfl : state = found := Except.ok.inj (held.symm.trans holds)
    exact (Rollback.step_of_active active p.configs.canary runId p.recordedAt sample).2
  · obtain ⟨_, _, -, returned⟩ := bind_eq_ok.mp latching
    cases returned
    rfl

/-- A run that finds the latch closed, and does not reset it, is kept away from the candidate. -/
theorem keptAway_of_holds {p : Plan σ} {w w' : World σ} {result : RunResult} (r : Returned p w result w')
    (quiet : p.resets = false) {state : RollbackState} (active : state.active = true) (held : Holds state w) :
    KeptAway result := by
  have stable := stable_holds quiet active
  have opened : Holds state r.opened := Keeps.of_eq (Stable.opening (P := fun found => found = .ok state)) r.opening held
  have settled : Holds state r.trying.settled := stable.resetting.of_eq r.trying.resetting opened
  have seen : r.trial.before = state.snapshot := by
    have before := r.trying.before
    rw [settled] at before
    exact (Except.ok.inj before).symm
  refine keptAway_of_unselected r ?_ (untriggered_of_holds active (holds_tried r.trying settled) r.latching)
  rw [seen]
  exact RoutingDecision.canarySelected_of_active active _ _ _

end Run

open Run

namespace Event

theorem maintained_leave {P : RollbackState → Prop} (maintained : Rollback.Maintained P) {w : World σ}
    (h : ∃ state, Holds state w ∧ P state) (event : Event σ) : ∃ state, Holds state (event.leave w) ∧ P state := by
  cases event with
  | call c =>
      obtain ⟨state, held, h⟩ := h
      exact ⟨_, Rollback.Call.latch_leave held c, maintained.next h c⟩
  | run plan => exact (stable_maintained maintained plan).attempt w h

/-- Only a reset changes what a closed latch holds. -/
theorem holds_leave {state : RollbackState} (active : state.active = true) {w : World σ} (held : Holds state w)
    {event : Event σ} (unreset : ¬ event.Resets w) : Holds state (event.leave w) := by
  cases event with
  | call c =>
      have same : c.next state = state := Rollback.next_of_active active unreset
      exact (Rollback.Call.latch_leave held c).trans (congrArg Except.ok same)
  | run plan =>
      by_cases finished : Finishes plan.opening w
      · have quiet : plan.resets = false := by
          cases asked : plan.resets with
          | false => rfl
          | true => exact absurd ⟨asked, finished⟩ unreset
        exact (stable_holds quiet active).attempt w held
      · show Holds state (plan.attempt.outcome w).2
        rw [Plan.outcome_of_unopened finished]
        exact Stable.opening (P := fun found => found = .ok state) w held

end Event

namespace World

/-- What calls maintain holds of every state that a history reaches. -/
theorem maintained_after {P : RollbackState → Prop} (maintained : Rollback.Maintained P) {w : World σ}
    (empty : w.store.namespaces = []) (events : List (Event σ)) : ∃ state, Holds state (w.after events) ∧ P state := by
  induction events using List.reverseRecOn with
  | nil => exact ⟨_, latch_of_empty empty, maintained.clear⟩
  | append_singleton events event ih =>
      rw [after_snoc]
      exact Event.maintained_leave maintained ih event

theorem readable_after {w : World σ} (empty : w.store.namespaces = []) (events : List (Event σ)) :
    Readable (w.after events) := by
  obtain ⟨state, held, -⟩ := maintained_after (P := fun _ => True) ⟨trivial, fun _ _ => trivial⟩ empty events
  exact ⟨state, held⟩

theorem holds_after {state : RollbackState} (active : state.active = true) {w : World σ} (held : Holds state w)
    {events : List (Event σ)} (unreset : w.Unreset events) : Holds state (w.after events) := by
  induction events generalizing w with
  | nil => exact held
  | cons event rest ih => exact ih (Event.holds_leave active held unreset.1) unreset.2

/-- In a store that started empty a closed latch keeps all that it holds until the next reset, and every run
that returns until then is kept away from the candidate. -/
theorem latch_stays_closed {w : World σ} (empty : w.store.namespaces = []) (past : List (Event σ)) :
    ∃ state, Holds state (w.after past) ∧ (state.active = true → ∀ future, (w.after past).Unreset future →
      Holds state ((w.after past).after future) ∧
        ∀ plan result w', ¬ (Event.run plan).Resets ((w.after past).after future) →
          plan.attempt.outcome ((w.after past).after future) = (.ok result, w') → KeptAway result) := by
  obtain ⟨state, held⟩ := readable_after empty past
  refine ⟨state, held, fun active future unreset => ?_⟩
  have still := holds_after active held unreset
  refine ⟨still, fun plan result w' quiet returned => ?_⟩
  obtain ⟨r⟩ := Plan.returned_of_eq returned
  have unasked : plan.resets = false := by
    cases asked : plan.resets with
    | false => rfl
    | true => exact absurd ⟨asked, _, congrArg Prod.fst r.opening⟩ quiet
  exact keptAway_of_holds r unasked active still

/-- A failed run closes the latch, and the next run is served by the baseline although the candidate is the
primary engine. -/
theorem keptAway_after_failed_run :
    let w : World Unit := ⟨.inMemory [], .zero, [], ()⟩
    let past : List (Event Unit) := [.call (.update .default "mrun_000001" "2026-03-01T12:00:00.000Z"
      (some ⟨"mrun_000001", "2026-03-01T12:00:00.000Z", true, false, false, false⟩))]
    let result : Json := .obj [("matching", .obj [])]
    let engine : Engine Unit := ⟨"engine", fun _ s => (.ok result, s)⟩
    let plan : Plan Unit := ⟨⟨some engine, some engine, none⟩, ⟨2026, 3, 1, 13, 0, 0, 0⟩,
      ⟨.unknown, none, some "2026-03-01T13:00:00.000Z", [], [], [], 50, none⟩,
      ⟨.default, { PrimaryConfig.default with enabled := true }, .default, .default, .default⟩, none⟩
    w.store.namespaces = [] ∧ ∃ state, Holds state (w.after past) ∧ state.active = true
      ∧ ∃ result w', plan.attempt.outcome (w.after past) = (.ok result, w') ∧ KeptAway result := by
  intro w past result engine plan
  obtain ⟨state, held, safe⟩ := latch_stays_closed (w := w) rfl past
  have active : state.active = true := by
    have closed : (w.after past).latch.map (·.active) = .ok true := by decide +kernel
    rw [held] at closed
    exact Except.ok.inj closed
  refine ⟨rfl, state, held, active, ?_⟩
  have finished : (plan.attempt.outcome (w.after past)).1.toOption.isSome = true := by decide +kernel
  cases ran : plan.attempt.outcome (w.after past) with
  | mk r w' =>
      cases r with
      | error fault =>
          rw [ran] at finished
          contradiction
      | ok result =>
          exact ⟨result, w', rfl, (safe active [] trivial).2 plan result w' (fun resets => Bool.noConfusion resets.1) ran⟩

end World

end CanaryGate
