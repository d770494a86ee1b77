import CanaryGate.Proofs.Run.EngineLoad
import CanaryGate.Proofs.Run.LatchSafety

/-! # The candidate under a closed latch

While the latch is closed a graduated rollout selects no run, and the shadow has nothing to compare. It knows so by
the reason for which the run was skipped; but of two reasons only the first is told, and an operator's skip comes
before the latch. A shadow that is told of the operator asks the candidate all the same.
-/

namespace CanaryGate

open Attempt

variable {σ : Type}

namespace RoutingDecision

theorem placed_of_primary {canary : CanaryConfig} {primary : PrimaryConfig} (enabled : primary.enabled = true)
    (rollback : RollbackSnapshot) (bucket : Option Nat) : placed canary primary rollback bucket
      = tracked canary.forceSkip rollback.active none true true := by
  unfold placed
  rw [enabled, Bool.or_true]
  rfl

end RoutingDecision

namespace Shadow

/-- A shadow that is on, and does not know of a closed latch, keeps a record. -/
theorem stored_of_run {scene : Scene} {canary : CanaryConfig} {primary : PrimaryConfig} {routing : RoutingDecision}
    {selection : Selection} {candidate : Option (Engine σ)} {request : EngineRequest} {w w' : World σ}
    {o : ShadowOutcome} (on : canary.shadowEnabled = true) (unaware : routing.skippedReason ≠ some "rollback_active")
    (h : (run scene canary primary routing selection candidate request).outcome w = (.ok o, w')) :
    ∃ record, o.stored = some record := by
  have untold : (primary.enabled && routing.skippedReason == some "rollback_active"
      && selection.candidateResult?.isNone) = false := by simp [unaware]
  rw [run_eq, on, untold] at h
  obtain ⟨attempt, _, -, h⟩ := bind_eq_ok.mp (h : (attempting canary selection.candidateResult? candidate request >>=
    comparing scene canary primary selection).outcome w = (.ok o, w'))
  rw [comparing_eq] at h
  obtain ⟨found, _, -, h⟩ := bind_eq_ok.mp h
  obtain ⟨_, _, -, returned⟩ := bind_eq_ok.mp h
  cases returned
  exact ⟨_, rfl⟩

end Shadow

namespace Run

/-- A graduated rollout that finds the latch closed, and does not reset it. -/
structure Latched (p : Plan σ) (w : World σ) : Prop where
  enabled : p.configs.primary.enabled = true
  kept : p.configs.primary.rollbackReset = false
  closed : ∃ state, World.Holds state w ∧ state.active = true

/-- An operator's skip hides the closed latch from a shadow that is on. -/
def Plan.Hidden (p : Plan σ) : Prop := p.configs.canary.forceSkip = true ∧ p.configs.canary.shadowEnabled = true

variable {p : Plan σ} {w : World σ}

namespace Latched

theorem unreset (latched : Latched p w) : p.resets = false := by
  unfold Plan.resets
  rw [latched.kept, Bool.and_false]

/-- A graduated rollout looks for no bucket. -/
theorem located (latched : Latched p w) : p.located = .ok none := by
  unfold Plan.located RoutingDecision.bucketWith
  rw [latched.enabled, Bool.not_true, Bool.and_false]
  rfl

theorem routing_eq (latched : Latched p w) (r : Routed p w) : p.routing r.before
    = RoutingDecision.tracked p.configs.canary.forceSkip true none true true := by
  obtain ⟨state, held, active⟩ := latched.closed
  have seen := r.sight_eq
  unfold Plan.sight at seen
  rw [latched.unreset, if_neg Bool.false_ne_true, show w.latch = .ok state from held] at seen
  have before : state.snapshot = r.before := Except.ok.inj seen
  unfold Plan.routing
  rw [RoutingDecision.placed_of_primary latched.enabled, ← before]
  exact congrArg (RoutingDecision.tracked _ · _ _ _) active

theorem unselected (latched : Latched p w) (r : Routed p w) : (p.routing r.before).canarySelected = false := by
  rw [latched.routing_eq r]
  cases p.configs.canary.forceSkip with
  | false => rfl
  | true => rfl

theorem skippedReason_iff (latched : Latched p w) (r : Routed p w) :
    (p.routing r.before).skippedReason = some "rollback_active" ↔ p.configs.canary.forceSkip = false := by
  rw [latched.routing_eq r]
  cases p.configs.canary.forceSkip with
  | false => simp [RoutingDecision.tracked, RoutingDecision.skipReason]
  | true => simp [RoutingDecision.tracked, RoutingDecision.skipReason]

theorem candidateResult?_eq (latched : Latched p w) (c : Chosen p w) : c.selection.candidateResult? = none := by
  rw [c.course.candidateResult?_eq, latched.unselected c.toRouted]
  rfl

/-- The shadow makes an attempt exactly where the latch is hidden from it. -/
theorem attempts_iff (latched : Latched p w) (c : Chosen p w) :
    Shadow.attempts p.configs.canary p.configs.primary (p.routing c.before) c.selection = true ↔ p.Hidden := by
  rw [Plan.attempts_iff, latched.candidateResult?_eq c]
  unfold Plan.Hidden
  have told := latched.skippedReason_iff c.toRouted
  cases skip : p.configs.canary.forceSkip with
  | false => simp [told.mpr skip, latched.enabled]
  | true =>
      have untold : (p.routing c.before).skippedReason ≠ some "rollback_active" := by
        intro reason
        rw [told.mp reason] at skip
        contradiction
      simp [untold]

/-- A run whose baseline answers makes a selection. -/
theorem chosen_of_opened (latched : Latched p w) (opened : Finishes p.opening w) : Nonempty (Chosen p w) := by
  obtain ⟨state, held, active⟩ := latched.closed
  obtain ⟨⟨runId, baseline⟩, v, opening⟩ := opened.eq
  have resetting : p.resetting.outcome v = (.ok (), v) := by
    unfold Plan.resetting
    rw [latched.unreset]
    rfl
  have looked : v.latch.map RollbackState.snapshot = .ok state.snapshot := by
    have same : v.latch = w.latch := (World.latch_of_leaves (p.leaves_opening (by decide))).of_eq opening
    rw [same, show w.latch = .ok state from held]
    rfl
  let r : Routed p w := ⟨runId, baseline, v, opening, v, resetting, state.snapshot, looked⟩
  have selecting : (p.selecting baseline state.snapshot).outcome v = (.ok (.baseline baseline), v) := by
    unfold Plan.selecting Selection.select
    rw [show (p.routing state.snapshot).canarySelected = false from latched.unselected r, latched.located]
    rfl
  exact ⟨{ r with selection := .baseline baseline, chosen := v, selecting }⟩

end Latched

/-- What a run under a closed latch has to do with the candidate. -/
structure Spared (p : Plan σ) (w : World σ) : Prop where
  /-- The candidate is asked once at most, -/
  once : p.asked w .candidate = [] ∨ p.asked w .candidate = [p.ask p.configs.candidateMatcher]
  /-- and is asked exactly if the latch is hidden, the baseline answers, and nothing else keeps the shadow from it. -/
  asked_iff : p.asked w .candidate ≠ [] ↔ p.Hidden ∧ Finishes p.opening w
    ∧ p.configs.canary.forceShadowError = false ∧ ∃ engine, p.engines.candidate = some engine
  /-- No record of the shadow is stored unless the latch is hidden. -/
  unstored : ¬ p.Hidden → p.compared w = [] ∧ (p.attempt.outcome w).2.shows Shadow.space = w.shows Shadow.space
  stored_iff : ∀ result w', p.attempt.outcome w = (.ok result, w') → (p.compared w ≠ [] ↔ p.Hidden)

theorem Returned.compared_eq {result : RunResult} {w' : World σ} (r : Returned p w result w') : p.compared w
    = (r.trial.shadow.stored.map fun record => ⟨r.runId, .comparison record, p.limit .comparisons⟩).toList := by
  unfold Plan.compared Shelf.puts
  rw [Plan.puts_steps r, Returned.puts]
  cases r.trial.shadow.stored <;> cases r.trying.alternate <;> cases p.tracked <;> rfl

theorem Latched.hears (latched : Latched p w) : p.asked w .candidate = []
    ∨ p.asked w .candidate = [p.ask p.configs.candidateMatcher] ∧ p.Hidden ∧ Finishes p.opening w
      ∧ p.configs.canary.forceShadowError = false ∧ ∃ engine, p.engines.candidate = some engine := by
  have hears := Plan.candidate_hears (p.asks_invocations w)
  unfold Plan.asked
  generalize Seat.candidate.heard (p.invocations w) = requests at hears
  cases hears with
  | nothing => exact .inl rfl
  | attempt r selected =>
      rw [latched.unselected r] at selected
      contradiction
  | shadow c attempts free configured =>
      exact .inr ⟨rfl, (latched.attempts_iff c).mp attempts, finishes_of_eq c.opening, free, configured⟩
  | both c selected =>
      rw [latched.unselected c.toRouted] at selected
      contradiction

theorem Latched.asked_of_hidden (latched : Latched p w) (hidden : p.Hidden) (opened : Finishes p.opening w)
    (free : p.configs.canary.forceShadowError = false) (configured : ∃ engine, p.engines.candidate = some engine) :
    p.asked w .candidate ≠ [] := by
  obtain ⟨c⟩ := latched.chosen_of_opened opened
  obtain ⟨engine, here⟩ := configured
  obtain ⟨more, asked⟩ := Plan.invocations_of_chosen c
  have due : p.shadowLoad c.before c.selection = [⟨.candidate, p.ask p.configs.candidateMatcher⟩] := by
    unfold Plan.shadowLoad
    rw [if_pos ((latched.attempts_iff c).mpr hidden), free, here]
    rfl
  unfold Plan.asked
  rw [asked, due]
  simp [Seat.heard]

/-- A shadow from which the latch is not hidden is off, or knows the latch to be closed. -/
theorem Latched.compared_of_shown (latched : Latched p w) (shown : ¬ p.Hidden) : p.compared w = [] := by
  refine Plan.compared_of_idle fun c => ?_
  cases skip : p.configs.canary.forceSkip with
  | false =>
      have told := (latched.skippedReason_iff c.toRouted).mpr skip
      exact .inr ⟨latched.enabled, told, latched.candidateResult?_eq c⟩
  | true => exact .inl (Bool.eq_false_iff.mpr fun on => shown ⟨skip, on⟩)

/-- Under a closed latch a graduated rollout neither asks the candidate nor stores a comparison, unless an operator's
skip hides the latch from a shadow that is on. -/
theorem spared_of_latched (latched : Latched p w) : Spared p w where
  once := latched.hears.imp_right And.left
  asked_iff := by
    constructor
    · intro asked
      exact (latched.hears.resolve_left asked).2
    · rintro ⟨hidden, opened, free, configured⟩
      exact latched.asked_of_hidden hidden opened free configured
  unstored := fun shown => ⟨latched.compared_of_shown shown, p.shows_of_unput w (latched.compared_of_shown shown)⟩
  stored_iff := by
    intro result w' ran
    constructor
    · intro stored
      by_contra shown
      exact stored (latched.compared_of_shown shown)
    · rintro ⟨skip, on⟩
      obtain ⟨r⟩ := Plan.returned_of_eq ran
      have unaware : (p.routing r.trial.before).skippedReason ≠ some "rollback_active" := by
        intro reason
        rw [(latched.skippedReason_iff r.toward.toRouted).mp reason] at skip
        contradiction
      obtain ⟨record, stored⟩ := Shadow.stored_of_run on unaware r.trying.shadowing
      rw [r.compared_eq, stored]
      exact List.cons_ne_nil _ _

/-- A state of the latch that a failed run has left. -/
def closedState : RollbackState :=
  ⟨true, some "v2_canary_error_rate_exceeded", some "2026-03-01T12:00:00.000Z", some "mrun_000001", []⟩

/-- A store in which the latch is closed. -/
def closedWorld : World Unit :=
  ⟨.inMemory [(Rollback.space, .obj [(Rollback.key, .obj closedState.toFields)])], .zero, [], ()⟩

/-- A graduated rollout whose shadow is on, with or without an operator's skip. -/
def shadowedPrimary (forceSkip : Bool) : Plan Unit :=
  let answering (name : String) : Engine Unit := ⟨name, fun _ s => (.ok (.obj [("matching", .obj [])]), s)⟩
  ⟨⟨some (answering "v1"), some (answering "v2"), none⟩, ⟨2026, 3, 1, 13, 0, 0, 0⟩,
    ⟨.unknown, none, some "2026-03-01T13:00:00.000Z", [], [], [], 50, none⟩,
    ⟨{ CanaryConfig.default with forceSkip, shadowEnabled := true }, { PrimaryConfig.default with enabled := true },
      .default, .default, .default⟩, none⟩

theorem latched_shadowedPrimary (forceSkip : Bool) : Latched (shadowedPrimary forceSkip) closedWorld where
  enabled := rfl
  kept := rfl
  closed := ⟨closedState, Rollback.decode_toFields closedState, rfl⟩

theorem spared_without_skip : Latched (shadowedPrimary false) closedWorld
    ∧ (shadowedPrimary false).asked closedWorld .candidate = []
    ∧ (shadowedPrimary false).compared closedWorld = [] := by
  have latched := latched_shadowedPrimary false
  have spared := spared_of_latched latched
  have shown : ¬ (shadowedPrimary false).Hidden := fun hidden => absurd hidden.1 Bool.false_ne_true
  refine ⟨latched, ?_, (spared.unstored shown).1⟩
  by_contra asked
  exact shown (spared.asked_iff.mp asked).1

/-- An operator's skip lets the candidate be asked, and a comparison be stored, although the latch is closed. -/
theorem asked_despite_latch : Latched (shadowedPrimary true) closedWorld
    ∧ (shadowedPrimary true).asked closedWorld .candidate ≠ []
    ∧ (((shadowedPrimary true).attempt.outcome closedWorld).2.shows Shadow.space).isSome = true := by
  have latched := latched_shadowedPrimary true
  have opened : Finishes (shadowedPrimary true).opening closedWorld := finishes_iff_isOk.mpr (by decide +kernel)
  exact ⟨latched, latched.asked_of_hidden ⟨rfl, rfl⟩ opened rfl ⟨_, rfl⟩, by decide +kernel⟩

end Run

end CanaryGate
