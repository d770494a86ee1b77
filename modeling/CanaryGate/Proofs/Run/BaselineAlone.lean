import CanaryGate.Proofs.Comparison.Accessors
import CanaryGate.Proofs.Run.Serving

/-! # The baseline served alone

With the candidate and the shadows turned off a run has nothing to serve but the baseline's answer, of which
no more is known than that it is a matching result. The run reads two values of it. It is served whatever they
are, except where the reported cycles are an infinite number or the proposals a number or a truth value: then
the run stops after its number was taken.
-/

namespace CanaryGate

open Attempt

variable {σ : Type}

namespace DecisionInput

variable {d : DecisionInput}

theorem record_of_error {fault : Fault} (uncounted : candidateCycles d.baselineResult = .error fault) :
    d.record = .error fault := by
  unfold record metrics
  rw [uncounted]
  rfl

theorem record_of_uncompared (uncompared : d.diff = none) {engine : EngineName}
    (named : EngineName.check d.served = .ok engine) {cycles primary : Int}
    (counted : candidateCycles d.baselineResult = .ok cycles) (served : candidateCycles d.servedResult = .ok primary) :
    ∃ r, d.record = .ok r ∧ r.primaryEngine = engine ∧ r.metrics = ⟨cycles, none, primary, none, none, none⟩ := by
  unfold record metrics
  rw [uncompared, named, counted, served]
  exact ⟨_, rfl, rfl, rfl⟩

end DecisionInput

namespace Run

/-- The run serves the baseline's answer: its first proposals that are objects, and the cycles that it reports. -/
structure ServesBaseline (p : Plan σ) (baseline : Json) (result : RunResult) : Prop where
  engine : result.primaryEngine = .v1
  proposals : result.proposals = takeUpTo p.request.maxProposals (reported baseline "proposals").objects
  cycles : result.decision.metrics.baselineCycles = (reportedCycles baseline).wholeOrZero
  servedCycles : result.decision.metrics.primaryCycles = (reportedCycles baseline).wholeOrZero

namespace Plan

variable {p : Plan σ} {w opened : World σ} {runId : String} {baseline : Json} {state : RollbackState}

/-- What a plain run finds out: the latch, and nothing of the candidate. -/
def plainTrial (baseline : Json) (state : RollbackState) : Trial :=
  ⟨state.snapshot, .baseline baseline, ⟨none, .none, none, none, false⟩⟩

theorem outcome_trying_plain (held : World.Holds state w) :
    (p.plain.trying runId baseline).outcome w = (.ok (plainTrial baseline state), w) := by
  have seen : (Rollback.snapshot : Attempt (World σ) RollbackSnapshot).outcome w = (.ok state.snapshot, w) := by
    rw [Rollback.outcome_snapshot]
    exact congrArg (fun found => (found.map RollbackState.snapshot, w)) held
  unfold trying
  rw [outcome_bind_of_ok (rfl : p.plain.resetting.outcome w = (.ok (), w)), outcome_bind_of_ok seen]
  rfl

theorem matching_of_opening (opening : p.opening.outcome w = (.ok (runId, baseline), opened)) :
    isMatchingResult baseline = true := by
  obtain ⟨answered, -⟩ := engines_of_opening opening
  obtain ⟨engine, -, answered⟩ := Option.bind_eq_some_iff.mp answered
  exact Engine.matching_of_answer? answered

/-- The decision of a plain run hangs on the baseline's cycles alone. -/
theorem outcome_deciding_plain (p : Plan σ) (runId : String) (baseline : Json) (held : World.Holds state w) :
    ∃ rollback, (p.plain.deciding runId baseline (plainTrial baseline state)).outcome w
      = ((p.plain.input runId baseline (plainTrial baseline state) none rollback).record, w) := by
  have loaded : (Rollback.load : Attempt (World σ) RollbackState).outcome w = (.ok state, w) := by
    rw [Rollback.outcome_load]
    exact congrArg (·, w) held
  have sampled : (Attempt.lift (p.plain.sampling runId (plainTrial baseline state)) :
      Attempt (World σ) (Option RunSample)).outcome w = (.ok none, w) := rfl
  let update : RollbackUpdate :=
    ⟨state.snapshot, state.snapshot, (WindowSummary.ofWindow [] p.configs.canary.thresholds).toFields, false⟩
  have latched : (p.plain.latching runId (plainTrial baseline state).before none).outcome w = (.ok update, w) :=
    outcome_bind_of_ok loaded
  refine ⟨update, ?_⟩
  unfold deciding
  rw [outcome_bind_of_ok sampled, outcome_bind_of_ok latched]
  rfl

/-- How a plain run ends once the baseline has answered. -/
theorem outcome_of_plain (held : World.Holds state opened)
    (opening : p.opening.outcome w = (.ok (runId, baseline), opened)) :
    p.plain.attempt.outcome w = (p.plain.closing runId baseline (plainTrial baseline state)).outcome opened := by
  have opening : p.plain.opening.outcome w = (.ok (runId, baseline), opened) := opening
  rw [attempt_eq, outcome_bind_of_ok opening, outcome_bind_of_ok (outcome_trying_plain held)]

theorem plain_stops_of_infinite (held : World.Holds state opened)
    (opening : p.opening.outcome w = (.ok (runId, baseline), opened))
    (infinite : (reportedCycles baseline).isInfinite = true) :
    p.plain.attempt.outcome w = (.error .infiniteInteger, opened) := by
  obtain ⟨rollback, decided⟩ := p.outcome_deciding_plain runId baseline held
  have uncounted : candidateCycles baseline = .error .infiniteInteger := by
    rw [candidateCycles_of_matching (matching_of_opening opening), if_pos infinite]
  rw [DecisionInput.record_of_error uncounted] at decided
  rw [outcome_of_plain held opening, closing_eq, outcome_bind_of_error decided]

theorem outcome_plain_of_finite (held : World.Holds state opened)
    (opening : p.opening.outcome w = (.ok (runId, baseline), opened))
    (finite : (reportedCycles baseline).isInfinite = false) : ∃ decision : DecisionRecord,
      decision.primaryEngine = .v1
      ∧ decision.metrics = ⟨(reportedCycles baseline).wholeOrZero, none, (reportedCycles baseline).wholeOrZero, none,
          none, none⟩
      ∧ p.plain.attempt.outcome w = ((servedProposals baseline p.request.maxProposals).map fun proposals =>
          ⟨runId, p.recordedAt, decision.primaryEngine, proposals, decision, false⟩,
        { opened with metrics := count decision opened.metrics }) := by
  obtain ⟨rollback, decided⟩ := p.outcome_deciding_plain runId baseline held
  have counted : candidateCycles baseline = .ok (reportedCycles baseline).wholeOrZero := by
    rw [candidateCycles_of_matching (matching_of_opening opening), finite]
    rfl
  obtain ⟨decision, made, engine, metrics⟩ := DecisionInput.record_of_uncompared
    (d := p.plain.input runId baseline (plainTrial baseline state) none rollback) rfl
    (EngineName.check_text .v1) counted counted
  rw [made] at decided
  refine ⟨decision, engine, metrics, ?_⟩
  have unrecorded : (p.plain.recording runId (plainTrial baseline state).before decision).outcome opened
    = (.ok (), opened) := rfl
  rw [outcome_of_plain held opening, closing_eq, outcome_bind_of_ok decided, outcome_bind_of_ok unrecorded]
  show (Attempt.lift (servedProposals baseline p.request.maxProposals) >>= _).outcome _ = _
  cases servedProposals baseline p.request.maxProposals with
  | error fault => rfl
  | ok proposals => rfl

theorem servedProposals_of_opening (opening : p.opening.outcome w = (.ok (runId, baseline), opened)) :
    servedProposals baseline p.request.maxProposals = if (reported baseline "proposals").isSolid then .error .unsuitable
      else .ok (takeUpTo p.request.maxProposals (reported baseline "proposals").objects) := by
  have matching := matching_of_opening opening
  rw [servedProposals_of_matching matching, selectedProposals_of_matching matching]

end Plan

end Run

open Run

namespace World

/-- In every store that histories reach from an empty one, whatever matching result the baseline answers is served
by a plain run, unless its cycles are infinite or its proposals cannot be looked through. Then the run stops, and
in every case the store is left as it was once the run was numbered. -/
theorem baseline_served_iff {w opened : World σ} (empty : w.store.namespaces = []) (events : List (Event σ)) (p : Plan σ)
    {runId : String} {baseline : Json}
    (opening : p.opening.outcome (w.after events) = (.ok (runId, baseline), opened)) :
    ((∃ result, (p.plain.attempt.outcome (w.after events)).1 = .ok result ∧ ServesBaseline p baseline result) ↔
        (reportedCycles baseline).isInfinite = false ∧ (reported baseline "proposals").isSolid = false)
      ∧ ((reportedCycles baseline).isInfinite = true →
        (p.plain.attempt.outcome (w.after events)).1 = .error .infiniteInteger)
      ∧ ((reportedCycles baseline).isInfinite = false → (reported baseline "proposals").isSolid = true →
        (p.plain.attempt.outcome (w.after events)).1 = .error .unsuitable)
      ∧ (p.plain.attempt.outcome (w.after events)).2.store = opened.store := by
  obtain ⟨state, held⟩ := readable_after empty events
  have held : World.Holds state opened :=
    Keeps.of_eq (Stable.opening (P := fun shown => shown = .ok state)) opening held
  cases infinite : (reportedCycles baseline).isInfinite with
  | true =>
      rw [Plan.plain_stops_of_infinite held opening infinite]
      simp
  | false =>
      obtain ⟨decision, engine, metrics, ran⟩ := Plan.outcome_plain_of_finite held opening infinite
      rw [Plan.servedProposals_of_opening opening] at ran
      rw [ran]
      cases solid : (reported baseline "proposals").isSolid with
      | true => simp [Except.map]
      | false =>
          refine ⟨⟨fun _ => ⟨rfl, rfl⟩, fun _ => ⟨_, rfl, engine, rfl, ?_, ?_⟩⟩, by simp, by simp, rfl⟩
          · exact congrArg DecisionMetrics.baselineCycles metrics
          · exact congrArg DecisionMetrics.primaryCycles metrics

/-- A baseline that reports neither its cycles nor its proposals as they should be is served after a run was. -/
theorem baseline_served_of_misreported :
    let w : World Unit := ⟨.inMemory [], .zero, [], ()⟩
    let baseline : Json := .obj [("matching", .obj [("stats", .obj [("candidate_cycles", .str "many")]),
      ("proposals", .arr [.int 3, .obj [("id", .str "p1")], .null])])]
    let p : Plan Unit := ⟨⟨some ⟨"v1", fun _ s => (.ok baseline, s)⟩, none, none⟩, ⟨2026, 3, 1, 13, 0, 0, 0⟩,
      ⟨.unknown, none, some "2026-03-01T13:00:00.000Z", [], [], [], 50, none⟩,
      ⟨.default, .default, .default, .default, .default⟩, none⟩
    let past : List (Event Unit) := [.run p]
    w.store.namespaces = [] ∧ ∃ runId opened, p.opening.outcome (w.after past) = (.ok (runId, baseline), opened)
      ∧ ∃ result, (p.plain.attempt.outcome (w.after past)).1 = .ok result ∧ ServesBaseline p baseline result := by
  intro w baseline p past
  have opens : Finishes p.opening (w.after past) := finishes_iff_isOk.mpr (by decide +kernel)
  obtain ⟨⟨runId, answer⟩, opened, opening⟩ := opens.eq
  obtain ⟨answered, -⟩ := Plan.engines_of_opening opening
  obtain rfl : baseline = answer := Option.some.inj answered
  exact ⟨rfl, runId, opened, opening, (baseline_served_iff (w := w) rfl past p opening).1.mpr ⟨rfl, rfl⟩⟩

/-- A baseline whose proposals are a number is not served. -/
theorem baseline_unserved_of_numeric_proposals :
    let w : World Unit := ⟨.inMemory [], .zero, [], ()⟩
    let baseline : Json := .obj [("matching", .obj [("proposals", .int 5)])]
    let p : Plan Unit := ⟨⟨some ⟨"v1", fun _ s => (.ok baseline, s)⟩, none, none⟩, ⟨2026, 3, 1, 12, 0, 0, 0⟩,
      ⟨.unknown, none, some "2026-03-01T12:00:00.000Z", [], [], [], 50, none⟩,
      ⟨.default, .default, .default, .default, .default⟩, none⟩
    w.store.namespaces = [] ∧ Finishes p.opening w ∧ p.baselineAnswer? w.engines = some baseline
      ∧ ¬ ∃ result, (p.plain.attempt.outcome w).1 = .ok result ∧ ServesBaseline p baseline result := by
  intro w baseline p
  have opens : Finishes p.opening w := finishes_iff_isOk.mpr (by decide +kernel)
  have stopped : (p.plain.attempt.outcome w).1.isOk = false := by decide +kernel
  refine ⟨rfl, opens, rfl, ?_⟩
  rintro ⟨result, ran, -⟩
  rw [ran] at stopped
  contradiction

end World

end CanaryGate
