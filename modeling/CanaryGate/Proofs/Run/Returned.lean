import CanaryGate.Proofs.Decision.Assembly
import CanaryGate.Proofs.Run.Stages

/-! # Runs that returned

A run that returned went through all its stages. `Returned` holds what each stage gave and the world that
it left, so that a statement about the result is read off the stages it was put together from.
-/

namespace CanaryGate

open Attempt

variable {σ : Type}

namespace Run

/-- A trial that was finished: the candidate and the shadows, one after the other. -/
structure Tried (p : Plan σ) (runId : String) (baseline : Json) (w : World σ) (t : Trial) (w' : World σ) where
  settled : World σ
  chosen : World σ
  shadowed : World σ
  alternate : Option AltRecord
  resetting : p.resetting.outcome w = (.ok (), settled)
  before : settled.latch.map RollbackState.snapshot = .ok t.before
  selecting : (p.selecting baseline t.before).outcome settled = (.ok t.selection, chosen)
  shadowing : (p.shadowing runId baseline t.before t.selection).outcome chosen = (.ok t.shadow, shadowed)
  crossing : (p.crossing runId t.selection).outcome shadowed = (.ok alternate, w')

/-- A run that returned. -/
structure Returned (p : Plan σ) (w : World σ) (result : RunResult) (w' : World σ) where
  runId : String
  baseline : Json
  opened : World σ
  opening : p.opening.outcome w = (.ok (runId, baseline), opened)
  trial : Trial
  tried : World σ
  trying : Tried p runId baseline opened trial tried
  sample : Option RunSample
  sampling : p.sampling runId trial = .ok sample
  rollback : RollbackUpdate
  latched : World σ
  latching : (p.latching runId trial.before sample).outcome tried = (.ok rollback, latched)
  deciding : (p.input runId baseline trial sample rollback).record = .ok result.decision
  recorded : World σ
  recording : (p.recording runId trial.before result.decision).outcome latched = (.ok (), recorded)
  left : w' = { recorded with metrics := count result.decision recorded.metrics }
  proposing : servedProposals trial.selection.result p.request.maxProposals = .ok result.proposals
  runId_eq : result.runId = runId
  recordedAt_eq : result.recordedAt = p.recordedAt
  engine_eq : result.primaryEngine = result.decision.primaryEngine
  persisted_eq : result.persisted = (p.routing trial.before).trackingEnabled

namespace Plan

variable {p : Plan σ} {w w' : World σ}

/-- A run that made its selection had found its bucket, if it needed one. -/
theorem select_of_selecting {baseline : Json} {before : RollbackSnapshot} {selection : Selection}
    (h : (p.selecting baseline before).outcome w = (.ok selection, w')) :
    Succeeds p.located ∧ (Selection.select (p.routing before) p.configs.canary p.configs.primary baseline
      p.engines.candidate (p.ask p.configs.candidateMatcher)).outcome w = (.ok selection, w') := by
  obtain ⟨bucket, _, lifted, selected⟩ := bind_eq_ok.mp h
  obtain ⟨located, rfl⟩ := Prod.mk.inj lifted
  exact ⟨⟨bucket, located⟩, selected⟩

theorem tried_of_eq {runId : String} {baseline : Json} {t : Trial}
    (h : (p.trying runId baseline).outcome w = (.ok t, w')) : Nonempty (Tried p runId baseline w t w') := by
  obtain ⟨_, settled, resetting, h⟩ := bind_eq_ok.mp h
  obtain ⟨before, found, looked, h⟩ := bind_eq_ok.mp h
  rw [Rollback.outcome_snapshot] at looked
  obtain ⟨held, rfl⟩ := Prod.mk.inj looked
  obtain ⟨selection, chosen, selecting, h⟩ := bind_eq_ok.mp h
  obtain ⟨shadow, shadowed, shadowing, h⟩ := bind_eq_ok.mp h
  obtain ⟨alternate, crossed, crossing, h⟩ := bind_eq_ok.mp h
  cases h
  exact ⟨⟨settled, chosen, shadowed, alternate, resetting, held, selecting, shadowing, crossing⟩⟩

theorem returned_of_eq {result : RunResult} (h : p.attempt.outcome w = (.ok result, w')) :
    Nonempty (Returned p w result w') := by
  rw [attempt_eq] at h
  obtain ⟨⟨runId, baseline⟩, opened, opening, h⟩ := bind_eq_ok.mp h
  obtain ⟨trial, tried, trying, h⟩ := bind_eq_ok.mp h
  obtain ⟨trying⟩ := tried_of_eq trying
  obtain ⟨sample, _, lifted, h⟩ := bind_eq_ok.mp h
  obtain ⟨sampling, rfl⟩ := Prod.mk.inj lifted
  obtain ⟨rollback, latched, latching, h⟩ := bind_eq_ok.mp h
  obtain ⟨decision, _, lifted, h⟩ := bind_eq_ok.mp h
  obtain ⟨deciding, rfl⟩ := Prod.mk.inj lifted
  obtain ⟨_, recorded, recording, h⟩ := bind_eq_ok.mp h
  obtain ⟨_, _, counting, h⟩ := bind_eq_ok.mp h
  cases counting
  obtain ⟨proposals, _, lifted, h⟩ := bind_eq_ok.mp h
  obtain ⟨proposing, rfl⟩ := Prod.mk.inj lifted
  cases h
  exact ⟨⟨runId, baseline, opened, opening, trial, tried, trying, sample, sampling, rollback, latched, latching,
    deciding, recorded, recording, rfl, proposing, rfl, rfl, rfl, rfl⟩⟩

end Plan

end Run

end CanaryGate
