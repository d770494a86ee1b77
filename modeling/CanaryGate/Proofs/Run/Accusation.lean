import CanaryGate.Proofs.Run.Blame
import CanaryGate.Proofs.Run.Footprint

/-! # When the baseline is blamed

A run stops with the baseline's failure exactly if it got its number and the baseline then failed, in words that the
log takes. Whether it is blamed or not, a baseline that failed was asked once, and nothing else of the run is made.
-/

namespace CanaryGate

open Attempt

variable {σ : Type}

namespace Run

/-- The baseline is asked, and nothing else touches the engines. -/
theorem engines_baselineResult (engine : Engine σ) (request : EngineRequest) (w : World σ) :
    ((baselineResult (some engine) request).outcome w).2.engines = (engine.respond request w.engines).2 := by
  unfold baselineResult
  refine (Leaves.bind_after ?concluding w).trans (engine.engines_execute request baselineCode w)
  case concluding =>
    intro outcome
    cases outcome with
    | ok result => exact .pure result
    | err code failure => exact .stop _

variable {p : Plan σ} {w : World σ} {engine : Engine σ} {failure : EngineFailure}

/-- The run that a failing baseline stops. -/
theorem attempt_of_failing (numbered : Finishes nextId w) (configured : p.engines.baseline = some engine)
    (fails : engine.Fails (p.ask p.configs.baselineMatcher) none w.engines failure) :
    ∃ fault, (p.attempt.outcome w).1 = .error fault ∧ StoppedBy failure fault
      ∧ (p.attempt.outcome w).2.engines = (engine.respond (p.ask p.configs.baselineMatcher) w.engines).2 := by
  obtain ⟨runId, v, named⟩ := numbered.eq
  obtain ⟨fault, stopped, opening, by_failure, -⟩ := opening_of_failing named configured fails
  have ran : p.attempt.outcome w = (.error fault, stopped) := by
    rw [p.attempt_eq]
    exact outcome_bind_of_error opening
  have returning : ∀ baseline : Json,
      Leaves World.engines (pure (runId, baseline) : Attempt (World σ) (String × Json)) := fun _ => .pure _
  have left : (p.opening.outcome w).2.engines
      = ((baselineResult p.engines.baseline (p.ask p.configs.baselineMatcher)).outcome v).2.engines := by
    unfold Plan.opening
    rw [outcome_bind_of_ok named]
    exact Leaves.bind_after returning v
  rw [opening, configured, engines_baselineResult, Plan.leaves_engines_nextId.of_eq named] at left
  rw [ran]
  exact ⟨fault, rfl, by_failure, left⟩

/-- A run blames its baseline exactly if that failed once the run had its number, in words that the log takes. -/
theorem blames_iff : (∃ name message, (p.attempt.outcome w).1 = .error (.baselineFailed name message)) ↔
    Finishes nextId w ∧ ∃ engine failure, p.engines.baseline = some engine
      ∧ engine.Fails (p.ask p.configs.baselineMatcher) none w.engines failure
      ∧ ∀ error, ¬ LogText.Oversized failure.message error := by
  constructor
  · rintro ⟨name, message, blamed⟩
    obtain ⟨engine, runId, v, configured, named, answered⟩ := p.stages_of_baselineFailed (Prod.ext blamed rfl)
    refine ⟨⟨runId, congrArg Prod.fst named⟩, engine, ?_⟩
    obtain ⟨result, settled, gives⟩ | ⟨failure, -, fails⟩ :=
      engine.gives_or_fails (p.ask p.configs.baselineMatcher) none v.engines
    · have executed := engine.outcome_execute (p.ask p.configs.baselineMatcher) baselineCode none v
      rw [settled] at executed
      cases (outcome_bind_of_ok executed).symm.trans answered
    · obtain ⟨fault, stopped, failed, by_failure⟩ := baselineResult_of_failing fails
      cases failed.symm.trans answered
      rw [Plan.leaves_engines_nextId.of_eq named] at fails
      cases by_failure with
      | blamed fits => exact ⟨failure, configured, fails, fits⟩
  · rintro ⟨numbered, engine, failure, configured, fails, fits⟩
    obtain ⟨fault, ran, by_failure, -⟩ := attempt_of_failing numbered configured fails
    cases by_failure with
    | blamed _ => exact ⟨_, _, ran⟩
    | escaped oversized => exact absurd oversized (fits _)

end Run

end CanaryGate
