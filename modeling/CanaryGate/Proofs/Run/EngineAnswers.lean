import CanaryGate.Proofs.Attempt.Success
import CanaryGate.Proofs.Run.Returned

/-! # What engines answer in a run

An engine answers from a state that it shares with the others. An execution comes to the matching result of
its engine, if it gives one and no failure is asked for. Before a run asks the candidate only the baseline
was asked, so the state that the candidate answers from is known.
-/

namespace CanaryGate

open Attempt

variable {σ : Type}

namespace Engine

/-- The matching result that an engine gives, if it gives one. -/
def answer? (engine : Engine σ) (request : EngineRequest) (s : σ) : Option Json :=
  (engine.respond request s).1.toOption.filter isMatchingResult

theorem matching_of_answer? {engine : Engine σ} {request : EngineRequest} {s : σ} {result : Json}
    (h : engine.answer? request s = some result) : isMatchingResult result = true :=
  (Option.filter_eq_some_iff.mp h).2

theorem result?_of_settle {code : String} {answer : Except EngineFailure Json} {outcome : EngineOutcome}
    (h : settle code answer = .ok outcome) : outcome.result? = answer.toOption := by
  cases answer with
  | ok result =>
      cases h
      rfl
  | error failure =>
      obtain ⟨_, -, recorded⟩ := except_bind_eq_ok.mp (h : recordFailure code failure = .ok outcome)
      cases recorded
      rfl

variable {request : EngineRequest} {code label : String} {force : Option String} {w w' : World σ}
  {outcome : EngineOutcome} {result : Json}

theorem answer?_of_ask {engine : Engine σ} {answer : Except EngineFailure Json}
    (h : (engine.ask request).outcome w = (.ok answer, w')) : answer.toOption = engine.answer? request w.engines := by
  unfold ask at h
  cases h
  unfold answer?
  cases (engine.respond request w.engines).1 with
  | error failure => rfl
  | ok result =>
      dsimp only
      split
      · rename_i matching
        exact (Option.filter_some_pos matching).symm
      · rename_i other
        exact (Option.filter_some_eq_none.mpr other).symm

/-- An execution comes to what the engine answers, or to nothing if a failure is asked for by name. -/
theorem result?_of_execute {engine : Engine σ} (h : (engine.execute request code force).outcome w = (.ok outcome, w')) :
    outcome.result? = if (force.filter (· != "")).isSome then none else engine.answer? request w.engines := by
  rw [execute_eq] at h
  obtain ⟨answer, t, answered, h⟩ := bind_eq_ok.mp h
  obtain ⟨_, _, -, settled⟩ := bind_eq_ok.mp h
  rw [result?_of_settle (congrArg Prod.fst settled)]
  unfold answering at answered
  cases named : force.filter (· != "") with
  | some message =>
      rw [named] at answered
      cases answered
      rfl
  | none =>
      rw [named] at answered
      exact answer?_of_ask answered

theorem result?_of_executeIfConfigured {engine : Option (Engine σ)}
    (h : (executeIfConfigured engine label request code force).outcome w = (.ok outcome, w')) :
    outcome.result? = if (force.filter (· != "")).isSome then none
      else engine.bind fun e => e.answer? request w.engines := by
  cases engine with
  | none =>
      cases h
      simp [EngineOutcome.notConfigured, EngineOutcome.result?]
  | some engine => exact result?_of_execute h

theorem matching_of_executeIfConfigured {engine : Option (Engine σ)}
    (h : (executeIfConfigured engine label request code force).outcome w = (.ok (.ok result), w')) :
    isMatchingResult result = true := by
  have given : some result = _ := result?_of_executeIfConfigured h
  split at given
  · contradiction
  · obtain ⟨e, -, answered⟩ := Option.bind_eq_some_iff.mp given.symm
    exact matching_of_answer? answered

/-- An execution leaves the engines as its own engine does. -/
theorem engines_execute (engine : Engine σ) (request : EngineRequest) (code : String) (w : World σ) :
    ((engine.execute request code none).outcome w).2.engines = (engine.respond request w.engines).2 := by
  have settling : ∀ answer, Leaves World.engines
      (engine.countLatency >>= fun _ => (Attempt.lift (settle code answer) : Attempt (World σ) EngineOutcome)) :=
    fun _ => .bind (fun _ => rfl) fun _ => .lift _
  rw [execute_eq]
  exact Leaves.bind_after settling w

end Engine

namespace Run.Plan

variable (p : Plan σ)

/-- The attempt at the candidate is made to fail, by the switch of the rollout that the run is made under. -/
def forced : Bool :=
  if p.configs.primary.enabled then p.configs.primary.forcePrimaryError else p.configs.canary.forceCanaryError

def baselineAnswer? (s : σ) : Option Json :=
  p.engines.baseline.bind fun engine => engine.answer? (p.ask p.configs.baselineMatcher) s

/-- The engines as they are once the baseline was asked. -/
def afterBaseline (s : σ) : σ :=
  match p.engines.baseline with
  | some engine => (engine.respond (p.ask p.configs.baselineMatcher) s).2
  | none => s

/-- The matching result of an attempt at the candidate, if one is configured, not made to fail, and gives one. -/
def candidateAnswer? (s : σ) : Option Json :=
  if p.forced then none else p.engines.candidate.bind fun engine => engine.answer? (p.ask p.configs.candidateMatcher) s

variable {p} {w w' : World σ}

theorem candidateAnswer?_eq_some {s : σ} {result : Json} : p.candidateAnswer? s = some result ↔
    ∃ engine, p.engines.candidate = some engine ∧ p.forced = false
      ∧ engine.answer? (p.ask p.configs.candidateMatcher) s = some result := by
  unfold candidateAnswer?
  cases p.forced with
  | true => simp
  | false =>
      simp only [Bool.false_eq_true, if_false, true_and]
      exact Option.bind_eq_some_iff

theorem matching_of_candidateAnswer? {s : σ} {result : Json} (h : p.candidateAnswer? s = some result) :
    isMatchingResult result = true := by
  obtain ⟨engine, -, -, answered⟩ := candidateAnswer?_eq_some.mp h
  exact Engine.matching_of_answer? answered

/-! Of all that a run does before it selects, only asking the baseline touches the engines. -/

theorem leaves_engines_nextId : Leaves World.engines (nextId : Attempt (World σ) String) :=
  .bind (fun _ => rfl) fun _ => .lift _

theorem engines_of_opening {runId : String} {baseline : Json} (h : p.opening.outcome w = (.ok (runId, baseline), w')) :
    p.baselineAnswer? w.engines = some baseline ∧ w'.engines = p.afterBaseline w.engines := by
  obtain ⟨id, t, numbered, h⟩ := bind_eq_ok.mp h
  obtain ⟨result, t', answered, returned⟩ := bind_eq_ok.mp h
  cases returned
  have same : t.engines = w.engines := leaves_engines_nextId.of_eq numbered
  unfold baselineAnswer? afterBaseline
  unfold baselineResult at answered
  cases configured : p.engines.baseline with
  | none =>
      rw [configured] at answered
      cases answered
  | some engine =>
      rw [configured] at answered
      obtain ⟨outcome, u, executed, settled⟩ := bind_eq_ok.mp answered
      have given := Engine.result?_of_execute executed
      have left := engine.engines_execute (p.ask p.configs.baselineMatcher) baselineCode t
      rw [executed] at left
      cases outcome with
      | err code failure => cases settled
      | ok found =>
          cases settled
          rw [same] at given left
          exact ⟨given.symm, left⟩

theorem leaves_engines_load : Leaves World.engines (Rollback.load : Attempt (World σ) RollbackState) := by
  intro w
  rw [Rollback.outcome_load]

theorem leaves_engines_resetting : Leaves World.engines p.resetting := by
  have saving : Leaves World.engines (Rollback.save .clear : Attempt (World σ) Unit) :=
    .bind (fun _ => rfl) fun _ _ => rfl
  have reset : Leaves World.engines (Rollback.reset : Attempt (World σ) RollbackState) :=
    (World.leaves_transaction_of_apart (fun _ _ => rfl) (leaves_engines_load.bind fun _ => saving)).bind fun _ => .pure _
  exact .ite (reset.bind fun _ => .pure _) (.pure _)

/-- The failure that a selected run asks for has a name. -/
theorem isSome_forcedFailure (p : Plan σ) :
    ((Selection.forcedFailure p.configs.canary p.configs.primary).filter (· != "")).isSome = p.forced := by
  unfold Selection.forcedFailure forced
  split
  · cases p.configs.primary.forcePrimaryError with
    | false => rfl
    | true => decide
  · cases p.configs.canary.forceCanaryError with
    | false => rfl
    | true => decide

/-- The attempt of a selected run gives what the candidate answers, unless it is made to fail. -/
theorem candidateAnswer?_of_execute {code : String} {outcome : EngineOutcome}
    (h : (Engine.executeIfConfigured p.engines.candidate "v2" (p.ask p.configs.candidateMatcher) code
      (Selection.forcedFailure p.configs.canary p.configs.primary)).outcome w = (.ok outcome, w')) :
    outcome.result? = p.candidateAnswer? w.engines := by
  rw [Engine.result?_of_executeIfConfigured h, p.isSome_forcedFailure]
  rfl

end Run.Plan

end CanaryGate
