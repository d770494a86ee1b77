import CanaryGate.Proofs.Run.Hearing
import CanaryGate.Proofs.Run.Routine
import CanaryGate.Proofs.Run.Transparent

/-! # Runs as routines

Each stage of a run, taken apart at the changes that it makes. Nothing else about it changes: put together again,
the routine is the run.
-/

namespace CanaryGate

open Attempt

variable {σ : Type}

namespace Shadow

def comparingSteps (scene : Scene) (canary : CanaryConfig) (primary : PrimaryConfig) (selection : Selection)
    (attempt : Option EngineOutcome) : Routine σ ShadowOutcome :=
  (Routine.finish (weighed scene primary selection attempt)).bind fun found =>
    let record := recordOf scene canary selection attempt found.2
    .change (.put ⟨scene.runId, .comparison record, canary.maxShadowDiffs⟩) fun _ =>
      .aside (World.observe fun m => { m with shadowRecords := m.shadowRecords.bump (.candidate, record.kind) })
        (World.leaves_store_observe _) fun _ =>
          .finish (.ok ⟨mergeAttempts selection.attempt attempt, found.1, found.2, some record, false⟩)

def steps (scene : Scene) (canary : CanaryConfig) (primary : PrimaryConfig) (routing : RoutingDecision)
    (selection : Selection) (candidate : Option (Engine σ)) (request : EngineRequest) : Routine σ ShadowOutcome :=
  if !canary.shadowEnabled then
    (Routine.finish (selection.candidateResult?.mapM fun result => scene.compare result selection.safety)).bind
      fun diff => .finish (.ok ⟨selection.attempt, selection.safety, diff, none, false⟩)
  else if primary.enabled && routing.skippedReason == some "rollback_active" && selection.candidateResult?.isNone then
    .finish (.ok ⟨selection.attempt, selection.safety, none, none, true⟩)
  else .aside (attempting canary selection.candidateResult? candidate request) (leaves_attempting _ _ _ _)
    (comparingSteps scene canary primary selection)

theorem attempt_comparingSteps (scene : Scene) (canary : CanaryConfig) (primary : PrimaryConfig) (selection : Selection)
    (attempt : Option EngineOutcome) : (comparingSteps scene canary primary selection attempt : Routine σ _).attempt
      = comparing scene canary primary selection attempt := by
  rw [comparing_eq]
  unfold comparingSteps
  rw [Routine.attempt_bind]
  refine bind_congr fun found => ?_
  unfold keep
  rw [bind_assoc]
  rfl

theorem attempt_steps (scene : Scene) (canary : CanaryConfig) (primary : PrimaryConfig) (routing : RoutingDecision)
    (selection : Selection) (candidate : Option (Engine σ)) (request : EngineRequest) :
    (steps scene canary primary routing selection candidate request).attempt
      = run scene canary primary routing selection candidate request := by
  rw [run_eq]
  unfold steps
  split
  · rw [Routine.attempt_bind]
    rfl
  · split
    · rfl
    · exact bind_congr fun attempt => attempt_comparingSteps scene canary primary selection attempt

end Shadow

namespace AltShadow

def steps (runId recordedAt : String) (config : AltShadowConfig) (served : Option String) (servedResult : Json)
    (matcher : MatcherConfig) (engine : Option (Engine σ)) (request : EngineRequest) (limit : Json) :
    Routine σ (Option AltRecord) :=
  if !config.enabled then .finish (.ok none)
  else
    .aside (Engine.executeIfConfigured engine "alternate" { request with config := matcher } errorCode
        (if config.forceShadowError then some "forced matching alt shadow error" else none))
      (Engine.leaves_executeIfConfigured _ _ _ _ _) fun outcome =>
    (Routine.finish (recordOf runId recordedAt served servedResult matcher limit outcome)).bind fun record =>
      .aside (World.observe fun m => { m with shadowRecords := m.shadowRecords.bump (.alternate, record.kind) })
        (World.leaves_store_observe _) fun _ =>
          .change (.put ⟨runId, .crossCheck record, config.maxShadowDiffs⟩) fun _ => .finish (.ok (some record))

theorem attempt_steps (runId recordedAt : String) (config : AltShadowConfig) (served : Option String)
    (servedResult : Json) (matcher : MatcherConfig) (engine : Option (Engine σ)) (request : EngineRequest)
    (limit : Json) : (steps runId recordedAt config served servedResult matcher engine request limit).attempt
      = run runId recordedAt config served servedResult matcher engine request limit := by
  unfold steps run
  split
  · rfl
  · refine bind_congr fun outcome => ?_
    rw [Routine.attempt_bind]
    rfl

end AltShadow

namespace Run

def numbering : Routine σ String :=
  .change .number fun n => .finish (if Json.writable n then .ok (idOf n) else .error .integerTooLong)

theorem attempt_numbering : (numbering : Routine σ String).attempt = nextId := rfl

namespace Plan

variable (p : Plan σ)

def resettingSteps : Routine σ Unit :=
  if p.resets then .change .reset fun _ => .finish (.ok ()) else .finish (.ok ())

def shadowingSteps (runId : String) (baseline : Json) (before : RollbackSnapshot) (selection : Selection) :
    Routine σ ShadowOutcome :=
  Shadow.steps (p.scene runId baseline) p.configs.canary p.configs.primary (p.routing before) selection
    p.engines.candidate (p.ask p.configs.candidateMatcher)

def crossingSteps (runId : String) (selection : Selection) : Routine σ (Option AltRecord) :=
  AltShadow.steps runId p.recordedAt p.configs.altShadow (some selection.engine.text) selection.result
    (p.servedMatcher selection.engine) p.engines.alternate (p.ask p.configs.candidateMatcher)
    (.int p.request.maxProposals)

def tryingSteps (runId : String) (baseline : Json) : Routine σ Trial :=
  p.resettingSteps.bind fun _ =>
    .aside Rollback.snapshot Rollback.leaves_snapshot fun before =>
    .aside (p.selecting baseline before) (p.leaves_selecting baseline before) fun selection =>
      (p.shadowingSteps runId baseline before selection).bind fun shadow =>
        (p.crossingSteps runId selection).bind fun _ => .finish (.ok ⟨before, selection, shadow⟩)

def latchingSteps (runId : String) (before : RollbackSnapshot) (sample : Option RunSample) :
    Routine σ RollbackUpdate :=
  if (p.routing before).trackingEnabled then
    .change (.judge p.configs.canary runId p.recordedAt sample) fun update => .finish (.ok update)
  else .aside (untouched p.configs.canary before) (leaves_untouched _ _) fun update => .finish (.ok update)

def recordingSteps (runId : String) (before : RollbackSnapshot) (decision : DecisionRecord) : Routine σ Unit :=
  if (p.routing before).trackingEnabled then
    .change (.put ⟨runId, .decision decision, p.configs.canary.maxDecisions⟩) fun _ => .finish (.ok ())
  else .finish (.ok ())

def closingSteps (runId : String) (baseline : Json) (t : Trial) : Routine σ RunResult :=
  (Routine.finish (p.sampling runId t)).bind fun sample =>
    (p.latchingSteps runId t.before sample).bind fun rollback =>
      (Routine.finish (p.input runId baseline t sample rollback).record).bind fun decision =>
        (p.recordingSteps runId t.before decision).bind fun _ =>
          .aside (World.observe (count decision)) (World.leaves_store_observe _) fun _ =>
            (Routine.finish (servedProposals t.selection.result p.request.maxProposals)).bind fun proposals =>
              .finish (.ok ⟨runId, p.recordedAt, decision.primaryEngine, proposals, decision,
                (p.routing t.before).trackingEnabled⟩)

/-- The run once it is numbered. -/
def numberedSteps (runId : String) : Routine σ RunResult :=
  .aside (baselineResult p.engines.baseline (p.ask p.configs.baselineMatcher)) (leaves_baselineResult _ _)
    fun baseline => (p.tryingSteps runId baseline).bind fun t => p.closingSteps runId baseline t

/-- The run as a routine. -/
def steps : Routine σ RunResult := numbering.bind p.numberedSteps

theorem attempt_resettingSteps : p.resettingSteps.attempt = p.resetting := by
  unfold resettingSteps resetting
  split
  · rfl
  · rfl

theorem attempt_shadowingSteps (runId : String) (baseline : Json) (before : RollbackSnapshot) (selection : Selection) :
    (p.shadowingSteps runId baseline before selection).attempt = p.shadowing runId baseline before selection :=
  Shadow.attempt_steps ..

theorem attempt_crossingSteps (runId : String) (selection : Selection) :
    (p.crossingSteps runId selection).attempt = p.crossing runId selection := AltShadow.attempt_steps ..

theorem attempt_tryingSteps (runId : String) (baseline : Json) :
    (p.tryingSteps runId baseline).attempt = p.trying runId baseline := by
  unfold tryingSteps trying
  rw [Routine.attempt_bind, attempt_resettingSteps]
  refine bind_congr fun _ => bind_congr fun before => bind_congr fun selection => ?_
  rw [Routine.attempt_bind, attempt_shadowingSteps]
  refine bind_congr fun shadow => ?_
  rw [Routine.attempt_bind, attempt_crossingSteps]
  rfl

theorem attempt_latchingSteps (runId : String) (before : RollbackSnapshot) (sample : Option RunSample) :
    (p.latchingSteps runId before sample).attempt = p.latching runId before sample := by
  unfold latchingSteps latching
  split
  · exact bind_pure _
  · exact bind_pure _

theorem attempt_recordingSteps (runId : String) (before : RollbackSnapshot) (decision : DecisionRecord) :
    (p.recordingSteps runId before decision).attempt = p.recording runId before decision := by
  unfold recordingSteps recording
  split
  · rfl
  · rfl

theorem attempt_closingSteps (runId : String) (baseline : Json) (t : Trial) :
    (p.closingSteps runId baseline t).attempt = p.closing runId baseline t := by
  unfold closingSteps closing
  rw [Routine.attempt_bind]
  refine bind_congr fun sample => ?_
  rw [Routine.attempt_bind, attempt_latchingSteps]
  refine bind_congr fun rollback => ?_
  rw [Routine.attempt_bind]
  refine bind_congr fun decision => ?_
  rw [Routine.attempt_bind, attempt_recordingSteps]
  refine bind_congr fun _ => bind_congr fun _ => ?_
  rw [Routine.attempt_bind]
  rfl

/-- Taking a run apart changes nothing about it. -/
theorem attempt_steps : p.steps.attempt = p.attempt := by
  rw [p.attempt_eq]
  unfold steps opening
  rw [Routine.attempt_bind, attempt_numbering, bind_assoc]
  refine bind_congr fun runId => ?_
  rw [bind_assoc]
  refine bind_congr fun baseline => ?_
  rw [pure_bind, Routine.attempt_bind, attempt_tryingSteps]
  exact bind_congr fun t => p.attempt_closingSteps runId baseline t

/-- A run takes its number first, and goes on if it gets one. -/
theorem journal_steps (w : World σ) : p.steps.journal w
    = ⟨w, .number⟩ :: Routine.onward (fun runId v => (p.numberedSteps runId).journal v) (nextId.outcome w) := by
  have counted : (numbering : Routine σ String).journal w = [⟨w, .number⟩] := by
    unfold numbering
    rw [Routine.journal]
    rcases (Change.number.attempt : Attempt (World σ) _).outcome w with ⟨r, v⟩
    cases r with
    | error fault => rfl
    | ok n => rfl
  unfold steps
  rw [Routine.journal_bind, counted, attempt_numbering, List.singleton_append]

end Plan

end Run

end CanaryGate
