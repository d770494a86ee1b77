import CanaryGate.Proofs.Rollback.Persistence
import CanaryGate.Run.Loop

/-! # The stages of a run

A run opens with its number and the baseline's answer, tries the candidate and the shadows, and closes
with the sample, the latch and the audit record. `attempt_eq` cuts a run into these three stages, so that
what is said about a run can be said about each stage alone.
-/

namespace CanaryGate

open Attempt

variable {σ : Type}

namespace Engine

/-- The answer of an execution: the failure that was asked for by name, or what the engine says. -/
def answering (engine : Engine σ) (request : EngineRequest) (force : Option String) :
    Attempt (World σ) (Except EngineFailure Json) :=
  match force.filter (· != "") with
  | some message => pure (.error (.forced message))
  | none => engine.ask request

/-- What an answer comes to. -/
def settle (code : String) : Except EngineFailure Json → Except Fault EngineOutcome
  | .ok result => .ok (.ok result)
  | .error failure => recordFailure code failure

theorem execute_eq (engine : Engine σ) (request : EngineRequest) (code : String) (force : Option String) :
    engine.execute request code force
      = engine.answering request force >>= fun answer => engine.countLatency >>= fun _ =>
        Attempt.lift (settle code answer) := by
  unfold execute answering
  cases force.filter (· != "") with
  | some message => rfl
  | none =>
      refine bind_congr fun answer => bind_congr fun _ => ?_
      cases answer with
      | ok result => rfl
      | error failure => rfl

end Engine

namespace Shadow

/-- The attempt that the shadow makes on its own, if there is no result to compare yet. -/
def attempting (canary : CanaryConfig) (served : Option Json) (candidate : Option (Engine σ))
    (request : EngineRequest) : Attempt (World σ) (Option EngineOutcome) :=
  match served with
  | some _ => pure none
  | none => do
    let force := if canary.forceShadowError then some forcedMessage else none
    return some (← Engine.executeIfConfigured candidate "v2" request errorCode force)

/-- The safety triggers of the result that is compared; those of the selection if there is none. -/
def safetyOf (primary : PrimaryConfig) (selected : SafetyTriggers) : Option Json → Except Fault SafetyTriggers
  | some result => SafetyTriggers.ofResult result primary
  | none => .ok selected

/-- The result that is compared: the served attempt's, or else the shadow's own. -/
def resultOf (selection : Selection) (attempt : Option EngineOutcome) : Option Json :=
  selection.candidateResult?.or (attempt.bind EngineOutcome.result?)

/-- Compares, and keeps what came of it. -/
def comparing (scene : Scene) (canary : CanaryConfig) (primary : PrimaryConfig) (selection : Selection)
    (attempt : Option EngineOutcome) : Attempt (World σ) ShadowOutcome := do
  let safety ← Attempt.lift (safetyOf primary selection.safety (resultOf selection attempt))
  let diff ← Attempt.lift ((resultOf selection attempt).mapM fun result => scene.compare result safety)
  let record := chooseRecord scene canary.forceShadowError (selection.attempt.any EngineOutcome.isOk) diff attempt
  keep scene.runId record canary.maxShadowDiffs
  return ⟨mergeAttempts selection.attempt attempt, safety, diff, some record, false⟩

theorem run_eq (scene : Scene) (canary : CanaryConfig) (primary : PrimaryConfig) (routing : RoutingDecision)
    (selection : Selection) (candidate : Option (Engine σ)) (request : EngineRequest) :
    run scene canary primary routing selection candidate request =
      if !canary.shadowEnabled then
        Attempt.lift (selection.candidateResult?.mapM fun result => scene.compare result selection.safety)
          >>= fun diff => pure ⟨selection.attempt, selection.safety, diff, none, false⟩
      else if primary.enabled && routing.skippedReason == some "rollback_active" && selection.candidateResult?.isNone then
        pure ⟨selection.attempt, selection.safety, none, none, true⟩
      else attempting canary selection.candidateResult? candidate request
        >>= comparing scene canary primary selection := by
  unfold run attempting comparing resultOf
  cases selection.candidateResult? with
  | some result => rfl
  | none =>
      simp only [bind_assoc, pure_bind]
      refine congrArg (ite _ _) (congrArg (ite _ _) (bind_congr fun outcome => ?_))
      cases Option.or none ((some outcome).bind EngineOutcome.result?) with
      | none => rfl
      | some result => rfl

end Shadow

namespace Run

structure Plan (σ : Type) where
  engines : RunEngines σ
  now : Instant
  request : RunRequest
  configs : RunConfigs
  headerKey : Option String

/-- What a run has found out before it concludes. -/
structure Trial where
  before : RollbackSnapshot
  selection : Selection
  shadow : ShadowOutcome

namespace Plan

def attempt (p : Plan σ) : Attempt (World σ) RunResult :=
  make p.engines p.now p.request p.configs p.headerKey

def recordedAt (p : Plan σ) : String := (firstText p.request.recordedAt none).getD p.now.text

def ask (p : Plan σ) (config : MatcherConfig) : EngineRequest := engineRequest p.request p.recordedAt config

def resets (p : Plan σ) : Bool := p.configs.primary.enabled && p.configs.primary.rollbackReset

/-- What the run is hashed by. -/
def origin (p : Plan σ) : Rollout.Origin :=
  p.request.actor.origin (firstText p.request.idempotencyKey p.headerKey) p.recordedAt

/-- The bucket, where the run needs one; or why there is none to be had. -/
def located (p : Plan σ) : Except Fault (Option Nat) :=
  RoutingDecision.bucketWith Sha256.digest p.configs.canary p.configs.primary p.origin

/-- How a run is routed that finds its bucket, if it needs one. -/
def routing (p : Plan σ) (before : RollbackSnapshot) : RoutingDecision :=
  RoutingDecision.placed p.configs.canary p.configs.primary before p.located.toOption.join

theorem route_eq (p : Plan σ) (before : RollbackSnapshot) :
    RoutingDecision.route p.configs.canary p.configs.primary before p.origin
      = p.located.map fun _ => p.routing before := by
  unfold RoutingDecision.route RoutingDecision.routeWith routing located
  cases RoutingDecision.bucketWith Sha256.digest p.configs.canary p.configs.primary p.origin with
  | error fault => rfl
  | ok bucket => rfl

/-- A run whose bucket is looked for in vain is not selected. -/
theorem unselected_of_lost (p : Plan σ) {fault : Fault} (lost : p.located = .error fault)
    (before : RollbackSnapshot) : (p.routing before).canarySelected = false := by
  have canary : (p.configs.canary.enabled && !p.configs.primary.enabled) = true := by
    unfold located RoutingDecision.bucketWith at lost
    split at lost
    · assumption
    · contradiction
  obtain ⟨on, ungraduated⟩ : p.configs.canary.enabled = true ∧ p.configs.primary.enabled = false := by
    simpa using canary
  unfold routing RoutingDecision.placed
  rw [lost, on, ungraduated]
  unfold RoutingDecision.tracked RoutingDecision.skipReason
  cases p.configs.canary.forceSkip <;> cases before.active <;> rfl

def scene (p : Plan σ) (runId : String) (baseline : Json) : Shadow.Scene :=
  ⟨runId, p.recordedAt, p.configs.baselineMatcher, baseline, p.configs.candidateMatcher, .int p.request.maxProposals⟩

/-- The matcher configuration of the served engine. -/
def servedMatcher (p : Plan σ) : EngineName → MatcherConfig
  | .v2 => p.configs.candidateMatcher
  | .v1 => p.configs.baselineMatcher

/-- The number of the run and the baseline's answer. -/
def opening (p : Plan σ) : Attempt (World σ) (String × Json) := do
  let runId ← nextId
  let baseline ← baselineResult p.engines.baseline (p.ask p.configs.baselineMatcher)
  return (runId, baseline)

def resetting (p : Plan σ) : Attempt (World σ) Unit :=
  if p.resets then Rollback.reset >>= fun _ => pure () else pure ()

/-- The selection; without its bucket a canary run breaks off. -/
def selecting (p : Plan σ) (baseline : Json) (before : RollbackSnapshot) : Attempt (World σ) Selection := do
  let _ ← Attempt.lift p.located
  Selection.select (p.routing before) p.configs.canary p.configs.primary baseline p.engines.candidate
    (p.ask p.configs.candidateMatcher)

def shadowing (p : Plan σ) (runId : String) (baseline : Json) (before : RollbackSnapshot) (selection : Selection) :
    Attempt (World σ) ShadowOutcome :=
  Shadow.run (p.scene runId baseline) p.configs.canary p.configs.primary (p.routing before) selection
    p.engines.candidate (p.ask p.configs.candidateMatcher)

def crossing (p : Plan σ) (runId : String) (selection : Selection) : Attempt (World σ) (Option AltRecord) :=
  AltShadow.run runId p.recordedAt p.configs.altShadow (some selection.engine.text) selection.result
    (p.servedMatcher selection.engine) p.engines.alternate (p.ask p.configs.candidateMatcher)
    (.int p.request.maxProposals)

/-- The candidate, its shadow and the alternate, on a latch that is reset first if that is asked for. -/
def trying (p : Plan σ) (runId : String) (baseline : Json) : Attempt (World σ) Trial := do
  p.resetting
  let before ← Rollback.snapshot
  let selection ← p.selecting baseline before
  let shadow ← p.shadowing runId baseline before selection
  let _ ← p.crossing runId selection
  return ⟨before, selection, shadow⟩

def latching (p : Plan σ) (runId : String) (before : RollbackSnapshot) (sample : Option RunSample) :
    Attempt (World σ) RollbackUpdate :=
  if (p.routing before).trackingEnabled then Rollback.update p.configs.canary runId p.recordedAt sample
  else untouched p.configs.canary before

/-- What the decision record is put together from. -/
def input (p : Plan σ) (runId : String) (baseline : Json) (t : Trial) (sample : Option RunSample)
    (rollback : RollbackUpdate) : DecisionInput where
  runId := runId
  recordedAt := p.recordedAt
  canary := p.configs.canary
  primary := p.configs.primary
  routing := p.routing t.before
  served := t.selection.engine.text
  fallbackReason := t.selection.fallbackReason
  resetApplied := p.resets
  rollback := rollback
  error := t.selection.error?
  diff := t.shadow.diff
  baselineResult := baseline
  servedResult := t.selection.result
  sample := sample

def recording (p : Plan σ) (runId : String) (before : RollbackSnapshot) (decision : DecisionRecord) :
    Attempt (World σ) Unit :=
  if (p.routing before).trackingEnabled then
    World.onStore (Store.putAndPrune decisionSpace runId (.obj decision.toFields) p.configs.canary.maxDecisions)
      >>= fun _ => pure ()
  else pure ()

def sampling (p : Plan σ) (runId : String) (t : Trial) : Except Fault (Option RunSample) :=
  RunSample.ofRun runId p.recordedAt (p.routing t.before).canarySelected t.selection.error? t.shadow.safety
    t.shadow.diff

/-- The sample, the latch and the audit record. -/
def closing (p : Plan σ) (runId : String) (baseline : Json) (t : Trial) : Attempt (World σ) RunResult := do
  let sample ← Attempt.lift (p.sampling runId t)
  let rollback ← p.latching runId t.before sample
  let decision ← Attempt.lift (p.input runId baseline t sample rollback).record
  p.recording runId t.before decision
  World.observe (count decision)
  let proposals ← Attempt.lift (servedProposals t.selection.result p.request.maxProposals)
  return ⟨runId, p.recordedAt, decision.primaryEngine, proposals, decision, (p.routing t.before).trackingEnabled⟩

theorem attempt_eq (p : Plan σ) :
    p.attempt = p.opening >>= fun o => p.trying o.1 o.2 >>= fun t => p.closing o.1 o.2 t := by
  have routed : ∀ before (next : RoutingDecision → Attempt (World σ) RunResult),
      Attempt.lift (RoutingDecision.route p.configs.canary p.configs.primary before
        (p.request.actor.origin (firstText p.request.idempotencyKey p.headerKey)
          ((firstText p.request.recordedAt none).getD p.now.text))) >>= next
        = Attempt.lift p.located >>= fun _ => next (p.routing before) := by
    intro before next
    have route := p.route_eq before
    unfold origin recordedAt at route
    rw [route]
    cases p.located with
    | error fault => rfl
    | ok bucket => rfl
  unfold attempt make opening trying selecting closing resetting latching recording
  simp only [bind_assoc, pure_bind, ite_bind, routed]
  rfl

end Plan

end Run

end CanaryGate
