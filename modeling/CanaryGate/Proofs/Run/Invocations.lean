import CanaryGate.Proofs.Engine.Notes

/-! # What a run asks of its engines

The invocations of a run are what its engines write down. They are the loads of the stages that the run gets to: the
baseline's, the attempt's and the shadow's at the candidate, and the alternate's.
-/

namespace CanaryGate

open Attempt

variable {σ : Type}

theorem Selection.notes_select (routing : RoutingDecision) (canary : CanaryConfig) (primary : PrimaryConfig)
    (baseline : Json) (candidate : Option (Engine σ)) (request : EngineRequest) :
    Notes (select routing canary primary baseline candidate request)
      (select routing canary primary baseline (candidate.map (Engine.noting .candidate)) request)
      fun _ => if !routing.canarySelected then []
        else Engine.due .candidate candidate request (forcedFailure canary primary) :=
  .ite (Quiet.pure _) ((Engine.notes_executeIfConfigured _ _ _ _ _ _).then_quiet fun _ => .lift _)

namespace Shadow

theorem notes_attempting (canary : CanaryConfig) (served : Option Json) (candidate : Option (Engine σ))
    (request : EngineRequest) :
    Notes (attempting canary served candidate request)
      (attempting canary served (candidate.map (Engine.noting .candidate)) request)
      fun _ => if served.isSome then []
        else Engine.due .candidate candidate request
          (if canary.forceShadowError then some forcedMessage else none) := by
  cases served with
  | some result => exact Quiet.pure none
  | none => exact (Engine.notes_executeIfConfigured _ _ _ _ _ _).then_quiet fun _ => .pure _

theorem quiet_comparing (scene : Scene) (canary : CanaryConfig) (primary : PrimaryConfig) (selection : Selection)
    (attempt : Option EngineOutcome) : Quiet (comparing scene canary primary selection attempt : Attempt (World σ) _)
      (comparing scene canary primary selection attempt) :=
  (Quiet.lift _).bind fun _ => (Quiet.lift _).bind fun _ =>
    Quiet.bind (.bind (.onStore _) fun _ => .observe _) fun _ => .pure _

/-- The shadow makes an attempt of its own. -/
def attempts (canary : CanaryConfig) (primary : PrimaryConfig) (routing : RoutingDecision) (selection : Selection) :
    Bool :=
  canary.shadowEnabled && !(primary.enabled && routing.skippedReason == some "rollback_active")
    && selection.candidateResult?.isNone

theorem notes_run (scene : Scene) (canary : CanaryConfig) (primary : PrimaryConfig) (routing : RoutingDecision)
    (selection : Selection) (candidate : Option (Engine σ)) (request : EngineRequest) :
    Notes (run scene canary primary routing selection candidate request)
      (run scene canary primary routing selection (candidate.map (Engine.noting .candidate)) request)
      fun _ => if attempts canary primary routing selection then
          Engine.due .candidate candidate request (if canary.forceShadowError then some forcedMessage else none)
        else [] := by
  rw [run_eq, run_eq]
  refine Notes.congr (.ite (Quiet.bind (.lift _) fun _ => .pure _) (.ite (Quiet.pure _)
    ((notes_attempting _ _ _ _).then_quiet fun _ => quiet_comparing _ _ _ _ _))) fun _ => ?_
  unfold attempts
  cases canary.shadowEnabled <;> cases primary.enabled <;> cases routing.skippedReason == some "rollback_active"
    <;> cases selection.candidateResult? <;> rfl

end Shadow

theorem AltShadow.notes_run (runId recordedAt : String) (config : AltShadowConfig) (served : Option String)
    (servedResult : Json) (matcher : MatcherConfig) (engine : Option (Engine σ)) (request : EngineRequest)
    (limit : Json) : Notes (run runId recordedAt config served servedResult matcher engine request limit)
      (run runId recordedAt config served servedResult matcher (engine.map (Engine.noting .alternate)) request limit)
      fun _ => if !config.enabled then []
        else Engine.due .alternate engine { request with config := matcher }
          (if config.forceShadowError then some "forced matching alt shadow error" else none) :=
  .ite (Quiet.pure _) ((Engine.notes_executeIfConfigured _ _ _ _ _ _).then_quiet fun _ => Quiet.bind (.lift _) fun _ =>
    Quiet.bind (.observe _) fun _ => Quiet.bind (.onStore _) fun _ => .pure _)

namespace Run

theorem quiet_nextId : Quiet (nextId : Attempt (World σ) String) nextId := (Quiet.onStore _).bind fun _ => .lift _

theorem notes_baselineResult (engine : Option (Engine σ)) (request : EngineRequest) :
    Notes (baselineResult engine request) (baselineResult (engine.map (Engine.noting .baseline)) request)
      fun _ => Engine.due .baseline engine request none := by
  cases engine with
  | none => exact Quiet.stop _
  | some engine =>
      refine (Engine.notes_execute _ _ _ _ _).then_quiet fun outcome => ?_
      cases outcome with
      | ok result => exact .pure _
      | err code failure => exact .stop _

namespace Plan

/-- The plan with engines that write down what they are asked. -/
def noting (p : Plan σ) : Plan (σ × List Invocation) where
  engines := ⟨p.engines.baseline.map (Engine.noting .baseline), p.engines.candidate.map (Engine.noting .candidate),
    p.engines.alternate.map (Engine.noting .alternate)⟩
  now := p.now
  request := p.request
  configs := p.configs
  headerKey := p.headerKey

/-- What the run asks of its engines. -/
def invocations (p : Plan σ) (w : World σ) : List Invocation := (p.noting.attempt.outcome (w.noted [])).2.engines.2

/-- The requests to one of the engines. -/
def asked (p : Plan σ) (w : World σ) (seat : Seat) : List EngineRequest := seat.heard (p.invocations w)

variable (p : Plan σ)

def baselineLoad : List Invocation := Engine.due .baseline p.engines.baseline (p.ask p.configs.baselineMatcher) none

def attemptLoad (before : RollbackSnapshot) : List Invocation :=
  if !(p.routing before).canarySelected then []
  else Engine.due .candidate p.engines.candidate (p.ask p.configs.candidateMatcher)
    (Selection.forcedFailure p.configs.canary p.configs.primary)

def shadowLoad (before : RollbackSnapshot) (selection : Selection) : List Invocation :=
  if Shadow.attempts p.configs.canary p.configs.primary (p.routing before) selection then
    Engine.due .candidate p.engines.candidate (p.ask p.configs.candidateMatcher)
      (if p.configs.canary.forceShadowError then some Shadow.forcedMessage else none)
  else []

def crossLoad (selection : Selection) : List Invocation :=
  if !p.configs.altShadow.enabled then []
  else Engine.due .alternate p.engines.alternate (p.ask (p.servedMatcher selection.engine))
    (if p.configs.altShadow.forceShadowError then some "forced matching alt shadow error" else none)

/-- What is asked once it is known how the run is routed. -/
def routedLoad (runId : String) (baseline : Json) (before : RollbackSnapshot) (w : World σ) : List Invocation :=
  p.attemptLoad before ++ afterwards (fun selection chosen => p.shadowLoad before selection
    ++ afterwards (fun _ _ => p.crossLoad selection) ((p.shadowing runId baseline before selection).outcome chosen))
      ((p.selecting baseline before).outcome w)

/-- What is asked once the baseline has answered. -/
def openedLoad (o : String × Json) (w : World σ) : List Invocation :=
  afterwards (fun _ settled => afterwards (p.routedLoad o.1 o.2) (Rollback.snapshot.outcome settled))
    (p.resetting.outcome w)

/-- What is asked of the baseline, if the run gets a number. -/
def openingLoad (w : World σ) : List Invocation := afterwards (fun _ _ => p.baselineLoad) (nextId.outcome w)

theorem quiet_resetting : Quiet p.resetting p.noting.resetting :=
  .ite (Rollback.quiet_reset.bind fun _ => .pure _) (.pure _)

theorem quiet_closing (runId : String) (baseline : Json) (t : Trial) :
    Quiet (p.closing runId baseline t) (p.noting.closing runId baseline t) := by
  refine Quiet.bind (.lift _) fun sample => Quiet.bind ?latched fun rollback => Quiet.bind (.lift _) fun decision =>
    Quiet.bind ?recorded fun _ => Quiet.bind (.observe _) fun _ => Quiet.bind (.lift _) fun _ => .pure _
  case latched => exact .ite (Rollback.quiet_update _ _ _ _) (Rollback.quiet_load.bind fun _ => .pure _)
  case recorded => exact .ite (Quiet.bind (.onStore _) fun _ => .pure _) (.pure _)

/-- A run whose bucket cannot be found asks for no selection, and it is not selected either. -/
theorem notes_selecting (baseline : Json) (before : RollbackSnapshot) :
    Notes (p.selecting baseline before) (p.noting.selecting baseline before) fun _ => p.attemptLoad before := by
  refine Notes.congr (Notes.after_quiet (Quiet.lift p.located) fun _ => Selection.notes_select _ _ _ _ _ _) fun w => ?_
  cases located : p.located with
  | ok bucket => rfl
  | error fault =>
      unfold attemptLoad
      rw [p.unselected_of_lost located before]
      rfl

theorem notes_trying (runId : String) (baseline : Json) :
    Notes (p.trying runId baseline) (p.noting.trying runId baseline) (p.openedLoad (runId, baseline)) := by
  refine Notes.after_quiet p.quiet_resetting fun _ => Notes.after_quiet Rollback.quiet_snapshot fun before => ?_
  refine Notes.bind (p.notes_selecting baseline before) fun selection =>
    Notes.bind (Shadow.notes_run _ _ _ _ _ _ _) fun shadow => ?_
  exact (AltShadow.notes_run _ _ _ _ _ _ _ _ _).then_quiet fun _ => .pure _

theorem notes_opening : Notes p.opening p.noting.opening p.openingLoad :=
  Notes.after_quiet quiet_nextId fun _ => (notes_baselineResult _ _).then_quiet fun _ => .pure _

/-- Engines that write down what they are asked change nothing about a run. -/
theorem notes_attempt : Notes p.attempt p.noting.attempt
    fun w => p.openingLoad w ++ afterwards p.openedLoad (p.opening.outcome w) := by
  rw [p.attempt_eq, p.noting.attempt_eq]
  exact p.notes_opening.bind fun o => (p.notes_trying o.1 o.2).then_quiet fun t => p.quiet_closing o.1 o.2 t

theorem invocations_eq (w : World σ) :
    p.invocations w = p.openingLoad w ++ afterwards p.openedLoad (p.opening.outcome w) :=
  congrArg (·.2.engines.2) (p.notes_attempt w [])

end Plan

end Run

end CanaryGate
