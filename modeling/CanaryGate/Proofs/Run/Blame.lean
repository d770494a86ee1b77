import CanaryGate.Proofs.Attempt.Faults
import CanaryGate.Proofs.Rollback.Persistence
import CanaryGate.Proofs.Run.Stages

/-! # Who is to blame for a run that stopped

A failed baseline ends a run under a fault of its own. Nothing else in a run stops for that cause: not the
candidate, the shadows and what is computed from their answers, nor the latch, the audit record and the
store. So a run that blames its baseline stopped while it was opening, and left behind what the opening left.
-/

namespace CanaryGate

open Attempt

variable {σ α : Type}

/-- The fault lies elsewhere than with the baseline. -/
def Fault.Elsewhere (fault : Fault) : Prop := ∀ name message, fault ≠ .baselineFailed name message

theorem Fault.OfDisk.elsewhere {fault : Fault} (h : fault.OfDisk) : fault.Elsewhere := by
  rintro name message rfl
  rcases h with h | h | h | h
  · contradiction
  · contradiction
  · contradiction
  · contradiction

/-- If there is no result, the baseline is not to blame. -/
abbrev Blameless (r : Except Fault α) : Prop := FailsWithin Fault.Elsewhere r

namespace Json

theorem blameless_toInteger (value : Json) : Blameless value.toInteger := by
  cases value with
  | int n => exact .ok n
  | bool b => exact .ok _
  | float x =>
      cases x with
      | nan => exact .error nofun
      | infinite negative => exact .error nofun
      | finite negative rank => exact .ok _
  | str s => exact .mapError (fun _ => nofun) _
  | null | arr items | obj fields => exact .error nofun

theorem blameless_wholeNumber (value : Json) : Blameless value.wholeNumber := by
  cases value with
  | int n => exact .ok n
  | bool b => exact .ok _
  | null | float x | str s | arr items | obj fields => exact .error nofun

theorem blameless_toDouble (value : Json) : Blameless value.toDouble := by
  cases value with
  | float x => exact .ok x
  | int n =>
      unfold toDouble doubleOfInt
      dsimp only
      split
      · exact .ok _
      · exact .error nofun
  | bool b => exact .ok _
  | str s => exact .mapError (fun _ => nofun) _
  | null | arr items | obj fields => exact .error nofun

theorem blameless_fieldsOf (value : Json) : Blameless value.fieldsOf := by
  cases value with
  | obj fields => exact .ok _
  | null | bool b | int n | float x | str s | arr items => exact .error nofun

theorem blameless_objectItems (value : Json) : Blameless value.objectItems := by
  cases value with
  | arr items => exact .ok _
  | str s => exact .ok _
  | obj fields => exact .ok _
  | null | bool b | int n | float x => exact .error nofun

theorem blameless_spelled (value : Json) : Blameless value.spelled := by
  unfold spelled
  split
  · exact .ok _
  all_goals exact .error nofun

end Json

section Results

theorem blameless_matchingOf (result : Json) : Blameless (matchingOf result) := by
  unfold matchingOf
  split
  · exact .ok _
  · split
    · split
      · exact .ok _
      · exact .ok _
    · exact .error nofun

theorem blameless_statOf (result : Json) (name : String) : Blameless (statOf result name) :=
  (blameless_matchingOf result).bind fun _ => .ok _

theorem blameless_candidateCycles (result : Json) : Blameless (candidateCycles result) := by
  refine (blameless_statOf result _).bind fun stat => ?_
  have read := Json.blameless_toInteger (stat.orElse (.int 0))
  split
  · exact .ok _
  · rename_i fault failed
    split
    · exact .ok _
    · exact .error (read fault failed)

theorem blameless_safetySignals (result : Json) : Blameless (safetySignals result) :=
  (blameless_statOf result _).bind fun _ => (blameless_statOf result _).bind fun _ => .ok _

theorem blameless_proposalsOf (result : Json) : Blameless (proposalsOf result) :=
  (blameless_matchingOf result).bind fun _ => Json.blameless_objectItems _

theorem blameless_takeWithin (limit : Json) (items : List α) : Blameless (takeWithin limit items) := by
  unfold takeWithin
  split
  · exact .ok _
  · exact (Json.blameless_wholeNumber _).map _

theorem blameless_cycleKey (proposal : Fields) : Blameless (cycleKey proposal) := by
  unfold cycleKey
  dsimp only
  split
  · exact Json.blameless_spelled _
  · exact (Json.blameless_objectItems _).bind fun participants =>
      (FailsWithin.list (fun _ => Json.blameless_spelled _) participants).bind fun _ => .ok _

theorem blameless_scoreSum (proposals : List Fields) : Blameless (scoreSum proposals) :=
  (FailsWithin.list (fun _ => Json.blameless_toDouble _) proposals).bind fun _ => .ok _

theorem blameless_scaled (x : Binary64) : Blameless (scaled x) := by
  unfold scaled
  split
  · exact .ok _
  · exact .error nofun
  · exact .error nofun

theorem Comparison.blameless_ofSelected (baseline candidate : Json) (base cand : List Fields) :
    Blameless (ofSelected baseline candidate base cand) :=
  (FailsWithin.list blameless_cycleKey base).bind fun _ => (FailsWithin.list blameless_cycleKey cand).bind fun _ =>
    (blameless_scoreSum base).bind fun _ => (blameless_scoreSum cand).bind fun _ =>
      (blameless_scaled _).bind fun _ => (blameless_scaled _).bind fun _ =>
        (blameless_candidateCycles baseline).bind fun _ => (blameless_candidateCycles candidate).bind fun _ => .ok _

theorem Comparison.blameless_ofResults (baseline candidate limit : Json) :
    Blameless (ofResults baseline candidate limit) :=
  (blameless_proposalsOf baseline).bind fun _ => (blameless_takeWithin limit _).bind fun _ =>
    (blameless_proposalsOf candidate).bind fun _ => (blameless_takeWithin limit _).bind fun _ =>
      blameless_ofSelected baseline candidate _ _

end Results

theorem LogText.blameless_sanitizeText (s : String) : Blameless (sanitizeText s) := by
  unfold sanitizeText
  split
  · split
    · exact .ok _
    · exact .ok _
    · exact .error nofun
  · exact .ok _

theorem LogText.blameless_sanitize (value : Json) : Blameless (sanitize value) := by
  unfold sanitize
  split
  · exact .ok _
  · exact (Json.blameless_spelled _).bind blameless_sanitizeText

theorem EngineName.blameless_check (name : String) : Blameless (check name) := by
  unfold check
  split
  · exact .ok _
  · exact .error nofun

theorem SafetyTriggers.blameless_ofResult (result : Json) (primary : PrimaryConfig) :
    Blameless (ofResult result primary) := by
  unfold ofResult
  split
  · exact .ok _
  · exact (blameless_safetySignals result).bind fun _ => .ok _

namespace Engine

theorem blameless_settle (code : String) (answer : Except EngineFailure Json) : Blameless (settle code answer) := by
  cases answer with
  | ok result => exact .ok _
  | error failure => exact (LogText.blameless_sanitize _).bind fun _ => .ok _

theorem stopsElsewhere_execute (engine : Engine σ) (request : EngineRequest) (code : String) (force : Option String) :
    StopsWithin Fault.Elsewhere (engine.execute request code force) := by
  rw [execute_eq]
  refine .bind ?_ fun answer => (StopsWithin.observe _).bind fun _ => .lift (blameless_settle code answer)
  unfold answering
  split
  · exact .pure _
  · exact fun _ => .ok _

theorem stopsElsewhere_executeIfConfigured (engine : Option (Engine σ)) (label : String) (request : EngineRequest)
    (code : String) (force : Option String) :
    StopsWithin Fault.Elsewhere (executeIfConfigured engine label request code force) := by
  cases engine with
  | none => exact .pure _
  | some engine => exact engine.stopsElsewhere_execute request code force

end Engine

namespace Namespaces

theorem blameless_set (all : Namespaces) (space key : String) (value : Json) : Blameless (set all space key value).1 := by
  unfold set
  dsimp only
  split
  · exact .ok _
  · exact .error nofun

theorem blameless_placeOf (length : Nat) (index : Json) : Blameless (placeOf length index) := by
  have placed : ∀ place : Int, Blameless
      (if 0 ≤ place ∧ place < length then pure place.toNat else throw .noSuchItem : Except Fault Nat) := by
    intro place
    split
    · exact .ok _
    · exact .error nofun
  refine (Json.blameless_wholeNumber index).bind fun i => ?_
  split
  · exact .error nofun
  · exact placed _

theorem blameless_removeIndices (items indices : List Json) : Blameless (removeIndices items indices).1 := by
  induction indices generalizing items with
  | nil => exact .ok ()
  | cons index more ih =>
      unfold removeIndices
      have placed := blameless_placeOf items.length index
      split
      · exact ih _
      · rename_i fault failed
        exact .error (placed fault failed)

theorem blameless_prune (all : Namespaces) (space : String) (limit : Int) : Blameless (prune all space limit).1 := by
  unfold prune
  dsimp only
  split
  · exact .ok _
  · rename_i entries here
    have removed := blameless_removeIndices entries (entries.take (overflow entries.length limit))
    split
    · exact .ok _
    · rename_i fault rest failed
      rw [failed] at removed
      exact .error (removed fault rfl)
  · split
    · exact .ok _
    · exact .error nofun
  · exact .error nofun

theorem blameless_advance (all : Namespaces) (name : String) : Blameless (advance all name).1 := by
  unfold advance
  dsimp only
  split
  · rename_i counters here
    have read := Json.blameless_toInteger ((Fields.get? counters name).getD (.int 0))
    split
    · exact .ok _
    · rename_i fault failed
      exact .error (read fault failed)
  · exact .error nofun

end Namespaces

namespace Store

theorem stopsElsewhere_transaction {p : Part σ Store} {body : Attempt σ α} (h : StopsWithin Fault.Elsewhere body) :
    StopsWithin Fault.Elsewhere (transaction p body) := stopsWithin_transaction h fun _ => Fault.OfDisk.elsewhere

theorem stopsElsewhere_set (space key : String) (value : Json) :
    StopsWithin Fault.Elsewhere (set space key value) :=
  stopsElsewhere_transaction (.onNamespaces fun all => all.blameless_set space key value)

theorem stopsElsewhere_putAndPrune (space key : String) (value : Json) (limit : Int) :
    StopsWithin Fault.Elsewhere (putAndPrune space key value limit) :=
  stopsElsewhere_transaction ((stopsElsewhere_set space key value).bind fun _ =>
    stopsElsewhere_transaction (.onNamespaces fun all => all.blameless_prune space limit))

theorem stopsElsewhere_nextSequence (name : String) : StopsWithin Fault.Elsewhere (nextSequence name) :=
  stopsElsewhere_transaction (.onNamespaces fun all => all.blameless_advance name)

end Store

namespace Rollback

theorem blameless_decode (raw : Json) : Blameless (decode raw) := by
  unfold decode
  split
  · exact .ok _
  · split
    · exact .ok _
    · unfold salvage
      dsimp only
      split
      · exact .ok _
      · exact .error nofun

theorem blameless_stateIn (shown : Option Json) : Blameless (stateIn shown) := by
  unfold stateIn
  split
  · exact blameless_decode _
  · exact .error nofun

theorem stopsElsewhere_load : StopsWithin Fault.Elsewhere (load : Attempt (World σ) RollbackState) := by
  intro w
  rw [outcome_load]
  exact blameless_stateIn _

theorem stopsElsewhere_snapshot : StopsWithin Fault.Elsewhere (snapshot : Attempt (World σ) RollbackSnapshot) :=
  stopsElsewhere_load.bind fun _ => .pure _

theorem stopsElsewhere_save (state : RollbackState) :
    StopsWithin Fault.Elsewhere (save state : Attempt (World σ) Unit) :=
  (StopsWithin.onStore (Store.stopsElsewhere_set _ _ _)).bind fun _ => .observe _

theorem stopsElsewhere_reset : StopsWithin Fault.Elsewhere (reset : Attempt (World σ) RollbackState) :=
  (Store.stopsElsewhere_transaction (stopsElsewhere_load.bind fun _ => stopsElsewhere_save .clear)).bind fun _ =>
    .pure _

theorem stopsElsewhere_update (config : CanaryConfig) (runId recordedAt : String) (sample : Option RunSample) :
    StopsWithin Fault.Elsewhere (update config runId recordedAt sample : Attempt (World σ) RollbackUpdate) := by
  rw [update_eq]
  refine (Store.stopsElsewhere_transaction (stopsElsewhere_load.bind fun state => ?_)).bind fun found => ?_
  · exact (stopsElsewhere_save _).bind fun _ => .pure _
  · obtain ⟨before, after, summary, triggered⟩ := found
    cases triggered with
    | false => exact .pure _
    | true => exact (StopsWithin.observe _).bind fun _ => .pure _

end Rollback

theorem Selection.blameless_ofAttempt (primary : PrimaryConfig) (baseline : Json) (attempt : EngineOutcome) :
    Blameless (ofAttempt primary baseline attempt) := by
  cases attempt with
  | err code failure => exact .ok _
  | ok result =>
      refine (SafetyTriggers.blameless_ofResult result primary).bind fun safety => ?_
      split
      · exact .ok _
      · exact .ok _

theorem Selection.stopsElsewhere_select (routing : RoutingDecision) (canary : CanaryConfig) (primary : PrimaryConfig)
    (baseline : Json) (candidate : Option (Engine σ)) (request : EngineRequest) :
    StopsWithin Fault.Elsewhere (select routing canary primary baseline candidate request) :=
  .ite (.pure _) ((Engine.stopsElsewhere_executeIfConfigured _ _ _ _ _).bind fun attempt =>
    .lift (blameless_ofAttempt primary baseline attempt))

namespace Shadow

theorem Scene.blameless_compare (scene : Scene) (result : Json) (safety : SafetyTriggers) :
    Blameless (scene.compare result safety) := (Comparison.blameless_ofResults _ _ _).bind fun _ => .ok _

theorem stopsElsewhere_run (scene : Scene) (canary : CanaryConfig) (primary : PrimaryConfig)
    (routing : RoutingDecision) (selection : Selection) (candidate : Option (Engine σ)) (request : EngineRequest) :
    StopsWithin Fault.Elsewhere (run scene canary primary routing selection candidate request) := by
  have compared : ∀ safety (o : Option Json), Blameless (o.mapM fun result => scene.compare result safety) :=
    fun safety => .option fun result => scene.blameless_compare result safety
  rw [run_eq]
  refine .ite (.bind (.lift (compared _ _)) fun _ => .pure _) (.ite (.pure _) (.bind ?attempted fun attempt => ?kept))
  case attempted =>
    unfold attempting
    split
    · exact .pure _
    · exact (Engine.stopsElsewhere_executeIfConfigured _ _ _ _ _).bind fun _ => .pure _
  case kept =>
    have safe : Blameless (safetyOf primary selection.safety (resultOf selection attempt)) := by
      unfold safetyOf
      split
      · exact SafetyTriggers.blameless_ofResult _ primary
      · exact .ok _
    exact (StopsWithin.lift safe).bind fun _ => (StopsWithin.lift (compared _ _)).bind fun _ =>
      .bind (.bind (.onStore (Store.stopsElsewhere_putAndPrune _ _ _ _)) fun _ => .observe _) fun _ => .pure _

end Shadow

namespace AltShadow

theorem blameless_recordOf (runId recordedAt : String) (served : Option String) (servedResult : Json)
    (matcher : MatcherConfig) (limit : Json) (outcome : EngineOutcome) :
    Blameless (recordOf runId recordedAt served servedResult matcher limit outcome) := by
  cases outcome with
  | ok result =>
      exact (Comparison.blameless_ofResults _ _ _).bind fun _ => (blameless_safetySignals result).bind fun _ =>
        (EngineName.blameless_check _).bind fun _ => .ok _
  | err code failure => exact (FailsWithin.option EngineName.blameless_check served).bind fun _ => .ok _

theorem stopsElsewhere_run (runId recordedAt : String) (config : AltShadowConfig) (served : Option String)
    (servedResult : Json) (matcher : MatcherConfig) (engine : Option (Engine σ)) (request : EngineRequest)
    (limit : Json) :
    StopsWithin Fault.Elsewhere (run runId recordedAt config served servedResult matcher engine request limit) :=
  .ite (.pure _) ((Engine.stopsElsewhere_executeIfConfigured _ _ _ _ _).bind fun outcome =>
    (StopsWithin.lift (blameless_recordOf _ _ _ _ _ _ outcome)).bind fun _ => (StopsWithin.observe _).bind fun _ =>
      (StopsWithin.onStore (Store.stopsElsewhere_putAndPrune _ _ _ _)).bind fun _ => .pure _)

end AltShadow

theorem RunSample.blameless_ofRun (runId recordedAt : String) (selected : Bool) (error : Option ErrorInfo)
    (safety : SafetyTriggers) (diff : Option DiffRecord) :
    Blameless (ofRun runId recordedAt selected error safety diff) := by
  unfold ofRun
  split
  · exact .ok _
  · exact (Json.blameless_toInteger _).bind fun _ => .ok _

theorem DecisionInput.blameless_record (d : DecisionInput) : Blameless d.record := by
  have figures : Blameless d.metrics :=
    (blameless_candidateCycles _).bind fun _ => (Json.blameless_toInteger _).bind fun _ =>
      (FailsWithin.option (fun _ => Json.blameless_toInteger _) d.diff).bind fun _ =>
        (blameless_candidateCycles _).bind fun _ =>
          (FailsWithin.option (fun _ => Json.blameless_toInteger _) d.diff).bind fun _ => .ok _
  exact figures.bind fun _ => (EngineName.blameless_check _).bind fun _ => .ok _

namespace Run

theorem stopsElsewhere_nextId : StopsWithin Fault.Elsewhere (nextId : Attempt (World σ) String) := by
  refine (StopsWithin.onStore (Store.stopsElsewhere_nextSequence _)).bind fun n => .lift ?_
  split
  · exact .ok _
  · exact .error nofun

theorem blameless_servedProposals (result : Json) (limit : Int) : Blameless (servedProposals result limit) :=
  (Json.blameless_fieldsOf _).bind fun _ => (Json.blameless_fieldsOf _).bind fun _ =>
    (Json.blameless_objectItems _).bind fun _ => .ok _

namespace Plan

variable (p : Plan σ)

theorem blameless_located : Blameless p.located := by
  unfold located RoutingDecision.bucketWith
  split
  · cases Rollout.bucketWith Sha256.digest (.text p.configs.canary.salt) p.origin with
    | error error => exact .error nofun
    | ok bucket => exact .ok _
  · exact .ok _

theorem stopsElsewhere_trying (runId : String) (baseline : Json) :
    StopsWithin Fault.Elsewhere (p.trying runId baseline) := by
  have reset : StopsWithin Fault.Elsewhere p.resetting :=
    .ite (Rollback.stopsElsewhere_reset.bind fun _ => .pure _) (.pure _)
  exact reset.bind fun _ => Rollback.stopsElsewhere_snapshot.bind fun before =>
    ((StopsWithin.lift p.blameless_located).bind fun _ => Selection.stopsElsewhere_select _ _ _ _ _ _).bind fun selection =>
      (Shadow.stopsElsewhere_run _ _ _ _ _ _ _).bind fun _ =>
        (AltShadow.stopsElsewhere_run _ _ _ _ _ _ _ _ _).bind fun _ => .pure _

theorem stopsElsewhere_closing (runId : String) (baseline : Json) (t : Trial) :
    StopsWithin Fault.Elsewhere (p.closing runId baseline t) := by
  refine (StopsWithin.lift (RunSample.blameless_ofRun _ _ _ _ _ _)).bind fun sample => .bind ?_ fun rollback =>
    (StopsWithin.lift (p.input runId baseline t sample rollback).blameless_record).bind fun decision =>
      .bind ?_ fun _ => (StopsWithin.observe _).bind fun _ =>
        (StopsWithin.lift (blameless_servedProposals _ _)).bind fun _ => .pure _
  · exact .ite (Rollback.stopsElsewhere_update _ _ _ _) (Rollback.stopsElsewhere_load.bind fun _ => .pure _)
  · exact .ite (.bind (.onStore (Store.stopsElsewhere_putAndPrune _ _ _ _)) fun _ => .pure _) (.pure _)

/-- A run that blames its baseline stopped while it was opening. -/
theorem outcome_of_baselineFailed {w w' : World σ} {name message : String}
    (h : p.attempt.outcome w = (.error (.baselineFailed name message), w')) :
    p.opening.outcome w = (.error (.baselineFailed name message), w') := by
  rw [attempt_eq, outcome_bind] at h
  cases opened : p.opening.outcome w with
  | mk r t =>
      rw [opened] at h
      cases r with
      | error fault =>
          cases h
          rfl
      | ok o =>
          have stopped : StopsWithin Fault.Elsewhere (p.trying o.1 o.2 >>= fun t => p.closing o.1 o.2 t) :=
            (p.stopsElsewhere_trying o.1 o.2).bind fun t => p.stopsElsewhere_closing o.1 o.2 t
          exact absurd rfl (stopped t _ (congrArg Prod.fst h) name message)

/-- Such a run took its number, and then its baseline failed. -/
theorem stages_of_baselineFailed {w w' : World σ} {name message : String}
    (h : p.attempt.outcome w = (.error (.baselineFailed name message), w')) :
    ∃ engine runId t, p.engines.baseline = some engine ∧ nextId.outcome w = (.ok runId, t)
      ∧ (baselineResult (some engine) (p.ask p.configs.baselineMatcher)).outcome t
        = (.error (.baselineFailed name message), w') := by
  have opening := p.outcome_of_baselineFailed h
  unfold Plan.opening at opening
  rw [outcome_bind] at opening
  cases numbered : (nextId : Attempt (World σ) String).outcome w with
  | mk r t =>
      rw [numbered] at opening
      cases r with
      | error fault =>
          cases opening
          exact absurd rfl (stopsElsewhere_nextId w _ (congrArg Prod.fst numbered) name message)
      | ok runId =>
          dsimp only at opening
          rw [outcome_bind] at opening
          cases configured : p.engines.baseline with
          | none =>
              rw [configured] at opening
              cases opening
          | some engine =>
              rw [configured] at opening
              refine ⟨engine, runId, t, rfl, rfl, ?_⟩
              rcases answered : (baselineResult (some engine) (p.ask p.configs.baselineMatcher)).outcome t with ⟨r, u⟩
              rw [answered] at opening
              cases r with
              | error fault =>
                  cases opening
                  rfl
              | ok result => cases opening

end Plan

end Run

end CanaryGate
