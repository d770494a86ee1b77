import CanaryGate.Proofs.Run.Stages

/-! # What the stages of a run touch

Engines never touch the store, and neither does selecting. The candidate's shadow and the alternate shadow each write to a namespace
of their own, and the counter and the decision records have one each as well, so that the latch is left
alone by all of a run but its reset and its update.
-/

namespace CanaryGate

open Attempt

variable {σ : Type} {space : String}

namespace Engine

theorem leaves_answering (engine : Engine σ) (request : EngineRequest) (force : Option String) :
    Leaves World.store (engine.answering request force) := by
  unfold answering
  split
  · exact .pure _
  · exact fun _ => rfl

theorem leaves_execute (engine : Engine σ) (request : EngineRequest) (code : String) (force : Option String) :
    Leaves World.store (engine.execute request code force) := by
  rw [execute_eq]
  exact .bind (leaves_answering engine request force) fun _ => .bind (fun _ => rfl) fun _ => .lift _

theorem leaves_executeIfConfigured (engine : Option (Engine σ)) (label : String) (request : EngineRequest)
    (code : String) (force : Option String) :
    Leaves World.store (executeIfConfigured engine label request code force) := by
  cases engine with
  | none => exact .pure _
  | some engine => exact leaves_execute engine request code force

end Engine

namespace Rollback

theorem leaves_load : Leaves World.store (load : Attempt (World σ) RollbackState) := by
  intro w
  rw [outcome_load]

theorem leaves_snapshot : Leaves World.store (snapshot : Attempt (World σ) RollbackSnapshot) :=
  leaves_load.bind fun _ => .pure _

theorem leaves_save (h : space ≠ Rollback.space) (state : RollbackState) :
    Leaves (World.shows space) (save state : Attempt (World σ) Unit) :=
  (World.leaves_onStore (Store.leaves_set h _ _)).bind fun _ => World.leaves_observe _

theorem leaves_reset (h : space ≠ Rollback.space) :
    Leaves (World.shows space) (reset : Attempt (World σ) RollbackState) :=
  (World.leaves_transaction ((World.leaves_of_store leaves_load).bind fun _ => leaves_save h .clear)).bind fun _ =>
    .pure _

theorem leaves_update (h : space ≠ Rollback.space) (config : CanaryConfig) (runId recordedAt : String)
    (sample : Option RunSample) :
    Leaves (World.shows space) (update config runId recordedAt sample : Attempt (World σ) RollbackUpdate) := by
  rw [update_eq]
  refine (World.leaves_transaction (.bind (World.leaves_of_store leaves_load) fun state => ?_)).bind fun found =>
    World.leaves_of_store (leaves_announce found)
  exact (leaves_save h _).bind fun _ => .pure _

end Rollback

theorem Selection.leaves_select (routing : RoutingDecision) (canary : CanaryConfig) (primary : PrimaryConfig)
    (baseline : Json) (candidate : Option (Engine σ)) (request : EngineRequest) :
    Leaves World.store (select routing canary primary baseline candidate request) :=
  .ite (.pure _) (.bind (Engine.leaves_executeIfConfigured _ _ _ _ _) fun _ => .lift _)

namespace Shadow

theorem leaves_keep (h : space ≠ Shadow.space) (runId : String) (record : ShadowRecord) (limit : Int) :
    Leaves (World.shows space) (keep runId record limit : Attempt (World σ) Unit) :=
  .bind (World.leaves_onStore (Store.leaves_putAndPrune h _ _ _)) fun _ => World.leaves_observe _

theorem leaves_attempting (canary : CanaryConfig) (served : Option Json) (candidate : Option (Engine σ))
    (request : EngineRequest) : Leaves World.store (attempting canary served candidate request) := by
  unfold attempting
  split
  · exact .pure _
  · exact .bind (Engine.leaves_executeIfConfigured _ _ _ _ _) fun _ => .pure _

/-- What survives the keeping of a record survives the whole shadow. -/
theorem keeps_run {P : Store → Prop} {scene : Scene} {canary : CanaryConfig}
    (kept : ∀ record, Keeps (fun w : World σ => P w.store) (keep scene.runId record canary.maxShadowDiffs))
    (primary : PrimaryConfig) (routing : RoutingDecision) (selection : Selection) (candidate : Option (Engine σ))
    (request : EngineRequest) :
    Keeps (fun w => P w.store) (run scene canary primary routing selection candidate request) := by
  rw [run_eq]
  refine .ite (.bind (.lift _) fun _ => .pure _) (.ite (.pure _) (.bind ?attempted fun attempt => ?compared))
  case attempted => exact (leaves_attempting _ _ _ _).keeps P
  case compared => exact .bind (.lift _) fun _ => .bind (.lift _) fun _ => .bind (kept _) fun _ => .pure _

theorem leaves_run (h : space ≠ Shadow.space) (scene : Scene) (canary : CanaryConfig) (primary : PrimaryConfig)
    (routing : RoutingDecision) (selection : Selection) (candidate : Option (Engine σ)) (request : EngineRequest) :
    Leaves (World.shows space) (run scene canary primary routing selection candidate request) :=
  .of_keeps fun shown => keeps_run (P := fun s => s.shows space = shown)
    (fun record => (leaves_keep h _ record _).keeps (· = shown)) primary routing selection candidate request

end Shadow

namespace AltShadow

theorem keeps_run {P : Store → Prop} {runId : String} {config : AltShadowConfig}
    (kept : ∀ record : AltRecord, Keeps (fun w : World σ => P w.store)
      (World.onStore (Store.putAndPrune AltShadow.space runId (.obj record.toFields) config.maxShadowDiffs)))
    (recordedAt : String) (served : Option String) (servedResult : Json) (matcher : MatcherConfig)
    (engine : Option (Engine σ)) (request : EngineRequest) (limit : Json) :
    Keeps (fun w => P w.store) (run runId recordedAt config served servedResult matcher engine request limit) :=
  .ite (.pure _) (.bind ((Engine.leaves_executeIfConfigured _ _ _ _ _).keeps P) fun _ =>
    .bind (.lift _) fun record => .bind (fun _ h => h) fun _ => .bind (kept record) fun _ => .pure _)

theorem leaves_run (h : space ≠ AltShadow.space) (runId recordedAt : String) (config : AltShadowConfig)
    (served : Option String) (servedResult : Json) (matcher : MatcherConfig) (engine : Option (Engine σ))
    (request : EngineRequest) (limit : Json) :
    Leaves (World.shows space) (run runId recordedAt config served servedResult matcher engine request limit) :=
  .of_keeps fun shown => keeps_run (P := fun s => s.shows space = shown)
    (fun _ => (World.leaves_onStore (Store.leaves_putAndPrune h _ _ _)).keeps (· = shown)) _ _ _ _ _ _ _

end AltShadow

namespace Run

theorem leaves_nextId (h : space ≠ Namespaces.sequences) : Leaves (World.shows space) (nextId : Attempt (World σ) String) :=
  .bind (World.leaves_onStore (Store.leaves_nextSequence h _)) fun _ => .lift _

theorem leaves_baselineResult (engine : Option (Engine σ)) (request : EngineRequest) :
    Leaves World.store (baselineResult engine request) := by
  cases engine with
  | none => exact .stop _
  | some engine =>
      refine .bind (Engine.leaves_execute _ _ _ _) fun outcome => ?_
      cases outcome with
      | ok result => exact .pure _
      | err code failure => exact .stop _

theorem leaves_untouched (config : CanaryConfig) (before : RollbackSnapshot) :
    Leaves World.store (untouched config before : Attempt (World σ) RollbackUpdate) :=
  Rollback.leaves_load.bind fun _ => .pure _

namespace Plan

variable (p : Plan σ)

theorem leaves_opening (h : space ≠ Namespaces.sequences) : Leaves (World.shows space) p.opening :=
  .bind (leaves_nextId h) fun _ => World.leaves_of_store (.bind (leaves_baselineResult _ _) fun _ => .pure _)

theorem leaves_resetting (h : space ≠ Rollback.space) : Leaves (World.shows space) p.resetting :=
  .ite ((Rollback.leaves_reset h).bind fun _ => .pure _) (.pure _)

theorem leaves_selecting (baseline : Json) (before : RollbackSnapshot) :
    Leaves World.store (p.selecting baseline before) := .bind (.lift _) fun _ => Selection.leaves_select _ _ _ _ _ _

theorem leaves_shadowing (h : space ≠ Shadow.space) (runId : String) (baseline : Json) (before : RollbackSnapshot)
    (selection : Selection) : Leaves (World.shows space) (p.shadowing runId baseline before selection) :=
  Shadow.leaves_run h _ _ _ _ _ _ _

theorem leaves_crossing (h : space ≠ AltShadow.space) (runId : String) (selection : Selection) :
    Leaves (World.shows space) (p.crossing runId selection) := AltShadow.leaves_run h _ _ _ _ _ _ _ _ _

theorem leaves_latching (h : space ≠ Rollback.space) (runId : String) (before : RollbackSnapshot)
    (sample : Option RunSample) : Leaves (World.shows space) (p.latching runId before sample) :=
  .ite (Rollback.leaves_update h _ _ _ _) (World.leaves_of_store (leaves_untouched _ _))

theorem leaves_recording (h : space ≠ decisionSpace) (runId : String) (before : RollbackSnapshot)
    (decision : DecisionRecord) : Leaves (World.shows space) (p.recording runId before decision) :=
  .ite (.bind (World.leaves_onStore (Store.leaves_putAndPrune h _ _ _)) fun _ => .pure _) (.pure _)

end Plan

/-- What is said about the store, and survives the stages of a run that go to the store. -/
structure Preserves (p : Plan σ) (P : Store → Prop) : Prop where
  opening : Keeps (fun w => P w.store) p.opening
  resetting : Keeps (fun w => P w.store) p.resetting
  shadowing : ∀ runId baseline before selection, Keeps (fun w => P w.store) (p.shadowing runId baseline before selection)
  crossing : ∀ runId selection, Keeps (fun w => P w.store) (p.crossing runId selection)
  latching : ∀ runId before sample, Keeps (fun w => P w.store) (p.latching runId before sample)
  recording : ∀ runId before decision, Keeps (fun w => P w.store) (p.recording runId before decision)

namespace Preserves

variable {p : Plan σ} {P : Store → Prop}

theorem trying (kept : Preserves p P) (runId : String) (baseline : Json) :
    Keeps (fun w => P w.store) (p.trying runId baseline) :=
  kept.resetting.bind fun _ => .bind (Rollback.leaves_snapshot.keeps P) fun before =>
    .bind ((p.leaves_selecting baseline before).keeps P) fun selection =>
      (kept.shadowing runId baseline before selection).bind fun _ => (kept.crossing runId selection).bind fun _ =>
        .pure _

theorem closing (kept : Preserves p P) (runId : String) (baseline : Json) (t : Trial) :
    Keeps (fun w => P w.store) (p.closing runId baseline t) :=
  .bind (.lift _) fun sample => (kept.latching runId t.before sample).bind fun _ => .bind (.lift _) fun decision =>
    (kept.recording runId t.before decision).bind fun _ => .bind (fun _ h => h) fun _ => .bind (.lift _) fun _ => .pure _

theorem attempt (kept : Preserves p P) : Keeps (fun w => P w.store) p.attempt := by
  rw [p.attempt_eq]
  exact kept.opening.bind fun o => (kept.trying o.1 o.2).bind fun t => kept.closing o.1 o.2 t

end Preserves

end Run

end CanaryGate
