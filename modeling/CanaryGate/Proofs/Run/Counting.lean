import CanaryGate.Proofs.Engine.Boundary
import CanaryGate.Proofs.Run.Frame
import CanaryGate.Proofs.Run.Returned

/-! # What the stages of a run count

Nothing but an observation changes the metrics. Each stage makes observations of certain kinds alone, so it
leaves every view of the metrics in which these do not show. A run is followed in four parts: up to the
baseline's answer, to the selection, through the shadows, and to the audit record.
-/

namespace CanaryGate

open Attempt

variable {σ α γ : Type}

namespace Metrics

/-! The kinds of observations, the finished run apart. -/

def executed (engine : String) (m : Metrics) : Metrics := { m with latencies := m.latencies.bump engine }

def shadowed (shadow : ShadowKind) (kind : RecordKind) (m : Metrics) : Metrics :=
  { m with shadowRecords := m.shadowRecords.bump (shadow, kind) }

def showing (active : Bool) (m : Metrics) : Metrics := { m with rollbackActive := active }

def tripped (reason : String) (m : Metrics) : Metrics := { m with trips := m.trips.bump reason }

/-- The observation does not show in the view. -/
def Unseen (view : Metrics → γ) (f : Metrics → Metrics) : Prop := ∀ m, view (f m) = view m

end Metrics

open Metrics

namespace World

/-- What a view shows of the metrics. -/
def metered (view : Metrics → γ) (w : World σ) : γ := view w.metrics

variable {view : Metrics → γ}

theorem leaves_metered_onStore (a : Attempt Store α) : Leaves (metered view) (onStore a : Attempt (World σ) α) :=
  fun _ => rfl

theorem leaves_metered_observe {f : Metrics → Metrics} (unseen : Unseen view f) :
    Leaves (metered view) (observe f : Attempt (World σ) Unit) := fun w => unseen w.metrics

theorem leaves_metered_transaction {body : Attempt (World σ) α} (h : Leaves (metered view) body) :
    Leaves (metered view) (Store.transaction storePart body) := leaves_transaction_of_apart (fun _ _ => rfl) h

end World

open World

variable {view : Metrics → γ}

namespace Engine

theorem leaves_metered_answering (engine : Engine σ) (request : EngineRequest) (force : Option String) :
    Leaves (metered view) (engine.answering request force) := by
  unfold answering
  split
  · exact .pure _
  · exact fun _ => rfl

theorem leaves_metered_execute {engine : Engine σ} (unseen : Unseen view (executed engine.name))
    (request : EngineRequest) (code : String) (force : Option String) :
    Leaves (metered view) (engine.execute request code force) := by
  rw [execute_eq]
  exact (leaves_metered_answering engine request force).bind fun _ =>
    (leaves_metered_observe unseen).bind fun _ => .lift _

theorem leaves_metered_executeIfConfigured {engine : Option (Engine σ)}
    (unseen : ∀ e, engine = some e → Unseen view (executed e.name)) (label : String) (request : EngineRequest)
    (code : String) (force : Option String) :
    Leaves (metered view) (executeIfConfigured engine label request code force) := by
  cases engine with
  | none => exact .pure _
  | some engine => exact leaves_metered_execute (unseen engine rfl) request code force

/-- However it ends, an execution is counted once. -/
theorem metrics_execute (engine : Engine σ) (request : EngineRequest) (code : String) (force : Option String)
    (w : World σ) : ((engine.execute request code force).outcome w).2.metrics = executed engine.name w.metrics := by
  have asking : (engine.asked request force w).metrics = w.metrics := by
    unfold asked
    split
    · rfl
    · rfl
  rw [outcome_execute]
  exact congrArg (executed engine.name) asking

end Engine

namespace Rollback

theorem leaves_metered_load : Leaves (metered view) (load : Attempt (World σ) RollbackState) := by
  intro w
  rw [outcome_load]

theorem leaves_metered_snapshot : Leaves (metered view) (snapshot : Attempt (World σ) RollbackSnapshot) :=
  leaves_metered_load.bind fun _ => .pure _

theorem leaves_metered_save (unseen : ∀ active, Unseen view (showing active)) (state : RollbackState) :
    Leaves (metered view) (save state : Attempt (World σ) Unit) :=
  (leaves_metered_onStore _).bind fun _ => leaves_metered_observe (unseen state.active)

theorem leaves_metered_reset (unseen : ∀ active, Unseen view (showing active)) :
    Leaves (metered view) (reset : Attempt (World σ) RollbackState) :=
  (leaves_metered_transaction (leaves_metered_load.bind fun _ => leaves_metered_save unseen .clear)).bind fun _ =>
    .pure _

theorem leaves_metered_judging (unseen : ∀ active, Unseen view (showing active)) (config : CanaryConfig)
    (runId recordedAt : String) (sample : Option RunSample) : Leaves (metered view)
      (Store.transaction World.storePart (load >>= judge config runId recordedAt sample) : Attempt (World σ) _) :=
  leaves_metered_transaction (leaves_metered_load.bind fun _ => (leaves_metered_save unseen _).bind fun _ => .pure _)

theorem leaves_metered_update (unseen : ∀ active, Unseen view (showing active))
    (untold : ∀ reason, Unseen view (tripped reason)) (config : CanaryConfig) (runId recordedAt : String)
    (sample : Option RunSample) :
    Leaves (metered view) (update config runId recordedAt sample : Attempt (World σ) RollbackUpdate) := by
  rw [update_eq]
  refine (leaves_metered_judging unseen config runId recordedAt sample).bind fun found => ?_
  obtain ⟨before, after, summary, triggered⟩ := found
  cases triggered with
  | false => exact .pure _
  | true => exact (leaves_metered_observe (untold _)).bind fun _ => .pure _

/-- An update counts a trip exactly if it reports one, and under the reason that it reports. -/
theorem trips_of_update {config : CanaryConfig} {runId recordedAt : String} {sample : Option RunSample}
    {w w' : World σ} {u : RollbackUpdate} (ran : (update config runId recordedAt sample).outcome w = (.ok u, w')) :
    w'.metrics.trips = if u.triggered then w.metrics.trips.bump (u.after.reasonCode.getD "") else w.metrics.trips := by
  rw [update_eq] at ran
  obtain ⟨⟨before, after, summary, triggered⟩, t, judged, announced⟩ := bind_eq_ok.mp ran
  have same : metered Metrics.trips t = metered Metrics.trips w :=
    (leaves_metered_judging (fun _ _ => rfl) config runId recordedAt sample).of_eq judged
  cases triggered with
  | false =>
      cases announced
      exact same
  | true =>
      cases announced
      exact congrArg (Tally.bump · _) same

end Rollback

theorem Selection.leaves_metered_select {candidate : Option (Engine σ)}
    (unseen : ∀ e, candidate = some e → Unseen view (executed e.name)) (routing : RoutingDecision)
    (canary : CanaryConfig) (primary : PrimaryConfig) (baseline : Json) (request : EngineRequest) :
    Leaves (metered view) (select routing canary primary baseline candidate request) :=
  .ite (.pure _) (.bind (Engine.leaves_metered_executeIfConfigured unseen _ _ _ _) fun _ => .lift _)

namespace Shadow

theorem leaves_metered_attempting {candidate : Option (Engine σ)}
    (unseen : ∀ e, candidate = some e → Unseen view (executed e.name)) (canary : CanaryConfig) (served : Option Json)
    (request : EngineRequest) : Leaves (metered view) (attempting canary served candidate request) := by
  unfold attempting
  split
  · exact .pure _
  · exact .bind (Engine.leaves_metered_executeIfConfigured unseen _ _ _ _) fun _ => .pure _

theorem leaves_metered_run {candidate : Option (Engine σ)}
    (unseen : ∀ e, candidate = some e → Unseen view (executed e.name))
    (unkept : ∀ kind, Unseen view (shadowed .candidate kind)) (scene : Scene) (canary : CanaryConfig)
    (primary : PrimaryConfig) (routing : RoutingDecision) (selection : Selection) (request : EngineRequest) :
    Leaves (metered view) (run scene canary primary routing selection candidate request) := by
  rw [run_eq]
  refine .ite (.bind (.lift _) fun _ => .pure _) (.ite (.pure _) (.bind ?attempted fun attempt => ?compared))
  case attempted => exact leaves_metered_attempting unseen _ _ _
  case compared =>
    refine .bind (.lift _) fun _ => .bind (.lift _) fun _ => .bind ?kept fun _ => .pure _
    exact (leaves_metered_onStore _).bind fun _ => leaves_metered_observe (unkept _)

/-- A shadow counts the record that it keeps, if it keeps one. -/
theorem shadowRecords_of_run {scene : Scene} {canary : CanaryConfig} {primary : PrimaryConfig}
    {routing : RoutingDecision} {selection : Selection} {candidate : Option (Engine σ)} {request : EngineRequest}
    {w w' : World σ} {o : ShadowOutcome}
    (ran : (run scene canary primary routing selection candidate request).outcome w = (.ok o, w')) :
    w'.metrics.shadowRecords = (o.stored.map fun record => (ShadowKind.candidate, record.kind)).toList.foldl Tally.bump
      w.metrics.shadowRecords := by
  rw [run_eq] at ran
  split at ran
  · obtain ⟨diff, _, lifted, returned⟩ := bind_eq_ok.mp ran
    obtain ⟨-, rfl⟩ := Prod.mk.inj lifted
    cases returned
    rfl
  · split at ran
    · cases ran
      rfl
    · obtain ⟨attempt, t, attempted, ran⟩ := bind_eq_ok.mp ran
      have same : metered Metrics.shadowRecords t = metered Metrics.shadowRecords w :=
        (leaves_metered_attempting (fun _ _ _ => rfl) _ _ _).of_eq attempted
      rw [comparing_eq] at ran
      obtain ⟨found, _, lifted, ran⟩ := bind_eq_ok.mp ran
      obtain ⟨-, rfl⟩ := Prod.mk.inj lifted
      obtain ⟨_, t', kept, returned⟩ := bind_eq_ok.mp ran
      cases returned
      obtain ⟨evicted, t'', put, observed⟩ := bind_eq_ok.mp kept
      cases observed
      have put : metered Metrics.shadowRecords t'' = metered Metrics.shadowRecords t :=
        (leaves_metered_onStore _).of_eq put
      exact congrArg (Tally.bump · _) (put.trans same)

end Shadow

namespace AltShadow

theorem leaves_metered_run {engine : Option (Engine σ)} (unseen : ∀ e, engine = some e → Unseen view (executed e.name))
    (unkept : ∀ kind, Unseen view (shadowed .alternate kind)) (runId recordedAt : String) (config : AltShadowConfig)
    (served : Option String) (servedResult : Json) (matcher : MatcherConfig) (request : EngineRequest) (limit : Json) :
    Leaves (metered view) (run runId recordedAt config served servedResult matcher engine request limit) :=
  .ite (.pure _) (.bind (Engine.leaves_metered_executeIfConfigured unseen _ _ _ _) fun _ => .bind (.lift _) fun _ =>
    .bind (leaves_metered_observe (unkept _)) fun _ => .bind (leaves_metered_onStore _) fun _ => .pure _)

/-- A cross-check counts the record that it keeps, if it is on. -/
theorem shadowRecords_of_run {runId recordedAt : String} {config : AltShadowConfig} {served : Option String}
    {servedResult : Json} {matcher : MatcherConfig} {engine : Option (Engine σ)} {request : EngineRequest} {limit : Json}
    {w w' : World σ} {o : Option AltRecord}
    (ran : (run runId recordedAt config served servedResult matcher engine request limit).outcome w = (.ok o, w')) :
    w'.metrics.shadowRecords = (o.map fun record => (ShadowKind.alternate, record.kind)).toList.foldl Tally.bump
      w.metrics.shadowRecords := by
  unfold run at ran
  split at ran
  · cases ran
    rfl
  · obtain ⟨outcome, t, executed, ran⟩ := bind_eq_ok.mp ran
    have same : metered Metrics.shadowRecords t = metered Metrics.shadowRecords w :=
      (Engine.leaves_metered_executeIfConfigured (fun _ _ _ => rfl) _ _ _ _).of_eq executed
    obtain ⟨record, _, lifted, ran⟩ := bind_eq_ok.mp ran
    obtain ⟨-, rfl⟩ := Prod.mk.inj lifted
    obtain ⟨_, _, observed, ran⟩ := bind_eq_ok.mp ran
    cases observed
    obtain ⟨evicted, t', put, returned⟩ := bind_eq_ok.mp ran
    cases returned
    have put : metered Metrics.shadowRecords w' = _ := (leaves_metered_onStore _).of_eq put
    exact put.trans (congrArg (Tally.bump · _) same)

end AltShadow

namespace Run

theorem leaves_metered_nextId : Leaves (metered view) (nextId : Attempt (World σ) String) :=
  (leaves_metered_onStore _).bind fun _ => .lift _

theorem leaves_metered_baselineResult {engine : Option (Engine σ)}
    (unseen : ∀ e, engine = some e → Unseen view (executed e.name)) (request : EngineRequest) :
    Leaves (metered view) (baselineResult engine request) := by
  cases engine with
  | none => exact .stop _
  | some engine =>
      refine .bind (Engine.leaves_metered_execute (unseen engine rfl) _ _ _) fun outcome => ?_
      cases outcome with
      | ok result => exact .pure _
      | err code failure => exact .stop _

/-- However the baseline answers, its execution is counted once and nothing else is. -/
theorem metrics_baselineResult (engine : Engine σ) (request : EngineRequest) (w : World σ) :
    ((baselineResult (some engine) request).outcome w).2.metrics = executed engine.name w.metrics := by
  refine (Leaves.bind_after (fun outcome => ?_) w).trans (Engine.metrics_execute engine request baselineCode none w)
  cases outcome with
  | ok result => exact .pure _
  | err code failure => exact .stop _

namespace Plan

variable {p : Plan σ}

theorem metrics_opening {engine : Engine σ} (configured : p.engines.baseline = some engine) {w w' : World σ}
    {runId : String} {baseline : Json} (ran : p.opening.outcome w = (.ok (runId, baseline), w')) :
    w'.metrics = executed engine.name w.metrics := by
  obtain ⟨_, t, numbered, ran⟩ := bind_eq_ok.mp ran
  obtain ⟨_, t', answered, returned⟩ := bind_eq_ok.mp ran
  cases returned
  have counted := metrics_baselineResult engine (p.ask p.configs.baselineMatcher) t
  rw [← configured, answered] at counted
  have same : metered id t = metered id w := leaves_metered_nextId.of_eq numbered
  exact counted.trans (congrArg (executed engine.name) same)

theorem leaves_metered_resetting (unseen : ∀ active, Unseen view (showing active)) :
    Leaves (metered view) p.resetting := .ite ((Rollback.leaves_metered_reset unseen).bind fun _ => .pure _) (.pure _)

theorem leaves_metered_selecting (unseen : ∀ e, p.engines.candidate = some e → Unseen view (executed e.name))
    (baseline : Json) (before : RollbackSnapshot) : Leaves (metered view) (p.selecting baseline before) :=
  .bind (.lift _) fun _ => Selection.leaves_metered_select unseen _ _ _ _ _

theorem leaves_metered_latching (unseen : ∀ active, Unseen view (showing active))
    (untold : ∀ reason, Unseen view (tripped reason)) (runId : String) (before : RollbackSnapshot)
    (sample : Option RunSample) : Leaves (metered view) (p.latching runId before sample) :=
  .ite (Rollback.leaves_metered_update unseen untold _ _ _ _) (Rollback.leaves_metered_load.bind fun _ => .pure _)

theorem leaves_metered_recording (runId : String) (before : RollbackSnapshot) (decision : DecisionRecord) :
    Leaves (metered view) (p.recording runId before decision) :=
  .ite ((leaves_metered_onStore _).bind fun _ => .pure _) (.pure _)

end Plan

/-! The parts of a run that returned. -/

namespace Returned

variable {p : Plan σ} {w w' : World σ} {result : RunResult}

theorem metered_chosen (r : Returned p w result w') (unshown : ∀ active, Unseen view (showing active))
    (unseen : ∀ e, p.engines.candidate = some e → Unseen view (executed e.name)) :
    metered view r.trying.chosen = metered view r.opened :=
  ((Plan.leaves_metered_selecting unseen _ _).of_eq r.trying.selecting).trans
    ((Plan.leaves_metered_resetting unshown).of_eq r.trying.resetting)

theorem metered_tried (r : Returned p w result w')
    (unseen : ∀ e, p.engines.candidate = some e ∨ p.engines.alternate = some e → Unseen view (executed e.name))
    (unkept : ∀ shadow kind, Unseen view (shadowed shadow kind)) :
    metered view r.tried = metered view r.trying.chosen :=
  ((AltShadow.leaves_metered_run (fun e here => unseen e (.inr here)) (unkept _) _ _ _ _ _ _ _ _).of_eq
      r.trying.crossing).trans
    ((Shadow.leaves_metered_run (fun e here => unseen e (.inl here)) (unkept _) _ _ _ _ _ _).of_eq r.trying.shadowing)

theorem metered_recorded (r : Returned p w result w') (unshown : ∀ active, Unseen view (showing active))
    (untold : ∀ reason, Unseen view (tripped reason)) : metered view r.recorded = metered view r.tried :=
  ((Plan.leaves_metered_recording _ _ _).of_eq r.recording).trans
    ((Plan.leaves_metered_latching unshown untold _ _ _).of_eq r.latching)

end Returned

end Run

end CanaryGate
