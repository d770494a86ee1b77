import CanaryGate.Proofs.Run.Frame
import CanaryGate.Proofs.Run.RecordNames
import CanaryGate.Proofs.Store.Detached

/-! # Runs do not see their file

Everything that a run puts in the store goes through transactions whose bodies change nothing if they fail. So as
long as the file can be written, each stage of a run gives and leaves the same as without one, and what is in memory
when it ends, well or not, is what a new store would read.
-/

namespace CanaryGate

open Attempt

variable {σ α β : Type}

namespace World

/-- The world with its store in memory alone. -/
def detach (w : World σ) : World σ := { w with store := w.store.detach }

theorem blind_onStore {a : Attempt Store α} (h : Blind Store.detach a) :
    Blind detach (onStore a : Attempt (World σ) α) := by
  intro w unhindered
  have same := h w.store unhindered
  unfold onStore
  rw [outcome_on, outcome_on]
  show ((a.outcome w.store.detach).1, storePart.put w.detach (a.outcome w.store.detach).2) = _
  rw [same]
  rfl

theorem undone_onStore {a : Attempt Store α} (h : Store.Undone .self a) :
    Store.Undone storePart (onStore a : Attempt (World σ) α) := by
  intro w fault v opened failed
  obtain ⟨refused, rfl⟩ := Prod.mk.inj failed
  exact h w.store fault _ opened (Prod.ext refused rfl)

theorem detaches_storePart : Store.Detaches (storePart : Part (World σ) Store) detach := ⟨fun _ => rfl, fun _ _ => rfl⟩

end World

namespace Attempt

/-- As long as the file can be written, the attempt does not see whether there is one, and leaves in it what is in
memory. -/
structure Transparent (a : Attempt (World σ) α) : Prop where
  blind : Blind World.detach a
  saves : Maintains (fun w => w.store.Saved) a

namespace Transparent

theorem of_leaves {a : Attempt (World σ) α} (leaves : Leaves World.store a) (blind : Blind World.detach a) :
    Transparent a := ⟨blind, .of_keeps (leaves.keeps _)⟩

theorem pure (x : α) : Transparent (Pure.pure x : Attempt (World σ) α) := .of_leaves (.pure x) (.pure x)

theorem lift (r : Except Fault α) : Transparent (Attempt.lift r : Attempt (World σ) α) := .of_leaves (.lift r) (.lift r)

theorem stop (fault : Fault) : Transparent (Attempt.stop fault : Attempt (World σ) α) := lift (.error fault)

theorem observe (f : Metrics → Metrics) : Transparent (World.observe f : Attempt (World σ) Unit) :=
  .of_leaves (fun _ => rfl) fun _ _ => rfl

theorem bind_given {Q : α → Prop} {a : Attempt (World σ) α} {f : α → Attempt (World σ) β} (given : Gives Q a)
    (first : Transparent a) (second : ∀ x, Q x → Transparent (f x)) : Transparent (a >>= f) where
  blind := .bind given first.blind fun x held => (second x held).blind
  saves := .bind given first.saves fun x held => (second x held).saves

theorem bind {a : Attempt (World σ) α} {f : α → Attempt (World σ) β} (first : Transparent a)
    (second : ∀ x, Transparent (f x)) : Transparent (a >>= f) :=
  bind_given (.any a) first fun x _ => second x

theorem lift_bind {r : Except Fault α} {f : α → Attempt (World σ) β} (second : ∀ x, r = .ok x → Transparent (f x)) :
    Transparent (Attempt.lift r >>= f) := bind_given (.lift fun _ found => found) (lift r) second

theorem ite {c : Prop} [Decidable c] {a b : Attempt (World σ) α} (yes : Transparent a) (no : Transparent b) :
    Transparent (if c then a else b) := by
  split
  · exact yes
  · exact no

theorem onStore {a : Attempt Store α} (blind : Blind Store.detach a) (saves : Maintains Store.Saved a) :
    Transparent (World.onStore a : Attempt (World σ) α) := ⟨World.blind_onStore blind, fun w => saves w.store⟩

theorem putAndPrune (space key : String) {value : Json} (proper : value.Distinct) (limit : Int) :
    Transparent (World.onStore (Store.putAndPrune space key value limit) : Attempt (World σ) (List Json)) :=
  .onStore (Store.blind_putAndPrune space key value limit) (Store.maintains_putAndPrune space key proper limit)

end Transparent

end Attempt

namespace Engine

theorem transparent_answering (engine : Engine σ) (request : EngineRequest) (force : Option String) :
    Transparent (engine.answering request force) := by
  refine .of_leaves (leaves_answering engine request force) ?_
  unfold answering
  split
  · exact .pure _
  · exact fun _ _ => rfl

theorem transparent_executeIfConfigured (engine : Option (Engine σ)) (label : String) (request : EngineRequest)
    (code : String) (force : Option String) : Transparent (executeIfConfigured engine label request code force) := by
  cases engine with
  | none => exact .pure _
  | some engine =>
      show Transparent (engine.execute request code force)
      rw [execute_eq]
      exact (engine.transparent_answering request force).bind fun _ => .bind (.observe _) fun _ => .lift _

end Engine

namespace Rollback

theorem blind_load : Blind World.detach (load : Attempt (World σ) RollbackState) :=
  .bind (.any _) (World.blind_onStore (Store.blind_get _ _ _)) fun _ _ => .lift _

theorem transparent_load : Transparent (load : Attempt (World σ) RollbackState) := .of_leaves leaves_load blind_load

theorem transparent_snapshot : Transparent (snapshot : Attempt (World σ) RollbackSnapshot) :=
  transparent_load.bind fun _ => .pure _

theorem blind_save (state : RollbackState) : Blind World.detach (save state : Attempt (World σ) Unit) :=
  .bind (.any _) (World.blind_onStore (Store.blind_set _ _ _)) fun _ _ _ _ => rfl

theorem inside_save {disk : Option Disk} {depth : Nat} (state : RollbackState) :
    Keeps (fun w => Store.Inside disk depth w.store) (save state : Attempt (World σ) Unit) := by
  have stored : Keeps (fun w => Store.Inside disk depth w.store)
      (World.onStore (Store.set space key (.obj state.toFields)) : Attempt (World σ) Unit) :=
    fun w => Store.inside_set space key state.distinct_toFields w.store
  exact stored.bind fun _ _ inside => inside

theorem undone_save (state : RollbackState) :
    Store.Undone World.storePart (save state : Attempt (World σ) Unit) :=
  .before_finishing (World.undone_onStore (Store.undone_set _ _ _)) fun _ _ => ⟨(), rfl⟩

theorem inside_saving {disk : Option Disk} {rest : RollbackState → Attempt (World σ) α} (after : RollbackState → RollbackState)
    (answer : RollbackState → α) (saves : ∀ state, rest state = save (after state) >>= fun _ => pure (answer state)) :
    Keeps (fun w => Store.Inside disk 0 w.store) (load >>= rest) := by
  refine (leaves_load.keeps _).bind fun state => ?_
  rw [saves]
  exact (inside_save _).bind fun _ => .pure _

/-- A body that loads the state, saves another one and cannot fail any more. -/
theorem transparent_transaction {rest : RollbackState → Attempt (World σ) α} (after : RollbackState → RollbackState)
    (answer : RollbackState → α) (saves : ∀ state, rest state = save (after state) >>= fun _ => pure (answer state)) :
    Transparent (Store.transaction World.storePart (load >>= rest)) := by
  have inner : Blind World.detach (load >>= rest) := by
    refine .bind (.any _) blind_load fun state _ => ?_
    rw [saves]
    exact .bind (.any _) (blind_save _) fun _ _ => .pure _
  have undone : Store.Undone World.storePart (load >>= rest) := by
    refine .after_leaving leaves_load fun state => ?_
    rw [saves]
    exact (undone_save _).before_finishing fun _ => finishes_pure _
  exact ⟨Store.blind_transaction World.detaches_storePart inner,
    Store.maintains_transaction World.lawful_storePart (fun _ => inside_saving after answer saves) undone⟩

theorem transparent_reset : Transparent (reset : Attempt (World σ) RollbackState) :=
  .bind (transparent_transaction (fun _ => .clear) (fun _ => ()) fun _ => (bind_pure _).symm) fun _ => .pure _

theorem transparent_announce (found : RollbackSnapshot × RollbackState × WindowSummary × Bool) :
    Transparent (announce found : Attempt (World σ) RollbackUpdate) := by
  obtain ⟨before, after, summary, triggered⟩ := found
  cases triggered with
  | false => exact .pure _
  | true => exact .bind (.observe _) fun _ => .pure _

theorem transparent_update (config : CanaryConfig) (runId recordedAt : String) (sample : Option RunSample) :
    Transparent (update config runId recordedAt sample : Attempt (World σ) RollbackUpdate) := by
  rw [update_eq]
  exact (transparent_transaction _ _ (judge_eq config runId recordedAt sample)).bind transparent_announce

/-- The summary of an update has no repeated names. -/
theorem gives_update (config : CanaryConfig) (runId recordedAt : String) (sample : Option RunSample) :
    Gives (fun u => (Json.obj u.summary).Distinct)
      (update config runId recordedAt sample : Attempt (World σ) RollbackUpdate) := by
  intro w u w' updated
  obtain ⟨state, -, rfl⟩ := report_of_update updated
  exact WindowSummary.distinct_toFields _

end Rollback

theorem Selection.transparent_select (routing : RoutingDecision) (canary : CanaryConfig) (primary : PrimaryConfig)
    (baseline : Json) (candidate : Option (Engine σ)) (request : EngineRequest) :
    Transparent (select routing canary primary baseline candidate request) :=
  .ite (.pure _) (.bind (Engine.transparent_executeIfConfigured _ _ _ _ _) fun _ => .lift _)

namespace Shadow

theorem transparent_attempting (canary : CanaryConfig) (served : Option Json) (candidate : Option (Engine σ))
    (request : EngineRequest) : Transparent (attempting canary served candidate request) := by
  unfold attempting
  split
  · exact .pure _
  · exact .bind (Engine.transparent_executeIfConfigured _ _ _ _ _) fun _ => .pure _

theorem transparent_keep (runId : String) {record : ShadowRecord} (proper : (Json.obj record.toFields).Distinct)
    (limit : Int) : Transparent (keep runId record limit : Attempt (World σ) Unit) :=
  (Transparent.putAndPrune _ _ proper _).bind fun _ => .observe _

/-- A record that is chosen has no repeated names, if the comparison has none. -/
theorem distinct_chooseRecord (scene : Scene) (force servedOk : Bool) {diff : Option DiffRecord}
    (attempt : Option EngineOutcome) (proper : ∀ d, diff = some d → (Json.obj d.toFields).Distinct) :
    (Json.obj (chooseRecord scene force servedOk diff attempt).toFields).Distinct := by
  unfold chooseRecord
  split
  · exact ShadowErrorRecord.distinct_toFields _
  · cases diff with
    | none => exact ShadowErrorRecord.distinct_toFields _
    | some d => exact proper d rfl

theorem transparent_comparing (scene : Scene) (canary : CanaryConfig) (primary : PrimaryConfig) (selection : Selection)
    (attempt : Option EngineOutcome) :
    Transparent (comparing scene canary primary selection attempt : Attempt (World σ) ShadowOutcome) := by
  refine .bind (.lift _) fun safety => .lift_bind fun diff compared => ?_
  have proper : ∀ d, diff = some d → (Json.obj d.toFields).Distinct := by
    rintro d rfl
    cases given : resultOf selection attempt with
    | none =>
        rw [given] at compared
        cases compared
    | some result =>
        rw [given] at compared
        obtain ⟨_, made, same⟩ := optionMapM_some_eq_ok.mp compared
        cases same
        exact DiffRecord.distinct_of_ofResults made
  exact (transparent_keep _ (distinct_chooseRecord scene _ _ attempt proper) _).bind fun _ => .pure _

theorem transparent_run (scene : Scene) (canary : CanaryConfig) (primary : PrimaryConfig) (routing : RoutingDecision)
    (selection : Selection) (candidate : Option (Engine σ)) (request : EngineRequest) :
    Transparent (run scene canary primary routing selection candidate request) := by
  rw [run_eq]
  refine .ite (.bind (.lift _) fun _ => .pure _) (.ite (.pure _) ?compared)
  exact (transparent_attempting _ _ _ _).bind fun attempt => transparent_comparing _ _ _ _ attempt

end Shadow

theorem AltShadow.transparent_run (runId recordedAt : String) (config : AltShadowConfig) (served : Option String)
    (servedResult : Json) (matcher : MatcherConfig) (engine : Option (Engine σ)) (request : EngineRequest)
    (limit : Json) : Transparent (run runId recordedAt config served servedResult matcher engine request limit) := by
  refine .ite (.pure _) ((Engine.transparent_executeIfConfigured _ _ _ _ _).bind fun outcome => ?recorded)
  refine .lift_bind fun record made => (Transparent.observe _).bind fun _ => ?_
  exact (Transparent.putAndPrune _ _ (AltRecord.distinct_of_recordOf made) _).bind fun _ => .pure _

namespace Run

theorem transparent_nextId : Transparent (nextId : Attempt (World σ) String) :=
  .bind (.onStore (Store.blind_nextSequence _) (Store.maintains_nextSequence _)) fun _ => .lift _

theorem transparent_baselineResult (engine : Option (Engine σ)) (request : EngineRequest) :
    Transparent (baselineResult engine request) := by
  cases engine with
  | none => exact .stop _
  | some engine =>
      refine (Engine.transparent_executeIfConfigured (some engine) "" request baselineCode none).bind fun outcome => ?_
      cases outcome with
      | ok result => exact .pure _
      | err code failure => exact .stop _

namespace Plan

variable (p : Plan σ)

theorem transparent_opening : Transparent p.opening :=
  transparent_nextId.bind fun _ => .bind (transparent_baselineResult _ _) fun _ => .pure _

theorem transparent_resetting : Transparent p.resetting :=
  .ite (Rollback.transparent_reset.bind fun _ => .pure _) (.pure _)

theorem transparent_latching (runId : String) (before : RollbackSnapshot) (sample : Option RunSample) :
    Transparent (p.latching runId before sample) :=
  .ite (Rollback.transparent_update _ _ _ _) (Rollback.transparent_load.bind fun _ => .pure _)

theorem gives_latching (runId : String) (before : RollbackSnapshot) (sample : Option RunSample) :
    Gives (fun u => (Json.obj u.summary).Distinct) (p.latching runId before sample) := by
  unfold latching
  split
  · exact Rollback.gives_update _ _ _ _
  · intro w u w' looked
    obtain ⟨state, t, -, given⟩ := bind_eq_ok.mp looked
    cases given
    exact WindowSummary.distinct_toFields _

theorem transparent_recording (runId : String) (before : RollbackSnapshot) {decision : DecisionRecord}
    (proper : (Json.obj decision.toFields).Distinct) : Transparent (p.recording runId before decision) :=
  .ite ((Transparent.putAndPrune _ _ proper _).bind fun _ => .pure _) (.pure _)

theorem transparent_trying (runId : String) (baseline : Json) : Transparent (p.trying runId baseline) :=
  p.transparent_resetting.bind fun _ => Rollback.transparent_snapshot.bind fun _ =>
    (Transparent.bind (.lift _) fun _ => Selection.transparent_select _ _ _ _ _ _).bind fun _ => (Shadow.transparent_run _ _ _ _ _ _ _).bind fun _ =>
      (AltShadow.transparent_run _ _ _ _ _ _ _ _ _).bind fun _ => .pure _

theorem transparent_closing (runId : String) (baseline : Json) (t : Trial) :
    Transparent (p.closing runId baseline t) := by
  refine .bind (.lift _) fun sample => ?_
  refine .bind_given (p.gives_latching _ _ _) (p.transparent_latching _ _ _) fun rollback summary => ?_
  refine .lift_bind fun decision made => ?_
  refine (p.transparent_recording _ _ (DecisionInput.distinct_of_record summary made)).bind fun _ => ?_
  exact (Transparent.observe _).bind fun _ => .bind (.lift _) fun _ => .pure _

theorem transparent_attempt : Transparent p.attempt := by
  rw [p.attempt_eq]
  exact p.transparent_opening.bind fun o => (p.transparent_trying o.1 o.2).bind fun t => p.transparent_closing o.1 o.2 t

end Plan

end Run

end CanaryGate
