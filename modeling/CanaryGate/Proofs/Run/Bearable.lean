import CanaryGate.Proofs.Run.Hearing

/-! # What a run can bear of its engines

The candidate and the alternate may answer anything. A run bears an answer that is a failure if its words
can be sanitized for the log, and one that is a matching result if it can be measured wherever it is compared
or served. Each stage is described by what it needs of the answers it gets, and of the store that keeps what
comes of them; `Plan.Bearable` puts these needs together in the order in which the run gets to them.
-/

namespace CanaryGate

open Attempt

variable {σ : Type}

namespace Run

namespace Plan

variable (p : Plan σ)

/-- The two results can be measured, as far as proposals are asked for. -/
def Comparable (left right : Json) : Prop :=
  Measurable p.request.maxProposals left ∧ Measurable p.request.maxProposals right

/-- The candidate's shadow looks at the run. -/
def shadows (before : RollbackSnapshot) (selection : Selection) : Bool :=
  p.configs.canary.shadowEnabled && !(p.configs.primary.enabled
    && (p.routing before).skippedReason == some "rollback_active" && selection.candidateResult?.isNone)

/-- The shadow's own attempt at the candidate. -/
def probing (selection : Selection) : Attempt (World σ) (Option EngineOutcome) :=
  Shadow.attempting p.configs.canary selection.candidateResult? p.engines.candidate (p.ask p.configs.candidateMatcher)

/-- What the shadow of the candidate needs. A result that was selected is compared also where shadowing is off. -/
structure BearsShadow (runId : String) (baseline : Json) (before : RollbackSnapshot) (selection : Selection)
    (w : World σ) : Prop where
  served : ∀ result, selection.candidateResult? = some result → p.Comparable baseline result
  heard : p.shadows before selection = true → selection.candidateResult? = none →
    Engine.Heard p.engines.candidate (p.ask p.configs.candidateMatcher)
      (if p.configs.canary.forceShadowError then some Shadow.forcedMessage else none) w
  compared : p.shadows before selection = true → (p.probing selection).Then w fun attempt _ =>
    ∀ result, Shadow.resultOf selection attempt = some result → p.Comparable baseline result
  kept : p.shadows before selection = true → (p.probing selection).Then w fun attempt w' =>
    ∀ found, Shadow.weighed (p.scene runId baseline) p.configs.primary selection attempt = .ok found →
      (w'.store.keeping Shadow.space runId (.obj (Shadow.recordOf (p.scene runId baseline) p.configs.canary selection
        attempt found.2).toFields) p.configs.canary.maxShadowDiffs).Committable

theorem shadowing_eq (runId : String) (baseline : Json) (before : RollbackSnapshot) (selection : Selection) :
    p.shadowing runId baseline before selection =
      if p.shadows before selection then
        p.probing selection >>= Shadow.comparing (p.scene runId baseline) p.configs.canary p.configs.primary selection
      else Attempt.lift (selection.candidateResult?.mapM fun result =>
          (p.scene runId baseline).compare result selection.safety)
        >>= fun diff => pure ⟨selection.attempt, selection.safety, diff, none, p.configs.canary.shadowEnabled⟩ := by
  unfold shadowing shadows probing
  rw [Shadow.run_eq]
  cases shadowed : p.configs.canary.shadowEnabled with
  | false => rfl
  | true =>
      cases skipped : p.configs.primary.enabled && (p.routing before).skippedReason == some "rollback_active"
          && selection.candidateResult?.isNone with
      | false => simp
      | true =>
          have missing : selection.candidateResult? = none := by
            rw [Bool.and_eq_true] at skipped
            exact Option.isNone_iff_eq_none.mp skipped.2
          simp [missing]
          rfl

theorem finishes_probing {selection : Selection} {w : World σ} : Finishes (p.probing selection) w ↔
    (selection.candidateResult? = none → Engine.Heard p.engines.candidate (p.ask p.configs.candidateMatcher)
      (if p.configs.canary.forceShadowError then some Shadow.forcedMessage else none) w) := by
  unfold probing Shadow.attempting
  cases selection.candidateResult? with
  | some result => simp [finishes_pure]
  | none =>
      rw [finishes_bind_then, Engine.finishes_executeIfConfigured]
      simp [Then, finishes_pure]

/-- Once the shadow's own attempt is made, the comparison and the store decide. -/
theorem finishes_comparing {p : Plan σ} {runId : String} {baseline : Json} {selection : Selection}
    (matching : selection.Matching) {w t : World σ} (orderly : w.store.Orderly 0) {attempt : Option EngineOutcome}
    (probed : (p.probing selection).outcome w = (.ok attempt, t)) :
    Finishes (Shadow.comparing (p.scene runId baseline) p.configs.canary p.configs.primary selection attempt) t ↔
      (∀ result, Shadow.resultOf selection attempt = some result → p.Comparable baseline result)
        ∧ ∀ found, Shadow.weighed (p.scene runId baseline) p.configs.primary selection attempt = .ok found →
          (t.store.keeping Shadow.space runId (.obj (Shadow.recordOf (p.scene runId baseline) p.configs.canary selection
            attempt found.2).toFields) p.configs.canary.maxShadowDiffs).Committable := by
  have left : t.store.Orderly 0 := by
    rw [(Shadow.leaves_attempting _ _ _ _).of_eq probed]
    exact orderly
  have weighed : Succeeds (Shadow.weighed (p.scene runId baseline) p.configs.primary selection attempt) ↔
      ∀ result, Shadow.resultOf selection attempt = some result → p.Comparable baseline result :=
    Shadow.succeeds_weighed rfl fun result found => Shadow.matching_of_attempting matching probed found
  rw [Shadow.comparing_eq, finishes_lift_bind, weighed]
  refine and_congr_right fun _ => forall_congr' fun found => forall_congr' fun _ => ?_
  rw [← Shadow.finishes_keep left]
  exact finishes_bind_of_total fun _ t => finishes_pure _ t

theorem finishes_shadowing {p : Plan σ} {runId : String} {baseline : Json} {before : RollbackSnapshot}
    {selection : Selection} (matching : selection.Matching) {w : World σ} (orderly : w.store.Orderly 0) :
    Finishes (p.shadowing runId baseline before selection) w ↔ p.BearsShadow runId baseline before selection w := by
  rw [shadowing_eq]
  cases looks : p.shadows before selection with
  | false =>
      simp only [Bool.false_eq_true, if_false]
      have compared : Succeeds (selection.candidateResult?.mapM fun result =>
          (p.scene runId baseline).compare result selection.safety) ↔
            ∀ result, selection.candidateResult? = some result → p.Comparable baseline result := by
        rw [succeeds_optionMapM]
        exact forall_congr' fun result => forall_congr' fun _ => Shadow.succeeds_compare rfl
      rw [finishes_lift_bind, compared]
      constructor
      · rintro ⟨served, -⟩
        exact ⟨served, by simp [looks], by simp [looks], by simp [looks]⟩
      · intro bears
        exact ⟨bears.served, fun diff _ => finishes_pure _ w⟩
  | true =>
      simp only [if_true]
      rw [finishes_bind_then, finishes_probing,
        then_congr fun attempt t probed => finishes_comparing matching orderly probed]
      constructor
      · rintro ⟨heard, rest⟩
        -- a result that was selected is compared here too; the shadow then asks nobody
        refine ⟨?_, fun _ => heard, fun _ attempt t probed => (rest attempt t probed).1,
          fun _ attempt t probed => (rest attempt t probed).2⟩
        intro result served
        have probed : (p.probing selection).outcome w = (.ok none, w) := by
          unfold probing
          rw [served]
          rfl
        exact (rest none w probed).1 result (by simp [Shadow.resultOf, served])
      · intro bears
        exact ⟨bears.heard looks, fun attempt t probed => ⟨bears.compared looks attempt t probed,
          bears.kept looks attempt t probed⟩⟩

/-- The attempt at the alternate, which is asked under the matcher configuration of the served engine. -/
def consulting (selection : Selection) : Attempt (World σ) EngineOutcome :=
  Engine.executeIfConfigured p.engines.alternate "alternate"
    { p.ask p.configs.candidateMatcher with config := p.servedMatcher selection.engine } AltShadow.errorCode
    (if p.configs.altShadow.forceShadowError then some "forced matching alt shadow error" else none)

def crossRecord (runId : String) (selection : Selection) (outcome : EngineOutcome) : Except Fault AltRecord :=
  AltShadow.recordOf runId p.recordedAt (some selection.engine.text) selection.result (p.servedMatcher selection.engine)
    (.int p.request.maxProposals) outcome

/-- Counts the record of a cross-check, and keeps it. -/
def crossKeeping (runId : String) (record : AltRecord) : Attempt (World σ) (Option AltRecord) := do
  World.observe fun m => { m with shadowRecords := m.shadowRecords.bump (.alternate, record.kind) }
  let _ ← World.onStore
    (Store.putAndPrune AltShadow.space runId (.obj record.toFields) p.configs.altShadow.maxShadowDiffs)
  return some record

/-- What the cross-check needs, if it is on. -/
structure BearsAlternate (runId : String) (selection : Selection) (w : World σ) : Prop where
  heard : p.configs.altShadow.enabled = true → Engine.Heard p.engines.alternate
    { p.ask p.configs.candidateMatcher with config := p.servedMatcher selection.engine }
    (if p.configs.altShadow.forceShadowError then some "forced matching alt shadow error" else none) w
  compared : p.configs.altShadow.enabled = true → (p.consulting selection).Then w fun outcome _ =>
    ∀ result, outcome = .ok result → p.Comparable selection.result result
  kept : p.configs.altShadow.enabled = true → (p.consulting selection).Then w fun outcome w' =>
    ∀ record, p.crossRecord runId selection outcome = .ok record →
      (w'.store.keeping AltShadow.space runId (.obj record.toFields) p.configs.altShadow.maxShadowDiffs).Committable

theorem crossing_eq (runId : String) (selection : Selection) : p.crossing runId selection =
    if !p.configs.altShadow.enabled then pure none
    else p.consulting selection >>= fun outcome =>
      Attempt.lift (p.crossRecord runId selection outcome) >>= p.crossKeeping runId := rfl

theorem succeeds_crossRecord {p : Plan σ} {runId : String} {selection : Selection} {outcome : EngineOutcome}
    (matching : ∀ result, outcome = .ok result → isMatchingResult result = true) :
    Succeeds (p.crossRecord runId selection outcome) ↔
      ∀ result, outcome = .ok result → p.Comparable selection.result result := by
  cases outcome with
  | err code failure =>
      have named : (some selection.engine.text).mapM EngineName.check = .ok (some selection.engine) := by
        rw [Option.mapM_some, EngineName.check_text]
        rfl
      simp only [reduceCtorEq, false_imp_iff, implies_true, iff_true]
      exact succeeds_bind.mpr ⟨_, named, succeeds_ok _⟩
  | ok result =>
      obtain ⟨signals, found⟩ := safetySignals_of_matching (matching result rfl)
      have named : EngineName.check ((some selection.engine.text).getD "") = .ok selection.engine :=
        EngineName.check_text selection.engine
      have compared : Succeeds (Comparison.ofResults selection.result result (.int p.request.maxProposals)) ↔
          p.Comparable selection.result result := Comparison.succeeds_ofResults
      constructor
      · intro h other same
        cases same
        obtain ⟨c, here, -⟩ := succeeds_bind.mp h
        exact compared.mp ⟨c, here⟩
      · intro comparable
        obtain ⟨c, here⟩ := compared.mpr (comparable result rfl)
        exact succeeds_bind.mpr ⟨c, here, succeeds_bind.mpr ⟨signals, found, succeeds_bind.mpr ⟨_, named,
          succeeds_ok _⟩⟩⟩

theorem finishes_crossKeeping {p : Plan σ} {runId : String} {record : AltRecord} {w : World σ}
    (orderly : w.store.Orderly 0) : Finishes (p.crossKeeping runId record) w ↔
      (w.store.keeping AltShadow.space runId (.obj record.toFields) p.configs.altShadow.maxShadowDiffs).Committable := by
  rw [← Store.finishes_putAndPrune orderly]
  unfold crossKeeping
  rw [finishes_bind_of_ok (rfl : (World.observe _ : Attempt (World σ) Unit).outcome w = (.ok (), _))]
  exact finishes_bind_of_total fun _ t => finishes_pure _ t

/-- Once the alternate is asked, the comparison and the store decide. -/
theorem finishes_crossing {p : Plan σ} {runId : String} {selection : Selection} {w : World σ}
    (orderly : w.store.Orderly 0) :
    Finishes (p.crossing runId selection) w ↔ p.BearsAlternate runId selection w := by
  rw [crossing_eq]
  cases on : p.configs.altShadow.enabled with
  | false =>
      simp only [Bool.not_false, if_true]
      exact ⟨fun _ => ⟨by simp [on], by simp [on], by simp [on]⟩, fun _ => finishes_pure _ w⟩
  | true =>
      simp only [Bool.not_true, Bool.false_eq_true, if_false]
      have consulted : ∀ outcome t, (p.consulting selection).outcome w = (.ok outcome, t) →
          (Finishes (Attempt.lift (p.crossRecord runId selection outcome) >>= p.crossKeeping runId) t ↔
            (∀ result, outcome = .ok result → p.Comparable selection.result result)
              ∧ ∀ record, p.crossRecord runId selection outcome = .ok record →
                (t.store.keeping AltShadow.space runId (.obj record.toFields)
                  p.configs.altShadow.maxShadowDiffs).Committable) := by
        intro outcome t ran
        have left : t.store.Orderly 0 := by
          rw [(Engine.leaves_executeIfConfigured _ _ _ _ _).of_eq ran]
          exact orderly
        have matching : ∀ result, outcome = .ok result → isMatchingResult result = true := by
          rintro result rfl
          exact Engine.matching_of_executeIfConfigured ran
        rw [finishes_lift_bind, succeeds_crossRecord matching]
        exact and_congr_right fun _ => forall_congr' fun record => forall_congr' fun _ => finishes_crossKeeping left
      rw [finishes_bind_then, then_congr consulted]
      constructor
      · rintro ⟨heard, rest⟩
        exact ⟨fun _ => Engine.finishes_executeIfConfigured.mp heard, fun _ outcome t ran => (rest outcome t ran).1,
          fun _ outcome t ran => (rest outcome t ran).2⟩
      · intro bears
        exact ⟨Engine.finishes_executeIfConfigured.mpr (bears.heard on), fun outcome t ran =>
          ⟨bears.compared on outcome t ran, bears.kept on outcome t ran⟩⟩

def deciding (runId : String) (baseline : Json) (t : Trial) : Attempt (World σ) DecisionRecord := do
  let sample ← Attempt.lift (p.sampling runId t)
  let rollback ← p.latching runId t.before sample
  Attempt.lift (p.input runId baseline t sample rollback).record

theorem closing_eq (runId : String) (baseline : Json) (t : Trial) : p.closing runId baseline t =
    p.deciding runId baseline t >>= fun decision => p.recording runId t.before decision >>= fun _ =>
      World.observe (count decision) >>= fun _ =>
        Attempt.lift (servedProposals t.selection.result p.request.maxProposals) >>= fun proposals =>
          pure ⟨runId, p.recordedAt, decision.primaryEngine, proposals, decision,
            (p.routing t.before).trackingEnabled⟩ := by
  unfold closing deciding
  simp only [bind_assoc]

/-- The audit record of a tracked run can be kept. -/
def BearsRecord (runId : String) (baseline : Json) (t : Trial) (w : World σ) : Prop :=
  (p.deciding runId baseline t).Then w fun decision w' => (p.routing t.before).trackingEnabled = true →
    (w'.store.keeping decisionSpace runId (.obj decision.toFields) p.configs.canary.maxDecisions).Committable

/-- All that a run meets once it is opened can be borne: it finds its bucket if it needs one, the candidate is heard if
the run is selected, and as far as the run then gets so are the shadow of the candidate, the alternate, and the audit
record. -/
def Bearable (w : World σ) : Prop :=
  p.opening.Then w fun o opened => (p.resetting >>= fun _ => Rollback.snapshot).Then opened fun before settled =>
    (Succeeds p.located ∧ ((p.routing before).canarySelected = true →
      Engine.Heard p.engines.candidate (p.ask p.configs.candidateMatcher)
        (Selection.forcedFailure p.configs.canary p.configs.primary) settled))
    ∧ (p.selecting o.2 before).Then settled fun selection chosen => p.BearsShadow o.1 o.2 before selection chosen
    ∧ (p.shadowing o.1 o.2 before selection).Then chosen fun shadow shadowed => p.BearsAlternate o.1 selection shadowed
    ∧ (p.crossing o.1 selection).Then shadowed fun _ crossed => p.BearsRecord o.1 o.2 ⟨before, selection, shadow⟩ crossed

end Plan

end Run

end CanaryGate
