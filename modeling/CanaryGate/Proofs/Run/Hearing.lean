import CanaryGate.Proofs.Comparison.Measurable
import CanaryGate.Proofs.Run.Candidate
import CanaryGate.Proofs.Run.Frame
import CanaryGate.Proofs.Store.Commit

/-! # Answers that a stage can go on with

Executing an engine turns every failure into a value, but sanitizes the words of the failure on the way, and
that may fail. Where it does not, a selection is always made, and a shadow goes on to weigh what it got: this
succeeds exactly when the results that are compared can be measured.
-/

namespace CanaryGate

open Attempt

variable {σ : Type}

namespace Engine

/-- A failure that the engine answers with can be sanitized for the log. -/
def Audible (engine : Engine σ) (request : EngineRequest) (force : Option String) (w : World σ) : Prop :=
  (engine.answering request force).Then w fun answer _ =>
    ∀ failure, answer = .error failure → Succeeds (LogText.sanitize (.str failure.message))

/-- The engine, if there is one, is audible. -/
def Heard (engine : Option (Engine σ)) (request : EngineRequest) (force : Option String) (w : World σ) : Prop :=
  ∀ e, engine = some e → e.Audible request force w

theorem succeeds_settle {code : String} {answer : Except EngineFailure Json} : Succeeds (settle code answer) ↔
    ∀ failure, answer = .error failure → Succeeds (LogText.sanitize (.str failure.message)) := by
  cases answer with
  | ok result => simp [settle, succeeds_ok]
  | error failure =>
      show Succeeds (recordFailure code failure) ↔ _
      unfold recordFailure
      rw [succeeds_bind]
      constructor
      · rintro ⟨text, sanitized, -⟩ other same
        cases same
        exact ⟨text, sanitized⟩
      · intro words
        obtain ⟨text, sanitized⟩ := words failure rfl
        exact ⟨text, sanitized, succeeds_ok _⟩

theorem finishes_answering (engine : Engine σ) (request : EngineRequest) (force : Option String) (w : World σ) :
    Finishes (engine.answering request force) w := by
  unfold answering
  split
  · exact finishes_pure _ w
  · exact ⟨_, rfl⟩

theorem finishes_execute {engine : Engine σ} {request : EngineRequest} {code : String} {force : Option String}
    {w : World σ} : Finishes (engine.execute request code force) w ↔ engine.Audible request force w := by
  rw [execute_eq, finishes_bind_then]
  constructor
  · rintro ⟨-, rest⟩ answer t answered
    have settled : Finishes (Attempt.lift (settle code answer) : Attempt (World σ) _) _ :=
      (finishes_bind_of_ok (rfl : engine.countLatency.outcome t = (.ok (), _))).mp (rest answer t answered)
    exact succeeds_settle.mp (finishes_lift.mp settled)
  · intro audible
    refine ⟨engine.finishes_answering request force w, fun answer t answered => ?_⟩
    refine (finishes_bind_of_ok (rfl : engine.countLatency.outcome t = (.ok (), _))).mpr ?_
    exact finishes_lift.mpr (succeeds_settle.mpr (audible answer t answered))

theorem finishes_executeIfConfigured {engine : Option (Engine σ)} {label : String} {request : EngineRequest}
    {code : String} {force : Option String} {w : World σ} :
    Finishes (executeIfConfigured engine label request code force) w ↔ Heard engine request force w := by
  cases engine with
  | none => simp [Heard, executeIfConfigured, finishes_pure]
  | some engine =>
      show Finishes (engine.execute request code force) w ↔ _
      rw [finishes_execute]
      constructor
      · intro audible other same
        cases same
        exact audible
      · intro heard
        exact heard engine rfl

end Engine

theorem matchingOf_of_matching {result : Json} (h : isMatchingResult result = true) : Succeeds (matchingOf result) := by
  cases result with
  | obj fields =>
      unfold matchingOf
      split
      · exact succeeds_ok _
      · dsimp only
        split
        · exact succeeds_ok _
        · exact succeeds_ok _
  | null | bool b | int n | float x | str s | arr items => cases h

theorem safetySignals_of_matching {result : Json} (h : isMatchingResult result = true) :
    Succeeds (safetySignals result) := by
  obtain ⟨matching, found⟩ := matchingOf_of_matching h
  have stat : ∀ name, statOf result name = .ok ((Fields.get matching "stats").fieldD name) := by
    intro name
    unfold statOf
    rw [found]
    rfl
  exact succeeds_bind.mpr ⟨_, stat _, succeeds_bind.mpr ⟨_, stat _, succeeds_ok _⟩⟩

theorem SafetyTriggers.succeeds_ofResult {result : Json} (h : isMatchingResult result = true) (primary : PrimaryConfig) :
    Succeeds (ofResult result primary) := by
  unfold ofResult
  split
  · exact succeeds_ok _
  · obtain ⟨signals, found⟩ := safetySignals_of_matching h
    exact succeeds_bind.mpr ⟨signals, found, succeeds_ok _⟩

theorem Selection.succeeds_ofAttempt {attempt : EngineOutcome}
    (matching : ∀ result, attempt = .ok result → isMatchingResult result = true) (primary : PrimaryConfig)
    (baseline : Json) : Succeeds (ofAttempt primary baseline attempt) := by
  cases attempt with
  | err code failure => exact succeeds_ok _
  | ok result =>
      obtain ⟨safety, found⟩ := SafetyTriggers.succeeds_ofResult (matching result rfl) primary
      refine succeeds_bind.mpr ⟨safety, found, ?_⟩
      split
      · exact succeeds_ok _
      · exact succeeds_ok _

theorem Selection.finishes_select {routing : RoutingDecision} {canary : CanaryConfig} {primary : PrimaryConfig}
    {baseline : Json} {candidate : Option (Engine σ)} {request : EngineRequest} {w : World σ} :
    Finishes (select routing canary primary baseline candidate request) w ↔
      (routing.canarySelected = true → Engine.Heard candidate request (forcedFailure canary primary) w) := by
  unfold select
  cases routing.canarySelected with
  | false => simp [finishes_pure]
  | true =>
      simp only [Bool.not_true, Bool.false_eq_true, if_false, true_imp_iff]
      rw [finishes_bind_then, Engine.finishes_executeIfConfigured]
      constructor
      · exact fun h => h.1
      · intro heard
        refine ⟨heard, fun attempt t executed => finishes_lift.mpr (succeeds_ofAttempt ?_ primary baseline)⟩
        rintro result rfl
        exact Engine.matching_of_executeIfConfigured executed

namespace Shadow

/-- The triggers and the comparison that the record of a shadow is made of. -/
def weighed (scene : Scene) (primary : PrimaryConfig) (selection : Selection) (attempt : Option EngineOutcome) :
    Except Fault (SafetyTriggers × Option DiffRecord) := do
  let safety ← safetyOf primary selection.safety (resultOf selection attempt)
  let diff ← (resultOf selection attempt).mapM fun result => scene.compare result safety
  return (safety, diff)

/-- The record of what was weighed. -/
def recordOf (scene : Scene) (canary : CanaryConfig) (selection : Selection) (attempt : Option EngineOutcome)
    (diff : Option DiffRecord) : ShadowRecord :=
  chooseRecord scene canary.forceShadowError (selection.attempt.any EngineOutcome.isOk) diff attempt

theorem comparing_eq (scene : Scene) (canary : CanaryConfig) (primary : PrimaryConfig) (selection : Selection)
    (attempt : Option EngineOutcome) : (comparing scene canary primary selection attempt : Attempt (World σ) _)
      = Attempt.lift (weighed scene primary selection attempt) >>= fun found =>
        keep scene.runId (recordOf scene canary selection attempt found.2) canary.maxShadowDiffs >>= fun _ =>
          pure ⟨mergeAttempts selection.attempt attempt, found.1, found.2,
            some (recordOf scene canary selection attempt found.2), false⟩ := by
  unfold comparing weighed
  rw [lift_bind, bind_assoc]
  refine bind_congr fun safety => ?_
  rw [lift_bind, bind_assoc]
  exact bind_congr fun diff => rfl

/-- What an attempt of the shadow gives is a matching result, like what it is given. -/
theorem matching_of_attempting {canary : CanaryConfig} {selection : Selection} {candidate : Option (Engine σ)}
    {request : EngineRequest} {w w' : World σ} {attempt : Option EngineOutcome} {result : Json}
    (served : selection.Matching)
    (h : (attempting canary selection.candidateResult? candidate request).outcome w = (.ok attempt, w'))
    (found : resultOf selection attempt = some result) : isMatchingResult result = true := by
  unfold resultOf at found
  cases given : selection.candidateResult? with
  | some other =>
      rw [given] at found
      obtain rfl : other = result := Option.some.inj found
      exact served other given
  | none =>
      rw [given] at found h
      obtain ⟨outcome, t, executed, returned⟩ := bind_eq_ok.mp h
      cases returned
      cases outcome with
      | err code failure => cases found
      | ok other =>
          obtain rfl : other = result := Option.some.inj found
          exact Engine.matching_of_executeIfConfigured executed

theorem succeeds_compare {scene : Scene} {limit : Int} (bounded : scene.limit = .int limit) {result : Json}
    {safety : SafetyTriggers} : Succeeds (scene.compare result safety) ↔
      Measurable limit scene.baselineResult ∧ Measurable limit result := by
  unfold Scene.compare DiffRecord.ofResults
  rw [bounded, succeeds_bind, ← Comparison.succeeds_ofResults]
  constructor
  · rintro ⟨c, compared, -⟩
    exact ⟨c, compared⟩
  · rintro ⟨c, compared⟩
    exact ⟨c, compared, succeeds_ok _⟩

theorem compare_eq_ok {scene : Scene} {result : Json} {safety : SafetyTriggers} {diff : DiffRecord}
    (h : scene.compare result safety = .ok diff) : ∃ c, Comparison.ofResults scene.baselineResult result scene.limit = .ok c
      ∧ diff.metrics = c.metrics "v1" "v2" ∧ diff.selectedKeys = c.selectedKeys "v1" "v2" ∧ diff.safety = safety := by
  unfold Scene.compare DiffRecord.ofResults at h
  obtain ⟨c, compared, made⟩ := except_bind_eq_ok.mp h
  cases made
  exact ⟨c, compared, rfl, rfl, rfl⟩

theorem succeeds_weighed {scene : Scene} {limit : Int} (bounded : scene.limit = .int limit) {primary : PrimaryConfig}
    {selection : Selection} {attempt : Option EngineOutcome}
    (matching : ∀ result, resultOf selection attempt = some result → isMatchingResult result = true) :
    Succeeds (weighed scene primary selection attempt) ↔ ∀ result, resultOf selection attempt = some result →
      Measurable limit scene.baselineResult ∧ Measurable limit result := by
  have safe : Succeeds (safetyOf primary selection.safety (resultOf selection attempt)) := by
    unfold safetyOf
    split
    · rename_i result found
      exact SafetyTriggers.succeeds_ofResult (matching result found) primary
    · exact succeeds_ok _
  obtain ⟨safety, found⟩ := safe
  have compared : Succeeds ((resultOf selection attempt).mapM fun result => scene.compare result safety) ↔
      ∀ result, resultOf selection attempt = some result →
        Measurable limit scene.baselineResult ∧ Measurable limit result := by
    rw [succeeds_optionMapM]
    exact forall_congr' fun result => forall_congr' fun _ => succeeds_compare bounded
  rw [← compared]
  constructor
  · intro h
    obtain ⟨safety', found', h⟩ := succeeds_bind.mp h
    obtain rfl : safety = safety' := Except.ok.inj (found.symm.trans found')
    obtain ⟨diff, here, -⟩ := succeeds_bind.mp h
    exact ⟨diff, here⟩
  · rintro ⟨diff, here⟩
    exact succeeds_bind.mpr ⟨safety, found, succeeds_bind.mpr ⟨diff, here, succeeds_ok _⟩⟩

theorem finishes_keep {w : World σ} (orderly : w.store.Orderly 0) {runId : String} {record : ShadowRecord}
    {limit : Int} : Finishes (keep runId record limit) w ↔
      (w.store.keeping space runId (.obj record.toFields) limit).Committable := by
  rw [← Store.finishes_putAndPrune orderly]
  exact finishes_bind_of_total fun _ t => ⟨(), rfl⟩

end Shadow

end CanaryGate
