import CanaryGate.Proofs.Run.Returned
import CanaryGate.Proofs.Run.Steps

/-! # The changes that a run makes

A run takes its number, may reset the latch, and then keeps a comparison, a cross-check and a decision at most, in
this order and each in the name of the run; the latch is judged before the decision. `Staged` says this of a
journal, and goes through sequences, so that the stages of a run are looked at one by one.
-/

namespace CanaryGate

open Attempt

variable {σ α β : Type}

/-- The changes have the property, and come in the order of their stages, from `low` up to `high`. -/
inductive Staged (P : Change → Prop) (high : Nat) : Nat → List (Moment σ) → Prop where
  | nil (low : Nat) : Staged P high low []
  | cons {low : Nat} {m : Moment σ} {rest : List (Moment σ)} (fits : P m.change) (due : low ≤ m.change.stage)
      (early : m.change.stage < high) (later : Staged P high (m.change.stage + 1) rest) : Staged P high low (m :: rest)

namespace Staged

variable {P : Change → Prop} {low mid high : Nat}

theorem weaken {ms : List (Moment σ)} (h : Staged P high mid ms) (below : low ≤ mid) : Staged P high low ms := by
  cases h with
  | nil _ => exact .nil low
  | cons fits due early later => exact .cons fits (Nat.le_trans below due) early later

theorem append {ms ns : List (Moment σ)} (first : Staged P mid low ms) (second : Staged P high mid ns)
    (below : low ≤ mid) (above : mid ≤ high) : Staged P high low (ms ++ ns) := by
  induction first with
  | nil low => exact second.weaken below
  | cons fits due early later ih => exact .cons fits due (Nat.lt_of_lt_of_le early above) (ih early)

/-- What a change of any stage keeps holds at each place of the journal. -/
theorem holds_at {R : Nat → List (Moment σ) → Store → Prop} {ms past done more : List (Moment σ)} {s : Store}
    (staged : Staged P high low ms) (linked : Linked s ms) (start : R low past s)
    (step : ∀ low done m, P m.change → low ≤ m.change.stage → R low done m.before.store →
      R (m.change.stage + 1) (done ++ [m]) m.after.store)
    (split : ms = done ++ more) : ∃ next, R next (past ++ done) (s.following done) := by
  induction staged generalizing past s done with
  | nil low =>
      obtain ⟨rfl, -⟩ := List.append_eq_nil_iff.mp split.symm
      exact ⟨low, by rwa [List.append_nil]⟩
  | cons fits due early later ih =>
      rename_i low m rest
      cases linked with
      | cons here linked =>
          cases done with
          | nil => exact ⟨low, by rwa [List.append_nil]⟩
          | cons first done =>
              obtain ⟨rfl, tail⟩ := List.cons.inj (split.trans (List.cons_append ..))
              rw [← here] at start
              have goes := ih linked (step low past _ fits due start) tail
              rwa [List.append_assoc] at goes

end Staged

namespace Routine

variable {P : Change → Prop} {low mid high : Nat} {w : World σ}

theorem staged_onward {go : α → World σ → List (Moment σ)} {o : Except Fault α × World σ}
    (later : ∀ x v, o = (.ok x, v) → Staged P high low (go x v)) : Staged P high low (onward go o) := by
  obtain ⟨r, v⟩ := o
  cases r with
  | error fault => exact .nil low
  | ok x => exact later x v rfl

theorem staged_finish (r : Except Fault α) (w : World σ) : Staged P high low ((finish r).journal w) := .nil low

theorem staged_aside {a : Attempt (World σ) β} {leaves : Leaves World.store a} {next : β → Routine σ α}
    (later : ∀ x v, a.outcome w = (.ok x, v) → Staged P high low ((next x).journal v)) :
    Staged P high low ((aside a leaves next).journal w) := staged_onward later

theorem staged_change {c : Change} {next : c.Answer → Routine σ α} (fits : P c) (due : low ≤ c.stage)
    (early : c.stage < high)
    (later : ∀ x v, c.attempt.outcome w = (.ok x, v) → Staged P high (c.stage + 1) ((next x).journal v)) :
    Staged P high low ((change c next).journal w) := .cons fits due early (staged_onward later)

theorem staged_bind {s : Routine σ α} {f : α → Routine σ β} (mid : Nat) (below : low ≤ mid) (above : mid ≤ high)
    (first : Staged P mid low (s.journal w))
    (second : ∀ x v, s.attempt.outcome w = (.ok x, v) → Staged P high mid ((f x).journal v)) :
    Staged P high low ((s.bind f).journal w) := by
  rw [journal_bind]
  exact first.append (staged_onward second) below above

end Routine

/-- The runs that a record names. -/
def Record.runIds : Record → List String
  | decision record => record.runId :: (record.sample.map RunSample.runId).toList
  | comparison record => [record.runId]
  | crossCheck record => [record.runId]

namespace Run.Plan

variable (p : Plan σ)

/-- The run is audited. -/
def tracked : Bool := p.configs.canary.enabled || p.configs.primary.enabled

/-- How many records a shelf may hold. -/
def limit : Shelf → Int
  | .decisions => p.configs.canary.maxDecisions
  | .comparisons => p.configs.canary.maxShadowDiffs
  | .crossChecks => p.configs.altShadow.maxShadowDiffs

theorem trackingEnabled_routing (before : RollbackSnapshot) : (p.routing before).trackingEnabled = p.tracked := by
  unfold routing RoutingDecision.placed tracked
  cases p.configs.canary.enabled || p.configs.primary.enabled with
  | false => rfl
  | true =>
      simp only [Bool.not_true, Bool.false_eq_true, if_false]
      split
      · rfl
      · split
        · rfl
        · rfl

end Run.Plan

/-- The record is put on its shelf by the run of this name. -/
structure Put.By (p : Run.Plan σ) (runId : String) (put : Put) : Prop where
  named : put.runId = runId
  own : ∀ id ∈ put.record.runIds, id = runId
  limited : put.limit = p.limit put.shelf
  distinct : put.value.Distinct
  tracked : put.shelf = .decisions → p.tracked = true

/-- The change is one of the run of this name. -/
def Change.By (p : Run.Plan σ) (runId : String) : Change → Prop
  | number | reset => True
  | judge _ id _ sample => id = runId ∧ ∀ s, sample = some s → s.runId = runId
  | put q => q.By p runId

/-! What the stages put down. -/

theorem DiffRecord.runId_of_ofResults {runId recordedAt : String} {baselineConfig candidateConfig : MatcherConfig}
    {baselineResult candidateResult limit : Json} {safety : SafetyTriggers} {r : DiffRecord}
    (made : DiffRecord.ofResults runId recordedAt baselineConfig baselineResult candidateConfig candidateResult limit
      safety = .ok r) : r.runId = runId := by
  obtain ⟨c, -, made⟩ := except_bind_eq_ok.mp made
  cases made
  rfl

theorem AltRecord.runId_of_recordOf {runId recordedAt : String} {served : Option String} {servedResult limit : Json}
    {matcher : MatcherConfig} {outcome : EngineOutcome} {r : AltRecord}
    (made : AltShadow.recordOf runId recordedAt served servedResult matcher limit outcome = .ok r) : r.runId = runId := by
  cases outcome with
  | ok result =>
      obtain ⟨c, -, made⟩ := except_bind_eq_ok.mp made
      obtain ⟨signals, -, made⟩ := except_bind_eq_ok.mp made
      obtain ⟨engine, -, made⟩ := except_bind_eq_ok.mp made
      cases made
      rfl
  | err code failure =>
      obtain ⟨engine, -, made⟩ := except_bind_eq_ok.mp made
      cases made
      rfl

namespace Shadow

variable {scene : Scene} {primary : PrimaryConfig} {selection : Selection} {attempt : Option EngineOutcome}

/-- A comparison that was weighed is about the run of the scene. -/
theorem compared_of_weighed {safety : SafetyTriggers} {d : DiffRecord}
    (h : weighed scene primary selection attempt = .ok (safety, some d)) :
    d.runId = scene.runId ∧ (Json.obj d.toFields).Distinct := by
  obtain ⟨_, -, h⟩ := except_bind_eq_ok.mp h
  obtain ⟨diff, compared, h⟩ := except_bind_eq_ok.mp h
  cases h
  cases given : resultOf selection attempt with
  | none =>
      rw [given] at compared
      cases compared
  | some result =>
      rw [given] at compared
      obtain ⟨_, made, same⟩ := optionMapM_some_eq_ok.mp compared
      cases same
      exact ⟨DiffRecord.runId_of_ofResults made, DiffRecord.distinct_of_ofResults made⟩

theorem runId_chooseRecord (scene : Scene) (force servedOk : Bool) {diff : Option DiffRecord}
    (attempt : Option EngineOutcome) (own : ∀ d, diff = some d → d.runId = scene.runId) :
    (chooseRecord scene force servedOk diff attempt).runId = scene.runId := by
  unfold chooseRecord
  split
  · rfl
  · cases diff with
    | none => rfl
    | some d => exact own d rfl

end Shadow

namespace Run.Plan

variable (p : Plan σ)

theorem staged_resettingSteps (runId : String) (w : World σ) :
    Staged (Change.By p runId) 2 1 (p.resettingSteps.journal w) := by
  unfold resettingSteps
  split
  · exact Routine.staged_change trivial (Nat.le_refl 1) (Nat.lt_succ_self 1) fun _ v _ => Routine.staged_finish _ v
  · exact Routine.staged_finish _ w

theorem staged_shadowingSteps (runId : String) (baseline : Json) (before : RollbackSnapshot) (selection : Selection)
    (w : World σ) :
    Staged (Change.By p runId) 3 2 ((p.shadowingSteps runId baseline before selection).journal w) := by
  unfold shadowingSteps Shadow.steps
  split
  · exact Routine.staged_bind 2 (by decide) (by decide) (Routine.staged_finish _ w) fun _ v _ =>
      Routine.staged_finish _ v
  · split
    · exact Routine.staged_finish _ w
    · refine Routine.staged_aside fun attempt v _ => ?_
      refine Routine.staged_bind 2 (by decide) (by decide) (Routine.staged_finish _ v) fun found u weighed => ?_
      obtain ⟨safety, diff⟩ := found
      have found := congrArg Prod.fst weighed
      have compared : ∀ d, diff = some d → d.runId = runId ∧ (Json.obj d.toFields).Distinct := by
        rintro d rfl
        exact Shadow.compared_of_weighed found
      have own := Shadow.runId_chooseRecord (p.scene runId baseline) p.configs.canary.forceShadowError
        (selection.attempt.any EngineOutcome.isOk) attempt fun d here => (compared d here).1
      have proper := Shadow.distinct_chooseRecord (p.scene runId baseline) p.configs.canary.forceShadowError
        (selection.attempt.any EngineOutcome.isOk) attempt fun d here => (compared d here).2
      refine Routine.staged_change ⟨rfl, ?_, rfl, proper, ?_⟩ (Nat.le_refl 2) (Nat.lt_succ_self 2) fun _ v' _ => ?_
      · intro id member
        exact (List.mem_singleton.mp member).trans own
      · intro other
        cases other
      · exact Routine.staged_aside fun _ v'' _ => Routine.staged_finish _ v''

theorem staged_crossingSteps (runId : String) (selection : Selection) (w : World σ) :
    Staged (Change.By p runId) 4 3 ((p.crossingSteps runId selection).journal w) := by
  unfold crossingSteps AltShadow.steps
  split
  · exact Routine.staged_finish _ w
  · refine Routine.staged_aside fun outcome v _ => ?_
    refine Routine.staged_bind 3 (by decide) (by decide) (Routine.staged_finish _ v) fun record u recorded => ?_
    have made := congrArg Prod.fst recorded
    refine Routine.staged_aside fun _ v' _ => ?_
    refine Routine.staged_change ⟨rfl, ?_, rfl, AltRecord.distinct_of_recordOf made, ?_⟩ (Nat.le_refl 3)
      (Nat.lt_succ_self 3) fun _ v'' _ => Routine.staged_finish _ v''
    · intro id member
      exact (List.mem_singleton.mp member).trans (AltRecord.runId_of_recordOf made)
    · intro other
      cases other

theorem staged_tryingSteps (runId : String) (baseline : Json) (w : World σ) :
    Staged (Change.By p runId) 4 1 ((p.tryingSteps runId baseline).journal w) := by
  refine Routine.staged_bind 2 (by decide) (by decide) (p.staged_resettingSteps runId w) fun _ settled _ => ?_
  refine Routine.staged_aside fun before looked _ => Routine.staged_aside fun selection chosen _ => ?_
  refine Routine.staged_bind 3 (by decide) (by decide) (p.staged_shadowingSteps runId baseline before selection chosen)
    fun shadow shadowed _ => ?_
  exact Routine.staged_bind 4 (by decide) (by decide) (p.staged_crossingSteps runId selection shadowed)
    fun _ crossed _ => Routine.staged_finish _ crossed

/-- A sample is one of its run. -/
theorem runId_of_sampling {runId : String} {t : Trial} {sample : Option RunSample}
    (sampled : p.sampling runId t = .ok sample) : ∀ s, sample = some s → s.runId = runId := by
  rcases RunSample.ofRun_eq_ok sampled with ⟨-, rfl⟩ | ⟨-, _, -, rfl⟩
  · exact nofun
  · rintro s ⟨⟩
    rfl

theorem staged_latchingSteps (runId : String) (before : RollbackSnapshot) {sample : Option RunSample}
    (own : ∀ s, sample = some s → s.runId = runId) (w : World σ) :
    Staged (Change.By p runId) 5 4 ((p.latchingSteps runId before sample).journal w) := by
  unfold latchingSteps
  split
  · exact Routine.staged_change ⟨rfl, own⟩ (Nat.le_refl 4) (Nat.lt_succ_self 4) fun _ v _ => Routine.staged_finish _ v
  · exact Routine.staged_aside fun _ v _ => Routine.staged_finish _ v

theorem runIds_of_record {d : DecisionInput} {r : DecisionRecord} (own : ∀ s, d.sample = some s → s.runId = d.runId)
    (made : d.record = .ok r) : ∀ id ∈ (Record.decision r).runIds, id = d.runId := by
  obtain ⟨metrics, engine, -, -, rfl⟩ := DecisionInput.record_eq_ok made
  intro id member
  rcases List.mem_cons.mp member with here | there
  · exact here
  · obtain ⟨s, sampled, rfl⟩ := Option.map_eq_some_iff.mp (Option.mem_toList.mp there)
    exact own s sampled

theorem staged_recordingSteps (runId : String) (before : RollbackSnapshot) {decision : DecisionRecord}
    (own : ∀ id ∈ (Record.decision decision).runIds, id = runId) (proper : (Json.obj decision.toFields).Distinct)
    (w : World σ) : Staged (Change.By p runId) 6 5 ((p.recordingSteps runId before decision).journal w) := by
  unfold recordingSteps
  rw [p.trackingEnabled_routing]
  split
  · rename_i tracked
    exact Routine.staged_change ⟨rfl, own, rfl, proper, fun _ => tracked⟩ (Nat.le_refl 5) (Nat.lt_succ_self 5)
      fun _ v _ => Routine.staged_finish _ v
  · exact Routine.staged_finish _ w

theorem staged_closingSteps (runId : String) (baseline : Json) (t : Trial) (w : World σ) :
    Staged (Change.By p runId) 6 4 ((p.closingSteps runId baseline t).journal w) := by
  refine Routine.staged_bind 4 (by decide) (by decide) (Routine.staged_finish _ w) fun sample v sampled => ?_
  have own := p.runId_of_sampling (congrArg Prod.fst sampled)
  refine Routine.staged_bind 5 (by decide) (by decide) (p.staged_latchingSteps runId t.before own v)
    fun rollback latched latching => ?_
  rw [attempt_latchingSteps] at latching
  have summary := p.gives_latching runId t.before sample v rollback latched latching
  refine Routine.staged_bind 5 (by decide) (by decide) (Routine.staged_finish _ latched) fun decision u decided => ?_
  have made := congrArg Prod.fst decided
  refine Routine.staged_bind 6 (by decide) (by decide) ?recorded fun _ recorded _ => ?_
  case recorded =>
    exact p.staged_recordingSteps runId t.before (runIds_of_record own made)
      (DecisionInput.distinct_of_record summary made) u
  refine Routine.staged_aside fun _ counted _ => ?_
  exact Routine.staged_bind 6 (by decide) (by decide) (Routine.staged_finish _ counted) fun _ proposed _ =>
    Routine.staged_finish _ proposed

theorem staged_numberedSteps (runId : String) (w : World σ) :
    Staged (Change.By p runId) 6 1 ((p.numberedSteps runId).journal w) := by
  refine Routine.staged_aside fun baseline v _ => ?_
  exact Routine.staged_bind 4 (by decide) (by decide) (p.staged_tryingSteps runId baseline v) fun t tried _ =>
    p.staged_closingSteps runId baseline t tried

/-- What holds when the run has its number, and is kept by its changes, holds wherever the run breaks off. -/
theorem holds_at (p : Plan σ) {w : World σ} {I : List (Moment σ) → Store → Prop}
    {R : String → Nat → List (Moment σ) → Store → Prop} (start : I [] w.store)
    (refused : ∀ fault v, nextId.outcome w = (.error fault, v) → I [⟨w, .number⟩] (Moment.after ⟨w, .number⟩).store)
    (named : ∀ runId v, nextId.outcome w = (.ok runId, v) →
      R runId 1 [⟨w, .number⟩] (Moment.after ⟨w, .number⟩).store)
    (step : ∀ runId low done m, m.change.By p runId → 1 ≤ m.change.stage → low ≤ m.change.stage →
      R runId low done m.before.store → R runId (m.change.stage + 1) (done ++ [m]) m.after.store)
    (stop : ∀ runId low done s, R runId low done s → I done s) {done more : List (Moment σ)}
    (split : p.steps.journal w = done ++ more) : I done (w.store.following done) := by
  have linked := (p.steps.linked_journal w).1
  rw [p.journal_steps] at split linked
  cases done with
  | nil => exact start
  | cons first done =>
      obtain ⟨rfl, tail⟩ := List.cons.inj (split.trans (List.cons_append ..))
      cases linked with
      | cons here linked =>
          rcases ran : nextId.outcome w with ⟨r, v⟩
          rw [ran] at tail linked
          cases r with
          | error fault =>
              obtain ⟨rfl, -⟩ := List.append_eq_nil_iff.mp tail.symm
              exact refused fault v ran
          | ok runId =>
              obtain ⟨next, -, goes⟩ := (p.staged_numberedSteps runId v).holds_at linked
                (R := fun low done s => 1 ≤ low ∧ R runId low done s) ⟨Nat.le_refl 1, named runId v ran⟩
                (fun low done m own due held => ⟨Nat.succ_le_succ (Nat.zero_le _),
                  step runId low done m own (Nat.le_trans held.1 due) due held.2⟩) tail
              exact stop runId next _ _ goes

end Run.Plan

end CanaryGate
