import CanaryGate.Proofs.Run.Entries
import CanaryGate.Proofs.Run.Invocations
import CanaryGate.Proofs.Run.Numbers

/-! # How far a run gets

A run that goes on past its baseline looks at the latch, is routed, and makes a selection. What it looks at is known
beforehand: the latch as the store shows it, or an open one if the run resets it. What the run has asked of its
engines by the time it is over, and what it has put on the shelf of the comparisons, depends on how far it got.
-/

namespace CanaryGate

open Attempt

variable {σ : Type}

namespace Rollback

theorem holds_of_reset {w w' : World σ} {state : RollbackState} (h : reset.outcome w = (.ok state, w')) :
    w'.latch = .ok .clear := by
  obtain ⟨_, t, transacted, -⟩ := bind_eq_ok.mp h
  obtain ⟨_, body⟩ := Store.body_of_transaction transacted
  obtain ⟨held, _, loaded, -⟩ := bind_eq_ok.mp body
  rw [outcome_load] at loaded
  have readable : w.latch = .ok held := congrArg Prod.fst loaded
  have shown := shows_reset w
  rw [h] at shown
  unfold World.latch
  rw [shown]
  exact stateIn_changed readable fun _ => .clear

end Rollback

namespace Run

/-- The latch as a run sees it that gets to look at it. -/
def Plan.sight (p : Plan σ) (w : World σ) : Except Fault RollbackSnapshot :=
  if p.resets then .ok RollbackState.clear.snapshot else w.latch.map RollbackState.snapshot

/-- A run that got as far as its routing. -/
structure Routed (p : Plan σ) (w : World σ) where
  runId : String
  baseline : Json
  opened : World σ
  opening : p.opening.outcome w = (.ok (runId, baseline), opened)
  settled : World σ
  resetting : p.resetting.outcome opened = (.ok (), settled)
  before : RollbackSnapshot
  looked : settled.latch.map RollbackState.snapshot = .ok before

/-- A run that got as far as its selection. -/
structure Chosen (p : Plan σ) (w : World σ) extends Routed p w where
  selection : Selection
  chosen : World σ
  selecting : (p.selecting baseline before).outcome settled = (.ok selection, chosen)

variable {p : Plan σ} {w : World σ}

namespace Routed

theorem numbered (r : Routed p w) : (nextId.outcome w).1 = .ok r.runId := by
  obtain ⟨_, _, named, answered⟩ := bind_eq_ok.mp r.opening
  obtain ⟨_, _, -, given⟩ := bind_eq_ok.mp answered
  cases given
  exact congrArg Prod.fst named

theorem baseline_eq (r : Routed p w) : p.baselineAnswer? w.engines = some r.baseline :=
  (Plan.engines_of_opening r.opening).1

theorem engines_eq (r : Routed p w) : r.settled.engines = p.afterBaseline w.engines :=
  (Plan.leaves_engines_resetting.of_eq r.resetting).trans (Plan.engines_of_opening r.opening).2

/-- The run is routed by what could be seen beforehand. -/
theorem sight_eq (r : Routed p w) : p.sight w = .ok r.before := by
  have opened : r.opened.latch = w.latch := (World.latch_of_leaves (p.leaves_opening (by decide))).of_eq r.opening
  have resetting := r.resetting
  rw [← r.looked]
  unfold Plan.resetting at resetting
  unfold Plan.sight
  split at resetting
  · rename_i resets
    obtain ⟨_, _, reset, returned⟩ := bind_eq_ok.mp resetting
    cases returned
    rw [if_pos resets, Rollback.holds_of_reset reset]
    rfl
  · rename_i keeps
    have same : r.opened = r.settled := congrArg Prod.snd resetting
    rw [if_neg keeps, ← same, opened]

end Routed

theorem Chosen.course (c : Chosen p w) :
    Plan.Course p c.baseline c.before (p.afterBaseline w.engines) c.selection := by
  rw [← c.engines_eq]
  exact Plan.course_of_selecting c.selecting

/-- A run that returned got as far as its selection. -/
def Returned.toward {result : RunResult} {w' : World σ} (r : Returned p w result w') : Chosen p w where
  runId := r.runId
  baseline := r.baseline
  opened := r.opened
  opening := r.opening
  settled := r.trying.settled
  resetting := r.trying.resetting
  before := r.trial.before
  looked := r.trying.before
  selection := r.trial.selection
  chosen := r.trying.chosen
  selecting := r.trying.selecting

/-- What a run has asked of its engines, by how far it got. -/
inductive Asks (p : Plan σ) (w : World σ) : List Invocation → Prop where
  | unnumbered (refused : ¬ Finishes nextId w) : Asks p w []
  | opened (numbered : Finishes nextId w) : Asks p w p.baselineLoad
  | routed (r : Routed p w) : Asks p w (p.baselineLoad ++ p.attemptLoad r.before)
  | chosen (c : Chosen p w) :
      Asks p w (p.baselineLoad ++ (p.attemptLoad c.before ++ p.shadowLoad c.before c.selection))
  | crossed (c : Chosen p w) :
      Asks p w (p.baselineLoad
        ++ (p.attemptLoad c.before ++ (p.shadowLoad c.before c.selection ++ p.crossLoad c.selection)))

namespace Plan

theorem asks_routed (r : Routed p w) :
    Asks p w (p.baselineLoad ++ p.routedLoad r.runId r.baseline r.before r.settled) := by
  unfold routedLoad
  rcases selecting : (p.selecting r.baseline r.before).outcome r.settled with ⟨found, chosen⟩
  cases found with
  | error fault =>
      dsimp only [afterwards]
      rw [List.append_nil]
      exact .routed r
  | ok selection =>
      dsimp only [afterwards]
      rcases (p.shadowing r.runId r.baseline r.before selection).outcome chosen with ⟨shadow, shadowed⟩
      cases shadow with
      | error fault =>
          dsimp only [afterwards]
          rw [List.append_nil]
          exact .chosen { r with selection, chosen, selecting }
      | ok shadow => exact .crossed { r with selection, chosen, selecting }

theorem asks_opened {runId : String} {baseline : Json} {opened : World σ}
    (opening : p.opening.outcome w = (.ok (runId, baseline), opened)) (numbered : Finishes nextId w) :
    Asks p w (p.baselineLoad ++ p.openedLoad (runId, baseline) opened) := by
  unfold openedLoad
  rcases resetting : p.resetting.outcome opened with ⟨r, settled⟩
  cases r with
  | error fault =>
      dsimp only [afterwards]
      rw [List.append_nil]
      exact .opened numbered
  | ok _ =>
      dsimp only [afterwards]
      rw [Rollback.outcome_snapshot]
      cases looked : settled.latch.map RollbackState.snapshot with
      | error fault =>
          dsimp only [afterwards]
          rw [List.append_nil]
          exact .opened numbered
      | ok before => exact asks_routed ⟨runId, baseline, opened, opening, settled, resetting, before, looked⟩

/-- There is nothing else that a run asks. -/
theorem asks_invocations (p : Plan σ) (w : World σ) : Asks p w (p.invocations w) := by
  rw [p.invocations_eq]
  unfold openingLoad
  rcases named : nextId.outcome w with ⟨r, v⟩
  cases r with
  | error fault =>
      have refused : ¬ Finishes nextId w := by
        rintro ⟨runId, given⟩
        rw [named] at given
        contradiction
      have stopped : p.opening.outcome w = (.error fault, v) := outcome_bind_of_error named
      rw [stopped]
      exact .unnumbered refused
  | ok runId =>
      have numbered : Finishes nextId w := finishes_of_eq named
      dsimp only [afterwards]
      rcases opening : p.opening.outcome w with ⟨o, opened⟩
      cases o with
      | error fault =>
          dsimp only [afterwards]
          rw [List.append_nil]
          exact .opened numbered
      | ok o => exact asks_opened opening numbered

/-- A run that makes a selection has asked what the shadow is to ask. -/
theorem invocations_of_chosen (c : Chosen p w) : ∃ more, p.invocations w
    = p.openingLoad w ++ (p.attemptLoad c.before ++ (p.shadowLoad c.before c.selection ++ more)) := by
  rw [p.invocations_eq, c.opening]
  dsimp only [afterwards]
  rw [openedLoad, c.resetting]
  dsimp only [afterwards]
  rw [Rollback.outcome_snapshot, c.looked]
  dsimp only [afterwards]
  rw [routedLoad, c.selecting]
  exact ⟨_, rfl⟩

/-! What is put on the shelf of the comparisons is put there by the shadow. -/

/-- The comparisons that the run puts down. -/
def compared (p : Plan σ) (w : World σ) : List Put := Shelf.comparisons.puts (p.steps.journal w)

/-- The comparisons that the shadow of the run puts down. -/
def comparedBy (c : Chosen p w) : List Put :=
  Shelf.comparisons.puts ((p.shadowingSteps c.runId c.baseline c.before c.selection).journal c.chosen)

theorem comparisons_bind {α β : Type} {s : Routine σ α} {f : α → Routine σ β} {v : World σ}
    (quiet : ∀ x u, Shelf.comparisons.puts ((f x).journal u) = []) :
    Shelf.comparisons.puts ((s.bind f).journal v) = Shelf.comparisons.puts (s.journal v) := by
  rw [Routine.journal_bind, Shelf.puts_append]
  rcases s.attempt.outcome v with ⟨r, u⟩
  cases r with
  | error fault => exact List.append_nil _
  | ok x => rw [Routine.onward, quiet, List.append_nil]

/-- Closing comes too late to put a comparison down. -/
theorem comparisons_closingSteps (runId : String) (baseline : Json) (t : Trial) (v : World σ) :
    Shelf.comparisons.puts ((p.closingSteps runId baseline t).journal v) = [] :=
  (p.staged_closingSteps runId baseline t v).puts_of_ended (by decide : Shelf.comparisons.stage < 4)

theorem comparisons_crossingSteps (runId : String) (selection : Selection) (v : World σ) :
    Shelf.comparisons.puts ((p.crossingSteps runId selection).journal v) = [] :=
  (p.staged_crossingSteps runId selection v).puts_of_ended (by decide : Shelf.comparisons.stage < 3)

theorem comparisons_resettingSteps (p : Plan σ) (v : World σ) :
    Shelf.comparisons.puts (p.resettingSteps.journal v) = [] := by
  unfold Shelf.puts
  rw [p.puts_resettingSteps]
  rfl

theorem comparisons_opened {runId : String} {baseline : Json} {opened : World σ}
    (opening : p.opening.outcome w = (.ok (runId, baseline), opened)) :
    Shelf.comparisons.puts ((p.tryingSteps runId baseline).journal opened) = []
      ∨ ∃ c : Chosen p w, Shelf.comparisons.puts ((p.tryingSteps runId baseline).journal opened) = comparedBy c := by
  rw [tryingSteps, Routine.journal_bind, Shelf.puts_append, p.comparisons_resettingSteps, List.nil_append,
    attempt_resettingSteps]
  rcases resetting : p.resetting.outcome opened with ⟨r, settled⟩
  cases r with
  | error fault => exact .inl rfl
  | ok _ =>
      rw [Routine.onward, Routine.journal, Rollback.outcome_snapshot]
      cases looked : settled.latch.map RollbackState.snapshot with
      | error fault => exact .inl rfl
      | ok before =>
          rw [Routine.onward, Routine.journal]
          rcases selecting : (p.selecting baseline before).outcome settled with ⟨found, chosen⟩
          cases found with
          | error fault => exact .inl rfl
          | ok selection =>
              refine .inr ⟨⟨⟨runId, baseline, opened, opening, settled, resetting, before, looked⟩, selection, chosen,
                selecting⟩, comparisons_bind fun _ u => ?_⟩
              rw [comparisons_bind fun _ _ => rfl]
              exact comparisons_crossingSteps runId selection u

/-- There is no comparison but those of the shadow. -/
theorem compared_cases (p : Plan σ) (w : World σ) :
    compared p w = [] ∨ ∃ c : Chosen p w, compared p w = comparedBy c := by
  have first : Shelf.comparisons.puts [(⟨w, .number⟩ : Moment σ)] = [] :=
    Shelf.puts_singleton_of_apart Shelf.comparisons.space_ne_sequences
  unfold compared
  rw [p.journal_steps, ← List.singleton_append, Shelf.puts_append, first, List.nil_append]
  rcases named : nextId.outcome w with ⟨r, v⟩
  cases r with
  | error fault => exact .inl rfl
  | ok runId =>
      rw [Routine.onward, numberedSteps, Routine.journal]
      rcases answered : (baselineResult p.engines.baseline (p.ask p.configs.baselineMatcher)).outcome v with ⟨r, opened⟩
      cases r with
      | error fault => exact .inl rfl
      | ok baseline =>
          have opening : p.opening.outcome w = (.ok (runId, baseline), opened) :=
            bind_eq_ok.mpr ⟨_, _, named, bind_eq_ok.mpr ⟨_, _, answered, rfl⟩⟩
          rw [Routine.onward, comparisons_bind fun t u => comparisons_closingSteps runId baseline t u]
          exact comparisons_opened opening

end Plan

end Run

namespace Shadow

variable {scene : Scene} {canary : CanaryConfig} {primary : PrimaryConfig} {routing : RoutingDecision}
  {selection : Selection} {candidate : Option (Engine σ)} {request : EngineRequest} {w : World σ}

theorem puts_comparingSteps (scene : Scene) (canary : CanaryConfig) (primary : PrimaryConfig) (selection : Selection)
    (attempt : Option EngineOutcome) (w : World σ) :
    Moment.puts ((comparingSteps scene canary primary selection attempt).journal w)
      = ((weighed scene primary selection attempt).toOption.map fun found => ⟨scene.runId,
        .comparison (recordOf scene canary selection attempt found.2), canary.maxShadowDiffs⟩).toList := by
  unfold comparingSteps
  cases weighed scene primary selection attempt with
  | error fault => rfl
  | ok found =>
      rw [Routine.bind_finish_ok, Routine.journal_change_of_last fun _ u => rfl]
      rfl

/-- The shadow is off, or has nothing to compare while it knows the latch to be closed. -/
def Idle (canary : CanaryConfig) (primary : PrimaryConfig) (routing : RoutingDecision) (selection : Selection) : Prop :=
  canary.shadowEnabled = false
    ∨ primary.enabled = true ∧ routing.skippedReason = some "rollback_active" ∧ selection.candidateResult? = none

theorem puts_steps_of_idle (idle : Idle canary primary routing selection) :
    Moment.puts ((steps scene canary primary routing selection candidate request).journal w) = [] := by
  unfold steps
  split
  · cases selection.candidateResult?.mapM fun result => scene.compare result selection.safety with
    | error fault => rfl
    | ok diff => rfl
  · rename_i on
    obtain ⟨enabled, told, missing⟩ := idle.resolve_left fun off => on (congrArg not off)
    rw [if_pos (by simp [enabled, told, missing])]
    rfl

/-- What the shadow puts down was weighed, whether the shadow finishes or not. -/
theorem record_of_puts {q : Put}
    (member : q ∈ Moment.puts ((steps scene canary primary routing selection candidate request).journal w)) :
    ∃ attempt found, weighed scene primary selection attempt = .ok found
      ∧ q.record = .comparison (recordOf scene canary selection attempt found.2) := by
  unfold steps at member
  split at member
  · cases compared : selection.candidateResult?.mapM fun result => scene.compare result selection.safety with
    | error fault =>
        rw [compared] at member
        cases member
    | ok diff =>
        rw [compared] at member
        cases member
  · split at member
    · cases member
    · rw [Routine.journal] at member
      rcases ran : (attempting canary selection.candidateResult? candidate request).outcome w with ⟨r, tried⟩
      rw [ran] at member
      cases r with
      | error fault => cases member
      | ok attempt =>
          rw [Routine.onward, puts_comparingSteps] at member
          obtain ⟨found, here, rfl⟩ := Option.map_eq_some_iff.mp (Option.mem_toList.mp member)
          refine ⟨attempt, found, ?_, rfl⟩
          cases weighing : weighed scene primary selection attempt with
          | error fault =>
              rw [weighing] at here
              cases here
          | ok other =>
              rw [weighing] at here
              cases here
              rfl

/-- Where there is a result of the candidate, it is what was weighed, and a comparison is the one with it. -/
theorem compared_of_puts {q : Put} {given : Json} {diff : DiffRecord}
    (member : q ∈ Moment.puts ((steps scene canary primary routing selection candidate request).journal w))
    (attempted : selection.candidateResult? = some given) (kept : q.record = .comparison (.diff diff)) :
    ∃ safety, SafetyTriggers.ofResult given primary = .ok safety ∧ scene.compare given safety = .ok diff := by
  obtain ⟨attempt, ⟨safety, found⟩, weighing, recorded⟩ := record_of_puts member
  have shown : resultOf selection attempt = some given := by simp [resultOf, attempted]
  unfold weighed at weighing
  rw [shown] at weighing
  obtain ⟨_, safe, weighing⟩ := except_bind_eq_ok.mp weighing
  obtain ⟨_, comparing, weighing⟩ := except_bind_eq_ok.mp weighing
  cases weighing
  obtain ⟨made, compared, rfl⟩ := optionMapM_some_eq_ok.mp comparing
  refine ⟨safety, safe, ?_⟩
  have same : recordOf scene canary selection attempt (some made) = .diff diff := by
    rw [recorded] at kept
    exact Record.comparison.inj kept
  unfold recordOf chooseRecord at same
  split at same
  · cases same
  · cases same
    exact compared

end Shadow

/-- Changes that are made elsewhere are not seen. -/
theorem Linked.shows_following {s : Store} {ms : List (Moment σ)} (linked : Linked s ms) {space : String}
    (apart : ∀ m ∈ ms, space ≠ m.change.space) : (s.following ms).shows space = s.shows space := by
  induction linked with
  | nil s => rfl
  | cons here later ih =>
      rename_i s m rest
      obtain ⟨first, others⟩ := List.forall_mem_cons.mp apart
      calc
        (s.following (m :: rest)).shows space = m.after.store.shows space := ih others
        _ = m.before.store.shows space := m.shows_after first
        _ = s.shows space := by rw [here]

theorem Run.Plan.compared_of_idle {p : Plan σ} {w : World σ} (idle : ∀ c : Chosen p w,
    Shadow.Idle p.configs.canary p.configs.primary (p.routing c.before) c.selection) : p.compared w = [] := by
  rcases p.compared_cases w with none | ⟨c, same⟩
  · exact none
  · have none : Moment.puts ((p.shadowingSteps c.runId c.baseline c.before c.selection).journal c.chosen) = [] :=
      Shadow.puts_steps_of_idle (idle c)
    rw [same]
    unfold comparedBy Shelf.puts
    rw [none]
    rfl

/-- A shelf on which a run puts nothing is left as it is. -/
theorem Run.Plan.shows_of_unput (p : Plan σ) (w : World σ) {shelf : Shelf}
    (none : shelf.puts (p.steps.journal w) = []) : (p.attempt.outcome w).2.shows shelf.space = w.shows shelf.space := by
  obtain ⟨linked, ends⟩ := p.steps.linked_journal w
  rw [p.attempt_steps] at ends
  have apart : ∀ m ∈ p.steps.journal w, shelf.space ≠ m.change.space := by
    intro m member here
    obtain ⟨q, same, shelved⟩ := Change.put_of_space here
    have putDown : q ∈ shelf.puts (p.steps.journal w) :=
      List.mem_filter.mpr ⟨List.mem_filterMap.mpr ⟨m, member, by rw [same]; rfl⟩, decide_eq_true shelved⟩
    rw [none] at putDown
    cases putDown
  show (p.attempt.outcome w).2.store.shows shelf.space = _
  rw [← ends]
  exact linked.shows_following apart

end CanaryGate
