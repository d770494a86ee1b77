import CanaryGate.Proofs.Run.Journal

/-! # The records that a run puts down

Each shelf has a stage of its own, so a run puts one record on it at most. A run that returned has put down what
its stages gave: the comparison and the cross-check if there were any, and the decision if it was tracked.
-/

namespace CanaryGate

open Attempt

variable {σ α β : Type}

/-- All records that were put down. -/
def Moment.puts (moments : List (Moment σ)) : List Put := moments.filterMap fun m => m.change.put?

theorem Moment.puts_append (done more : List (Moment σ)) : puts (done ++ more) = puts done ++ puts more :=
  List.filterMap_append

namespace Shelf

def stage : Shelf → Nat
  | comparisons => 2
  | crossChecks => 3
  | decisions => 5

/-- What was put on the shelf. -/
def puts (shelf : Shelf) (moments : List (Moment σ)) : List Put :=
  (Moment.puts moments).filter fun put => put.shelf = shelf

theorem puts_append (shelf : Shelf) (done more : List (Moment σ)) :
    shelf.puts (done ++ more) = shelf.puts done ++ shelf.puts more := by
  unfold puts
  rw [Moment.puts_append, List.filter_append]

theorem puts_singleton_put {shelf : Shelf} {q : Put} (w : World σ) (here : q.shelf = shelf) :
    shelf.puts [⟨w, .put q⟩] = [q] := by
  simp [puts, Moment.puts, Change.put?, here]

theorem puts_singleton_of_apart {shelf : Shelf} {m : Moment σ} (apart : shelf.space ≠ m.change.space) :
    shelf.puts [m] = [] := by
  obtain ⟨w, c⟩ := m
  cases c with
  | number | reset | judge => rfl
  | put q =>
      have elsewhere : q.shelf ≠ shelf := fun here => apart (congrArg space here).symm
      simp [puts, Moment.puts, Change.put?, elsewhere]

end Shelf

theorem Change.stage_put (put : Put) : (Change.put put).stage = put.shelf.stage := by
  obtain ⟨runId, record, limit⟩ := put
  cases record with
  | decision record => rfl
  | comparison record => rfl
  | crossCheck record => rfl

namespace Staged

variable {P : Change → Prop} {low high : Nat} {ms : List (Moment σ)}

/-- Nothing is put on a shelf whose stage is over. -/
theorem puts_of_ended (h : Staged P high low ms) {shelf : Shelf} (ended : shelf.stage < low) : shelf.puts ms = [] := by
  induction h with
  | nil low => rfl
  | cons fits due early later ih =>
      rename_i low m rest
      have apart : shelf.space ≠ m.change.space := by
        intro here
        obtain ⟨q, same, rfl⟩ := Change.put_of_space here
        rw [same, Change.stage_put] at due
        omega
      rw [← List.singleton_append, Shelf.puts_append, Shelf.puts_singleton_of_apart apart, ih (by omega),
        List.append_nil]

/-- One record at most is put on a shelf. -/
theorem puts_cases (h : Staged P high low ms) (shelf : Shelf) :
    shelf.puts ms = [] ∨ ∃ q, shelf.puts ms = [q] ∧ q.shelf = shelf ∧ P (.put q) := by
  induction h with
  | nil low => exact .inl rfl
  | cons fits due early later ih =>
      rename_i low m rest
      rw [← List.singleton_append, Shelf.puts_append]
      by_cases here : shelf.space = m.change.space
      · obtain ⟨q, same, rfl⟩ := Change.put_of_space here
        obtain ⟨w, c⟩ := m
        cases same
        have ended : q.shelf.stage < (Change.put q).stage + 1 := by
          rw [Change.stage_put]
          exact Nat.lt_succ_self _
        rw [later.puts_of_ended ended, Shelf.puts_singleton_put w rfl]
        exact .inr ⟨q, rfl, rfl, fits⟩
      · rwa [Shelf.puts_singleton_of_apart here, List.nil_append]

end Staged

namespace Routine

variable {w v : World σ}

theorem journal_aside_of_ok {a : Attempt (World σ) β} {leaves : Leaves World.store a} {next : β → Routine σ α} {x : β}
    (ran : a.outcome w = (.ok x, v)) : (aside a leaves next).journal w = (next x).journal v := by
  rw [journal, ran]
  rfl

theorem journal_bind_of_ok {s : Routine σ α} {f : α → Routine σ β} {x : α} (ran : s.attempt.outcome w = (.ok x, v)) :
    (s.bind f).journal w = s.journal w ++ (f x).journal v := by
  rw [journal_bind, ran]
  rfl

/-- A change after which nothing more is done to the store. -/
theorem journal_change_of_last {c : Change} {next : c.Answer → Routine σ α} (last : ∀ x u, (next x).journal u = [])
    (w : World σ) : (change c next).journal w = [⟨w, c⟩] := by
  rw [journal]
  rcases c.attempt.outcome w with ⟨r, u⟩
  cases r with
  | error fault => rfl
  | ok x => exact congrArg (_ :: ·) (last x u)

end Routine

open Routine

theorem Shadow.puts_steps {scene : Scene} {canary : CanaryConfig} {primary : PrimaryConfig} {routing : RoutingDecision}
    {selection : Selection} {candidate : Option (Engine σ)} {request : EngineRequest} {w v : World σ}
    {found : ShadowOutcome}
    (ran : (run scene canary primary routing selection candidate request).outcome w = (.ok found, v)) :
    Moment.puts ((steps scene canary primary routing selection candidate request).journal w)
      = (found.stored.map fun record => ⟨scene.runId, .comparison record, canary.maxShadowDiffs⟩).toList := by
  rw [run_eq] at ran
  unfold steps
  split
  · rename_i off
    rw [if_pos off] at ran
    obtain ⟨diff, _, lifted, ran⟩ := bind_eq_ok.mp ran
    obtain ⟨compared, rfl⟩ := Prod.mk.inj lifted
    cases ran
    rw [compared, bind_finish_ok]
    rfl
  · rename_i on
    rw [if_neg on] at ran
    split
    · rename_i latched
      rw [if_pos latched] at ran
      cases ran
      rfl
    · rename_i unlatched
      rw [if_neg unlatched] at ran
      obtain ⟨attempt, tried, attempted, ran⟩ := bind_eq_ok.mp ran
      rw [comparing_eq] at ran
      obtain ⟨found, _, lifted, ran⟩ := bind_eq_ok.mp ran
      obtain ⟨weighed, rfl⟩ := Prod.mk.inj lifted
      obtain ⟨_, _, -, ran⟩ := bind_eq_ok.mp ran
      cases ran
      rw [journal_aside_of_ok attempted, comparingSteps, weighed, bind_finish_ok,
        journal_change_of_last fun _ u => rfl]
      rfl

theorem AltShadow.puts_steps {runId recordedAt : String} {config : AltShadowConfig} {served : Option String}
    {servedResult : Json} {matcher : MatcherConfig} {engine : Option (Engine σ)} {request : EngineRequest}
    {limit : Json} {w v : World σ} {found : Option AltRecord}
    (ran : (run runId recordedAt config served servedResult matcher engine request limit).outcome w = (.ok found, v)) :
    Moment.puts ((steps runId recordedAt config served servedResult matcher engine request limit).journal w)
      = (found.map fun record => ⟨runId, .crossCheck record, config.maxShadowDiffs⟩).toList := by
  unfold run at ran
  unfold steps
  split
  · rename_i off
    rw [if_pos off] at ran
    cases ran
    rfl
  · rename_i on
    rw [if_neg on] at ran
    obtain ⟨outcome, answered, executed, ran⟩ := bind_eq_ok.mp ran
    obtain ⟨record, _, lifted, ran⟩ := bind_eq_ok.mp ran
    obtain ⟨recorded, rfl⟩ := Prod.mk.inj lifted
    obtain ⟨_, counted, counting, ran⟩ := bind_eq_ok.mp ran
    obtain ⟨_, _, -, ran⟩ := bind_eq_ok.mp ran
    cases ran
    rw [journal_aside_of_ok executed, recorded, bind_finish_ok, journal_aside_of_ok counting,
      journal_change_of_last fun _ u => rfl]
    rfl

namespace Run

/-- All that a run which returned has put down. -/
def Returned.puts {p : Plan σ} {w w' : World σ} {result : RunResult} (r : Returned p w result w') : List Put :=
  (r.trial.shadow.stored.map fun record => ⟨r.runId, .comparison record, p.limit .comparisons⟩).toList
    ++ (r.trying.alternate.map fun record => ⟨r.runId, .crossCheck record, p.limit .crossChecks⟩).toList
    ++ if p.tracked then [⟨r.runId, .decision result.decision, p.limit .decisions⟩] else []

theorem Tried.looked {p : Plan σ} {runId : String} {baseline : Json} {w w' : World σ} {t : Trial}
    (tried : Tried p runId baseline w t w') :
    Rollback.snapshot.outcome tried.settled = (.ok t.before, tried.settled) := by
  rw [Rollback.outcome_snapshot, tried.before]

namespace Plan

variable {p : Plan σ} {runId : String} {w v : World σ}

theorem puts_resettingSteps (p : Plan σ) (w : World σ) : Moment.puts (p.resettingSteps.journal w) = [] := by
  unfold resettingSteps
  split
  · rw [journal_change_of_last fun _ u => rfl]
    rfl
  · rfl

theorem puts_latchingSteps (p : Plan σ) (runId : String) (before : RollbackSnapshot) (sample : Option RunSample)
    (w : World σ) : Moment.puts ((p.latchingSteps runId before sample).journal w) = [] := by
  unfold latchingSteps
  split
  · rw [journal_change_of_last fun _ u => rfl]
    rfl
  · rw [journal]
    rcases (untouched p.configs.canary before).outcome w with ⟨r, u⟩
    cases r with
    | error fault => rfl
    | ok update => rfl

theorem puts_recordingSteps (p : Plan σ) (runId : String) (before : RollbackSnapshot) (decision : DecisionRecord)
    (w : World σ) : Moment.puts ((p.recordingSteps runId before decision).journal w)
      = if p.tracked then [⟨runId, .decision decision, p.limit .decisions⟩] else [] := by
  unfold recordingSteps
  rw [p.trackingEnabled_routing]
  split
  · rw [journal_change_of_last fun _ u => rfl]
    rfl
  · rfl

theorem puts_tryingSteps {baseline : Json} {t : Trial} (tried : Tried p runId baseline w t v) :
    Moment.puts ((p.tryingSteps runId baseline).journal w)
      = (t.shadow.stored.map fun record => ⟨runId, .comparison record, p.limit .comparisons⟩).toList
        ++ (tried.alternate.map fun record => ⟨runId, .crossCheck record, p.limit .crossChecks⟩).toList := by
  have resetting := tried.resetting
  rw [← attempt_resettingSteps] at resetting
  have shadowing := tried.shadowing
  rw [← attempt_shadowingSteps] at shadowing
  have crossing := tried.crossing
  rw [← attempt_crossingSteps] at crossing
  rw [tryingSteps, journal_bind_of_ok resetting, journal_aside_of_ok tried.looked, journal_aside_of_ok tried.selecting,
    journal_bind_of_ok shadowing, journal_bind_of_ok crossing]
  have compared := Shadow.puts_steps tried.shadowing
  have crossed := AltShadow.puts_steps tried.crossing
  simp only [Moment.puts_append, puts_resettingSteps, List.nil_append]
  exact congrArg₂ (· ++ ·) compared ((List.append_nil _).trans crossed)

theorem outcome_trying {baseline : Json} {t : Trial} (tried : Tried p runId baseline w t v) :
    (p.trying runId baseline).outcome w = (.ok t, v) := by
  refine bind_eq_ok.mpr ⟨_, _, tried.resetting, bind_eq_ok.mpr ⟨_, _, tried.looked, bind_eq_ok.mpr ⟨_, _, tried.selecting, ?_⟩⟩⟩
  exact bind_eq_ok.mpr ⟨_, _, tried.shadowing, bind_eq_ok.mpr ⟨_, _, tried.crossing, rfl⟩⟩

theorem puts_closingSteps {result : RunResult} (r : Returned p w result v) :
    Moment.puts ((p.closingSteps r.runId r.baseline r.trial).journal r.tried)
      = if p.tracked then [⟨r.runId, .decision result.decision, p.limit .decisions⟩] else [] := by
  have latching := r.latching
  rw [← attempt_latchingSteps] at latching
  have recording := r.recording
  rw [← attempt_recordingSteps] at recording
  have counted : (World.observe (count result.decision)).outcome r.recorded = (.ok (), v) := Prod.ext rfl r.left.symm
  rw [closingSteps, r.sampling, bind_finish_ok, journal_bind_of_ok latching, r.deciding, bind_finish_ok,
    journal_bind_of_ok recording, journal_aside_of_ok counted, r.proposing, bind_finish_ok]
  simp only [Moment.puts_append, puts_latchingSteps, puts_recordingSteps, List.nil_append]
  exact List.append_nil _

/-- A run that returned has put down what its stages gave, and nothing else. -/
theorem puts_steps {result : RunResult} (r : Returned p w result v) : Moment.puts (p.steps.journal w) = r.puts := by
  obtain ⟨runId, named, numbered, answered⟩ := bind_eq_ok.mp r.opening
  obtain ⟨baseline, opened, answering, answered⟩ := bind_eq_ok.mp answered
  cases answered
  have trying := outcome_trying r.trying
  rw [← attempt_tryingSteps] at trying
  have journal : p.steps.journal w = ⟨w, .number⟩ :: ((p.tryingSteps r.runId r.baseline).journal r.opened
      ++ (p.closingSteps r.runId r.baseline r.trial).journal r.tried) := by
    rw [p.journal_steps, numbered, onward, numberedSteps, journal_aside_of_ok answering, journal_bind_of_ok trying]
  rw [journal, ← List.singleton_append, Moment.puts_append, Moment.puts_append, puts_tryingSteps r.trying,
    puts_closingSteps]
  rfl

/-- Whether it returns or not, a run puts one record on a shelf at most, and does so in its own name. -/
theorem puts_cases (p : Plan σ) (w : World σ) (shelf : Shelf) :
    shelf.puts (p.steps.journal w) = [] ∨ ∃ q, shelf.puts (p.steps.journal w) = [q] ∧ q.shelf = shelf
      ∧ ∃ runId, (nextId.outcome w).1 = .ok runId ∧ q.By p runId := by
  have first : shelf.puts [(⟨w, .number⟩ : Moment σ)] = [] := Shelf.puts_singleton_of_apart shelf.space_ne_sequences
  rw [p.journal_steps, ← List.singleton_append, Shelf.puts_append, first, List.nil_append]
  rcases nextId.outcome w with ⟨r, named⟩
  cases r with
  | error fault => exact .inl rfl
  | ok runId =>
      rcases (p.staged_numberedSteps runId named).puts_cases shelf with none | ⟨q, once, here, own⟩
      · exact .inl none
      · exact .inr ⟨q, once, here, runId, rfl, own⟩

end Plan

end Run

end CanaryGate
