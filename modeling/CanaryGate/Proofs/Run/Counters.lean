import CanaryGate.Proofs.Run.AuditRecord
import CanaryGate.Proofs.Run.Blame
import CanaryGate.Proofs.Run.Counting
import CanaryGate.Proofs.Run.Shelves

/-! # Counters agree with the runs

Each counter counts labels that the results and the records of a history bear: what is bumped on one path of
a run is what another path writes into its record. `Tallies` says so of one counter, and survives both ways in
which a run may end, by returning and by blaming its baseline; how often a label was counted is then how many
results or records bear it.
-/

namespace CanaryGate

open Attempt

variable {σ : Type}

namespace Tally

variable {κ : Type} [BEq κ]

/-- The labels are what was counted, each as often as it occurs. -/
def Tallies (t : Tally κ) (labels : List κ) : Prop := ∀ label, t.count label = labels.count label

theorem tallies_nil : Tallies ([] : Tally κ) [] := fun _ => rfl

variable [LawfulBEq κ] {t : Tally κ} {labels : List κ}

/-- A label was counted as often as there are items that bear it. -/
theorem Tallies.count_eq {ι : Type} {f : ι → Option κ} {items : List ι} (h : t.Tallies (items.filterMap f)) {label : κ}
    {test : ι → Bool} (bears : ∀ item ∈ items, f item = some label ↔ test item = true) :
    t.count label = items.countP test := by
  rw [h label, List.count_filterMap]
  exact List.countP_congr fun item among => beq_iff_eq.trans (bears item among)

variable [DecidableEq κ]

theorem Tallies.bump (h : t.Tallies labels) (label : κ) : (t.bump label).Tallies (labels ++ [label]) := by
  intro other
  rw [count_bump, h other, List.count_append]
  by_cases same : other = label
  · simp [same]
  · simp [same, Ne.symm same]

theorem Tallies.bumps (h : t.Tallies labels) (more : List κ) : (more.foldl Tally.bump t).Tallies (labels ++ more) := by
  induction more generalizing t labels with
  | nil =>
      rw [List.append_nil]
      exact h
  | cons label rest ih =>
      rw [List.append_cons]
      exact ih (h.bump label)

/-- What is borne by some of the items alone is counted with those. -/
theorem Tallies.snoc {ι : Type} {f : ι → Option κ} {items : List ι} (h : t.Tallies (items.filterMap f)) (item : ι) :
    ((f item).toList.foldl Tally.bump t).Tallies ((items ++ [item]).filterMap f) := by
  have last : [item].filterMap f = (f item).toList := by
    cases borne : f item with
    | none => simp [borne]
    | some label => simp [borne]
  rw [List.filterMap_append, last]
  exact h.bumps _

end Tally

open Tally

/-- What became of the candidate in a selected run. -/
def DecisionRecord.attempt? (d : DecisionRecord) : Option (RolloutMode × AttemptOutcome) :=
  if d.canarySelected then some (d.mode, Run.attemptOutcome d) else none

/-- The reason for which the run closed the latch. -/
def DecisionRecord.trip? (d : DecisionRecord) : Option String :=
  if d.rollback.triggered then d.rollback.triggerReasonCode else none

/-- The shadow that put the record down, and of which kind it is. -/
def Put.shadow? (put : Put) : Option (ShadowKind × RecordKind) :=
  match put.record with
  | .decision _ => none
  | .comparison record => some (.candidate, record.kind)
  | .crossCheck record => some (.alternate, record.kind)

namespace Rollback

/-- A latch that was closed by an update knows why. -/
theorem reasonCode_of_triggered {config : CanaryConfig} {runId recordedAt : String} {sample : Option RunSample}
    {w w' : World σ} {u : RollbackUpdate} (ran : (update config runId recordedAt sample).outcome w = (.ok u, w'))
    (triggered : u.triggered = true) : ∃ reason, u.after.reasonCode = some reason := by
  obtain ⟨state, -, rfl⟩ := report_of_update ran
  show ∃ reason, (step state config runId recordedAt sample).1.reasonCode = some reason
  rcases step_cases state config runId recordedAt sample with
    ⟨-, -, quiet⟩ | ⟨reason, -, -, closed, -⟩ | ⟨-, -, -, quiet⟩
  · exact absurd (quiet.symm.trans triggered) Bool.false_ne_true
  · exact ⟨reason, congrArg RollbackState.reasonCode closed⟩
  · exact absurd (quiet.symm.trans triggered) Bool.false_ne_true

end Rollback

namespace Run

/-- The counters tally what the results and the records bear. -/
structure Tells (m : Metrics) (started : Nat) (results : List RunResult) (puts : List Put) : Prop where
  runs : m.runs.Tallies (results.filterMap fun r => some (r.decision.mode, r.primaryEngine))
  attempts : m.attempts.Tallies (results.filterMap fun r => r.decision.attempt?)
  fallbacks : m.fallbacks.Tallies (results.filterMap fun r => r.decision.fallbackReasonCode)
  trips : m.trips.Tallies (results.filterMap fun r => r.decision.trip?)
  shadowRecords : m.shadowRecords.Tallies (puts.filterMap Put.shadow?)
  latencies : m.latencies.count "v1" = started
  coherent : ∀ r ∈ results, r.decision.CandidateCoherent

theorem tells_zero : Tells .zero 0 [] [] :=
  ⟨tallies_nil, tallies_nil, tallies_nil, tallies_nil, tallies_nil, rfl, by simp⟩

/-- The engines of a run bear their names. -/
structure Plan.Named (p : Plan σ) : Prop where
  baseline : ∀ e, p.engines.baseline = some e → e.name = "v1"
  candidate : ∀ e, p.engines.candidate = some e → e.name = "v2"
  alternate : ∀ e, p.engines.alternate = some e → e.name = "alt"

theorem Plan.Course.fallbackReason_ne_empty {p : Plan σ} {baseline : Json} {before : RollbackSnapshot} {s : σ}
    {selection : Selection} (course : Course p baseline before s selection) : selection.fallbackReason ≠ some "" := by
  cases course with
  | passedOver unselected chosen =>
      rw [chosen]
      nofun
  | failed code failure selected unanswered chosen =>
      rw [chosen]
      rcases Selection.errorFallback_cases p.configs.primary with code | code
      · rw [code]
        exact fun same => absurd (Option.some.inj same) (by decide)
      · rw [code]
        exact fun same => absurd (Option.some.inj same) (by decide)
  | heldBack result safety reason selected answered weighed held chosen =>
      rw [chosen]
      rcases Selection.reason_of_safetyFallback held with rfl | rfl
      · exact fun same => absurd (Option.some.inj same) (by decide)
      · exact fun same => absurd (Option.some.inj same) (by decide)
  | served result safety selected answered weighed free chosen =>
      rw [chosen]
      nofun

/-- A finished run is counted by what its record bears. -/
theorem count_eq {d : DecisionRecord} (named : d.fallbackReasonCode ≠ some "") (m : Metrics) :
    count d m = { m with
      runs := m.runs.bump (d.mode, d.primaryEngine)
      attempts := d.attempt?.toList.foldl Tally.bump m.attempts
      fallbacks := d.fallbackReasonCode.toList.foldl Tally.bump m.fallbacks } := by
  unfold count DecisionRecord.attempt?
  cases code : d.fallbackReasonCode with
  | none =>
      cases d.canarySelected with
      | false => rfl
      | true => rfl
  | some reason =>
      have told : reason ≠ "" := fun empty => named (by rw [code, empty])
      cases d.canarySelected with
      | false => simp [told]
      | true => simp [told]

namespace Returned

variable {p : Plan σ} {w w' : World σ} {result : RunResult}

theorem metrics_opened (r : Returned p w result w') :
    ∃ engine, p.engines.baseline = some engine ∧ r.opened.metrics = Metrics.executed engine.name w.metrics := by
  obtain ⟨engine, configured, -⟩ := Option.bind_eq_some_iff.mp (Plan.engines_of_opening r.opening).1
  exact ⟨engine, configured, Plan.metrics_opening configured r.opening⟩

/-- What only the end of a run counts is as it was before the run until then. -/
theorem metered_recorded_of_unseen (r : Returned p w result w') {γ : Type} {view : Metrics → γ}
    (unexecuted : ∀ engine, Metrics.Unseen view (Metrics.executed engine))
    (unkept : ∀ shadow kind, Metrics.Unseen view (Metrics.shadowed shadow kind))
    (unshown : ∀ active, Metrics.Unseen view (Metrics.showing active))
    (untold : ∀ reason, Metrics.Unseen view (Metrics.tripped reason)) :
    World.metered view r.recorded = World.metered view w := by
  obtain ⟨engine, -, opened⟩ := r.metrics_opened
  calc World.metered view r.recorded
    _ = World.metered view r.tried := r.metered_recorded unshown untold
    _ = World.metered view r.trying.chosen := r.metered_tried (fun e _ => unexecuted e.name) unkept
    _ = World.metered view r.opened := r.metered_chosen unshown fun e _ => unexecuted e.name
    _ = World.metered view w := (congrArg view opened).trans (unexecuted engine.name w.metrics)

/-- The metrics that a run leaves, and what its record adds to them. -/
theorem metrics_left (r : Returned p w result w') : w'.metrics = { r.recorded.metrics with
    runs := r.recorded.metrics.runs.bump (result.decision.mode, result.primaryEngine)
    attempts := result.decision.attempt?.toList.foldl Tally.bump r.recorded.metrics.attempts
    fallbacks := result.decision.fallbackReasonCode.toList.foldl Tally.bump r.recorded.metrics.fallbacks } := by
  have named : result.decision.fallbackReasonCode ≠ some "" := by
    rw [r.fallbackReasonCode_eq]
    exact r.course.fallbackReason_ne_empty
  rw [r.engine_eq, ← count_eq named]
  exact congrArg World.metrics r.left

theorem decision_counted (r : Returned p w result w') :
    w'.metrics.runs = w.metrics.runs.bump (result.decision.mode, result.primaryEngine)
      ∧ w'.metrics.attempts = result.decision.attempt?.toList.foldl Tally.bump w.metrics.attempts
      ∧ w'.metrics.fallbacks = result.decision.fallbackReasonCode.toList.foldl Tally.bump w.metrics.fallbacks := by
  have kept : World.metered (fun m => (m.runs, m.attempts, m.fallbacks)) r.recorded = _ :=
    r.metered_recorded_of_unseen (fun _ _ => rfl) (fun _ _ _ => rfl) (fun _ _ => rfl) fun _ _ => rfl
  obtain ⟨runs, rest⟩ := Prod.mk.inj kept
  obtain ⟨attempts, fallbacks⟩ := Prod.mk.inj rest
  rw [r.metrics_left, ← runs, ← attempts, ← fallbacks]
  exact ⟨rfl, rfl, rfl⟩

theorem trip?_eq (r : Returned p w result w') :
    result.decision.trip? = if r.rollback.triggered then r.rollback.after.reasonCode else none := by
  obtain ⟨metrics, _, -, -, decided⟩ := DecisionInput.record_eq_ok r.deciding
  rw [decided]
  show (if r.rollback.triggered then (if r.rollback.triggered then _ else _) else _) = _
  cases r.rollback.triggered with
  | false => rfl
  | true => rfl

theorem trip_counted (r : Returned p w result w') :
    w'.metrics.trips = result.decision.trip?.toList.foldl Tally.bump w.metrics.trips := by
  obtain ⟨engine, -, opened⟩ := r.metrics_opened
  have tried : World.metered Metrics.trips r.tried = World.metered Metrics.trips w := by
    calc World.metered Metrics.trips r.tried
      _ = World.metered Metrics.trips r.trying.chosen := r.metered_tried (fun _ _ _ => rfl) fun _ _ _ => rfl
      _ = World.metered Metrics.trips r.opened := r.metered_chosen (fun _ _ => rfl) fun _ _ _ => rfl
      _ = World.metered Metrics.trips w := (congrArg Metrics.trips opened).trans rfl
  have recorded : World.metered Metrics.trips r.recorded = World.metered Metrics.trips r.latched :=
    (Plan.leaves_metered_recording _ _ _).of_eq r.recording
  rw [r.metrics_left, r.trip?_eq]
  refine recorded.trans ?_
  have latching := r.latching
  unfold Plan.latching at latching
  split at latching
  · rw [World.metered, Rollback.trips_of_update latching, show r.tried.metrics.trips = w.metrics.trips from tried]
    cases tripped : r.rollback.triggered with
    | false => rfl
    | true =>
        obtain ⟨reason, named⟩ := Rollback.reasonCode_of_triggered latching tripped
        rw [named]
        rfl
  · obtain ⟨loaded, _, looked, returned⟩ := bind_eq_ok.mp latching
    rw [Rollback.outcome_load] at looked
    obtain ⟨-, rfl⟩ := Prod.mk.inj looked
    obtain ⟨seen, left⟩ := Prod.mk.inj returned
    rw [← left, ← (Except.ok.inj seen : _ = r.rollback)]
    exact tried

theorem shadows_of_puts (r : Returned p w result w') : r.puts.filterMap Put.shadow?
    = (r.trial.shadow.stored.map fun record => (ShadowKind.candidate, record.kind)).toList
      ++ (r.trying.alternate.map fun record => (ShadowKind.alternate, record.kind)).toList := by
  have decision : List.filterMap Put.shadow?
      (if p.tracked then [⟨r.runId, .decision result.decision, p.limit .decisions⟩] else []) = [] := by
    split
    · rfl
    · rfl
  unfold puts
  rw [List.filterMap_append, List.filterMap_append, decision, List.append_nil]
  cases r.trial.shadow.stored with
  | none =>
      cases r.trying.alternate with
      | none => rfl
      | some record => rfl
  | some record =>
      cases r.trying.alternate with
      | none => rfl
      | some record => rfl

/-- The shadows have counted what they put down. -/
theorem shadows_counted (r : Returned p w result w') : w'.metrics.shadowRecords
    = ((Moment.puts (p.steps.journal w)).filterMap Put.shadow?).foldl Tally.bump w.metrics.shadowRecords := by
  obtain ⟨engine, -, opened⟩ := r.metrics_opened
  have chosen : World.metered Metrics.shadowRecords r.trying.chosen = World.metered Metrics.shadowRecords w :=
    (r.metered_chosen (fun _ _ => rfl) fun _ _ _ => rfl).trans
      ((congrArg Metrics.shadowRecords opened).trans rfl)
  have recorded : World.metered Metrics.shadowRecords r.recorded = World.metered Metrics.shadowRecords r.tried :=
    r.metered_recorded (fun _ _ => rfl) fun _ _ => rfl
  have compared := Shadow.shadowRecords_of_run r.trying.shadowing
  have crossed := AltShadow.shadowRecords_of_run r.trying.crossing
  rw [r.metrics_left, Plan.puts_steps r, r.shadows_of_puts, List.foldl_append]
  refine recorded.trans (crossed.trans ?_)
  rw [compared]
  exact congrArg (fun t => List.foldl Tally.bump (List.foldl Tally.bump t _) _) chosen

/-- The baseline is executed once in a run, and the others bear other names. -/
theorem latency_counted (r : Returned p w result w') (named : p.Named) :
    w'.metrics.latencies.count "v1" = w.metrics.latencies.count "v1" + 1 := by
  obtain ⟨engine, configured, opened⟩ := r.metrics_opened
  have unseen : ∀ name, name ≠ "v1" →
      Metrics.Unseen (fun m => m.latencies.count "v1") (Metrics.executed name) := by
    intro name other m
    exact (Tally.count_bump _ name "v1").trans (by rw [if_neg other.symm, Nat.add_zero])
  have candidate : ∀ e, p.engines.candidate = some e → e.name ≠ "v1" := by
    intro e here
    rw [named.candidate e here]
    decide
  have others : ∀ e, p.engines.candidate = some e ∨ p.engines.alternate = some e → e.name ≠ "v1" := by
    rintro e (here | here)
    · exact candidate e here
    · rw [named.alternate e here]
      decide
  rw [r.metrics_left]
  calc World.metered (fun m => m.latencies.count "v1") r.recorded
    _ = World.metered (fun m => m.latencies.count "v1") r.tried := r.metered_recorded (fun _ _ => rfl) fun _ _ => rfl
    _ = World.metered (fun m => m.latencies.count "v1") r.trying.chosen :=
      r.metered_tried (fun e here => unseen e.name (others e here)) fun _ _ _ => rfl
    _ = World.metered (fun m => m.latencies.count "v1") r.opened :=
      r.metered_chosen (fun _ _ => rfl) fun e here => unseen e.name (candidate e here)
    _ = w.metrics.latencies.count "v1" + 1 := by
      rw [World.metered, opened, named.baseline engine configured]
      exact Tally.count_bump _ "v1" "v1"

end Returned

namespace Tells

variable {p : Plan σ} {w w' : World σ} {started : Nat} {results : List RunResult} {puts : List Put}

theorem returned (h : Tells w.metrics started results puts) (named : p.Named) {result : RunResult}
    (ran : p.attempt.outcome w = (.ok result, w')) :
    Tells w'.metrics (started + 1) (results ++ [result]) (puts ++ Moment.puts (p.steps.journal w)) := by
  obtain ⟨r⟩ := Plan.returned_of_eq ran
  obtain ⟨runs, attempts, fallbacks⟩ := r.decision_counted
  constructor
  case runs =>
    rw [runs]
    exact h.runs.snoc result
  case attempts =>
    rw [attempts]
    exact h.attempts.snoc result
  case fallbacks =>
    rw [fallbacks]
    exact h.fallbacks.snoc result
  case trips =>
    rw [r.trip_counted]
    exact h.trips.snoc result
  case shadowRecords =>
    rw [r.shadows_counted, List.filterMap_append]
    exact h.shadowRecords.bumps _
  case latencies => rw [r.latency_counted named, h.latencies]
  case coherent =>
    intro one among
    rcases List.mem_append.mp among with before | last
    · exact h.coherent one before
    · rw [List.mem_singleton.mp last]
      exact r.candidateCoherent

/-- A run whose baseline failed counts as started, and for nothing else. -/
theorem baselineFailed (h : Tells w.metrics started results puts) (named : p.Named) {name message : String}
    (ran : p.attempt.outcome w = (.error (.baselineFailed name message), w')) :
    Tells w'.metrics (started + 1) results (puts ++ Moment.puts (p.steps.journal w)) := by
  obtain ⟨engine, runId, t, configured, numbered, answered⟩ := p.stages_of_baselineFailed ran
  have metrics : w'.metrics = Metrics.executed "v1" w.metrics := by
    have counted := metrics_baselineResult engine (p.ask p.configs.baselineMatcher) t
    rw [answered, named.baseline engine configured] at counted
    have same : World.metered id t = World.metered id w := leaves_metered_nextId.of_eq numbered
    exact counted.trans (congrArg (Metrics.executed "v1") same)
  have empty : Moment.puts (p.steps.journal w) = [] := by
    rw [p.journal_steps, numbered, Routine.onward, Plan.numberedSteps, Routine.journal, configured, answered]
    rfl
  rw [metrics, empty, List.append_nil]
  exact { h with latencies := (Tally.count_bump _ "v1" "v1").trans (congrArg (· + 1) h.latencies) }

end Tells

/-- Every counter is the number of results or records that it is meant to count. -/
structure Counts (m : Metrics) (started : Nat) (results : List RunResult) (puts : List Put) : Prop where
  runs : ∀ mode engine, m.runs.count (mode, engine)
    = results.countP fun r => r.decision.mode = mode ∧ r.primaryEngine = engine
  served : ∀ mode, m.attempts.count (mode, .served)
    = results.countP fun r => r.decision.mode = mode ∧ r.decision.routedToV2
  fallback : ∀ mode, m.attempts.count (mode, .fallback)
    = results.countP fun r => r.decision.mode = mode ∧ r.decision.fallbackToV1 ∧ r.decision.v2.error = none
  error : ∀ mode, m.attempts.count (mode, .error)
    = results.countP fun r => r.decision.mode = mode ∧ r.decision.v2.error.isSome
  selected : ∀ mode, m.attempts.count (mode, .served) + m.attempts.count (mode, .fallback)
    + m.attempts.count (mode, .error) = results.countP fun r => r.decision.mode = mode ∧ r.decision.canarySelected
  fallbacks : ∀ reason, m.fallbacks.count reason
    = results.countP fun r => r.decision.fallbackReasonCode = some reason
  trips : ∀ reason, m.trips.count reason
    = results.countP fun r => r.decision.rollback.triggered ∧ r.decision.rollback.triggerReasonCode = some reason
  shadowRecords : ∀ shadow kind, m.shadowRecords.count (shadow, kind)
    = puts.countP fun put => put.shadow? = some (shadow, kind)
  latencies : m.latencies.count "v1" = started

theorem attempt?_eq_some {d : DecisionRecord} {mode : RolloutMode} {outcome : AttemptOutcome} :
    d.attempt? = some (mode, outcome) ↔ d.canarySelected = true ∧ d.mode = mode ∧ attemptOutcome d = outcome := by
  unfold DecisionRecord.attempt?
  cases d.canarySelected with
  | false => simp
  | true => simp

/-- What is counted of a selected run is what the parts of its record say. -/
theorem attemptOutcome_iff {d : DecisionRecord} (h : d.CandidateCoherent) :
    (d.canarySelected = true ∧ attemptOutcome d = .served ↔ d.routedToV2 = true)
      ∧ (d.canarySelected = true ∧ attemptOutcome d = .fallback ↔ d.fallbackToV1 = true ∧ d.v2.error = none)
      ∧ (d.canarySelected = true ∧ attemptOutcome d = .error ↔ d.v2.error.isSome = true) := by
  have fell : d.v2.error.isSome = true → d.fallbackToV1 = true := by
    intro failed
    refine h.code_iff.mp ?_
    rcases h.error_iff.mp failed with code | code
    · rw [code]
      rfl
    · rw [code]
      rfl
  have fallback := h.fallback_iff
  have routed := h.selected_of_routed
  unfold attemptOutcome
  cases error : d.v2.error with
  | some info =>
      have fallen := fell (by rw [error]; rfl)
      have ⟨selected, unrouted⟩ := fallback.mp fallen
      simp [selected, unrouted]
  | none =>
      cases fallen : d.fallbackToV1 with
      | true =>
          have ⟨selected, unrouted⟩ := fallback.mp fallen
          simp [selected, unrouted]
      | false =>
          rw [fallen] at fallback
          cases served : d.routedToV2 with
          | true => simp [routed served]
          | false =>
              have passed : d.canarySelected = false := by
                by_contra selected
                exact Bool.false_ne_true (fallback.mpr ⟨Bool.not_eq_false _ ▸ selected, served⟩)
              simp [passed]

/-- Three things can become of an attempt. -/
theorem count_outcomes (labels : List (RolloutMode × AttemptOutcome)) (mode : RolloutMode) :
    labels.count (mode, .served) + labels.count (mode, .fallback) + labels.count (mode, .error)
      = labels.countP fun label => label.1 = mode := by
  induction labels with
  | nil => rfl
  | cons label rest ih =>
      obtain ⟨other, outcome⟩ := label
      rw [List.countP_cons, ← ih]
      by_cases same : other = mode
      · cases outcome with
        | served | fallback | error =>
            simp [same]
            omega
      · cases outcome with
        | served | fallback | error => simp [same]

theorem Tells.counts {m : Metrics} {started : Nat} {results : List RunResult} {puts : List Put}
    (h : Tells m started results puts) : Counts m started results puts where
  runs mode engine := h.runs.count_eq fun r _ => by simp
  served mode := h.attempts.count_eq fun r among => by
    rw [attempt?_eq_some, decide_eq_true_iff, ← (attemptOutcome_iff (h.coherent r among)).1]
    tauto
  fallback mode := h.attempts.count_eq fun r among => by
    rw [attempt?_eq_some, decide_eq_true_iff, ← (attemptOutcome_iff (h.coherent r among)).2.1]
    tauto
  error mode := h.attempts.count_eq fun r among => by
    rw [attempt?_eq_some, decide_eq_true_iff, ← (attemptOutcome_iff (h.coherent r among)).2.2]
    tauto
  selected mode := by
    rw [h.attempts, h.attempts, h.attempts, count_outcomes, List.countP_filterMap]
    refine List.countP_congr fun r _ => ?_
    unfold DecisionRecord.attempt?
    cases r.decision.canarySelected with
    | false => simp
    | true => simp
  fallbacks reason := h.fallbacks.count_eq fun r _ => by simp
  trips reason := h.trips.count_eq fun r _ => by
    unfold DecisionRecord.trip?
    cases r.decision.rollback.triggered with
    | false => simp
    | true => simp
  shadowRecords shadow kind := h.shadowRecords.count_eq fun put _ => by simp
  latencies := h.latencies

/-- The run returned, or blamed its baseline. -/
def concluded : Except Fault RunResult → Bool
  | .ok _ | .error (.baselineFailed ..) => true
  | .error _ => false

end Run

open Run

namespace World

/-- How the runs of a history end, one after the other. -/
def endings (w : World σ) : List (Plan σ) → List (Except Fault RunResult)
  | [] => []
  | p :: rest => (p.attempt.outcome w).1 :: endings (p.attempt.outcome w).2 rest

/-- What the runs of a history that returned gave. -/
def results (w : World σ) (plans : List (Plan σ)) : List RunResult := (w.endings plans).filterMap Except.toOption

theorem tells_after {w : World σ} {started : Nat} {results : List RunResult} {puts : List Put}
    (h : Tells w.metrics started results puts) {plans : List (Plan σ)} (named : ∀ p ∈ plans, p.Named)
    (ended : ∀ ending ∈ w.endings plans, concluded ending = true) :
    Tells (w.after (plans.map .run)).metrics (started + plans.length) (results ++ w.results plans)
      (puts ++ Moment.puts (w.story plans)) := by
  induction plans generalizing w started results puts with
  | nil =>
      show Tells w.metrics started (results ++ []) (puts ++ [])
      rw [List.append_nil, List.append_nil]
      exact h
  | cons p rest ih =>
      obtain ⟨first, others⟩ := List.forall_mem_cons.mp named
      obtain ⟨concludes, later⟩ := List.forall_mem_cons.mp ended
      have ways : (w.after ((p :: rest).map .run)) = ((p.attempt.outcome w).2).after (rest.map .run) := rfl
      have puts_cons : Moment.puts (w.story (p :: rest))
          = Moment.puts (p.steps.journal w) ++ Moment.puts ((p.attempt.outcome w).2.story rest) := Moment.puts_append _ _
      have length_cons : started + (p :: rest).length = started + 1 + rest.length := by
        rw [List.length_cons]
        omega
      rw [ways, puts_cons, length_cons, ← List.append_assoc, World.results, endings]
      rcases ran : p.attempt.outcome w with ⟨ending, w'⟩
      rw [ran] at concludes later
      cases ending with
      | ok result =>
          have goes := ih (h.returned first ran) others later
          rwa [List.append_assoc results] at goes
      | error fault =>
          cases fault with
          | baselineFailed name message => exact ih (h.baselineFailed first ran) others later
          | _ => contradiction

/-- From zeroed metrics on the counters agree with the runs, as long as these return or blame their baseline. -/
theorem counters_agree {w : World σ} (zeroed : w.metrics = .zero) (plans : List (Plan σ)) (named : ∀ p ∈ plans, p.Named)
    (ended : ∀ ending ∈ w.endings plans, concluded ending = true) :
    Counts (w.after (plans.map .run)).metrics plans.length (w.results plans) (Moment.puts (w.story plans)) := by
  have start : Tells w.metrics 0 [] [] := by
    rw [zeroed]
    exact tells_zero
  have told := tells_after start named ended
  rw [Nat.zero_add, List.nil_append, List.nil_append] at told
  exact told.counts

/-- A served canary run with its shadow, a run that falls back from it, and one whose baseline is down. -/
theorem counters_agree_beside_failed_engines :
    let w : World Unit := ⟨.inMemory [], .zero, [], ()⟩
    let answering (name : String) : Engine Unit := ⟨name, fun _ s => (.ok (.obj [("matching", .obj [])]), s)⟩
    let failing (name : String) : Engine Unit := ⟨name, fun _ s => (.error ⟨"ConnectError", "engine is down", none⟩, s)⟩
    let plan (baseline candidate : Engine Unit) : Plan Unit := ⟨⟨some baseline, some candidate, some (failing "alt")⟩,
      ⟨2026, 3, 1, 12, 0, 0, 0⟩, ⟨.unknown, none, some "2026-03-01T12:00:00.000Z", [], [], [], 50, none⟩,
      ⟨{ CanaryConfig.default with shadowEnabled := true }, { PrimaryConfig.default with enabled := true },
        { AltShadowConfig.default with enabled := true }, .default, .default⟩, none⟩
    let plans := [plan (answering "v1") (answering "v2"), plan (answering "v1") (failing "v2"),
      plan (failing "v1") (answering "v2")]
    w.metrics = .zero ∧ (∀ p ∈ plans, p.Named) ∧ (∀ ending ∈ w.endings plans, concluded ending = true)
      ∧ (w.results plans).length = 2 ∧ (Moment.puts (w.story plans)).length = 6
      ∧ Counts (w.after (plans.map .run)).metrics plans.length (w.results plans) (Moment.puts (w.story plans)) := by
  intro w answering failing plan plans
  have one : ∀ baseline candidate : Engine Unit, baseline.name = "v1" → candidate.name = "v2" →
      (plan baseline candidate).Named := by
    intro baseline candidate first second
    exact ⟨fun e here => Option.some.inj here ▸ first, fun e here => Option.some.inj here ▸ second,
      fun e here => Option.some.inj here ▸ rfl⟩
  have named : ∀ p ∈ plans, p.Named := by
    simp only [plans, List.forall_mem_cons]
    exact ⟨one _ _ rfl rfl, one _ _ rfl rfl, one _ _ rfl rfl, by simp⟩
  have ended : ∀ ending ∈ w.endings plans, concluded ending = true := List.all_eq_true.mp (by decide +kernel)
  exact ⟨rfl, named, ended, by decide +kernel, by decide +kernel, counters_agree rfl plans named ended⟩

end World

end CanaryGate
