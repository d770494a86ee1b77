import CanaryGate.Proofs.Run.Soundness

/-! # Shadows and the serving path

A run whose baseline can be served alone does not always return once the candidate and the shadows are on:
what they answer is measured without a guard. The run returns, and its sample stands in the window, exactly
when all of these answers can be borne. Between its stages the store stays sound, so that the latch and what
is put together for the decision never stop a run by themselves.
-/

namespace CanaryGate

open Attempt

variable {σ : Type}

theorem DecisionInput.succeeds_figure {metrics : Fields} {name : String} (default : Int)
    (h : ∀ value, Fields.get? metrics name = some value → ∃ n, value = .int n) :
    Succeeds (figure metrics name default) := by
  unfold figure
  cases stated : Fields.get? metrics name with
  | none => exact succeeds_ok default
  | some value =>
      obtain ⟨n, rfl⟩ := h value stated
      exact succeeds_ok n

namespace Run

/-- What a trial gave can be put together for a decision. -/
structure Measured (p : Plan σ) (baseline : Json) (t : Trial) : Prop where
  baseline : Succeeds (candidateCycles baseline)
  served : Succeeds (candidateCycles t.selection.result)
  proposals : Succeeds (servedProposals t.selection.result p.request.maxProposals)
  figures : ∀ diff, t.shadow.diff = some diff → ∃ c : Comparison, diff.metrics = c.metrics "v1" "v2"

namespace Plan

variable {p : Plan σ} {w w' : World σ}

theorem figures_of_shadowing {runId : String} {baseline : Json} {before : RollbackSnapshot} {selection : Selection}
    {o : ShadowOutcome} (ran : (p.shadowing runId baseline before selection).outcome w = (.ok o, w'))
    (diff : DiffRecord) (found : o.diff = some diff) : ∃ c : Comparison, diff.metrics = c.metrics "v1" "v2" := by
  obtain ⟨shown, -, compared, -⟩ := Shadow.shown_of_run ran
  rw [found] at compared
  cases shown with
  | none => cases compared
  | some shown =>
      obtain ⟨made, here, same⟩ := optionMapM_some_eq_ok.mp compared
      cases same
      obtain ⟨c, -, figures, -⟩ := Shadow.compare_eq_ok here
      exact ⟨c, figures⟩

theorem succeeds_sampling {baseline : Json} {t : Trial} (measured : Measured p baseline t) (runId : String) :
    Succeeds (p.sampling runId t) := by
  unfold sampling RunSample.ofRun
  split
  · exact succeeds_ok none
  · cases compared : t.shadow.diff with
    | none => exact succeeds_bind.mpr ⟨0, rfl, succeeds_ok _⟩
    | some diff =>
        obtain ⟨c, figures⟩ := measured.figures diff compared
        dsimp only
        rw [figures, c.get_scoreDelta]
        exact succeeds_bind.mpr ⟨_, Json.toInteger_orElse_int c.scoreDelta, succeeds_ok _⟩

theorem succeeds_record {baseline : Json} {t : Trial} (measured : Measured p baseline t) (runId : String)
    (sample : Option RunSample) (rollback : RollbackUpdate) :
    Succeeds (p.input runId baseline t sample rollback).record := by
  have figure : ∀ name default, (∀ c : Comparison, ∃ n, Fields.get? (c.metrics "v1" "v2") name = some (.int n)) →
      Succeeds (DecisionInput.figure ((t.shadow.diff.map (·.metrics)).getD []) name default) := by
    intro name default stated
    refine DecisionInput.succeeds_figure default fun value found => ?_
    cases compared : t.shadow.diff with
    | none =>
        rw [compared] at found
        simp [Fields.get?] at found
    | some diff =>
        obtain ⟨c, figures⟩ := measured.figures diff compared
        obtain ⟨n, here⟩ := stated c
        rw [compared] at found
        have same : some (Json.int n) = some value := by
          rw [← here, ← figures]
          exact found
        exact ⟨n, (Option.some.inj same).symm⟩
  obtain ⟨cycles, counted⟩ := measured.baseline
  obtain ⟨_, first⟩ := figure "v1_candidate_cycles" cycles fun c => ⟨_, c.get?_baselineCycles⟩
  obtain ⟨_, second⟩ := succeeds_optionMapM.mpr fun (_ : DiffRecord) (_ : t.shadow.diff = some _) =>
    figure "v2_candidate_cycles" 0 fun c => ⟨_, c.get?_candidateCycles⟩
  obtain ⟨_, third⟩ := measured.served
  obtain ⟨_, fourth⟩ := succeeds_optionMapM.mpr fun (_ : DiffRecord) (_ : t.shadow.diff = some _) =>
    figure "delta_score_sum_scaled" 0 fun c => ⟨_, c.get?_delta⟩
  have metrics : Succeeds (p.input runId baseline t sample rollback).metrics :=
    succeeds_bind.mpr ⟨cycles, counted, succeeds_bind.mpr ⟨_, first, succeeds_bind.mpr ⟨_, second,
      succeeds_bind.mpr ⟨_, third, succeeds_bind.mpr ⟨_, fourth, succeeds_ok _⟩⟩⟩⟩⟩
  obtain ⟨_, metrics⟩ := metrics
  exact succeeds_bind.mpr ⟨_, metrics, succeeds_bind.mpr ⟨_, EngineName.check_text t.selection.engine, succeeds_ok _⟩⟩

theorem sound_deciding (sound : w.store.Sound) {baseline : Json} {t : Trial} (measured : Measured p baseline t)
    (runId : String) : ∃ decision w', (p.deciding runId baseline t).outcome w = (.ok decision, w') ∧ w'.store.Sound := by
  obtain ⟨sample, sampled⟩ := succeeds_sampling measured runId
  obtain ⟨rollback, w', latched, left⟩ := p.sound_latching sound runId t.before sample
  obtain ⟨decision, recorded⟩ := succeeds_record measured runId sample rollback
  refine ⟨decision, w', ?_, left⟩
  have lifted : (Attempt.lift (p.sampling runId t) : Attempt (World σ) _).outcome w = (.ok sample, w) :=
    Prod.ext sampled rfl
  unfold deciding
  rw [outcome_bind_of_ok lifted, outcome_bind_of_ok latched]
  exact Prod.ext recorded rfl

theorem finishes_recording (orderly : w.store.Orderly 0) {runId : String} {before : RollbackSnapshot}
    {decision : DecisionRecord} : Finishes (p.recording runId before decision) w ↔
      ((p.routing before).trackingEnabled = true →
        (w.store.keeping decisionSpace runId (.obj decision.toFields) p.configs.canary.maxDecisions).Committable) := by
  unfold recording
  split
  · rename_i tracked
    rw [← Store.finishes_putAndPrune orderly]
    simp only [tracked, true_imp_iff]
    exact finishes_bind_of_total fun _ t => finishes_pure _ t
  · rename_i untracked
    simp [untracked, finishes_pure]

/-- Where the answers were borne, a decision is always made, and only keeping it may fail. -/
theorem finishes_closing (sound : w.store.Sound) {baseline : Json} {t : Trial} (measured : Measured p baseline t)
    {runId : String} : Finishes (p.closing runId baseline t) w ↔ p.BearsRecord runId baseline t w := by
  obtain ⟨decision, w', decided, left⟩ := sound_deciding sound measured runId
  unfold BearsRecord
  rw [closing_eq, finishes_bind_of_ok decided, then_of_eq decided, ← finishes_recording left.orderly]
  refine finishes_bind_of_total fun _ t' => ?_
  rw [finishes_bind_of_ok (rfl : (World.observe (count decision) : Attempt (World σ) Unit).outcome t' = (.ok (), _)),
    finishes_lift_bind]
  exact ⟨measured.proposals, fun _ _ => finishes_pure _ _⟩

theorem finishes_selecting {baseline : Json} {before : RollbackSnapshot} :
    Finishes (p.selecting baseline before) w ↔ Succeeds p.located ∧ ((p.routing before).canarySelected = true →
      Engine.Heard p.engines.candidate (p.ask p.configs.candidateMatcher)
        (Selection.forcedFailure p.configs.canary p.configs.primary) w) := by
  rw [← Selection.finishes_select, selecting, finishes_lift_bind]
  exact and_congr_right fun ⟨bucket, located⟩ => ⟨fun all => all bucket located, fun finishes _ _ => finishes⟩

theorem finishes_iff_bearable (orderly : w.store.Orderly 0) (readable : w.Readable) {o : String × Json}
    {opened : World σ} (opening : p.opening.outcome w = (.ok o, opened)) (cycles : Succeeds (candidateCycles o.2))
    (proposals : Succeeds (servedProposals o.2 p.request.maxProposals)) :
    Finishes p.attempt w ↔ p.Bearable w := by
  have sound := sound_of_opening orderly readable opening
  obtain ⟨settled, reset, sound⟩ := p.sound_resetting sound
  obtain ⟨state, held⟩ := sound.readable
  have seen : (p.resetting >>= fun _ => Rollback.snapshot).outcome opened = (.ok state.snapshot, settled) := by
    rw [outcome_bind_of_ok reset, Rollback.outcome_snapshot]
    exact congrArg (fun found => (found.map RollbackState.snapshot, settled)) held
  -- the cut into stages is undone, so that every step meets the world that the one before left
  have flat : (p.trying o.1 o.2 >>= fun t => p.closing o.1 o.2 t) =
      (p.resetting >>= fun _ => Rollback.snapshot) >>= fun before => p.selecting o.2 before >>= fun selection =>
        p.shadowing o.1 o.2 before selection >>= fun shadow => p.crossing o.1 selection >>= fun _ =>
          p.closing o.1 o.2 ⟨before, selection, shadow⟩ := by
    unfold trying
    simp only [bind_assoc, pure_bind]
  unfold Bearable
  rw [then_of_eq opening, then_of_eq seen, attempt_eq, finishes_bind_of_ok opening, flat, finishes_bind_of_ok seen,
    finishes_bind_then]
  refine and_congr finishes_selecting (then_congr fun selection chosen selecting => ?_)
  have course := course_of_selecting selecting
  rw [← (p.leaves_selecting _ _).of_eq selecting] at sound
  rw [finishes_bind_then, finishes_shadowing course.matching sound.orderly]
  refine and_congr_right fun bears => then_congr fun shadow shadowed shadowing => ?_
  have sound := sound_of_shadowing sound shadowing
  rw [finishes_bind_then, finishes_crossing sound.orderly]
  refine and_congr_right fun _ => then_congr fun _ crossed crossing => ?_
  refine finishes_closing (sound_of_crossing sound crossing) ?_
  have figures := figures_of_shadowing shadowing
  rcases course.result_cases with baseline | candidate
  · exact ⟨cycles, by rw [baseline]; exact cycles, by rw [baseline]; exact proposals, figures⟩
  · obtain ⟨selected, first, measures⟩ := (bears.served _ candidate).2
    have proposed : Succeeds (servedProposals selection.result p.request.maxProposals) := by
      rw [servedProposals_of_matching (course.matching _ candidate)]
      exact ⟨selected, first⟩
    exact ⟨cycles, measures.cycles, proposed, figures⟩

/-- The run with the candidate, its shadow and the alternate turned off. -/
def plain (p : Plan σ) : Plan σ :=
  { p with configs := { p.configs with
      canary := { p.configs.canary with enabled := false, shadowEnabled := false }
      primary := { p.configs.primary with enabled := false }
      altShadow := { p.configs.altShadow with enabled := false } } }

theorem opening_of_plain (h : Finishes p.plain.attempt w) : ∃ o opened, p.opening.outcome w = (.ok o, opened)
    ∧ Succeeds (candidateCycles o.2) ∧ Succeeds (servedProposals o.2 p.request.maxProposals) := by
  obtain ⟨result, w', ran⟩ := h.eq
  obtain ⟨r⟩ := Plan.returned_of_eq ran
  obtain ⟨metrics, -, made, -, -⟩ := DecisionInput.record_eq_ok r.deciding
  obtain ⟨cycles, counted, -⟩ := except_bind_eq_ok.mp made
  have chosen : r.trial.selection = .baseline r.baseline :=
    (Except.ok.inj (congrArg Prod.fst r.trying.selecting)).symm
  have proposing := r.proposing
  rw [chosen] at proposing
  exact ⟨(r.runId, r.baseline), r.opened, r.opening, ⟨cycles, counted⟩, _, proposing⟩

end Plan

/-- The run was selected while the latch was open, and its sample went into the window that it found, or into an
empty one if it reset the latch. -/
structure Sampled (p : Plan σ) (w : World σ) (result : RunResult) (w' : World σ) : Prop where
  appended : ∃ found left sample, World.Holds found w ∧ World.Holds left w'
    ∧ (p.resets = true ∨ found.active = false) ∧ result.decision.sample = some sample ∧ sample.runId = result.runId
    ∧ left.recentSamples = Rollback.windowAfter (if p.resets then [] else found.recentSamples)
      p.configs.canary.windowRuns (some sample)
    ∧ (1 ≤ p.configs.canary.windowRuns → left.recentSamples.getLast? = some sample)

/-- The run returns, and a selected one was sampled. -/
structure Plan.Serves (p : Plan σ) (w : World σ) : Prop where
  returns : Finishes p.attempt w
  sampled : p.attempt.Then w fun result w' => result.decision.canarySelected = true → Sampled p w result w'

/-- Only an open latch lets a run through to the candidate, and then the run is tracked. -/
theorem tracked_of_selected {p : Plan σ} {before : RollbackSnapshot}
    (selected : (p.routing before).canarySelected = true) :
    before.active = false ∧ (p.routing before).trackingEnabled = true := by
  constructor
  · cases active : before.active with
    | false => rfl
    | true =>
        have kept : (p.routing before).canarySelected = false :=
          RoutingDecision.canarySelected_of_active active _ _ _
        rw [selected] at kept
        contradiction
  · unfold Plan.routing RoutingDecision.placed at selected ⊢
    split at selected
    · contradiction
    · rename_i tracked
      rw [if_neg tracked]
      split
      · rfl
      · split
        · rfl
        · rfl

theorem holds_settled {p : Plan σ} {runId : String} {baseline : Json} {w w' : World σ} {t : Trial}
    (tried : Tried p runId baseline w t w') {state : RollbackState} (held : World.Holds state w) :
    World.Holds (if p.resets then .clear else state) tried.settled := by
  have resetting := tried.resetting
  unfold Plan.resetting at resetting
  split at resetting
  · rename_i asked
    rw [if_pos asked]
    obtain ⟨_, t', reset, returned⟩ := bind_eq_ok.mp resetting
    cases returned
    have after := Rollback.Call.latch_leave held .reset
    rw [Rollback.Call.leave, reset] at after
    exact after
  · rename_i unasked
    have same : tried.settled = w := (congrArg Prod.snd resetting).symm
    rw [if_neg unasked, same]
    exact held

/-- A run is routed by the state that it finds, or by the open latch if it resets, and its update finds the same. -/
theorem holds_found {p : Plan σ} {w w' : World σ} {result : RunResult} (r : Returned p w result w')
    {found : RollbackState} (held : World.Holds found w) :
    r.trial.before = (if p.resets then RollbackState.clear else found).snapshot
      ∧ World.Holds (if p.resets then .clear else found) r.tried := by
  have before : World.Holds found r.opened :=
    Keeps.of_eq (Stable.opening (P := fun shown => shown = .ok found)) r.opening held
  have settled := holds_settled r.trying before
  have seen := r.trying.before
  rw [settled] at seen
  exact ⟨(Except.ok.inj seen).symm, holds_tried r.trying settled⟩

theorem sampled_of_returned {p : Plan σ} {w w' : World σ} {result : RunResult} (r : Returned p w result w')
    {found : RollbackState} (held : World.Holds found w) (selected : result.decision.canarySelected = true) :
    Sampled p w result w' := by
  obtain ⟨metrics, engine, -, -, decided⟩ := DecisionInput.record_eq_ok r.deciding
  have routed : (p.routing r.trial.before).canarySelected = true := by
    rw [decided] at selected
    exact selected
  have ⟨opened, tracked⟩ := tracked_of_selected routed
  obtain ⟨seen, tried⟩ := holds_found r held
  have clear : (if p.resets then RollbackState.clear else found).active = false := by
    rw [seen] at opened
    exact opened
  -- the sample that it is given
  obtain ⟨sample, given, named⟩ : ∃ sample, r.sample = some sample ∧ sample.runId = r.runId := by
    have sampling := r.sampling
    unfold Plan.sampling RunSample.ofRun at sampling
    rw [routed] at sampling
    obtain ⟨delta, -, made⟩ := except_bind_eq_ok.mp sampling
    exact ⟨_, (Except.ok.inj made).symm, rfl⟩
  have latching := r.latching
  unfold Plan.latching at latching
  rw [if_pos tracked, given] at latching
  have after := Rollback.holds_update tried p.configs.canary r.runId p.recordedAt (some sample)
  rw [latching] at after
  have recorded : r.recorded.latch = r.latched.latch :=
    (World.latch_of_leaves (p.leaves_recording (by decide) _ _ _)).of_eq r.recording
  have left : w'.latch = r.latched.latch := (congrArg World.latch r.left).trans recorded
  have window : (Rollback.step (if p.resets then .clear else found) p.configs.canary r.runId p.recordedAt
      (some sample)).1.recentSamples = Rollback.windowAfter (if p.resets then [] else found.recentSamples)
        p.configs.canary.windowRuns (some sample) := by
    rw [Rollback.recentSamples_step clear]
    cases p.resets with
    | true => rfl
    | false => rfl
  refine ⟨found, _, sample, held, left.trans after, ?_, ?_, named.trans r.runId_eq.symm, window, fun room => ?_⟩
  · cases asked : p.resets with
    | true => exact .inl rfl
    | false =>
        rw [asked] at clear
        exact .inr clear
  · rw [decided]
    exact given
  · rw [window]
    exact Rollback.getLast?_windowAfter _ room sample

end Run

open Run

namespace World

/-- In every store that histories reach from an empty one, a run whose plain form returns does so with its candidate
and its shadows as well, and is sampled if it is selected, exactly when it can bear what they answer. -/
theorem serves_iff_bearable {w : World σ} (empty : w.store.namespaces = []) (outermost : w.store.depth = 0)
    (events : List (Event σ)) (p : Plan σ) (plain : Finishes p.plain.attempt (w.after events)) :
    p.Serves (w.after events) ↔ p.Bearable (w.after events) := by
  have orderly : w.store.Orderly 0 := ⟨outermost, by rw [empty]; exact Namespaces.regular_nil⟩
  have orderly := orderly_after orderly events
  obtain ⟨found, held⟩ := readable_after empty events
  obtain ⟨o, opened, opening, cycles, proposals⟩ := Plan.opening_of_plain plain
  rw [← Plan.finishes_iff_bearable orderly ⟨found, held⟩ opening cycles proposals]
  refine ⟨fun serves => serves.returns, fun returns => ⟨returns, fun result w' ran selected => ?_⟩⟩
  obtain ⟨r⟩ := Plan.returned_of_eq ran
  exact sampled_of_returned r held selected

/-- A candidate and an alternate that are down are borne, beside a history of plain runs. -/
theorem serves_beside_failed_engines :
    let w : World Unit := ⟨.inMemory [], .zero, [], ()⟩
    let result : Json := .obj [("matching", .obj [])]
    let failing (name : String) : Engine Unit := ⟨name, fun _ s => (.error ⟨"ConnectError", "engine is down", none⟩, s)⟩
    let p : Plan Unit := ⟨⟨some ⟨"v1", fun _ s => (.ok result, s)⟩, some (failing "v2"), some (failing "alt")⟩,
      ⟨2026, 3, 1, 13, 0, 0, 0⟩, ⟨.unknown, none, some "2026-03-01T13:00:00.000Z", [], [], [], 50, none⟩,
      ⟨{ CanaryConfig.default with shadowEnabled := true }, { PrimaryConfig.default with enabled := true },
        { AltShadowConfig.default with enabled := true }, .default, .default⟩, none⟩
    let past : List (Event Unit) := [.run p.plain]
    w.store.namespaces = [] ∧ w.store.depth = 0 ∧ Finishes p.plain.attempt (w.after past)
      ∧ p.Serves (w.after past) ∧ p.Bearable (w.after past) := by
  intro w result failing p past
  have plain : Finishes p.plain.attempt (w.after past) := finishes_iff_isOk.mpr (by decide +kernel)
  have returns : Finishes p.attempt (w.after past) := finishes_iff_isOk.mpr (by decide +kernel)
  have serves : p.Serves (w.after past) := by
    refine ⟨returns, fun result w' ran selected => ?_⟩
    obtain ⟨r⟩ := Plan.returned_of_eq ran
    obtain ⟨found, held⟩ := readable_after (w := w) rfl past
    exact sampled_of_returned r held selected
  exact ⟨rfl, rfl, plain, serves, (serves_iff_bearable (w := w) rfl rfl past p plain).mp serves⟩

/-- An alternate whose proposals are no list stops a run that returns without it. -/
theorem not_serves_of_unlisted_proposals :
    let w : World Unit := ⟨.inMemory [], .zero, [], ()⟩
    let baseline : Json := .obj [("matching", .obj [])]
    let unlisted : Json := .obj [("matching", .obj [("proposals", .int 5)])]
    let p : Plan Unit := ⟨⟨some ⟨"v1", fun _ s => (.ok baseline, s)⟩, none, some ⟨"alt", fun _ s => (.ok unlisted, s)⟩⟩,
      ⟨2026, 3, 1, 12, 0, 0, 0⟩, ⟨.unknown, none, some "2026-03-01T12:00:00.000Z", [], [], [], 50, none⟩,
      ⟨.default, .default, { AltShadowConfig.default with enabled := true }, .default, .default⟩, none⟩
    w.store.namespaces = [] ∧ w.store.depth = 0 ∧ Finishes p.plain.attempt w ∧ ¬ p.Serves w := by
  intro w baseline unlisted p
  have plain : Finishes p.plain.attempt w := finishes_iff_isOk.mpr (by decide +kernel)
  have stopped : (p.attempt.outcome w).1.isOk = false := by decide +kernel
  refine ⟨rfl, rfl, plain, fun serves => ?_⟩
  rw [finishes_iff_isOk.mp serves.returns] at stopped
  contradiction

end World

end CanaryGate
