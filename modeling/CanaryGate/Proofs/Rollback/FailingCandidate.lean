import CanaryGate.Proofs.Config.Limits
import CanaryGate.Proofs.Rollback.Provenance
import CanaryGate.Proofs.Rollback.WindowContent

/-! # A candidate that keeps failing

Once a candidate has failed as often as the window has room, the window is full of failures and its error rate is
one. A judgement takes a number of samples, though, and the window never grows beyond its room: with room for
fewer samples the latch stays open however often the candidate fails, with room for them it closes.
-/

namespace CanaryGate

namespace WindowSummary

/-- A window of nothing but errors is judged by its errors, if there are samples enough to judge. -/
theorem reasonFor_of_errors {window : List SampleFlags} {t : Thresholds} (failing : ∀ flags ∈ window, flags.error = true)
    (present : window.length ≠ 0) (enough : t.minSamples.le (.whole window.length) = true)
    (intolerant : t.maxErrorRate.lt (.real (Binary64.ofNat 1)) = true) :
    reasonFor window.length (countIn window) t = some .error := by
  have counted : countIn window .error = window.length := List.countP_eq_length.mpr failing
  have above : (t.limit .error).lt (.real (rateOf (countIn window .error) window.length)) = true := by
    rw [counted, rateOf_self present]
    exact intolerant
  rw [reasonFor, if_pos ⟨present, enough⟩]
  exact List.find?_cons_of_pos above

/-- Too few samples are not judged. -/
theorem reasonFor_of_few {samples : Nat} {count : Signal → Nat} {t : Thresholds}
    (few : t.minSamples.le (.whole samples) = false) : reasonFor samples count t = none := by
  rw [reasonFor, if_neg]
  rintro ⟨-, enough⟩
  rw [few] at enough
  contradiction

end WindowSummary

namespace Rollback

theorem reasonOf_of_failing {window : List RunSample} {config : CanaryConfig}
    (failing : ∀ sample ∈ window, sample.error = true) (present : window.length ≠ 0)
    (enough : config.minSamples ≤ window.length) (intolerant : config.maxErrorRate.lt (Binary64.ofNat 1) = true) :
    reasonOf window config = some Signal.error.reasonCode := by
  have reason : (WindowSummary.ofWindow (window.map RunSample.flags) config.thresholds).reason = some .error := by
    refine WindowSummary.reasonFor_of_errors ?_ (by simpa using present) ?_ intolerant
    · intro flags member
      obtain ⟨sample, inside, rfl⟩ := List.mem_map.mp member
      exact failing sample inside
    · show (Figure.whole config.minSamples).le (.whole _) = true
      rw [Figure.whole_le, List.length_map]
      exact decide_eq_true enough
  exact congrArg (·.map Signal.reasonCode) reason

theorem reasonOf_of_few {window : List RunSample} {config : CanaryConfig} (few : window.length < config.minSamples) :
    reasonOf window config = none := by
  have reason : (WindowSummary.ofWindow (window.map RunSample.flags) config.thresholds).reason = none := by
    refine WindowSummary.reasonFor_of_few ?_
    show (Figure.whole config.minSamples).le (.whole _) = false
    rw [Figure.whole_le, List.length_map]
    exact decide_eq_false (by omega)
  exact congrArg (·.map Signal.reasonCode) reason

/-- The call tells of a failed run under the configuration. -/
def Call.TellsFailure (config : CanaryConfig) (call : Call) : Prop :=
  ∃ runId recordedAt sample, call = .update config runId recordedAt (some sample) ∧ sample.error = true

variable {config : CanaryConfig} {calls failures : List Call}

theorem tells_init {last : Call} (tells : ∀ call ∈ failures ++ [last], call.TellsFailure config) :
    (∀ call ∈ failures, call.TellsFailure config) ∧ last.TellsFailure config :=
  ⟨fun call member => tells call (List.mem_append_left _ member),
    tells last (List.mem_append_right _ (List.mem_singleton_self last))⟩

/-- What was given before stands before the samples of the failures. -/
theorem samplesGiven_failures (calls : List Call) (tells : ∀ call ∈ failures, call.TellsFailure config) :
    ∃ failed : List RunSample, samplesGiven (calls ++ failures) = samplesGiven calls ++ failed
      ∧ failed.length = failures.length ∧ ∀ sample ∈ failed, sample.error = true := by
  induction failures using List.reverseRecOn with
  | nil => exact ⟨[], by simp, rfl, by simp⟩
  | append_singleton failures last ih =>
      obtain ⟨before, runId, recordedAt, sample, rfl, error⟩ := tells_init tells
      obtain ⟨failed, given, counted, failing⟩ := ih before
      refine ⟨failed ++ [sample], ?_, by simp [counted], ?_⟩
      · rw [← List.append_assoc, samplesGiven_update, given, List.append_assoc]
        rfl
      · intro other member
        rcases List.mem_append.mp member with inside | last
        · exact failing other inside
        · rw [List.mem_singleton.mp last]
          exact error

/-- As long as the latch is open, failures fill the window up to its room, and not beyond. -/
theorem length_recentSamples_failures (room : 1 ≤ config.windowRuns)
    (tells : ∀ call ∈ failures, call.TellsFailure config) (opened : (stateAfter (calls ++ failures)).active = false) :
    min failures.length config.windowRuns.toNat ≤ (stateAfter (calls ++ failures)).recentSamples.length
      ∧ (failures ≠ [] → (stateAfter (calls ++ failures)).recentSamples.length ≤ config.windowRuns.toNat) := by
  induction failures using List.reverseRecOn with
  | nil => simp
  | append_singleton failures last ih =>
      obtain ⟨before, runId, recordedAt, sample, rfl, -⟩ := tells_init tells
      rw [← List.append_assoc, stateAfter_snoc] at opened ⊢
      obtain ⟨still, moved⟩ := Call.open_of_open_next opened
      have grown := length_windowAfter (stateAfter (calls ++ failures)).recentSamples config.windowRuns (some sample)
        (by omega)
      have ⟨filled, _⟩ := ih before still
      rw [moved, grown]
      simp only [Option.toList_some, List.length_append, List.length_singleton]
      omega

/-- Where the window has no room for a judgement the latch is not closed. -/
theorem open_of_failures (room : 1 ≤ config.windowRuns) (narrow : config.windowRuns < config.minSamples)
    (tells : ∀ call ∈ failures, call.TellsFailure config) (opened : (stateAfter calls).active = false) :
    (stateAfter (calls ++ failures)).active = false := by
  induction failures using List.reverseRecOn with
  | nil =>
      rw [List.append_nil]
      exact opened
  | append_singleton failures last ih =>
      obtain ⟨before, runId, recordedAt, sample, rfl, -⟩ := tells_init tells
      have still := ih before
      rw [← List.append_assoc, stateAfter_snoc]
      have few : (judged (stateAfter (calls ++ failures)) config (some sample)).length < config.minSamples := by
        have grown := length_windowAfter (stateAfter (calls ++ failures)).recentSamples config.windowRuns (some sample)
          (by omega)
        rw [judged, still, if_neg Bool.false_ne_true, grown]
        omega
      rcases step_cases (stateAfter (calls ++ failures)) config runId recordedAt (some sample) with
        ⟨active, -, -⟩ | ⟨reason, -, found, -, -⟩ | ⟨-, -, kept, -⟩
      · rw [still] at active
        contradiction
      · rw [reasonOf_of_few few] at found
        contradiction
      · show (step (stateAfter (calls ++ failures)) config runId recordedAt (some sample)).1.active = false
        rw [kept]
        exact still

/-- Where the window has room for a judgement enough failures close the latch. -/
theorem active_of_failures (room : 1 ≤ config.windowRuns) (wide : config.minSamples ≤ config.windowRuns)
    (intolerant : config.maxErrorRate.lt (Binary64.ofNat 1) = true)
    (tells : ∀ call ∈ failures, call.TellsFailure config) (enough : config.windowRuns ≤ failures.length) :
    (stateAfter (calls ++ failures)).active = true := by
  rw [← Bool.not_eq_false]
  intro opened
  have present : failures ≠ [] := by
    rintro rfl
    simp at enough
    omega
  have ⟨filled, bounded⟩ := length_recentSamples_failures room tells opened
  have bounded := bounded present
  obtain ⟨failed, given, counted, failing⟩ := samplesGiven_failures calls tells
  -- the window is no longer than the list of failures, and both end what was given
  have inside : (stateAfter (calls ++ failures)).recentSamples <:+ failed := by
    have ends := recentSamples_suffix (calls ++ failures) opened
    rw [given] at ends
    exact List.suffix_of_suffix_length_le ends (List.suffix_append _ _) (by omega)
  have found : reasonOf (stateAfter (calls ++ failures)).recentSamples config = some Signal.error.reasonCode :=
    reasonOf_of_failing (fun sample member => failing sample (inside.subset member)) (by omega) (by omega) intolerant
  have unfound : reasonOf (stateAfter (calls ++ failures)).recentSamples config = none := by
    cases failures using List.reverseRecOn with
    | nil => contradiction
    | append_singleton failures last =>
        obtain ⟨-, runId, recordedAt, sample, rfl, -⟩ := tells_init tells
        rw [← List.append_assoc, stateAfter_snoc] at opened ⊢
        exact reasonOf_of_open opened
  rw [found] at unfound
  contradiction

end Rollback

namespace World

open Rollback

variable {σ : Type}

/-- A candidate that fails without end closes an open latch exactly if the window has room for as many samples as a
judgement takes; then it takes no more failures than the larger of the two. -/
theorem failures_close_latch_iff {w : World σ} (empty : w.store.namespaces = []) (calls : List Call)
    {config : CanaryConfig} (valid : config.Valid) (intolerant : config.maxErrorRate.lt (Binary64.ofNat 1) = true)
    {failures : List Call} (tells : ∀ call ∈ failures, call.TellsFailure config)
    (enough : max config.windowRuns config.minSamples ≤ failures.length) :
    ∃ before after, (w.afterCalls calls).latch = .ok before ∧ (w.afterCalls (calls ++ failures)).latch = .ok after
      ∧ (before.active = false → (after.active = true ↔ config.minSamples ≤ config.windowRuns)) := by
  refine ⟨_, _, latch_afterCalls empty calls, latch_afterCalls empty (calls ++ failures), fun opened => ?_⟩
  constructor
  · intro active
    by_contra narrow
    rw [open_of_failures valid.window_pos (by omega) tells opened] at active
    contradiction
  · intro wide
    exact active_of_failures valid.window_pos wide intolerant tells (by omega)

/-- Where half the runs may fail, and a good run stands in a window of two, it takes two failures. -/
theorem failures_close_latch_after_good_run :
    let w : World Unit := ⟨.inMemory [], .zero, [], ()⟩
    let half := Binary64.ofRatio false 1 2
    let config := { CanaryConfig.default with windowRuns := 2, minSamples := 2, maxErrorRate := half }
    let tell := fun (runId : String) (error : Bool) => Call.update config runId "2026-03-01T12:00:00.000Z"
      (some ⟨runId, "2026-03-01T12:00:00.000Z", error, false, false, !error⟩)
    let failures := [tell "mrun_000002" true, tell "mrun_000003" true]
    w.store.namespaces = [] ∧ config.Valid ∧ config.maxErrorRate.lt (Binary64.ofNat 1) = true
      ∧ (∀ call ∈ failures, call.TellsFailure config) ∧ max config.windowRuns config.minSamples ≤ failures.length
      ∧ (w.afterCalls [tell "mrun_000001" false]).latch.map (·.active) = .ok false
      ∧ (w.afterCalls ([tell "mrun_000001" false] ++ failures)).latch.map (·.active) = .ok true := by
  intro w half config tell failures
  have accepted : CanaryConfig.read (.obj [("rollback_window_runs", .int 2), ("rollback_min_samples", .int 2),
      ("rollback_max_error_rate", .float half)]) = .accepted config := rfl
  have valid := CanaryConfig.valid_of_read accepted
  have intolerant : config.maxErrorRate.lt (Binary64.ofNat 1) = true := by decide +kernel
  have tells : ∀ call ∈ failures, call.TellsFailure config :=
    List.forall_mem_cons.mpr ⟨⟨_, _, _, rfl, rfl⟩, List.forall_mem_singleton.mpr ⟨_, _, _, rfl, rfl⟩⟩
  have enough : max config.windowRuns config.minSamples ≤ failures.length := by decide
  obtain ⟨before, after, held, left, closes⟩ := failures_close_latch_iff (w := w) rfl [tell "mrun_000001" false] valid
    intolerant tells enough
  have opened : (w.afterCalls [tell "mrun_000001" false]).latch.map (·.active) = .ok false := by decide +kernel
  refine ⟨rfl, valid, intolerant, tells, enough, opened, ?_⟩
  rw [held] at opened
  rw [left]
  exact congrArg Except.ok ((closes (Except.ok.inj opened)).mpr (by decide))

/-- A window of one never holds the two samples that a judgement takes, and two failures leave the latch open. -/
theorem failures_leave_narrow_latch_open :
    let w : World Unit := ⟨.inMemory [], .zero, [], ()⟩
    let config := { CanaryConfig.default with windowRuns := 1, minSamples := 2 }
    let tell := fun runId recordedAt : String =>
      Call.update config runId recordedAt (some ⟨runId, recordedAt, true, false, false, false⟩)
    let failures := [tell "run_1" "2026-03-01T12:00:00.000Z", tell "run_2" "2026-03-01T12:00:01.000Z"]
    CanaryConfig.read (.obj [("rollback_window_runs", .int 1), ("rollback_min_samples", .int 2)]) = .accepted config
      ∧ config.maxErrorRate.lt (Binary64.ofNat 1) = true
      ∧ w.store.namespaces = [] ∧ w.latch.map (·.active) = .ok false
      ∧ (∀ call ∈ failures, call.TellsFailure config) ∧ failures.length = max config.windowRuns config.minSamples
      ∧ (w.afterCalls failures).latch.map (·.active) = .ok false := by
  intro w config tell failures
  have tells : ∀ call ∈ failures, call.TellsFailure config :=
    List.forall_mem_cons.mpr ⟨⟨_, _, _, rfl, rfl⟩, List.forall_mem_singleton.mpr ⟨_, _, _, rfl, rfl⟩⟩
  exact ⟨rfl, by decide +kernel, rfl, rfl, tells, by decide, by decide +kernel⟩

end World

end CanaryGate
