import CanaryGate.Proofs.Rollback.History
import Mathlib.Data.List.DropRight

/-! # What the window holds

An update that finds the latch open takes in its sample, if it has one, and keeps the newest samples that it
has room for. The room may change from call to call. As long as the latch is open the window is an end of the
list of all samples given since the last reset; under one size all along it is as long an end as the size
allows. Both inductions are on the last call: only an update that found the latch open leaves it open.
-/

namespace CanaryGate.Rollback

variable {σ : Type}

/-- Keeping an end of a list, and then an end of what was added to it, loses nothing of the end of the whole. -/
theorem rtake_rtake_append {α : Type} (n : Nat) (xs ys : List α) :
    (xs.rtake n ++ ys).rtake n = (xs ++ ys).rtake n := by
  have kept : xs.rtake n ++ ys = (xs ++ ys).drop (xs.length - n) :=
    (List.drop_append_of_le_length (Nat.sub_le _ _)).symm
  rw [kept]
  unfold List.rtake
  rw [List.drop_drop]
  congr 1
  simp only [List.length_drop, List.length_append]
  omega

/-- The window after a run is the newest end of what it held and was given. -/
theorem windowAfter_eq_rtake (window : List RunSample) (size : Int) (sample : Option RunSample) :
    windowAfter window size sample = (window ++ sample.toList).rtake size.toNat := by
  show (window ++ sample.toList).drop (((window ++ sample.toList).length : Int) - size).toNat
    = (window ++ sample.toList).drop ((window ++ sample.toList).length - size.toNat)
  by_cases room : 0 ≤ size
  · congr 1
    omega
  · rw [List.drop_eq_nil_of_le (by omega), List.drop_eq_nil_of_le (by omega)]

namespace Call

/-- The sample that a call gives to the window. -/
def sample? : Call → Option RunSample
  | update _ _ _ sample => sample
  | reset => none

def isReset : Call → Bool
  | update .. => false
  | reset => true

/-- The call, if it is an update, has room for so many samples. -/
def HasRoom (size : Int) : Call → Prop
  | update config _ _ _ => config.windowRuns = size
  | reset => True

/-- An update that leaves the latch open found it open, and moved the window on. -/
theorem open_of_open_next {state : RollbackState} {config : CanaryConfig} {runId recordedAt : String}
    {sample : Option RunSample} (opened : ((update config runId recordedAt sample).next state).active = false) :
    state.active = false ∧ ((update config runId recordedAt sample).next state).recentSamples
      = windowAfter state.recentSamples config.windowRuns sample := by
  have before : state.active = false := by
    cases active : state.active with
    | false => rfl
    | true =>
        rw [next_of_active active (by simp), active] at opened
        contradiction
  exact ⟨before, recentSamples_step before config runId recordedAt sample⟩

end Call

/-- The calls since the last reset. -/
def sinceReset (calls : List Call) : List Call := calls.rtakeWhile fun call => !call.isReset

/-- All samples given since the last reset, in order. -/
def samplesGiven (calls : List Call) : List RunSample := (sinceReset calls).filterMap Call.sample?

theorem sinceReset_update (calls : List Call) (config : CanaryConfig) (runId recordedAt : String)
    (sample : Option RunSample) : sinceReset (calls ++ [.update config runId recordedAt sample])
      = sinceReset calls ++ [.update config runId recordedAt sample] :=
  List.rtakeWhile_concat_pos _ _ _ rfl

theorem samplesGiven_update (calls : List Call) (config : CanaryConfig) (runId recordedAt : String)
    (sample : Option RunSample) :
    samplesGiven (calls ++ [.update config runId recordedAt sample]) = samplesGiven calls ++ sample.toList := by
  rw [samplesGiven, sinceReset_update, List.filterMap_append]
  cases sample with
  | none => rfl
  | some sample => rfl

theorem recentSamples_suffix (calls : List Call) (opened : (stateAfter calls).active = false) :
    (stateAfter calls).recentSamples <:+ samplesGiven calls := by
  induction calls using List.reverseRecOn with
  | nil => exact List.suffix_rfl
  | append_singleton calls call ih =>
      rw [stateAfter_snoc] at opened ⊢
      cases call with
      | reset => exact List.nil_suffix
      | update config runId recordedAt sample =>
          obtain ⟨before, moved⟩ := Call.open_of_open_next opened
          obtain ⟨older, split⟩ := ih before
          rw [moved, samplesGiven_update, ← split, List.append_assoc]
          exact (windowAfter_suffix _ _ _).trans (List.suffix_append _ _)

theorem recentSamples_eq_rtake {size : Int} (calls : List Call) (opened : (stateAfter calls).active = false)
    (fixed : ∀ call ∈ sinceReset calls, call.HasRoom size) :
    (stateAfter calls).recentSamples = (samplesGiven calls).rtake size.toNat := by
  induction calls using List.reverseRecOn with
  | nil => exact (List.rtake_nil _).symm
  | append_singleton calls call ih =>
      rw [stateAfter_snoc] at opened ⊢
      cases call with
      | reset => simp [samplesGiven, sinceReset, Call.isReset, Call.next, RollbackState.clear]
      | update config runId recordedAt sample =>
          rw [sinceReset_update] at fixed
          have room : config.windowRuns = size := fixed _ (List.mem_append_right _ (List.mem_singleton_self _))
          obtain ⟨before, moved⟩ := Call.open_of_open_next opened
          have window := ih before fun call member => fixed call (List.mem_append_left _ member)
          rw [moved, room, samplesGiven_update, windowAfter_eq_rtake, window, rtake_rtake_append]

end CanaryGate.Rollback

namespace CanaryGate.World

open Rollback

variable {σ : Type}

/-- In a store that started empty every update that finds the latch open makes the window longer by its sample, up to
its own room. An open latch holds an end of all samples given since the last reset, and under one size all along as
many of the newest as there is room for. -/
theorem window_holds_newest {w : World σ} (empty : w.store.namespaces = []) (calls : List Call) :
    ∃ state, (w.afterCalls calls).latch = .ok state ∧ (state.active = false →
      state.recentSamples <:+ samplesGiven calls
        ∧ (∀ size, (∀ call ∈ sinceReset calls, call.HasRoom size) →
          state.recentSamples = (samplesGiven calls).rtake size.toNat)
        ∧ ∀ config runId recordedAt sample, 1 ≤ config.windowRuns →
          ∃ after, ((Call.update config runId recordedAt sample).leave (w.afterCalls calls)).latch = .ok after
            ∧ after.recentSamples.length
              = min (state.recentSamples.length + if sample.isSome then 1 else 0) config.windowRuns.toNat) := by
  have held := latch_afterCalls empty calls
  refine ⟨stateAfter calls, held, fun opened => ⟨recentSamples_suffix calls opened,
    fun size fixed => recentSamples_eq_rtake calls opened fixed, ?_⟩⟩
  intro config runId recordedAt sample room
  refine ⟨_, Call.latch_leave held _, ?_⟩
  have given : sample.toList.length = if sample.isSome then 1 else 0 := by
    cases sample with
    | none => rfl
    | some sample => rfl
  have moved : ((Call.update config runId recordedAt sample).next (stateAfter calls)).recentSamples = _ :=
    recentSamples_step opened config runId recordedAt sample
  rw [moved, length_windowAfter _ _ _ (by omega), given]

/-- Of three good runs a window of two holds the last two, and not the runs before the reset. -/
theorem window_holds_newest_of_good_runs :
    let w : World Unit := ⟨.inMemory [], .zero, [], ()⟩
    let config := { CanaryConfig.default with windowRuns := 2 }
    let good := fun runId : String => (⟨runId, "2026-03-01T12:00:00.000Z", false, false, false, true⟩ : RunSample)
    let update := fun runId : String => Call.update config runId "2026-03-01T12:00:00.000Z" (some (good runId))
    let calls := [update "mrun_000001", .reset, update "mrun_000002", update "mrun_000003", update "mrun_000004"]
    w.store.namespaces = [] ∧ (∀ call ∈ sinceReset calls, call.HasRoom 2) ∧ ∃ state, (w.afterCalls calls).latch = .ok state
      ∧ state.active = false ∧ state.recentSamples = [good "mrun_000003", good "mrun_000004"] := by
  intro w config good update calls
  obtain ⟨state, held, holds⟩ := window_holds_newest (w := w) rfl calls
  have opened : state.active = false := by
    have closed : (w.afterCalls calls).latch.map (·.active) = .ok false := by decide +kernel
    rw [held] at closed
    exact Except.ok.inj closed
  have room : ∀ call ∈ sinceReset calls, call.HasRoom 2 := by
    intro call member
    have since : sinceReset calls = [update "mrun_000002", update "mrun_000003", update "mrun_000004"] := rfl
    rw [since] at member
    simp only [List.mem_cons, List.not_mem_nil, or_false] at member
    rcases member with rfl | rfl | rfl
    · rfl
    · rfl
    · rfl
  refine ⟨rfl, room, state, held, opened, ?_⟩
  rw [(holds opened).2.1 2 room]
  rfl

end CanaryGate.World
