import CanaryGate.Proofs.Rollback.Persistence
import Mathlib.Data.List.Induction

/-! # Histories of the latch

A history is a list of updates and resets. In any store they act on the state that it holds as the pure
`Call.next` does, whether or not the calls could be written to a file. A state that was reached is
coherent: a closed latch knows why, when and by which run it closed, and an open one knows nothing.
-/

namespace CanaryGate.Rollback

open Attempt

variable {σ : Type}

/-- The window that an update judges. -/
def judged (state : RollbackState) (config : CanaryConfig) (sample : Option RunSample) : List RunSample :=
  if state.active then state.recentSamples else windowAfter state.recentSamples config.windowRuns sample

theorem getLast?_windowAfter (window : List RunSample) {size : Int} (room : 1 ≤ size) (sample : RunSample) :
    (windowAfter window size (some sample)).getLast? = some sample := by
  have short : ¬ (window ++ [sample]).length ≤ (((window ++ [sample]).length : Int) - size).toNat := by
    simp only [List.length_append, List.length_singleton]
    omega
  show ((window ++ [sample]).drop (((window ++ [sample]).length : Int) - size).toNat).getLast? = some sample
  rw [List.getLast?_drop, if_neg short]
  simp

/-- The reason that a window gives under the limits of a configuration. -/
def reasonOf (window : List RunSample) (config : CanaryConfig) : Option String :=
  (WindowSummary.ofWindow (window.map RunSample.flags) config.thresholds).reasonCode

/-- An update finds the latch closed, closes it for a reason, or finds none and keeps the new window. -/
theorem step_cases (state : RollbackState) (config : CanaryConfig) (runId recordedAt : String)
    (sample : Option RunSample) :
    (state.active = true ∧ (step state config runId recordedAt sample).1 = state
        ∧ (step state config runId recordedAt sample).2.2 = false)
      ∨ (∃ reason, state.active = false ∧ reasonOf (judged state config sample) config = some reason
        ∧ (step state config runId recordedAt sample).1
          = ⟨true, some reason, some recordedAt, some runId, judged state config sample⟩
        ∧ (step state config runId recordedAt sample).2.2 = true)
      ∨ (state.active = false ∧ reasonOf (judged state config sample) config = none
        ∧ (step state config runId recordedAt sample).1 = { state with recentSamples := judged state config sample }
        ∧ (step state config runId recordedAt sample).2.2 = false) := by
  cases active : state.active with
  | true => exact .inl ⟨rfl, step_of_active active config runId recordedAt sample⟩
  | false =>
      have window : judged state config sample = windowAfter state.recentSamples config.windowRuns sample := by
        simp [judged, active]
      rw [window]
      cases found : reasonOf (windowAfter state.recentSamples config.windowRuns sample) config with
      | some reason =>
          unfold reasonOf at found
          exact .inr (.inl ⟨reason, rfl, rfl, by simp [step, active, found], by simp [step, active, found]⟩)
      | none =>
          unfold reasonOf at found
          exact .inr (.inr ⟨rfl, rfl, by simp [step, active, found], by simp [step, active, found]⟩)

theorem recentSamples_step {state : RollbackState} (opened : state.active = false) (config : CanaryConfig)
    (runId recordedAt : String) (sample : Option RunSample) :
    (step state config runId recordedAt sample).1.recentSamples
      = windowAfter state.recentSamples config.windowRuns sample := by
  have window : judged state config sample = windowAfter state.recentSamples config.windowRuns sample := by
    simp [judged, opened]
  rcases step_cases state config runId recordedAt sample with
    ⟨active, -, -⟩ | ⟨reason, -, -, closed, -⟩ | ⟨-, -, kept, -⟩
  · rw [opened] at active
    contradiction
  · rw [closed]
    exact window
  · rw [kept]
    exact window

inductive Call where
  | update (config : CanaryConfig) (runId recordedAt : String) (sample : Option RunSample)
  | reset

namespace Call

def next (state : RollbackState) : Call → RollbackState
  | update config runId recordedAt sample => (step state config runId recordedAt sample).1
  | reset => .clear

/-- The world that a call leaves, whether it finishes or not. -/
def leave (w : World σ) : Call → World σ
  | update config runId recordedAt sample => ((Rollback.update config runId recordedAt sample).outcome w).2
  | reset => ((Rollback.reset : Attempt (World σ) RollbackState).outcome w).2

/-- In the world the call closes a latch that was open. -/
def Closes (w : World σ) (call : Call) : Prop :=
  (∃ before, w.latch = .ok before ∧ before.active = false)
    ∧ ∃ after, (call.leave w).latch = .ok after ∧ after.active = true

theorem latch_leave {w : World σ} {state : RollbackState} (held : w.latch = .ok state) (call : Call) :
    (call.leave w).latch = .ok (call.next state) := by
  cases call with
  | update config runId recordedAt sample =>
      exact (congrArg stateIn (shows_update config runId recordedAt sample w)).trans (stateIn_changed held _)
  | reset => exact (congrArg stateIn (shows_reset w)).trans (stateIn_changed held _)

theorem closes_iff {w : World σ} {state : RollbackState} (held : w.latch = .ok state) (call : Call) :
    call.Closes w ↔ state.active = false ∧ (call.next state).active = true := by
  unfold Closes
  rw [latch_leave held call, held]
  simp

end Call

/-- The state after a history that started with the latch open and the window empty. -/
def stateAfter (calls : List Call) : RollbackState := calls.foldl Call.next .clear

theorem stateAfter_snoc (calls : List Call) (call : Call) :
    stateAfter (calls ++ [call]) = call.next (stateAfter calls) := by
  simp [stateAfter]

/-- A closed latch knows why, when and by which run it closed; an open one knows nothing. -/
structure Coherent (state : RollbackState) : Prop where
  active_iff : state.active = true ↔
    state.reasonCode.isSome = true ∧ state.activatedAt.isSome = true ∧ state.runId.isSome = true
  of_open : state.active = false → state.reasonCode = none ∧ state.activatedAt = none ∧ state.runId = none

theorem coherent_clear : Coherent .clear := ⟨by decide, fun _ => ⟨rfl, rfl, rfl⟩⟩

theorem coherent_next {state : RollbackState} (h : Coherent state) (call : Call) : Coherent (call.next state) := by
  cases call with
  | reset => exact coherent_clear
  | update config runId recordedAt sample =>
      rcases step_cases state config runId recordedAt sample with
        ⟨-, same, -⟩ | ⟨reason, -, -, closed, -⟩ | ⟨opened, -, kept, -⟩
      · show Coherent (step state config runId recordedAt sample).1
        rw [same]
        exact h
      · show Coherent (step state config runId recordedAt sample).1
        rw [closed]
        exact ⟨by simp, by simp⟩
      · show Coherent (step state config runId recordedAt sample).1
        rw [kept]
        exact ⟨h.active_iff, h.of_open⟩

/-- The open latch has the property, and every call maintains it. -/
structure Maintained (P : RollbackState → Prop) : Prop where
  clear : P .clear
  next : ∀ {state}, P state → ∀ call : Call, P (call.next state)

theorem Maintained.stateAfter {P : RollbackState → Prop} (h : Maintained P) (calls : List Call) :
    P (stateAfter calls) := by
  induction calls using List.reverseRecOn with
  | nil => exact h.clear
  | append_singleton calls call ih =>
      rw [stateAfter_snoc]
      exact h.next ih call

theorem maintained_coherent : Maintained Coherent := ⟨coherent_clear, coherent_next⟩

theorem coherent_stateAfter (calls : List Call) : Coherent (stateAfter calls) := maintained_coherent.stateAfter calls

theorem next_of_active {state : RollbackState} (h : state.active = true) {call : Call} (kept : call ≠ .reset) :
    call.next state = state := by
  cases call with
  | reset => exact absurd rfl kept
  | update config runId recordedAt sample => exact (step_of_active h config runId recordedAt sample).1

end CanaryGate.Rollback

namespace CanaryGate.World

open Rollback

variable {σ : Type}

def afterCalls (w : World σ) (calls : List Call) : World σ := calls.foldl Call.leave w

theorem afterCalls_snoc (w : World σ) (calls : List Call) (call : Call) :
    w.afterCalls (calls ++ [call]) = call.leave (w.afterCalls calls) := by
  simp [afterCalls]

theorem latch_of_empty {w : World σ} (empty : w.store.namespaces = []) : w.latch = .ok .clear := by
  have missing : w.shows space = none := by simp [shows, Store.shows, empty, Fields.get?]
  unfold latch
  rw [missing]
  exact stateIn_none

theorem committable_leave {w : World σ} {state : RollbackState} (can : w.store.Committable) (held : w.latch = .ok state)
    (call : Call) : (call.leave w).store.Committable := by
  cases call with
  | update config runId recordedAt sample =>
      obtain ⟨w', ran, left⟩ := update_finishes can held config runId recordedAt sample
      simpa only [Call.leave, ran] using left
  | reset =>
      obtain ⟨w', ran, left⟩ := reset_finishes can held
      simpa only [Call.leave, ran] using left

theorem latch_afterCalls {w : World σ} (empty : w.store.namespaces = []) (calls : List Call) :
    (w.afterCalls calls).latch = .ok (stateAfter calls) := by
  induction calls using List.reverseRecOn with
  | nil => exact latch_of_empty empty
  | append_singleton calls call ih =>
      rw [afterCalls_snoc, stateAfter_snoc]
      exact Call.latch_leave ih call

theorem committable_afterCalls {w : World σ} (empty : w.store.namespaces = []) (can : w.store.Committable)
    (calls : List Call) : (w.afterCalls calls).store.Committable := by
  induction calls using List.reverseRecOn with
  | nil => exact can
  | append_singleton calls call ih =>
      rw [afterCalls_snoc]
      exact committable_leave ih (latch_afterCalls empty calls) call

end CanaryGate.World
