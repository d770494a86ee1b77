import CanaryGate.Proofs.Rollback.History

/-! # Where a closed latch comes from

In every history exactly one update since the last reset closed a latch that is closed. The state still
holds what that update had before it: the window it judged, the reason that the window gave under its own
limits, its time and its run. `Trip` is this one update together with the evidence, and the induction is
on the last call of the history: a closed latch keeps its trip, an open one gets a new trip or none.
-/

namespace CanaryGate.Rollback

open Attempt

variable {σ : Type}

/-- The update that closed a latch, inside the history that led to the state. -/
structure Trip (w : World σ) (calls : List Call) (state : RollbackState) where
  before : List Call
  config : CanaryConfig
  runId : String
  recordedAt : String
  sample : Option RunSample
  after : List Call
  split : calls = before ++ .update config runId recordedAt sample :: after
  unreset : .reset ∉ after
  closes : (Call.update config runId recordedAt sample).Closes (w.afterCalls before)
  /-- Since the last reset no other call closed the latch. -/
  alone : ∀ earlier call later, calls = earlier ++ call :: later → .reset ∉ later →
    call.Closes (w.afterCalls earlier) → earlier = before
  found : RollbackState
  held : (w.afterCalls before).latch = .ok found
  window : state.recentSamples = windowAfter found.recentSamples config.windowRuns sample
  reason : state.reasonCode = reasonOf state.recentSamples config
  activatedAt : state.activatedAt = some recordedAt
  runId_eq : state.runId = some runId

theorem split_snoc {α : Type} {xs earlier later : List α} {x y : α} (h : xs ++ [x] = earlier ++ y :: later) :
    (earlier = xs ∧ y = x ∧ later = []) ∨ ∃ rest, later = rest ++ [x] ∧ xs = earlier ++ y :: rest := by
  cases later using List.reverseRecOn with
  | nil =>
      obtain ⟨same, last⟩ := List.append_inj' h rfl
      exact .inl ⟨same.symm, (List.singleton_inj.mp last).symm, rfl⟩
  | append_singleton rest z =>
      rw [← List.cons_append, ← List.append_assoc] at h
      obtain ⟨same, last⟩ := List.append_inj' h rfl
      exact .inr ⟨rest, by rw [List.singleton_inj.mp last], same⟩

variable {w : World σ}

/-- Once closed, the latch stays closed until the next reset. -/
theorem active_of_closes (empty : w.store.namespaces = []) {earlier later : List Call} {call : Call}
    (closes : call.Closes (w.afterCalls earlier)) (unreset : .reset ∉ later) :
    (stateAfter (earlier ++ call :: later)).active = true := by
  induction later using List.reverseRecOn with
  | nil =>
      rw [stateAfter_snoc]
      exact ((Call.closes_iff (World.latch_afterCalls empty earlier) call).mp closes).2
  | append_singleton later last ih =>
      simp only [List.mem_append, List.mem_singleton, not_or] at unreset
      have active := ih unreset.1
      rw [← List.cons_append, ← List.append_assoc, stateAfter_snoc, next_of_active active (Ne.symm unreset.2)]
      exact active

/-- A closed latch keeps its trip over every call that does not reset it. -/
def Trip.extend {calls : List Call} {state : RollbackState} (trip : Trip w calls state)
    (empty : w.store.namespaces = []) (active : (stateAfter calls).active = true) {call : Call}
    (kept : call ≠ .reset) : Trip w (calls ++ [call]) state where
  before := trip.before
  config := trip.config
  runId := trip.runId
  recordedAt := trip.recordedAt
  sample := trip.sample
  after := trip.after ++ [call]
  split := by rw [← List.cons_append, ← List.append_assoc, ← trip.split]
  unreset := by
    intro member
    rcases List.mem_append.mp member with inside | last
    · exact trip.unreset inside
    · exact kept (List.mem_singleton.mp last).symm
  closes := trip.closes
  alone := by
    intro earlier other later split unreset closes
    rcases split_snoc split with ⟨rfl, rfl, -⟩ | ⟨rest, rfl, inside⟩
    · have opened := ((Call.closes_iff (World.latch_afterCalls empty _) _).mp closes).1
      rw [active] at opened
      contradiction
    · exact trip.alone earlier other rest inside (fun member => unreset (List.mem_append_left _ member)) closes
  found := trip.found
  held := trip.held
  window := trip.window
  reason := trip.reason
  activatedAt := trip.activatedAt
  runId_eq := trip.runId_eq

/-- An update that finds the latch open and a reason in its window is a trip of its own. -/
def Trip.ofReason (empty : w.store.namespaces = []) {calls : List Call} {config : CanaryConfig}
    {runId recordedAt : String} {sample : Option RunSample} {reason : String}
    (opened : (stateAfter calls).active = false)
    (found : reasonOf (windowAfter (stateAfter calls).recentSamples config.windowRuns sample) config = some reason)
    (closed : (Call.update config runId recordedAt sample).next (stateAfter calls)
      = ⟨true, some reason, some recordedAt, some runId,
        windowAfter (stateAfter calls).recentSamples config.windowRuns sample⟩) :
    Trip w (calls ++ [.update config runId recordedAt sample])
      ((Call.update config runId recordedAt sample).next (stateAfter calls)) where
  before := calls
  config := config
  runId := runId
  recordedAt := recordedAt
  sample := sample
  after := []
  split := rfl
  unreset := by simp
  closes := (Call.closes_iff (World.latch_afterCalls empty calls) _).mpr ⟨opened, by rw [closed]⟩
  alone := by
    intro earlier other later split unreset closes
    rcases split_snoc split with ⟨same, -, -⟩ | ⟨rest, rfl, inside⟩
    · exact same
    · have active := active_of_closes empty closes fun member => unreset (List.mem_append_left _ member)
      rw [← inside, opened] at active
      contradiction
  found := stateAfter calls
  held := World.latch_afterCalls empty calls
  window := by rw [closed]
  reason := by rw [closed]; exact found.symm
  activatedAt := by rw [closed]
  runId_eq := by rw [closed]

theorem trip_of_active (empty : w.store.namespaces = []) (calls : List Call)
    (active : (stateAfter calls).active = true) : Nonempty (Trip w calls (stateAfter calls)) := by
  induction calls using List.reverseRecOn with
  | nil => simp [stateAfter, RollbackState.clear] at active
  | append_singleton calls call ih =>
      rw [stateAfter_snoc] at active ⊢
      cases call with
      | reset => simp [Call.next, RollbackState.clear] at active
      | update config runId recordedAt sample =>
          have window : (stateAfter calls).active = false → judged (stateAfter calls) config sample
              = windowAfter (stateAfter calls).recentSamples config.windowRuns sample := by
            intro opened
            simp [judged, opened]
          rcases step_cases (stateAfter calls) config runId recordedAt sample with
            ⟨before, -, -⟩ | ⟨reason, opened, found, closed, -⟩ | ⟨opened, -, kept, -⟩
          · rw [next_of_active before (by simp)]
            obtain ⟨trip⟩ := ih before
            exact ⟨trip.extend empty before (by simp)⟩
          · rw [window opened] at found closed
            exact ⟨.ofReason empty opened found closed⟩
          · change (step (stateAfter calls) config runId recordedAt sample).1.active = true at active
            rw [kept, opened] at active
            contradiction

theorem reasonOf_of_open {state : RollbackState} {config : CanaryConfig} {runId recordedAt : String}
    {sample : Option RunSample} (opened : (step state config runId recordedAt sample).1.active = false) :
    reasonOf (step state config runId recordedAt sample).1.recentSamples config = none := by
  rcases step_cases state config runId recordedAt sample with
    ⟨active, same, -⟩ | ⟨reason, -, -, closed, -⟩ | ⟨-, none, kept, -⟩
  · rw [same, active] at opened
    contradiction
  · rw [closed] at opened
    contradiction
  · rw [kept]
    exact none

theorem report_triggered_iff (state : RollbackState) (config : CanaryConfig) (runId recordedAt : String)
    (sample : Option RunSample) :
    (report state config runId recordedAt sample).triggered = true ↔
      (report state config runId recordedAt sample).before.active = false
        ∧ (report state config runId recordedAt sample).after.active = true := by
  show (step state config runId recordedAt sample).2.2 = true ↔
    state.active = false ∧ (step state config runId recordedAt sample).1.active = true
  rcases step_cases state config runId recordedAt sample with
    ⟨active, same, quiet⟩ | ⟨reason, opened, -, closed, tripped⟩ | ⟨opened, -, kept, quiet⟩
  · simp [quiet, active]
  · simp [tripped, opened, closed]
  · simp [quiet, opened, kept]

/-- What every update of a history answers, and what every state that was reached remembers. The store may
have a file or none; without one every update answers. -/
theorem trip_iff_closes_and_remembered {w : World σ} (empty : w.store.namespaces = []) (calls : List Call) :
    ∃ state, (w.afterCalls calls).latch = .ok state ∧ Coherent state
      ∧ (state.active = true → Nonempty (Trip w calls state))
      ∧ ∀ config runId recordedAt sample,
        ∃ after, ((Call.update config runId recordedAt sample).leave (w.afterCalls calls)).latch = .ok after
          ∧ (after.active = false → reasonOf after.recentSamples config = none)
          ∧ (∀ u w', (update config runId recordedAt sample).outcome (w.afterCalls calls) = (.ok u, w') →
            u.before = state.snapshot ∧ u.after = after.snapshot
              ∧ (u.triggered = true ↔ u.before.active = false ∧ u.after.active = true)
              ∧ (u.triggered = true ↔ (Call.update config runId recordedAt sample).Closes (w.afterCalls calls)))
          ∧ (w.store.Committable →
            ∃ u w', (update config runId recordedAt sample).outcome (w.afterCalls calls) = (.ok u, w')) := by
  have held := World.latch_afterCalls empty calls
  refine ⟨stateAfter calls, held, coherent_stateAfter calls, trip_of_active empty calls, ?_⟩
  intro config runId recordedAt sample
  refine ⟨_, Call.latch_leave held _, reasonOf_of_open, ?_, ?_⟩
  · intro u w' answered
    obtain ⟨state, found, rfl⟩ := report_of_update answered
    obtain rfl : stateAfter calls = state := Except.ok.inj (held.symm.trans found)
    have tripped := report_triggered_iff (stateAfter calls) config runId recordedAt sample
    have closes := Call.closes_iff held (.update config runId recordedAt sample)
    exact ⟨rfl, rfl, tripped, tripped.trans closes.symm⟩
  · intro can
    obtain ⟨w', answered, -⟩ := update_finishes (World.committable_afterCalls empty can calls) held
      config runId recordedAt sample
    exact ⟨_, w', answered⟩

/-- One failed run under the default limits closes the latch, and the state remembers it. -/
theorem trip_of_failed_run :
    let w : World Unit := ⟨.inMemory [], .zero, [], ()⟩
    let calls := [Call.update .default "mrun_000001" "2026-03-01T12:00:00.000Z"
      (some ⟨"mrun_000001", "2026-03-01T12:00:00.000Z", true, false, false, false⟩)]
    w.store.namespaces = [] ∧ ∃ state, (w.afterCalls calls).latch = .ok state ∧ state.active = true
      ∧ Nonempty (Trip w calls state) := by
  intro w calls
  obtain ⟨state, held, -, trip, -⟩ := trip_iff_closes_and_remembered (w := w) rfl calls
  have active : (stateAfter calls).active = true := by decide +kernel
  obtain rfl : stateAfter calls = state := Except.ok.inj ((World.latch_afterCalls rfl calls).symm.trans held)
  exact ⟨rfl, _, held, active, trip active⟩

end CanaryGate.Rollback
