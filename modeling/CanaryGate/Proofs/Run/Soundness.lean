import CanaryGate.Proofs.Run.Bearable
import CanaryGate.Proofs.Run.LatchSafety
import CanaryGate.Proofs.Run.Upkeep

/-! # The store between the stages of a run

A run that was numbered found a store that can be written. Each stage that finishes leaves the store sound:
no transaction is open, what is in memory can be written, and the latch can be read. In a sound store neither
the reset nor the update of the latch ever stops a run.
-/

namespace CanaryGate

open Attempt

variable {σ : Type}

namespace Store

/-- No transaction is open, what is in memory can be written, and the latch can be read. -/
structure Sound (s : Store) : Prop where
  orderly : s.Orderly 0
  committable : s.Committable
  readable : ∃ state, Rollback.stateIn (s.shows Rollback.space) = .ok state

theorem Sound.putAndPrune {s s' : Store} (sound : s.Sound) {space key : String} (h : Rollback.space ≠ space)
    {value : Json} {limit : Int} {evicted : List Json}
    (ran : (Store.putAndPrune space key value limit).outcome s = (.ok evicted, s')) : s'.Sound where
  orderly := (orderly_putAndPrune space key value limit 0).of_eq ran sound.orderly
  committable := committable_putAndPrune sound.orderly ran
  readable := by
    rw [(leaves_putAndPrune h key value limit).of_eq ran]
    exact sound.readable

theorem Sound.onStore {w w' : World σ} {s : Store} (sound : s.Sound) (same : w.store = s) {space key : String}
    {value : Json} {limit : Int} {evicted : List Json}
    (ran : (World.onStore (Store.putAndPrune space key value limit)).outcome w = (.ok evicted, w'))
    (h : Rollback.space ≠ space) : w'.store.Sound := by
  subst same
  have put : (Store.putAndPrune space key value limit).outcome w.store = (.ok evicted, w'.store) := by
    obtain ⟨given, rfl⟩ := Prod.mk.inj ran
    exact Prod.ext given rfl
  exact sound.putAndPrune h put

end Store

namespace Run

namespace Plan

variable {p : Plan σ} {w w' : World σ}

/-- A run that was numbered found a store that can be written. -/
theorem sound_of_opening (orderly : w.store.Orderly 0) (readable : w.Readable) {o : String × Json}
    (ran : p.opening.outcome w = (.ok o, w')) : w'.store.Sound := by
  obtain ⟨runId, t, numbered, answered⟩ := bind_eq_ok.mp ran
  have same : w'.store = t.store := ((leaves_baselineResult _ _).bind fun _ => .pure _).of_eq answered
  obtain ⟨n, t', counted, named⟩ := bind_eq_ok.mp numbered
  obtain ⟨-, rfl⟩ := Prod.mk.inj named
  have advanced : (Store.nextSequence counter).outcome w.store = (.ok n, t'.store) := by
    obtain ⟨given, rfl⟩ := Prod.mk.inj counted
    exact Prod.ext given rfl
  rw [same]
  refine ⟨(Store.orderly_nextSequence counter 0).of_eq advanced orderly,
    Store.committable_onNamespaces orderly.opened advanced, ?_⟩
  rw [(Store.leaves_nextSequence (by decide) counter).of_eq advanced]
  exact readable

theorem sound_resetting (sound : w.store.Sound) : ∃ w', p.resetting.outcome w = (.ok (), w') ∧ w'.store.Sound := by
  obtain ⟨state, held⟩ := sound.readable
  unfold resetting
  split
  · obtain ⟨w', ran, left⟩ := Rollback.reset_finishes sound.committable held
    refine ⟨w', outcome_bind_of_ok ran, Rollback.orderly_reset.of_eq ran sound.orderly, left, ?_⟩
    have after := Rollback.Call.latch_leave held .reset
    rw [Rollback.Call.leave, ran] at after
    exact ⟨_, after⟩
  · exact ⟨w, rfl, sound⟩

theorem sound_of_shadowing (sound : w.store.Sound) {runId : String} {baseline : Json} {before : RollbackSnapshot}
    {selection : Selection} {o : ShadowOutcome}
    (ran : (p.shadowing runId baseline before selection).outcome w = (.ok o, w')) : w'.store.Sound := by
  rw [shadowing_eq] at ran
  split at ran
  · obtain ⟨attempt, t, probed, ran⟩ := bind_eq_ok.mp ran
    have same : t.store = w.store := (Shadow.leaves_attempting _ _ _ _).of_eq probed
    rw [Shadow.comparing_eq] at ran
    obtain ⟨found, _, lifted, ran⟩ := bind_eq_ok.mp ran
    obtain ⟨-, rfl⟩ := Prod.mk.inj lifted
    obtain ⟨_, t', kept, returned⟩ := bind_eq_ok.mp ran
    cases returned
    obtain ⟨evicted, t'', put, observed⟩ := bind_eq_ok.mp kept
    cases observed
    have left : t''.store.Sound := sound.onStore same put (by decide)
    exact left
  · obtain ⟨diff, _, lifted, returned⟩ := bind_eq_ok.mp ran
    obtain ⟨-, rfl⟩ := Prod.mk.inj lifted
    cases returned
    exact sound

theorem sound_of_crossing (sound : w.store.Sound) {runId : String} {selection : Selection} {o : Option AltRecord}
    (ran : (p.crossing runId selection).outcome w = (.ok o, w')) : w'.store.Sound := by
  rw [crossing_eq] at ran
  split at ran
  · cases ran
    exact sound
  · obtain ⟨outcome, t, consulted, ran⟩ := bind_eq_ok.mp ran
    have same : t.store = w.store := (Engine.leaves_executeIfConfigured _ _ _ _ _).of_eq consulted
    obtain ⟨record, _, lifted, ran⟩ := bind_eq_ok.mp ran
    obtain ⟨-, rfl⟩ := Prod.mk.inj lifted
    obtain ⟨_, _, observed, ran⟩ := bind_eq_ok.mp ran
    cases observed
    obtain ⟨evicted, t', put, returned⟩ := bind_eq_ok.mp ran
    cases returned
    refine sound.onStore ?_ put (by decide)
    exact same

theorem sound_latching (sound : w.store.Sound) (runId : String) (before : RollbackSnapshot)
    (sample : Option RunSample) :
    ∃ u w', (p.latching runId before sample).outcome w = (.ok u, w') ∧ w'.store.Sound := by
  obtain ⟨state, held⟩ := sound.readable
  unfold latching
  split
  · obtain ⟨w', ran, left⟩ := Rollback.update_finishes sound.committable held p.configs.canary runId p.recordedAt sample
    refine ⟨_, w', ran, (Rollback.orderly_update _ _ _ _).of_eq ran sound.orderly, left, ?_⟩
    have after := Rollback.Call.latch_leave held (.update p.configs.canary runId p.recordedAt sample)
    rw [Rollback.Call.leave, ran] at after
    exact ⟨_, after⟩
  · have loaded : (Rollback.load : Attempt (World σ) RollbackState).outcome w = (.ok state, w) := by
      rw [Rollback.outcome_load]
      exact congrArg (·, w) held
    exact ⟨_, w, outcome_bind_of_ok loaded, sound⟩

end Plan

end Run

end CanaryGate
