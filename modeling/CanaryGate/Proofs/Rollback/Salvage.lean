import CanaryGate.Proofs.Config.Limits
import CanaryGate.Proofs.Rollback.History

/-! # Stored states that are corrupt

Anything may stand where the state is kept. What counts as false is the empty state, what reads as a state is
that state, and of anything else the latch is salvaged and the window is dropped. Only the reason is taken over
as it stands: one that is neither null nor a text cannot be salvaged, and then no operation of the latch works
any more, the reset included, since each of them loads the state first.
-/

namespace CanaryGate

open Attempt

variable {σ α : Type}

theorem Reader.optional_text_eq_accepted {value : Json} {reason : Option String} :
    optional text value = .accepted reason ↔ value = Json.optional .str reason := by
  constructor
  · intro h
    cases value with
    | null =>
        cases h
        rfl
    | str s =>
        cases h
        rfl
    | bool b | int n | float x | arr items | obj fields => cases h
  · rintro rfl
    exact optional_text reason

theorem Reader.optional_text_eq_refused {value : Json} (h : ∀ reason : Option String, value ≠ Json.optional .str reason) :
    optional text value = .refused [⟨[], .notText⟩] := by
  cases value with
  | null => exact absurd rfl (h none)
  | str s => exact absurd rfl (h (some s))
  | bool b | int n | float x | arr items | obj fields => rfl

namespace Rollback

/-- The reason in a value is neither null nor a text. -/
def Garbled (raw : Json) : Prop := ∀ reason : Option String, raw.fieldD "rollback_reason_code" ≠ Json.optional .str reason

/-- How a garbled reason is refused. -/
def refusal : Fault := .invalid [⟨[.field "rollback_reason_code"], .notText⟩]

/-- The state that a stored value is restored to. -/
structure Restores (raw : Json) (state : RollbackState) : Prop where
  blank : raw.truthy = false → state = .clear
  valid : ∀ read, RollbackState.read raw = .accepted read → state = read
  /-- The window is dropped, and the latch is closed exactly if the value is an object that says so. -/
  corrupt : raw.truthy = true → ∀ issues, RollbackState.read raw = .refused issues → state.recentSamples = []
    ∧ (state.active = true ↔ ∃ fields, raw = .obj fields ∧ (Fields.get fields "rollback_active").truthy = true)
    ∧ raw.fieldD "rollback_reason_code" = Json.optional .str state.reasonCode

/-- The reason of a value that reads as a state is not garbled. -/
theorem legible_of_read {raw : Json} {state : RollbackState} (h : RollbackState.read raw = .accepted state) :
    ¬ Garbled raw := by
  intro garbled
  cases raw with
  | obj fields =>
      simp only [RollbackState.read, Reader.record, Checked.seq_eq_accepted, Checked.map_eq_accepted] at h
      obtain ⟨_, _, h, -, rfl⟩ := h
      obtain ⟨_, _, h, -, rfl⟩ := h
      obtain ⟨_, _, h, -, rfl⟩ := h
      obtain ⟨_, reason, -, readReason, -⟩ := h
      unfold Fields.defaulted at readReason
      have stands : (Json.obj fields).fieldD "rollback_reason_code"
          = (Fields.get? fields "rollback_reason_code").getD .null := rfl
      split at readReason
      · rename_i value found
        rw [found] at stands
        have told := Reader.optional_text_eq_accepted.mp (Checked.under_eq_accepted_iff.mp readReason)
        exact garbled reason (stands.trans told)
      · rename_i missing
        rw [missing] at stands
        exact garbled none stands
  | null | bool b | int n | float x | str s | arr items => cases h

theorem truthy_of_garbled {raw : Json} (h : Garbled raw) : raw.truthy = true := by
  cases raw with
  | obj fields =>
      cases fields with
      | nil => exact absurd rfl (h none)
      | cons field rest => rfl
  | null | bool b | int n | float x | str s | arr items => exact absurd rfl (h none)

theorem refused_of_garbled {raw : Json} (h : Garbled raw) : ∃ issues, RollbackState.read raw = .refused issues := by
  cases read : RollbackState.read raw with
  | accepted state => exact absurd h (legible_of_read read)
  | refused issues => exact ⟨issues, rfl⟩

theorem decode_of_garbled {raw : Json} (h : Garbled raw) : decode raw = .error refusal := by
  obtain ⟨issues, refused⟩ := refused_of_garbled h
  unfold decode
  rw [truthy_of_garbled h, refused]
  simp only [Bool.not_true, Bool.false_eq_true, if_false]
  unfold salvage
  rw [Reader.optional_text_eq_refused h]
  rfl

theorem salvage_of_told {raw : Json} {reason : Option String}
    (told : raw.fieldD "rollback_reason_code" = Json.optional .str reason) : salvage raw
      = .ok { RollbackState.clear with active := (raw.fieldD "rollback_active").truthy, reasonCode := reason } := by
  unfold salvage
  rw [told, Reader.optional_text]
  rfl

/-- What says that the latch is closed is an object with a field for it. -/
theorem truthy_fieldD_iff {raw : Json} {name : String} : (raw.fieldD name).truthy = true ↔
    ∃ fields, raw = .obj fields ∧ (Fields.get fields name).truthy = true := by
  constructor
  · intro h
    cases raw with
    | obj fields => exact ⟨fields, rfl, h⟩
    | null | bool b | int n | float x | str s | arr items => cases h
  · rintro ⟨fields, rfl, h⟩
    exact h

theorem restores_of_legible {raw : Json} (h : ¬ Garbled raw) : ∃ state, decode raw = .ok state ∧ Restores raw state := by
  unfold Garbled at h
  push Not at h
  obtain ⟨reason, told⟩ := h
  cases truth : raw.truthy with
  | false =>
      refine ⟨.clear, by simp [decode, truth], fun _ => rfl, fun read reads => ?_, fun truthy => ?_⟩
      · -- of all that counts as false only the empty object reads as a state
        cases raw with
        | obj fields =>
            obtain rfl : fields = [] := by simpa [Json.truthy] using truth
            exact Checked.accepted.inj reads
        | null | bool b | int n | float x | str s | arr items => cases reads
      · rw [truth] at truthy
        contradiction
  | true =>
      cases read : RollbackState.read raw with
      | accepted state =>
          refine ⟨state, by simp [decode, truth, read], fun blank => ?_, fun other reads => ?_, fun _ issues refused => ?_⟩
          · rw [truth] at blank
            contradiction
          · rw [read] at reads
            exact Checked.accepted.inj reads
          · rw [read] at refused
            contradiction
      | refused issues =>
          refine ⟨_, by simp [decode, truth, read]; exact salvage_of_told told, fun blank => ?_, fun other reads => ?_,
            fun _ _ _ => ⟨rfl, truthy_fieldD_iff, told⟩⟩
          · rw [truth] at blank
            contradiction
          · rw [read] at reads
            contradiction

/-- The operations of the latch on a state that could be loaded. -/
structure Usable (w : World σ) (state : RollbackState) (config : CanaryConfig) (runId recordedAt : String)
    (sample : Option RunSample) : Prop where
  loads : load.outcome w = (.ok state, w)
  shows : snapshot.outcome w = (.ok state.snapshot, w)
  resets : ∃ w', reset.outcome w = (.ok .clear, w') ∧ w'.latch = .ok .clear
  updates : ∃ w', (update config runId recordedAt sample).outcome w = (.ok (report state config runId recordedAt sample), w')
    ∧ w'.latch = .ok (step state config runId recordedAt sample).1

/-- The operations of the latch where nothing can be loaded: they fail, and what is stored stays. -/
structure Blocked (w : World σ) (config : CanaryConfig) (runId recordedAt : String) (sample : Option RunSample) :
    Prop where
  loads : load.outcome w = (.error refusal, w)
  shows : snapshot.outcome w = (.error refusal, w)
  resets : ∃ w', reset.outcome w = (.error refusal, w') ∧ w'.shows space = w.shows space
  updates : ∃ w', (update config runId recordedAt sample).outcome w = (.error refusal, w')
    ∧ w'.shows space = w.shows space

theorem usable_of_latch {w : World σ} {state : RollbackState} (held : w.latch = .ok state)
    (replaceable : Replaceable w.store) (config : CanaryConfig) (runId recordedAt : String) (sample : Option RunSample) :
    Usable w state config runId recordedAt sample where
  loads := by rw [outcome_load, held]
  shows := by
    rw [outcome_snapshot, held]
    rfl
  resets := by
    obtain ⟨w', ran, -⟩ := reset_of_replaceable replaceable held
    have after := Call.latch_leave held .reset
    rw [Call.leave, ran] at after
    exact ⟨w', ran, after⟩
  updates := by
    obtain ⟨w', ran, -⟩ := update_of_replaceable replaceable held config runId recordedAt sample
    have after := Call.latch_leave held (.update config runId recordedAt sample)
    rw [Call.leave, ran] at after
    exact ⟨w', ran, after⟩

/-- A transaction that starts with loading stops there. -/
theorem transaction_of_refused {w : World σ} {fault : Fault} (refused : w.latch = .error fault)
    (rest : RollbackState → Attempt (World σ) α) :
    ((Store.transaction World.storePart (load >>= rest)).outcome w).1 = .error fault := by
  have body : (load >>= rest).outcome (World.storePart.put w w.store.enter)
      = (.error fault, World.storePart.put w w.store.enter) := by
    refine outcome_bind_of_error ?_
    rw [outcome_load]
    exact congrArg (·, _) refused
  rw [Store.transaction_of_error body]

theorem blocked_of_latch {w : World σ} (refused : w.latch = .error refusal) (config : CanaryConfig)
    (runId recordedAt : String) (sample : Option RunSample) : Blocked w config runId recordedAt sample where
  loads := by rw [outcome_load, refused]
  shows := by
    rw [outcome_snapshot, refused]
    rfl
  resets := by
    have stopped : (reset : Attempt (World σ) RollbackState).outcome w = (.error refusal, _) :=
      outcome_bind_of_error (Prod.ext (transaction_of_refused refused fun _ => save .clear) rfl)
    have left := shows_reset w
    rw [stopped] at left
    refine ⟨_, stopped, left.trans ?_⟩
    unfold changed
    rw [show stateIn (w.shows space) = .error refusal from refused]
  updates := by
    have stopped : (update config runId recordedAt sample).outcome w = (.error refusal, _) :=
      outcome_bind_of_error (Prod.ext (transaction_of_refused refused (judge config runId recordedAt sample)) rfl)
    have left := shows_update config runId recordedAt sample w
    rw [stopped] at left
    refine ⟨_, stopped, left.trans ?_⟩
    unfold changed
    rw [show stateIn (w.shows space) = .error refusal from refused]

/-- Whatever is stored, the latch is restored from it and all of its operations work, unless the reason is
garbled: then none of them does. -/
theorem usable_unless_garbled {w : World σ} {raw : Json} (stored : w.store.namespaces.find? space key = .ok (some raw))
    (replaceable : Replaceable w.store) (config : CanaryConfig) (runId recordedAt : String) (sample : Option RunSample) :
    (¬ Garbled raw → ∃ state, Restores raw state ∧ Usable w state config runId recordedAt sample)
      ∧ (Garbled raw → Blocked w config runId recordedAt sample) := by
  refine ⟨fun legible => ?_, fun garbled => ?_⟩
  · obtain ⟨state, decoded, restores⟩ := restores_of_legible legible
    have held : w.latch = .ok state := (latch_of_stored stored).trans decoded
    exact ⟨state, restores, usable_of_latch held replaceable config runId recordedAt sample⟩
  · have refused : w.latch = .error refusal := (latch_of_stored stored).trans (decode_of_garbled garbled)
    exact blocked_of_latch refused config runId recordedAt sample

/-- A store in memory in which a value stands in the place of the state. -/
def holdingRaw (raw : Json) : World Unit := ⟨.inMemory [(space, .obj [(key, raw)])], .zero, [], ()⟩

theorem usable_after_broken_window :
    let raw : Json := .obj [("rollback_active", .int 1), ("recent_samples", .str "broken")]
    (holdingRaw raw).store.namespaces.find? space key = .ok (some raw) ∧ Replaceable (holdingRaw raw).store
      ∧ ¬ Garbled raw ∧ ∃ state, Restores raw state ∧ state.active = true ∧ state.recentSamples = []
        ∧ Usable (holdingRaw raw) state .default "mrun_000001" "2026-03-01T12:00:00.000Z" none := by
  intro raw
  have stored : (holdingRaw raw).store.namespaces.find? space key = .ok (some raw) := rfl
  have replaceable : Replaceable (holdingRaw raw).store := nofun
  have legible : ¬ Garbled raw := fun garbled => garbled none rfl
  obtain ⟨state, restores, usable⟩ := (usable_unless_garbled stored replaceable .default "mrun_000001"
    "2026-03-01T12:00:00.000Z" none).1 legible
  obtain ⟨dropped, closed, -⟩ := restores.corrupt rfl _ rfl
  exact ⟨stored, replaceable, legible, state, restores, closed.mpr ⟨_, rfl, rfl⟩, dropped, usable⟩

/-- A closed latch whose reason is a number can be neither looked at, nor updated, nor reset. -/
theorem blocked_by_numeric_reason :
    let raw : Json := .obj [("rollback_active", .bool true), ("rollback_reason_code", .int 5)]
    (holdingRaw raw).store.namespaces.find? space key = .ok (some raw)
      ∧ Blocked (holdingRaw raw) .default "mrun_000001" "2026-03-01T12:00:00.000Z" none := by
  intro raw
  have garbled : Garbled raw := by
    rintro (_ | reason)
    · exact nofun
    · exact nofun
  have stored : (holdingRaw raw).store.namespaces.find? space key = .ok (some raw) := rfl
  exact ⟨stored, blocked_of_latch ((latch_of_stored stored).trans (decode_of_garbled garbled)) _ _ _ _⟩

end Rollback

end CanaryGate
