import CanaryGate.Config.Records

/-! # Limits of a configuration that was read

A configuration is read field by field, each with its own reader, and a field that is missing takes its default.
What the readers promise holds of the defaults too, and so it holds of every configuration that is accepted.
-/

namespace CanaryGate

variable {α β : Type}

namespace Checked

theorem map_eq_accepted {f : α → β} {a : Checked α} {b : β} :
    f <$> a = accepted b ↔ ∃ x, a = accepted x ∧ f x = b := map_eq_accepted_iff

theorem seq_eq_accepted {f : Checked (α → β)} {a : Checked α} {b : β} :
    f <*> a = accepted b ↔ ∃ g x, f = accepted g ∧ a = accepted x ∧ g x = b := both_eq_accepted_iff

end Checked

/-- What holds of the default, and of what is accepted of the value that stands under the name, holds of the field. -/
theorem Fields.of_standing {P : α → Prop} {fields : Fields} {name : String} {default a : α} {r : Reader α}
    (missing : P default) (given : ∀ input x, Fields.get? fields name = some input → r input = .accepted x → P x)
    (h : Fields.defaulted fields name default r = .accepted a) : P a := by
  unfold defaulted at h
  split at h
  · rename_i input found
    exact given input _ found (Checked.under_eq_accepted_iff.mp h)
  · cases h
    exact missing

/-- What holds of the default and of all that the reader accepts holds of the field. -/
theorem Fields.of_defaulted {P : α → Prop} {fields : Fields} {name : String} {default a : α} {r : Reader α}
    (missing : P default) (given : ∀ input x, r input = .accepted x → P x)
    (h : Fields.defaulted fields name default r = .accepted a) : P a :=
  of_standing missing (fun input x _ => given input x) h

/-- A rate that is accepted lies between zero and one. -/
theorem Reader.within_of_rate {input : Json} {x : Binary64} (h : rate input = .accepted x) :
    Binary64.zero.le x = true ∧ x.le (Binary64.ofNat 1) = true := by
  obtain ⟨y, -, h⟩ := Checked.thenRead_eq_accepted_iff.mp h
  split at h
  · contradiction
  · split at h
    · contradiction
    · cases h
      simp_all

namespace CanaryConfig

/-- Whatever it was read from, a configuration keeps to its limits. -/
theorem valid_of_read {input : Json} {config : CanaryConfig} (h : read input = .accepted config) : config.Valid := by
  cases input with
  | obj fields =>
      simp only [read, Reader.record, Checked.seq_eq_accepted, Checked.map_eq_accepted] at h
      obtain ⟨_, negativeDelta, h, readNegativeDelta, rfl⟩ := h
      obtain ⟨_, limited, h, readLimited, rfl⟩ := h
      obtain ⟨_, timeout, h, readTimeout, rfl⟩ := h
      obtain ⟨_, error, h, readError, rfl⟩ := h
      obtain ⟨_, samples, h, readSamples, rfl⟩ := h
      obtain ⟨_, decisions, h, readDecisions, rfl⟩ := h
      obtain ⟨_, _, h, -, rfl⟩ := h
      obtain ⟨_, _, h, -, rfl⟩ := h
      obtain ⟨_, _, h, -, rfl⟩ := h
      obtain ⟨_, shadowDiffs, h, readShadowDiffs, rfl⟩ := h
      obtain ⟨_, _, h, -, rfl⟩ := h
      obtain ⟨_, _, h, -, rfl⟩ := h
      obtain ⟨_, window, h, readWindow, rfl⟩ := h
      obtain ⟨_, _, h, -, rfl⟩ := h
      obtain ⟨_, bps, h, readBps, rfl⟩ := h
      obtain ⟨_, -, rfl⟩ := h
      have share := Fields.of_defaulted (P := fun n => 0 ≤ n ∧ n ≤ 10000) (by decide)
        (fun _ _ => Reader.between_of_integerWithin) readBps
      have atLeast : ∀ {least default n : Int} {name : String}, least ≤ default →
          Fields.defaulted fields name default (Reader.integerFrom least) = .accepted n → least ≤ n := by
        intro least default n name missing found
        exact Fields.of_defaulted (P := fun n => least ≤ n) missing (fun _ _ => Reader.le_of_integerFrom) found
      have rate : ∀ {x : Binary64} {name : String}, Fields.defaulted fields name .zero Reader.rate = .accepted x →
          Binary64.zero.le x = true ∧ x.le (Binary64.ofNat 1) = true := by
        intro x name found
        exact Fields.of_defaulted (P := fun x => Binary64.zero.le x = true ∧ x.le (Binary64.ofNat 1) = true)
          ⟨by decide, by decide⟩ (fun _ _ => Reader.within_of_rate) found
      exact {
        bps_nonneg := share.1
        bps_le := share.2
        window_pos := atLeast (by decide) readWindow
        shadowDiffs_nonneg := atLeast (by decide) readShadowDiffs
        decisions_nonneg := atLeast (by decide) readDecisions
        samples_pos := atLeast (by decide) readSamples
        errorRate := rate readError
        timeoutRate := rate readTimeout
        limitedRate := rate readLimited
        negativeDeltaRate := rate readNegativeDelta }
  | null | bool b | int n | float x | str s | arr items => cases h

end CanaryConfig

end CanaryGate
