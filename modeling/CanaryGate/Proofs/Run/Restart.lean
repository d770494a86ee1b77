import CanaryGate.Proofs.Run.History
import CanaryGate.Proofs.Run.Transparent

/-! # Restarts

A store may be discarded between events, and a new one opened from its file. Since all that the events rely on is in
the store, and all that is in the store is in the file, nobody sees it: events end in the same way, and the latch and
the records are the same, as on one store in memory that is never discarded.
-/

namespace CanaryGate

open Attempt

variable {σ : Type}

/-- What an event gives back. -/
inductive Report where
  | run (result : RunResult)
  | update (update : RollbackUpdate)
  | reset (state : RollbackState)

namespace Event

def attempt : Event σ → Attempt (World σ) Report
  | run plan => do
    let result ← plan.attempt
    return .run result
  | call (.update config runId recordedAt sample) => do
    let update ← Rollback.update config runId recordedAt sample
    return .update update
  | call .reset => do
    let state ← Rollback.reset
    return .reset state

theorem transparent_attempt (event : Event σ) : Transparent event.attempt := by
  cases event with
  | run plan => exact plan.transparent_attempt.bind fun _ => .pure _
  | call c =>
      cases c with
      | update config runId recordedAt sample =>
          exact (Rollback.transparent_update config runId recordedAt sample).bind fun _ => .pure _
      | reset => exact Rollback.transparent_reset.bind fun _ => .pure _

end Event

/-- What is seen after an event: how it ended, the latch, and the records with their keys in order. -/
structure Sight where
  report : Except Fault Report
  latch : Except Fault RollbackState
  decisions : Except Fault Fields
  comparisons : Except Fault Fields
  crossChecks : Except Fault Fields

/-- What happens to a store and around it. -/
inductive Happening (σ : Type) where
  | event (event : Event σ)
  /-- The store is discarded, and a new one is opened in its place. -/
  | reopening

namespace Happening

def event? : Happening σ → Option (Event σ)
  | event e => some e
  | reopening => none

end Happening

/-- A new store in place of the old one. Without a file it is empty. -/
def Store.reopen (s : Store) : Except Fault Store :=
  match s.disk with
  | none => .ok (.inMemory [])
  | some disk => openFile disk

theorem Store.reopen_of_saved {s : Store} (saved : s.Saved) : s.reopen = .ok s := by
  obtain ⟨disk, opened⟩ := saved
  have file : s.disk = some disk := (outermost_of_openFile opened).2
  unfold reopen
  rw [file]
  exact opened

namespace World

def sight (w : World σ) (report : Except Fault Report) : Sight where
  report := report
  latch := w.latch
  decisions := w.store.namespaces.items Run.decisionSpace
  comparisons := w.store.namespaces.items Shadow.space
  crossChecks := w.store.namespaces.items AltShadow.space

/-- A history on one store: what is seen of it, and the world in the end. -/
def along (w : World σ) : List (Event σ) → List Sight × World σ
  | [] => ([], w)
  | event :: rest =>
    let (report, v) := event.attempt.outcome w
    let (sights, last) := v.along rest
    (v.sight report :: sights, last)

/-- A history where the store is discarded again and again. It breaks off if a new one cannot be opened. -/
def across (w : World σ) : List (Happening σ) → Except Fault (List Sight × World σ)
  | [] => .ok ([], w)
  | .event event :: rest => do
    let (report, v) := event.attempt.outcome w
    let (sights, last) ← v.across rest
    return (v.sight report :: sights, last)
  | .reopening :: rest => do
    let store ← w.store.reopen
    across { w with store } rest

/-- No event of the history stops because the file cannot be written: its path is free, and what is in memory is
within the limits of writing. -/
def Written (w : World σ) : List (Happening σ) → Prop
  | [] => True
  | .event event :: rest =>
    Unhindered (event.attempt.outcome w).1 ∧ Written (event.attempt.outcome w).2 rest
  | .reopening :: rest => ∀ store, w.store.reopen = .ok store → Written { w with store } rest

theorem across_of_saved {w : World σ} (saved : w.store.Saved) {history : List (Happening σ)}
    (written : w.Written history) : ∃ sights last, w.across history = .ok (sights, last) ∧ last.store.Saved
      ∧ w.detach.along (history.filterMap Happening.event?) = (sights, last.detach) := by
  -- by induction on the history; that everything is saved is all that an event has to leave for the next one
  induction history generalizing w with
  | nil => exact ⟨[], w, rfl, saved, rfl⟩
  | cons happening rest ih =>
      cases happening with
      | event event =>
          have transparent := event.transparent_attempt
          have same := transparent.blind w written.1
          obtain ⟨sights, last, later, still, apart⟩ := ih (transparent.saves w saved written.1) written.2
          refine ⟨(event.attempt.outcome w).2.sight (event.attempt.outcome w).1 :: sights, last, ?_, still, ?_⟩
          · unfold across
            simp only [later]
            rfl
          · simp only [List.filterMap_cons, Happening.event?, along, same, apart]
            rfl
      | reopening =>
          have again := Store.reopen_of_saved saved
          unfold across
          rw [again]
          exact ih saved (written w.store again)

/-- The world with its store in memory alone, and closed. -/
def inMemory (w : World σ) : World σ := { w with store := .inMemory w.store.namespaces }

theorem detach_of_saved {w : World σ} (saved : w.store.Saved) : w.detach = w.inMemory := by
  obtain ⟨disk, opened⟩ := saved
  unfold detach Store.detach inMemory Store.inMemory
  rw [(Store.outermost_of_openFile opened).1.closed]

/-- As long as the file can be written, a history on a store that is reopened from its file, at whatever points, is
seen as it is on one store in memory, and the worlds in the end differ in nothing but the file. -/
theorem reopenings_unseen {w : World σ} {disk : Disk} (opened : Store.openFile disk = .ok w.store)
    (history : List (Happening σ)) (written : w.Written history) : ∃ sights last,
      w.across history = .ok (sights, last)
        ∧ w.inMemory.along (history.filterMap Happening.event?) = (sights, last.inMemory) := by
  have saved : w.store.Saved := ⟨disk, opened⟩
  obtain ⟨sights, last, gone, still, same⟩ := across_of_saved saved written
  rw [detach_of_saved saved, detach_of_saved still] at same
  exact ⟨sights, last, gone, same⟩

/-- A run without a baseline. -/
def unserved : Run.Plan Unit :=
  ⟨⟨none, none, none⟩, ⟨2026, 3, 1, 12, 0, 0, 0⟩, ⟨.unknown, none, none, [], [], [], 50, none⟩,
    ⟨.default, .default, .default, .default, .default⟩, none⟩

def unwritten : World Unit := ⟨.fresh, .zero, [], ()⟩

theorem saved_unwritten : unwritten.store.Saved := ⟨⟨"state.json", .absent, []⟩, rfl⟩

theorem outcome_nextSequence_fresh : ∃ s, (Store.nextSequence Run.counter).outcome .fresh = (.ok 1, s) ∧ s.Committable
    ∧ s.namespaces = [(Namespaces.sequences, .obj [(Run.counter, .int 1)])] := by
  have can : (Store.fresh.holding [(Namespaces.sequences, .obj [(Run.counter, .int 1)])]).Committable := by
    intro disk here
    cases here
    refine ⟨⟨nofun, nofun⟩, Json.within_obj.mpr ?_⟩
    refine List.forall_mem_singleton.mpr (Json.within_obj.mpr (List.forall_mem_singleton.mpr ?_))
    exact Json.within_int.mpr (Json.writable_digit (by decide))
  obtain ⟨committed, again⟩ := Store.commit_of_committable can
  refine ⟨_, ?_, again, Store.namespaces_commit _⟩
  have counted : Store.fresh.namespaces.advance Run.counter
      = (.ok 1, [(Namespaces.sequences, .obj [(Run.counter, .int 1)])]) := rfl
  unfold Store.nextSequence
  rw [Store.outcome_onNamespaces, counted]
  show ((Store.fresh.holding _).commit.1.map fun _ => (1 : Int), (Store.fresh.holding _).commit.2) = _
  rw [committed]
  rfl

/-- The run fails, but its number was written. -/
theorem outcome_unserved : ∃ w, unserved.attempt.outcome unwritten = (.error .noFields, w)
    ∧ w.store.Committable ∧ w.store.Saved ∧ w.latch = .ok .clear := by
  obtain ⟨s, counted, can, memory⟩ := outcome_nextSequence_fresh
  have short : Json.writable 1 = true := Json.writable_digit (by decide)
  have stored : (onStore (Store.nextSequence Run.counter)).outcome unwritten
      = (.ok 1, { unwritten with store := s }) := by
    have seen : storePart.view unwritten = .fresh := rfl
    rw [onStore, outcome_on, seen, counted]
    rfl
  have named : Run.nextId.outcome unwritten = (.ok (Run.idOf 1), { unwritten with store := s }) := by
    unfold Run.nextId
    rw [outcome_bind_of_ok stored, if_pos short]
    rfl
  refine ⟨{ unwritten with store := s }, ?_, can, ?_, ?_⟩
  · rw [unserved.attempt_eq]
    exact outcome_bind_of_error (by rw [Run.Plan.opening, outcome_bind_of_ok named]; rfl)
  · have saved := Run.transparent_nextId.saves unwritten saved_unwritten
    rw [named] at saved
    exact saved (.ok _)
  · show Rollback.stateIn (Fields.get? s.namespaces Rollback.space) = _
    rw [memory]
    rfl

/-- A run fails, the store is reopened, and an update closes the latch. -/
theorem reopenings_unseen_after_failed_run :
    let history : List (Happening Unit) := [.event (.run unserved), .reopening,
      .event (.call (.update .default "mrun_000001" "2026-03-01T12:00:00.000Z"
        (some ⟨"mrun_000001", "2026-03-01T12:00:00.000Z", true, false, false, false⟩)))]
    Store.openFile ⟨"state.json", .absent, []⟩ = .ok unwritten.store ∧ unwritten.Written history
      ∧ ∃ sights last, unwritten.across history = .ok (sights, last)
        ∧ unwritten.inMemory.along (history.filterMap Happening.event?) = (sights, last.inMemory) := by
  intro history
  have opened : Store.openFile ⟨"state.json", .absent, []⟩ = .ok unwritten.store := rfl
  obtain ⟨w, failed, can, saved, held⟩ := outcome_unserved
  have written : unwritten.Written history := by
    have stopped : (Event.run unserved).attempt.outcome unwritten = (.error .noFields, w) :=
      outcome_bind_of_error failed
    refine ⟨?_, ?_⟩
    · rw [stopped]
      exact .error (by simp [Fault.OfDisk])
    · rw [stopped]
      intro store reopened
      rw [Store.reopen_of_saved saved] at reopened
      cases reopened
      obtain ⟨v, updated, -⟩ := Rollback.update_finishes can held .default "mrun_000001" "2026-03-01T12:00:00.000Z"
        (some ⟨"mrun_000001", "2026-03-01T12:00:00.000Z", true, false, false, false⟩)
      exact ⟨by rw [Event.attempt, outcome_bind_of_ok updated]; exact .ok _, trivial⟩
  exact ⟨opened, written, reopenings_unseen opened history written⟩

end World

end CanaryGate
