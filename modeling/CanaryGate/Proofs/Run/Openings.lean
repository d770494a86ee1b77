import CanaryGate.Proofs.Run.LatchSafety
import CanaryGate.Proofs.Run.UniqueIds

/-! # What a process is started with

A process starts on an empty store, or on what an earlier one has left, in memory or in the file; and that one may
have been killed in the middle of a run. What each change of a run or of the controller keeps is found again by the
next process, since the file always holds what some change has left. The latch, for one, can always be read.
-/

namespace CanaryGate

open Attempt

variable {σ : Type}

namespace Store

mutual

/-- What a process is started with. -/
inductive Opened (σ : Type) : Store → Prop where
  | memory : Opened σ (.inMemory [])
  | file {disk : Disk} {s : Store} (opened : openFile disk = .ok s) (empty : s.namespaces = []) : Opened σ s
  | handed {s : Store} (before : Reached σ s) : Opened σ (.inMemory s.namespaces)
  | reopened {s t : Store} {disk : Disk} (before : Reached σ s) (file : s.disk = some disk)
      (opened : openFile disk = .ok t) : Opened σ t

/-- What a process gets to by its events, or has got to when it is killed in a run. -/
inductive Reached (σ : Type) : Store → Prop where
  | start {s : Store} (opened : Opened σ s) : Reached σ s
  | event {w : World σ} (before : Reached σ w.store) (event : Event σ) : Reached σ (event.leave w).store
  | within {w : World σ} (before : Reached σ w.store) (plan : Run.Plan σ) (changes : Nat) :
      Reached σ (w.store.following ((plan.steps.journal w).take changes))

end

end Store

/-- What each change keeps: `P` between two events, and `Q` in a run of some name whose changes from a stage on are
due. -/
structure Lasting (σ : Type) (P : Namespaces → Prop) (Q : String → Nat → Namespaces → Prop) : Prop where
  nil : P []
  number : ∀ w : World σ, P w.store.namespaces → P (Moment.after ⟨w, .number⟩).store.namespaces
  named : ∀ (w : World σ) runId v, P w.store.namespaces → Run.nextId.outcome w = (.ok runId, v) →
    Q runId 1 (Moment.after ⟨w, .number⟩).store.namespaces
  change : ∀ (p : Run.Plan σ) runId low (m : Moment σ), m.change.By p runId → 1 ≤ m.change.stage →
    low ≤ m.change.stage → Q runId low m.before.store.namespaces →
    Q runId (m.change.stage + 1) m.after.store.namespaces
  stop : ∀ runId low all, Q runId low all → P all
  call : ∀ (w : World σ) (c : Rollback.Call), P w.store.namespaces → P (c.leave w).store.namespaces

namespace Store

/-- The property holds of what is in memory, and of what is in the file if there is one. -/
structure Throughout (P : Namespaces → Prop) (s : Store) : Prop where
  outermost : s.Outermost
  memory : P s.namespaces
  file : ∀ disk, s.disk = some disk → ∀ stored, disk.read = .ok stored → P (stored.getD [])

variable {P : Namespaces → Prop} {Q : String → Nat → Namespaces → Prop} {s t : Store} {α : Type}

namespace Throughout

theorem of_openFile {disk : Disk} (opened : openFile disk = .ok s)
    (holds : ∀ stored, disk.read = .ok stored → P (stored.getD [])) : s.Throughout P := by
  obtain ⟨outermost, here⟩ := outermost_of_openFile opened
  obtain ⟨stored, read, given⟩ := except_bind_eq_ok.mp opened
  cases given
  refine ⟨outermost, holds stored read, fun other there => ?_⟩
  cases here.symm.trans there
  exact holds

theorem of_empty (nil : P []) {disk : Disk} (opened : openFile disk = .ok s) (empty : s.namespaces = []) :
    s.Throughout P := by
  refine of_openFile opened fun stored read => ?_
  obtain ⟨_, here, given⟩ := except_bind_eq_ok.mp opened
  cases here.symm.trans read
  cases given
  rwa [show stored.getD [] = [] from empty]

theorem inMemory (h : s.Throughout P) : (Store.inMemory s.namespaces).Throughout P :=
  ⟨⟨rfl, h.outermost.distinct⟩, h.memory, nofun⟩

/-- What fails to be written leaves the file with what it had before. -/
theorem filed {r : Except Fault α} (h : s.Throughout P) (filed : Filed r s t) (memory : P t.namespaces) :
    t.Throughout P := by
  refine ⟨filed.outermost, memory, fun disk there stored read => ?_⟩
  cases here : s.disk with
  | none =>
      rw [filed.unfiled here] at there
      contradiction
  | some before =>
      obtain ⟨after, same, failed, finished⟩ := filed.file before here
      cases there.symm.trans same
      cases r with
      | error fault => exact h.file before here stored ((failed fault rfl).symm.trans read)
      | ok a =>
          cases (finished a rfl).symm.trans read
          exact memory

end Throughout

end Store

namespace Lasting

open Store

variable {P : Namespaces → Prop} {Q : String → Nat → Namespaces → Prop} (lasting : Lasting σ P Q)

include lasting

theorem throughout_call {w : World σ} (h : w.store.Throughout P) (c : Rollback.Call) :
    (c.leave w).store.Throughout P := by
  have kept := lasting.call w c h.memory
  cases c with
  | update config runId recordedAt sample =>
      refine h.filed (Change.files_attempt (c := .judge config runId recordedAt sample) ?_ w h.outermost) kept
      intro q same
      cases same
  | reset =>
      refine h.filed (Change.files_attempt (c := .reset) ?_ w h.outermost) kept
      intro q same
      cases same

/-- What each change keeps holds wherever the run breaks off. -/
theorem throughout_within {w : World σ} (h : w.store.Throughout P) (p : Run.Plan σ) {done more : List (Moment σ)}
    (split : p.steps.journal w = done ++ more) : (w.store.following done).Throughout P := by
  have filed := Change.files_attempt (c := .number) (fun q same => nomatch same) w h.outermost
  refine p.holds_at (I := fun _ s => s.Throughout P)
    (R := fun runId low _ s => s.Throughout P ∧ Q runId low s.namespaces) h ?_ ?_ ?_ ?_ split
  · exact fun _ _ _ => h.filed filed (lasting.number w h.memory)
  · intro runId v named
    exact ⟨h.filed filed (lasting.number w h.memory), lasting.named w runId v h.memory named⟩
  · intro runId low _ m own numbered due held
    have next := lasting.change p runId low m own numbered due held.2
    refine ⟨held.1.filed (Change.files_attempt ?_ m.before held.1.outermost) (lasting.stop _ _ _ next), next⟩
    intro q same
    rw [same] at own
    exact own.distinct
  · exact fun _ _ _ _ held => held.1

theorem throughout_event {w : World σ} (h : w.store.Throughout P) (event : Event σ) :
    (event.leave w).store.Throughout P := by
  cases event with
  | call c => exact lasting.throughout_call h c
  | run p =>
      have ends := (p.steps.linked_journal w).2
      rw [p.attempt_steps] at ends
      exact ends ▸ lasting.throughout_within h p (List.append_nil _).symm

end Lasting

namespace Store

variable {P : Namespaces → Prop} {Q : String → Nat → Namespaces → Prop}

mutual

theorem Opened.throughout (lasting : Lasting σ P Q) : ∀ {s : Store}, Opened σ s → s.Throughout P
  | _, .memory => ⟨⟨rfl, Json.distinct_empty⟩, lasting.nil, nofun⟩
  | _, .file opened empty => .of_empty lasting.nil opened empty
  | _, .handed before => (before.throughout lasting).inMemory
  | _, .reopened before file opened => .of_openFile opened ((before.throughout lasting).file _ file)

theorem Reached.throughout (lasting : Lasting σ P Q) : ∀ {s : Store}, Reached σ s → s.Throughout P
  | _, .start opened => opened.throughout lasting
  | _, .event before event => lasting.throughout_event (before.throughout lasting) event
  | _, .within before plan changes =>
      lasting.throughout_within (before.throughout lasting) plan (List.take_append_drop changes _).symm

end

end Store

/-- The latch can be read. -/
def Namespaces.Latched (all : Namespaces) : Prop :=
  ∃ state, Rollback.stateIn (Fields.get? all Rollback.space) = .ok state

theorem Moment.latched_after {m : Moment σ} (latched : m.before.store.namespaces.Latched) :
    m.after.store.namespaces.Latched := by
  obtain ⟨state, held⟩ := latched
  obtain ⟨w, c⟩ := m
  cases c with
  | number =>
      have apart : Rollback.space ≠ Namespaces.sequences := by decide
      exact ⟨state, (congrArg Rollback.stateIn (Moment.shows_after ⟨w, .number⟩ apart)).trans held⟩
  | reset => exact ⟨_, Rollback.Call.latch_leave held .reset⟩
  | judge config runId recordedAt sample =>
      exact ⟨_, Rollback.Call.latch_leave held (.update config runId recordedAt sample)⟩
  | put q =>
      have apart := q.shelf.space_ne_rollback.symm
      exact ⟨state, (congrArg Rollback.stateIn (Moment.shows_after ⟨w, .put q⟩ apart)).trans held⟩

theorem lasting_latched : Lasting σ Namespaces.Latched fun _ _ => Namespaces.Latched where
  nil := ⟨.clear, rfl⟩
  number := fun w latched => Moment.latched_after (m := ⟨w, .number⟩) latched
  named := fun w _ _ latched _ => Moment.latched_after (m := ⟨w, .number⟩) latched
  change := fun _ _ _ _ _ _ _ latched => Moment.latched_after latched
  stop := fun _ _ _ latched => latched
  call := by
    rintro w c ⟨state, held⟩
    exact ⟨_, Rollback.Call.latch_leave held c⟩

end CanaryGate
