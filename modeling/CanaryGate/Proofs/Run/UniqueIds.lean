import CanaryGate.Proofs.Run.Restart
import CanaryGate.Proofs.Run.RunIds

/-! # Ids are never used again

A run gets its id only when the counter has been written, so the file counts every run whose id was issued. What is
in memory beyond that is lost when the process is killed, and nothing else is: the next process goes on counting
from the file. `Store.Held` says so of one store, and is kept by each change, however it ends.
-/

namespace CanaryGate

open Attempt

variable {σ : Type}

/-- What happens to a service. -/
inductive Episode (σ : Type) where
  | run (plan : Run.Plan σ)
  /-- The process is killed in a run, once so many changes were made, and a new one is started on the file. -/
  | killed (plan : Run.Plan σ) (changes : Nat) (engines : σ)

/-- The changes that were made, and the world in the end. It breaks off if the file cannot be opened. -/
def World.past (w : World σ) : List (Episode σ) → Except Fault (List (Moment σ) × World σ)
  | [] => .ok ([], w)
  | .run p :: rest => do
    let (moments, last) ← (p.attempt.outcome w).2.past rest
    return (p.steps.journal w ++ moments, last)
  | .killed p changes engines :: rest => do
    let made := (p.steps.journal w).take changes
    let store ← (w.store.following made).reopen
    let (moments, last) ← past ⟨store, .zero, [], engines⟩ rest
    return (made ++ moments, last)

/-- The id that a run has got by the change. -/
def Moment.issued? (m : Moment σ) : Option String :=
  match m.change with
  | .number => (Run.nextId.outcome m.before).1.toOption
  | _ => none

namespace Store

/-- The ids up to the number `issued` have been issued, and `count` runs are numbered in memory. -/
structure Held (s : Store) (issued count : Int) : Prop where
  outermost : s.Outermost
  tidy : s.namespaces.Tidy count
  file : ∃ disk stored filed, s.disk = some disk ∧ disk.read = .ok stored ∧ (stored.getD []).Tidy filed
    ∧ issued ≤ filed ∧ filed ≤ count

namespace Held

variable {s t : Store} {issued count more : Int} {α : Type}

theorem of_openFile {disk : Disk} (opened : openFile disk = .ok s) (empty : s.namespaces = []) : s.Held 0 0 := by
  obtain ⟨outermost, file⟩ := outermost_of_openFile opened
  unfold openFile at opened
  obtain ⟨stored, read, given⟩ := except_bind_eq_ok.mp opened
  cases given
  have nothing : stored.getD [] = [] := empty
  have tidy : (stored.getD []).Tidy 0 := by
    rw [nothing]
    exact Namespaces.tidy_nil
  exact ⟨outermost, tidy, disk, stored, 0, rfl, read, tidy, Int.le_refl 0, Int.le_refl 0⟩

/-- A process that is started on the file has all ids that were issued behind it. -/
theorem reopen (held : s.Held issued count) : ∃ s' filed, s.reopen = .ok s' ∧ s'.Held issued filed := by
  obtain ⟨disk, stored, filed, here, read, tidy, counted, -⟩ := held.file
  have opened : openFile disk = .ok ⟨stored.getD [], 0, some disk⟩ := by
    unfold openFile
    rw [read]
    rfl
  refine ⟨_, filed, ?_, (outermost_of_openFile opened).1, tidy, ?_⟩
  · unfold Store.reopen
    rw [here]
    exact opened
  · exact ⟨disk, stored, filed, rfl, read, tidy, counted, Int.le_refl filed⟩

/-- A transaction may fail to be written: then the file has what it had before. -/
theorem filed {r : Except Fault α} (held : s.Held issued count) (written : Filed r s t) (tidy : t.namespaces.Tidy more)
    (grown : count ≤ more) : t.Held issued more := by
  obtain ⟨disk, stored, filed, here, read, old, counted, behind⟩ := held.file
  obtain ⟨after, there, failed, finished⟩ := written.file disk here
  refine ⟨written.outermost, tidy, ?_⟩
  cases r with
  | error fault =>
      rw [← failed fault rfl] at read
      exact ⟨after, stored, filed, there, read, old, counted, Int.le_trans behind grown⟩
  | ok a =>
      exact ⟨after, some t.namespaces, more, there, finished a rfl, tidy,
        Int.le_trans counted (Int.le_trans behind grown), Int.le_refl more⟩

/-- A transaction that finished is in the file, and all runs that it counts are. -/
theorem written {a : α} (held : s.Held issued count) (written : Filed (.ok a) s t) (tidy : t.namespaces.Tidy more) :
    t.Held more more := by
  obtain ⟨disk, -, -, here, -⟩ := held.file
  obtain ⟨after, there, -, finished⟩ := written.file disk here
  exact ⟨written.outermost, tidy, after, some t.namespaces, more, there, finished a rfl, tidy, Int.le_refl more,
    Int.le_refl more⟩

/-- No run that the file names is ahead of its counter. -/
theorem known_of_read (held : s.Held issued count) {file : Disk} {all : Namespaces} (here : s.disk = some file)
    (read : file.read = .ok (some all)) : ∃ filed, all.Counts filed ∧ ∀ id, all.Names id → Run.Known filed id := by
  obtain ⟨disk, stored, filed, there, shown, tidy, -⟩ := held.file
  cases here.symm.trans there
  cases read.symm.trans shown
  exact ⟨filed, tidy.counts, fun id named => tidy.known named⟩

end Held

end Store

/-- An outermost attempt is one transaction on the store. -/
def World.Files {α : Type} (a : Attempt (World σ) α) : Prop := ∀ w : World σ, w.store.Outermost →
  Store.Filed (a.outcome w).1 w.store (a.outcome w).2.store

namespace World.Files

variable {α β : Type}

theorem onStore {a : Attempt Store α} (files : ∀ s, s.Outermost → Store.Filed (a.outcome s).1 s (a.outcome s).2) :
    Files (World.onStore a : Attempt (World σ) α) := fun w outermost => files w.store outermost

theorem transaction {rest : RollbackState → Attempt (World σ) α} (after : RollbackState → RollbackState)
    (answer : RollbackState → α)
    (saves : ∀ state, rest state = Rollback.save (after state) >>= fun _ => pure (answer state)) :
    Files (Store.transaction World.storePart (Rollback.load >>= rest)) := fun _ outermost =>
  Store.filed_transaction World.lawful_storePart (fun _ => Rollback.inside_saving after answer saves) outermost

theorem bind {a : Attempt (World σ) α} {f : α → Attempt (World σ) β} (files : Files a)
    (leaves : ∀ x, Leaves World.store (f x)) (finishes : ∀ x v, Finishes (f x) v) : Files (a >>= f) := by
  intro w outermost
  have filed := files w outermost
  rw [outcome_bind]
  rcases ran : a.outcome w with ⟨r, v⟩
  rw [ran] at filed
  obtain ⟨closed, file, unfiled⟩ := filed
  cases r with
  | error fault =>
      refine ⟨closed, fun before here => ?_, unfiled⟩
      obtain ⟨after, there, failed, -⟩ := file before here
      exact ⟨after, there, fun _ _ => failed fault rfl, nofun⟩
  | ok x =>
      have same := leaves x v
      obtain ⟨y, finished⟩ := finishes x v
      dsimp only
      rw [same, finished]
      refine ⟨closed, fun before here => ?_, unfiled⟩
      obtain ⟨after, there, -, written⟩ := file before here
      exact ⟨after, there, nofun, fun _ _ => written x rfl⟩

end World.Files

theorem Change.files_attempt {c : Change} (proper : ∀ q, c = .put q → q.value.Distinct) :
    World.Files (c.attempt : Attempt (World σ) _) := by
  cases c with
  | number =>
      have inside : ∀ disk, Keeps (Store.Inside disk 0) (Store.onNamespaces fun all => all.advance Run.counter) :=
        fun _ => Store.inside_onNamespaces fun _ h => Namespaces.distinct_advance h Run.counter
      exact .onStore fun _ outermost => Store.filed_transaction (p := .self) Part.lawful_self inside outermost
  | reset =>
      exact .bind (.transaction (fun _ => .clear) (fun _ => ()) fun _ => (bind_pure _).symm) (fun _ => .pure _)
        fun _ => finishes_pure _
  | judge config runId recordedAt sample =>
      refine .bind (.transaction _ _ (Rollback.judge_eq config runId recordedAt sample)) Rollback.leaves_announce ?_
      intro found v
      obtain ⟨v', announced, -⟩ := Rollback.outcome_announce found v
      exact ⟨_, congrArg Prod.fst announced⟩
  | put q =>
      have inside : ∀ disk, Keeps (Store.Inside disk 0)
          (Store.set q.shelf.space q.runId q.value >>= fun _ => Store.prune q.shelf.space q.limit) := fun _ =>
        (Store.inside_set _ _ (proper q rfl)).bind fun _ => Store.inside_prune _ _
      exact .onStore fun _ outermost => Store.filed_transaction (p := .self) Part.lawful_self inside outermost

theorem Moment.issued?_of_later {m : Moment σ} (later : 1 ≤ m.change.stage) : m.issued? = none := by
  obtain ⟨w, c⟩ := m
  cases c with
  | number => exact absurd later (Nat.not_succ_le_zero 0)
  | reset | judge | put => rfl

namespace Store.Held

variable {w : World σ} {m : Moment σ} {p : Run.Plan σ} {issued count : Int}

theorem files_number (held : w.store.Held issued count) :
    Filed ((Change.number.attempt : Attempt (World σ) Int).outcome w).1 w.store (Moment.after ⟨w, .number⟩).store := by
  refine Change.files_attempt (c := .number) ?_ w held.outermost
  intro q same
  cases same

theorem number_refused {fault : Fault} {v : World σ} (held : w.store.Held issued count)
    (refused : Run.nextId.outcome w = (.error fault, v)) :
    (Moment.mk w .number).issued? = none ∧ (Moment.after ⟨w, .number⟩).store.Held issued (count + 1) := by
  refine ⟨?_, held.filed held.files_number (Moment.tidy_number held.tidy) (by omega)⟩
  rw [Moment.issued?, refused]
  rfl

/-- A run that gets an id gets the next one, and the file counts it. -/
theorem number_issued {runId : String} {v : World σ} (held : w.store.Held issued count)
    (named : Run.nextId.outcome w = (.ok runId, v)) :
    runId = Run.idOf (count + 1) ∧ (Moment.mk w .number).issued? = some (Run.idOf (count + 1)) ∧ issued < count + 1
      ∧ (Moment.after ⟨w, .number⟩).store.Held (count + 1) (count + 1) := by
  obtain rfl := Run.nextId_of_counts held.tidy.counts named
  obtain ⟨n, u, counted, -⟩ := bind_eq_ok.mp named
  have finished : (Change.number.attempt : Attempt (World σ) Int).outcome w = (.ok n, u) := counted
  have filed := held.files_number
  rw [finished] at filed
  obtain ⟨_, _, _, -, -, -, written, behind⟩ := held.file
  refine ⟨rfl, ?_, by omega, held.written filed (Moment.tidy_number held.tidy)⟩
  rw [Moment.issued?, named]
  rfl

theorem change (held : m.before.store.Held issued count) (own : m.change.By p (Run.idOf count))
    (later : 1 ≤ m.change.stage) : m.after.store.Held issued count := by
  have proper : ∀ q, m.change = .put q → q.value.Distinct := by
    intro q same
    rw [same] at own
    exact own.distinct
  exact held.filed (Change.files_attempt proper m.before held.outermost)
    (Moment.tidy_change held.tidy own (Int.le_refl count) later) (Int.le_refl count)

end Store.Held

/-- Ids are issued one after the other, with numbers beyond `low`, and each change leaves a store that holds them. -/
inductive Chronicle : Int → List (Moment σ) → Int → Prop where
  | nil (low : Int) : Chronicle low [] low
  | silent {low high : Int} {m : Moment σ} {rest : List (Moment σ)} (unissued : m.issued? = none)
      (held : ∃ count, m.after.store.Held low count) (later : Chronicle low rest high) : Chronicle low (m :: rest) high
  | issue {low number high : Int} {m : Moment σ} {rest : List (Moment σ)} (issued : m.issued? = some (Run.idOf number))
      (new : low < number) (held : ∃ count, m.after.store.Held number count) (later : Chronicle number rest high) :
      Chronicle low (m :: rest) high

namespace Chronicle

variable {low mid high issued count : Int} {done more moments : List (Moment σ)}

theorem append (first : Chronicle low done mid) (second : Chronicle mid more high) : Chronicle low (done ++ more) high := by
  induction first with
  | nil low => exact second
  | silent unissued held later ih => exact .silent unissued held (ih second)
  | issue issued new held later ih => exact .issue issued new held (ih second)

theorem numbers (h : Chronicle low moments high) : ∃ numbers : List Int,
    moments.filterMap Moment.issued? = numbers.map Run.idOf ∧ (∀ n ∈ numbers, low < n) ∧ numbers.Pairwise (· < ·) := by
  induction h with
  | nil low => exact ⟨[], rfl, nofun, .nil⟩
  | silent unissued held later ih => rwa [List.filterMap_cons_none unissued]
  | issue issued new held later ih =>
      rename_i low number high m rest
      obtain ⟨numbers, named, beyond, increasing⟩ := ih
      refine ⟨number :: numbers, ?_, ?_, increasing.cons beyond⟩
      · rw [List.filterMap_cons_some issued, named]
        rfl
      · intro n member
        rcases List.mem_cons.mp member with rfl | member
        · exact new
        · exact Int.lt_trans new (beyond n member)

theorem held (h : Chronicle low moments high) : ∀ m ∈ moments, ∃ issued count, m.after.store.Held issued count := by
  induction h with
  | nil low =>
      intro m member
      cases member
  | silent unissued held later ih | issue issued new held later ih =>
      intro m member
      rcases List.mem_cons.mp member with rfl | there
      · exact ⟨_, held⟩
      · exact ih m there

theorem of_run {w : World σ} (held : w.store.Held issued count) (p : Run.Plan σ)
    (split : p.steps.journal w = done ++ more) : ∃ issued' count', Chronicle issued done issued'
      ∧ (w.store.following done).Held issued' count' := by
  refine p.holds_at (I := fun done s => ∃ issued' count', Chronicle issued done issued' ∧ s.Held issued' count')
    (R := fun runId _ done s => runId = Run.idOf (count + 1)
      ∧ ∃ issued', Chronicle issued done issued' ∧ s.Held issued' (count + 1)) ?_ ?_ ?_ ?_ ?_ split
  · exact ⟨issued, count, .nil issued, held⟩
  · intro fault v refused
    obtain ⟨unissued, left⟩ := held.number_refused refused
    exact ⟨issued, count + 1, .silent unissued ⟨_, left⟩ (.nil issued), left⟩
  · intro runId v named
    obtain ⟨rfl, got, new, left⟩ := held.number_issued named
    exact ⟨rfl, count + 1, .issue got new ⟨_, left⟩ (.nil _), left⟩
  · rintro _ _ done m own numbered - ⟨rfl, issued', chronicle, left⟩
    have next := left.change own numbered
    exact ⟨rfl, issued', chronicle.append (.silent (Moment.issued?_of_later numbered) ⟨_, next⟩ (.nil issued')), next⟩
  · exact fun _ _ _ _ goes => goes.2.imp fun issued' rest => ⟨count + 1, rest⟩

end Chronicle

namespace World

theorem chronicle_past {w : World σ} {issued count : Int} (held : w.store.Held issued count)
    (history : List (Episode σ)) :
    ∃ moments last high, w.past history = .ok (moments, last) ∧ Chronicle issued moments high := by
  induction history generalizing w issued count with
  | nil => exact ⟨[], w, issued, rfl, .nil issued⟩
  | cons episode rest ih =>
      cases episode with
      | run p =>
          obtain ⟨_, _, first, ends⟩ := Chronicle.of_run held p (List.append_nil _).symm
          rw [(p.steps.linked_journal w).2, p.attempt_steps] at ends
          obtain ⟨moments, last, high, went, later⟩ := ih ends
          refine ⟨_, last, high, ?_, first.append later⟩
          rw [past, went]
          rfl
      | killed p changes engines =>
          obtain ⟨_, _, first, ends⟩ := Chronicle.of_run held p (List.take_append_drop changes _).symm
          obtain ⟨store, _, opened, again⟩ := ends.reopen
          obtain ⟨moments, last, high, went, later⟩ := ih (w := ⟨store, .zero, [], engines⟩) again
          refine ⟨_, last, high, ?_, first.append later⟩
          rw [past, opened]
          dsimp only [bind, Except.bind]
          rw [went]
          rfl

/-- Whatever runs are made on a file that was empty, and wherever they are killed: a new process can be started on
the file, ids are issued with larger and larger numbers, and no run that any version of the file names is ahead of
the counter in it. -/
theorem run_ids_never_reused {w : World σ} {disk : Disk} (opened : Store.openFile disk = .ok w.store)
    (empty : w.store.namespaces = []) (history : List (Episode σ)) :
    ∃ moments last, w.past history = .ok (moments, last)
      ∧ (∃ numbers : List Int, moments.filterMap Moment.issued? = numbers.map Run.idOf ∧ numbers.Pairwise (· < ·))
      ∧ (moments.filterMap Moment.issued?).Nodup
      ∧ ∀ m ∈ moments, ∀ file all, m.after.store.disk = some file → file.read = .ok (some all) →
        ∃ count, all.Counts count ∧ ∀ id, all.Names id → ∃ n, n ≤ count ∧ id = Run.idOf n := by
  obtain ⟨moments, last, _, went, chronicle⟩ := chronicle_past (Store.Held.of_openFile opened empty) history
  obtain ⟨numbers, named, -, increasing⟩ := chronicle.numbers
  refine ⟨moments, last, went, ⟨numbers, named, increasing⟩, ?_, ?_⟩
  · rw [named]
    exact (increasing.imp Int.ne_of_lt).map Run.idOf fun _ _ apart same => apart (Run.idOf_injective same)
  · intro m member file all here read
    obtain ⟨_, _, held⟩ := chronicle.held m member
    exact held.known_of_read here read

/-- A run fails, and the next one is killed once it has its id; the one after that is the third. -/
theorem run_ids_never_reused_after_kill :
    let matching : Engine Unit := ⟨"engine", fun _ s => (.ok (.obj [("matching", .obj [])]), s)⟩
    let served : Run.Plan Unit := ⟨⟨some matching, some matching, none⟩, ⟨2026, 3, 1, 12, 0, 0, 0⟩,
      ⟨.unknown, none, none, [], [], [], 50, none⟩,
      ⟨.default, { PrimaryConfig.default with enabled := true }, .default, .default, .default⟩, none⟩
    let history : List (Episode Unit) := [.run unserved, .killed served 1 (), .run served]
    Store.openFile ⟨"state.json", .absent, []⟩ = .ok unwritten.store ∧ unwritten.store.namespaces = []
      ∧ ∃ moments last, unwritten.past history = .ok (moments, last)
        ∧ moments.filterMap Moment.issued? = ["mrun_000001", "mrun_000002", "mrun_000003"]
        ∧ (moments.filterMap Moment.issued?).Nodup
        ∧ last.latch.toOption.map RollbackState.runIds = some ["mrun_000003"] := by
  intro matching served history
  have opened : Store.openFile ⟨"state.json", .absent, []⟩ = .ok unwritten.store := rfl
  obtain ⟨moments, last, went, -, distinct, -⟩ := run_ids_never_reused opened rfl history
  have told : (unwritten.past history).toOption.map
      (fun story => (story.1.filterMap Moment.issued?, story.2.latch.toOption.map RollbackState.runIds))
      = some (["mrun_000001", "mrun_000002", "mrun_000003"], some ["mrun_000003"]) := by decide +kernel
  rw [went] at told
  obtain ⟨issued, latched⟩ := Prod.mk.inj (Option.some.inj told)
  exact ⟨opened, rfl, moments, last, went, issued, distinct, latched⟩

end World

end CanaryGate
