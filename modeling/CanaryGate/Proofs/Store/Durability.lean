import CanaryGate.Proofs.Store.Program

/-! # What a step leaves in the file

An outermost step that finishes leaves its whole state in the file, and one that fails leaves the file as it was.
The memory is another matter: it shows what the step has put there, failed or not, and the next step that finishes
writes all of it.
-/

namespace CanaryGate

open Attempt

namespace Store

variable {σ α : Type} {s t : Store}

/-! The commit. -/

theorem depth_commit (s : Store) : s.commit.2.depth = s.depth := (commit_keeps s).2

theorem namespaces_commit (s : Store) : s.commit.2.namespaces = s.namespaces := (commit_keeps s).1

/-- A commit neither moves the file nor leaves a temporary one. -/
theorem surroundings_commit (s : Store) : s.commit.2.disk.map Disk.path = s.disk.map Disk.path
    ∧ s.commit.2.disk.map Disk.temporaries = s.disk.map Disk.temporaries := by
  unfold commit
  split
  · cases file : s.disk with
    | none => simp only [file, Option.map_none, and_self]
    | some disk => exact ⟨congrArg some (Disk.path_write disk _), congrArg some (Disk.temporaries_write disk _)⟩
  · exact ⟨rfl, rfl⟩

/-- A commit that fails leaves the file as it was. -/
theorem entry_commit_error {fault : Fault} (failed : s.commit.1 = .error fault) :
    s.commit.2.disk.map Disk.entry = s.disk.map Disk.entry := by
  unfold commit at failed ⊢
  split at failed
  · rename_i outermost
    rw [if_pos outermost]
    cases file : s.disk with
    | none => simp only [file, Option.map_none]
    | some disk =>
        rw [file] at failed
        exact congrArg some (Disk.entry_write_error failed)
  · cases failed

/-- What an outermost transaction makes of a store: if it finishes, the file holds what is in memory, and if it
fails, what it held before. -/
structure Filed (r : Except Fault α) (s t : Store) : Prop where
  outermost : t.Outermost
  file : ∀ before, s.disk = some before → ∃ after, t.disk = some after
    ∧ (∀ fault, r = .error fault → after.read = before.read) ∧ ∀ a, r = .ok a → after.read = .ok (some t.namespaces)
  unfiled : s.disk = none → t.disk = none

theorem filed_commit (outermost : s.Outermost) : Filed s.commit.1 s s.commit.2 where
  outermost := ⟨(depth_commit s).trans outermost.closed, (namespaces_commit s).symm ▸ outermost.distinct⟩
  file := by
    intro before file
    have place := (surroundings_commit s).1
    rw [file] at place
    obtain ⟨after, there, path⟩ := Option.map_eq_some_iff.mp place
    refine ⟨after, there, ?_, ?_⟩
    · intro fault failed
      have entry := entry_commit_error failed
      rw [there, file] at entry
      exact Disk.read_congr path (Option.some.inj entry)
    · intro _ committed
      obtain ⟨written, here, read⟩ := read_of_commit file outermost.closed outermost.distinct committed
      rw [there] at here
      rw [Option.some.inj here, read, namespaces_commit]
  unfiled := by
    intro none
    have place := (surroundings_commit s).1
    rw [none] at place
    exact Option.map_eq_none_iff.mp place

theorem filed_transaction {p : Part σ Store} (lawful : p.Lawful) {body : Attempt σ α}
    (inside : ∀ disk, Keeps (fun w => Inside disk 0 (p.view w)) body) {w : σ} (outermost : (p.view w).Outermost) :
    Filed ((transaction p body).outcome w).1 (p.view w) (p.view ((transaction p body).outcome w).2) := by
  have shown : ∀ v store, p.view (p.put v store) = store := lawful
  have entered : Inside (p.view w).disk 0 (p.view (p.put w (p.view w).enter)) := by
    rw [shown]
    exact outermost.entered
  have left := inside _ _ entered
  rcases ran : body.outcome (p.put w (p.view w).enter) with ⟨r, v⟩
  rw [ran] at left
  have leaving := leave_of_inside outermost left
  have still : ((p.view w).holding (p.view v).namespaces).Outermost := ⟨outermost.closed, left.distinct⟩
  cases r with
  | error fault =>
      rw [transaction_of_error ran, shown, leaving]
      exact ⟨still, fun before file => ⟨before, file, fun _ _ => rfl, nofun⟩, id⟩
  | ok a =>
      rw [transaction_of_ok ran rfl, shown, leaving]
      simp only [shown]
      obtain ⟨after, file, unfiled⟩ := filed_commit still
      refine ⟨after, fun before here => ?_, unfiled⟩
      obtain ⟨after, there, failed, committed⟩ := file before here
      cases answer : ((p.view w).holding (p.view v).namespaces).commit.1 with
      | error fault => exact ⟨after, there, fun _ _ => failed fault answer, nofun⟩
      | ok _ => exact ⟨after, there, nofun, fun _ _ => committed () answer⟩

/-! Steps. -/

namespace Step

/-- The namespaces as the step leaves them inside of its transaction, however it ends. -/
def left (step : Step) (s : Store) : Namespaces := (step.body.outcome s.enter).2.namespaces

theorem distinct_left (step : Step) (h : s.Outermost) : (Json.obj (step.left s)).Distinct :=
  (step.inside_body s.enter h.entered).distinct

/-- A step has failed in its body, or it ends as the commit of what it has left. -/
theorem outcome_cases (step : Step) (h : s.Outermost) :
    (∃ fault, step.attempt.outcome s = (.error fault, s.holding (step.left s)))
      ∨ ∃ answer, step.attempt.outcome s = ((s.holding (step.left s)).commit.1.map fun _ => answer,
          (s.holding (step.left s)).commit.2) := by
  unfold left
  rw [step.attempt_eq, outcome_outermost h step.inside_body]
  rcases step.body.outcome s.enter with ⟨r, t⟩
  cases r with
  | error fault => exact .inl ⟨fault, rfl⟩
  | ok answer => exact .inr ⟨answer, rfl⟩

theorem outcome_error (step : Step) (h : s.Outermost) {fault : Fault}
    (failed : step.attempt.outcome s = (.error fault, t)) :
    t.namespaces = step.left s ∧ t.disk.map Disk.entry = s.disk.map Disk.entry := by
  rcases step.outcome_cases h with ⟨_, broken⟩ | ⟨answer, committed⟩
  · rw [broken] at failed
    cases failed
    exact ⟨rfl, rfl⟩
  · rw [committed] at failed
    obtain ⟨refused, rfl⟩ := Prod.mk.inj failed
    refine ⟨namespaces_commit _, ?_⟩
    cases ran : (s.holding (step.left s)).commit.1 with
    | error other => exact entry_commit_error ran
    | ok _ =>
        rw [ran] at refused
        cases refused

theorem outcome_ok (step : Step) (h : s.Outermost) {answer : Json}
    (finished : step.attempt.outcome s = (.ok answer, t)) :
    t.namespaces = step.left s ∧ ∀ disk, t.disk = some disk → disk.read = .ok (some (step.left s)) := by
  rcases step.outcome_cases h with ⟨_, broken⟩ | ⟨_, committed⟩
  · rw [broken] at finished
    cases congrArg Prod.fst finished
  · rw [committed] at finished
    obtain ⟨given, rfl⟩ := Prod.mk.inj finished
    refine ⟨namespaces_commit _, fun disk here => ?_⟩
    have ran : (s.holding (step.left s)).commit.1 = .ok () := by
      cases ran : (s.holding (step.left s)).commit.1 with
      | error fault =>
          rw [ran] at given
          cases given
      | ok _ => rfl
    cases file : s.disk with
    | none =>
        have place := (surroundings_commit (s.holding (step.left s))).1
        rw [here, holding, file] at place
        cases place
    | some before =>
        obtain ⟨after, there, read⟩ :=
          read_of_commit (s := s.holding (step.left s)) file h.closed (step.distinct_left h) ran
        rw [here] at there
        cases there
        exact read

theorem surroundings_after (step : Step) (h : s.Outermost) : (step.after s).disk.map Disk.path = s.disk.map Disk.path
    ∧ (step.after s).disk.map Disk.temporaries = s.disk.map Disk.temporaries := by
  unfold after
  rcases step.outcome_cases h with ⟨_, broken⟩ | ⟨_, committed⟩
  · rw [broken]
    exact ⟨rfl, rfl⟩
  · rw [committed]
    exact surroundings_commit _

theorem outermost_after (step : Step) (h : s.Outermost) : (step.after s).Outermost := by
  unfold after
  rcases step.outcome_cases h with ⟨_, broken⟩ | ⟨_, committed⟩
  · rw [broken]
    exact ⟨h.closed, step.distinct_left h⟩
  · rw [committed]
    refine ⟨(depth_commit _).trans h.closed, ?_⟩
    rw [namespaces_commit]
    exact step.distinct_left h

/-- What a step does to the file of its store. -/
structure Durable (step : Step) (s : Store) : Prop where
  /-- The file holds exactly what is in memory, if the step finishes. -/
  written : ∀ answer t, step.attempt.outcome s = (.ok answer, t) →
    ∃ disk, t.disk = some disk ∧ disk.read = .ok (some t.namespaces)
  /-- What stands at the path stays, if the step fails. -/
  kept : ∀ fault t, step.attempt.outcome s = (.error fault, t) → t.disk.map Disk.entry = s.disk.map Disk.entry
  /-- No temporary file is left. -/
  clean : (step.after s).disk.map Disk.temporaries = s.disk.map Disk.temporaries
  /-- The path is the same. -/
  place : (step.after s).disk.map Disk.path = s.disk.map Disk.path
  /-- No transaction is left open, so that the next step commits again. -/
  closed : (step.after s).depth = 0
  /-- Nothing is written as long as the transaction of the step is open. -/
  quiet : ∀ moment ∈ step.moments s, moment.disk = s.disk ∧ moment.depth ≠ 0

theorem durable_of_outermost (step : Step) (h : s.Outermost) {disk : Disk} (file : s.disk = some disk) :
    step.Durable s where
  written := by
    intro answer t finished
    obtain ⟨memory, read⟩ := step.outcome_ok h finished
    have place := (step.surroundings_after h).1
    rw [after, finished, file] at place
    obtain ⟨there, here, -⟩ := Option.map_eq_some_iff.mp place
    refine ⟨there, here, ?_⟩
    rw [memory]
    exact read there here
  kept := fun _ _ failed => (step.outcome_error h failed).2
  clean := (step.surroundings_after h).2
  place := (step.surroundings_after h).1
  closed := (step.outermost_after h).closed
  quiet := by
    intro moment member
    obtain ⟨deeper, inside⟩ := step.inside_moments h moment member
    exact ⟨inside.file, by rw [inside.opened]; exact Nat.succ_ne_zero deeper⟩

end Step

theorem outermost_of_openFile {disk : Disk} (opened : openFile disk = .ok s) : s.Outermost ∧ s.disk = some disk := by
  unfold openFile at opened
  obtain ⟨state, read, given⟩ := except_bind_eq_ok.mp opened
  cases given
  cases state with
  | none => exact ⟨⟨rfl, Json.distinct_empty⟩, rfl⟩
  | some state => exact ⟨⟨rfl, Disk.distinct_of_read read⟩, rfl⟩

/-- The store after some steps, each of which may have failed. -/
def afterAll (steps : List Step) (s : Store) : Store := steps.foldl (fun s step => step.after s) s

theorem outermost_afterAll (steps : List Step) (h : s.Outermost) : (afterAll steps s).Outermost
    ∧ (afterAll steps s).disk.map Disk.path = s.disk.map Disk.path := by
  unfold afterAll
  induction steps generalizing s with
  | nil => exact ⟨h, rfl⟩
  | cons step rest ih =>
      obtain ⟨outermost, place⟩ := ih (step.outermost_after h)
      exact ⟨outermost, place.trans (step.surroundings_after h).1⟩

/-- Every step on a store that was opened from a file is durable, whatever steps came before it. -/
theorem durable_after_steps {disk : Disk} (opened : openFile disk = .ok s) (history : List Step) (step : Step) :
    step.Durable (afterAll history s) := by
  obtain ⟨outermost, file⟩ := outermost_of_openFile opened
  obtain ⟨still, place⟩ := outermost_afterAll history outermost
  rw [file] at place
  obtain ⟨there, here, -⟩ := Option.map_eq_some_iff.mp place
  exact step.durable_of_outermost still here

/-- A transaction that puts a value and is broken off. -/
def brokenOff : Step :=
  .transact (.operate (.set "n" "a" (.int 2) (.int 2)) fun _ => .raise (.interrupted "boom"))

/-- A step on another namespace. -/
def elsewhere : Step := .operate (.set "m" "b" (.int 3) (.int 3))

/-- A store whose file is still to be made. -/
def fresh : Store := ⟨[], 0, some ⟨"state.json", .absent, []⟩⟩

theorem durable_after_brokenOff : openFile ⟨"state.json", .absent, []⟩ = .ok fresh
    ∧ elsewhere.Durable (afterAll [brokenOff] fresh) :=
  ⟨rfl, durable_after_steps (rfl : openFile ⟨"state.json", .absent, []⟩ = .ok fresh) [brokenOff] elsewhere⟩

/-! What stays in memory. -/

/-- What a step that failed leaves behind. -/
structure Step.Remains (step : Step) (s t : Store) : Prop where
  /-- Nothing is taken back in memory. -/
  memory : t.namespaces = step.left s
  /-- Entries and values are as before where the step itself has left them so. -/
  asBefore : ∀ space, t.namespaces.items space = s.namespaces.items space
    ↔ (step.left s).items space = s.namespaces.items space
  /-- The file is as before. -/
  file : t.disk.map Disk.entry = s.disk.map Disk.entry
  /-- The next step that finishes writes all that is in memory, and so what the failed one has left in every
  namespace that is not touched again. -/
  later : ∀ (next : Step) answer u, next.attempt.outcome t = (.ok answer, u) →
    (∀ disk, u.disk = some disk → disk.read = .ok (some u.namespaces))
      ∧ ∀ space, Leaves (shows space) next.attempt → u.shows space = Fields.get? (step.left s) space

/-- A step that fails, on any store, is not undone: neither in memory nor for the steps to come. -/
theorem remains_of_failed (outermost : s.Outermost) (step : Step) {fault : Fault}
    (failed : step.attempt.outcome s = (.error fault, t)) : step.Remains s t where
  memory := (step.outcome_error outermost failed).1
  asBefore := by
    intro space
    rw [(step.outcome_error outermost failed).1]
  file := (step.outcome_error outermost failed).2
  later := by
    intro next answer u finished
    have still : t.Outermost := by
      have kept := step.outermost_after outermost
      rwa [Step.after, failed] at kept
    obtain ⟨memory, read⟩ := next.outcome_ok still finished
    refine ⟨fun disk here => ?_, fun space untouched => ?_⟩
    · rw [memory]
      exact read disk here
    · rw [untouched.of_eq finished, shows, (step.outcome_error outermost failed).1]

/-- What is in memory after the transaction was broken off. -/
def spoiled : Store := fresh.holding [("n", .obj [("a", .int 2)])]

theorem outcome_brokenOff : brokenOff.attempt.outcome fresh = (.error (.interrupted "boom"), spoiled) := rfl

theorem remains_of_brokenOff : brokenOff.Remains fresh spoiled :=
  remains_of_failed ⟨rfl, Json.distinct_empty⟩ brokenOff outcome_brokenOff

theorem committable_spoiled : spoiled.Committable := by
  intro disk here
  cases here
  refine ⟨⟨nofun, nofun⟩, Json.within_obj.mpr ?_⟩
  simp only [spoiled, holding, List.forall_mem_singleton]
  refine Json.within_obj.mpr ?_
  simp only [List.forall_mem_singleton, Json.within_int]
  exact Json.writable_digit (by decide)

/-- The value that was put is shown, and a step on another namespace brings it into the file. -/
theorem brokenOff_is_written : ∃ u disk, brokenOff.attempt.outcome fresh = (.error (.interrupted "boom"), spoiled)
    ∧ fresh.namespaces.find? "n" "a" = .ok none ∧ spoiled.namespaces.find? "n" "a" = .ok (some (.int 2))
    ∧ elsewhere.attempt.outcome spoiled = (.ok .null, u) ∧ u.disk = some disk
    ∧ disk.read = .ok (some [("n", .obj [("a", .int 2)]), ("m", .obj [("b", .int 3)])]) := by
  have outermost : spoiled.Outermost := ⟨rfl, by simp [spoiled, holding, Fields.names]⟩
  have short : Json.Within (Json.depthLimit - 2) (.int 3) := Json.within_int.mpr (Json.writable_digit (by decide))
  obtain ⟨u, put, -⟩ := set_finishes committable_spoiled (rfl : spoiled.namespaces.entriesOf "m" = .obj []) "b" short
  have finished : elsewhere.attempt.outcome spoiled = (.ok .null, u) := outcome_bind_of_ok put
  obtain ⟨memory, read⟩ := elsewhere.outcome_ok outermost finished
  obtain ⟨disk, here⟩ : ∃ disk, u.disk = some disk := by
    have place := (elsewhere.surroundings_after outermost).1
    rw [Step.after, finished] at place
    obtain ⟨disk, here, -⟩ := Option.map_eq_some_iff.mp place
    exact ⟨disk, here⟩
  exact ⟨u, disk, outcome_brokenOff, rfl, rfl, finished, here, read disk here⟩

end Store

end CanaryGate
