import CanaryGate.Proofs.Rollback.Provenance
import CanaryGate.Proofs.Run.BoundedHistories
import CanaryGate.Proofs.Run.Openings

/-! # How long a record stands

On every store that a process gets to, the shelves hold records of runs that were numbered, so that the record of a
new run goes behind all others. There it stands as long as each limit since has left room for it and all that came
after it; once it had to make room it is gone for good, as its name is never used again.
-/

namespace CanaryGate

open Attempt

variable {σ : Type}

namespace Namespaces

/-- So many runs are numbered, and the shelves hold records of these. The last of them has put nothing yet on a shelf
whose stage is `low` or later. -/
structure Numbered (all : Namespaces) (count : Int) (low : Nat) : Prop where
  regular : all.Regular
  counts : all.Counts count
  known : ∀ (shelf : Shelf) entries, all.entriesOf shelf.space = .obj entries → ∀ name ∈ Fields.names entries,
    ∃ n, n ≤ count ∧ (low ≤ shelf.stage → n < count) ∧ name = Run.idOf n

theorem numbered_nil : Numbered [] 0 6 where
  regular := regular_nil
  counts := counts_nil
  known := by
    intro shelf entries here
    cases here
    exact nofun

namespace Numbered

variable {all : Namespaces} {count : Int} {low : Nat} {shelf : Shelf} {entries : Fields}

/-- The shelf does not know a run that is still to be numbered. -/
theorem unknown (h : all.Numbered count low) (here : all.entriesOf shelf.space = .obj entries) {n : Int}
    (later : count < n) : Run.idOf n ∉ Fields.names entries := by
  intro member
  obtain ⟨k, numbered, -, same⟩ := h.known shelf entries here _ member
  obtain rfl := Run.idOf_injective same
  omega

theorem fresh (h : all.Numbered count low) (due : low ≤ shelf.stage)
    (here : all.entriesOf shelf.space = .obj entries) : Run.idOf count ∉ Fields.names entries := by
  intro member
  obtain ⟨k, -, before, same⟩ := h.known shelf entries here _ member
  obtain rfl := Run.idOf_injective same
  exact Int.lt_irrefl _ (before due)

end Numbered

end Namespaces

namespace Moment

variable {count : Int} {low : Nat}

theorem numbered_number {w : World σ} (h : w.store.namespaces.Numbered count low) :
    (Moment.after ⟨w, .number⟩).store.namespaces.Numbered (count + 1) 1 where
  regular := Moment.regular_after _ h.regular
  counts := Moment.counts_number h.counts
  known := by
    intro shelf entries here name member
    rw [Moment.entriesOf_after (⟨w, .number⟩ : Moment σ) shelf.space_ne_sequences] at here
    obtain ⟨n, numbered, -, same⟩ := h.known shelf entries here name member
    exact ⟨n, by omega, fun _ => by omega, same⟩

/-- What is put on a shelf is known there, and nothing else is new. -/
theorem known_of_put {w : World σ} {q : Put} (h : w.store.namespaces.Numbered count low) (named : q.runId = Run.idOf count)
    {entries : Fields} (here : (Moment.after ⟨w, .put q⟩).store.namespaces.entriesOf q.shelf.space = .obj entries) :
    ∀ name ∈ Fields.names entries, ∃ n, n ≤ count ∧ name = Run.idOf n := by
  intro name member
  obtain ⟨old, before⟩ := h.regular q.shelf.space
  rw [Moment.namespaces_of_put h.regular, Namespaces.entriesOf_kept before] at here
  obtain ⟨entry, there, rfl⟩ := List.mem_map.mp member
  rw [← Json.obj.inj here] at there
  rcases Fields.of_mem_set (List.mem_of_mem_drop there) with rfl | there
  · exact ⟨count, Int.le_refl count, named⟩
  · obtain ⟨n, numbered, -, same⟩ := h.known q.shelf old before entry.1 (List.mem_map_of_mem there)
    exact ⟨n, numbered, same⟩

theorem numbered_change {p : Run.Plan σ} {m : Moment σ} (h : m.before.store.namespaces.Numbered count low)
    (own : m.change.By p (Run.idOf count)) (numbered : 1 ≤ m.change.stage) (due : low ≤ m.change.stage) :
    m.after.store.namespaces.Numbered count (m.change.stage + 1) where
  regular := m.regular_after h.regular
  counts := m.counts_after h.counts numbered
  known := by
    intro shelf entries here name member
    by_cases same : shelf.space = m.change.space
    · obtain ⟨q, put, rfl⟩ := Change.put_of_space same
      obtain ⟨w, c⟩ := m
      cases put
      obtain ⟨n, numbered, rfl⟩ := known_of_put h own.named here name member
      refine ⟨n, numbered, fun late => ?_, rfl⟩
      rw [Change.stage_put] at late
      exact absurd late (Nat.not_succ_le_self _)
    · rw [m.entriesOf_after same] at here
      obtain ⟨n, numbered, before, rfl⟩ := h.known shelf entries here name member
      exact ⟨n, numbered, fun later => before (by omega), rfl⟩

/-- A change of a run puts its record, if it is one, behind those that stand on the shelf. -/
theorem shelved_change {p : Run.Plan σ} {m : Moment σ} (h : m.before.store.namespaces.Numbered count low)
    (own : m.change.By p (Run.idOf count)) (due : low ≤ m.change.stage) {shelf : Shelf} {done : List (Moment σ)}
    {old : Fields} (stands : m.before.store.namespaces.entriesOf shelf.space = .obj ((shelf.puts done).foldl shelve old)) :
    m.after.store.namespaces.entriesOf shelf.space = .obj ((shelf.puts (done ++ [m])).foldl shelve old) := by
  rw [Shelf.puts_append, List.foldl_append]
  by_cases same : shelf.space = m.change.space
  · obtain ⟨q, put, rfl⟩ := Change.put_of_space same
    obtain ⟨v, c⟩ := m
    cases put
    have fresh : q.runId ∉ Fields.names ((q.shelf.puts done).foldl shelve old) := by
      rw [own.named]
      exact h.fresh (Change.stage_put q ▸ due) stands
    rw [Shelf.puts_singleton_put v rfl, Moment.namespaces_of_put h.regular]
    exact Namespaces.entriesOf_shelved stands fresh
  · rw [Shelf.puts_singleton_of_apart same, m.entriesOf_after same]
    exact stands

theorem numbered_latch {m : Moment σ} (h : m.before.store.namespaces.Numbered count low)
    (latch : m.change.space = Rollback.space) (numbered : 1 ≤ m.change.stage) :
    m.after.store.namespaces.Numbered count low where
  regular := m.regular_after h.regular
  counts := m.counts_after h.counts numbered
  known := by
    intro shelf entries here
    rw [m.entriesOf_after (latch ▸ shelf.space_ne_rollback)] at here
    exact h.known shelf entries here

end Moment

theorem Rollback.Call.numbered_leave {w : World σ} {count : Int} {low : Nat}
    (h : w.store.namespaces.Numbered count low) (c : Call) : (c.leave w).store.namespaces.Numbered count low := by
  cases c with
  | update config runId recordedAt sample =>
      exact Moment.numbered_latch (m := ⟨w, .judge config runId recordedAt sample⟩) h rfl (Nat.succ_pos _)
  | reset => exact Moment.numbered_latch (m := ⟨w, .reset⟩) h rfl (Nat.succ_pos _)

theorem lasting_numbered : Lasting σ (fun all => ∃ count low, all.Numbered count low)
    (fun runId low all => ∃ count, runId = Run.idOf count ∧ all.Numbered count low) where
  nil := ⟨0, 6, Namespaces.numbered_nil⟩
  number := by
    rintro w ⟨count, low, h⟩
    exact ⟨_, _, Moment.numbered_number h⟩
  named := by
    rintro w runId v ⟨count, low, h⟩ named
    exact ⟨count + 1, Run.nextId_of_counts h.counts named, Moment.numbered_number h⟩
  change := by
    rintro p _ low m own numbered due ⟨count, rfl, h⟩
    exact ⟨count, rfl, Moment.numbered_change h own numbered due⟩
  stop := by
    rintro _ low all ⟨count, -, h⟩
    exact ⟨count, low, h⟩
  call := by
    rintro w c ⟨count, low, h⟩
    exact ⟨count, low, c.numbered_leave h⟩

namespace Namespaces.Numbered

variable {w : World σ} {count : Int} {low : Nat}

/-- A run takes one number, and puts its records behind those that stand on the shelves. -/
theorem turn (h : w.store.namespaces.Numbered count low) (p : Run.Plan σ) (shelf : Shelf) {old : Fields}
    (here : w.store.namespaces.entriesOf shelf.space = .obj old) :
    (∃ low, (p.attempt.outcome w).2.store.namespaces.Numbered (count + 1) low)
      ∧ (p.attempt.outcome w).2.store.namespaces.entriesOf shelf.space
        = .obj ((shelf.puts (p.steps.journal w)).foldl shelve old) := by
  have numbered := Moment.numbered_number h
  have shown : (Moment.after ⟨w, .number⟩).store.namespaces.entriesOf shelf.space = .obj old := by
    rw [Moment.entriesOf_after (⟨w, .number⟩ : Moment σ) shelf.space_ne_sequences]
    exact here
  have first : shelf.puts [(⟨w, .number⟩ : Moment σ)] = [] := Shelf.puts_singleton_of_apart shelf.space_ne_sequences
  have ends := (p.steps.linked_journal w).2
  rw [p.attempt_steps] at ends
  rw [← ends]
  refine p.holds_at (I := fun done s => done ≠ [] → (∃ low, s.namespaces.Numbered (count + 1) low)
      ∧ s.namespaces.entriesOf shelf.space = .obj ((shelf.puts done).foldl shelve old))
    (R := fun runId low done s => runId = Run.idOf (count + 1) ∧ s.namespaces.Numbered (count + 1) low
      ∧ s.namespaces.entriesOf shelf.space = .obj ((shelf.puts done).foldl shelve old))
    ?_ ?_ ?_ ?_ ?_ (List.append_nil _).symm ?_
  · exact fun none => absurd rfl none
  · exact fun _ _ _ _ => ⟨⟨1, numbered⟩, by rw [first]; exact shown⟩
  · exact fun _ _ named => ⟨Run.nextId_of_counts h.counts named, numbered, by rw [first]; exact shown⟩
  · rintro _ low done m own later due ⟨rfl, held, stands⟩
    exact ⟨rfl, Moment.numbered_change held own later due, Moment.shelved_change held own due stands⟩
  · exact fun _ low _ _ held _ => ⟨⟨low, held.2.1⟩, held.2.2⟩
  · rw [p.journal_steps]
    exact List.cons_ne_nil _ _

end Namespaces.Numbered

/-! A record among those that are put on its shelf after it. -/

/-- Each limit had room for all the records from the first one on. -/
def Room (puts : List Put) : Prop :=
  ∀ earlier last later, puts = earlier ++ last :: later → (earlier.length : Int) + 1 ≤ last.limit

theorem room_snoc {puts : List Put} {q : Put} : Room (puts ++ [q]) ↔ Room puts ∧ (puts.length : Int) + 1 ≤ q.limit := by
  constructor
  · intro room
    refine ⟨fun earlier last later split => room earlier last (later ++ [q]) ?_, room puts q [] rfl⟩
    rw [split, List.append_assoc, List.cons_append]
  · rintro ⟨room, fits⟩ earlier last later split
    rcases Rollback.split_snoc split with ⟨rfl, rfl, -⟩ | ⟨rest, -, inside⟩
    · exact fits
    · exact room earlier last rest inside

theorem room_singleton {q : Put} : Room [q] ↔ 1 ≤ q.limit := by
  have none : Room [] := fun earlier last later split => absurd split (by simp)
  refine (room_snoc : Room ([] ++ [q]) ↔ _).trans ?_
  rw [and_iff_right none]
  rfl

/-- Where the value is that was put under the id with the first of the records. -/
inductive Stand (id : String) (value : Json) (puts : List Put) (entries : Fields) : Prop where
  | kept {front back : Fields} (room : Room puts) (split : entries = front ++ (id, value) :: back)
      (alone : id ∉ Fields.names (front ++ back)) (since : back.length + 1 = puts.length)
  | gone (crowded : ¬ Room puts) (absent : id ∉ Fields.names entries)

/-- What a shelf shows of a record goes on when another record is put there. -/
def Carried (id : String) (S : List Put → Fields → Prop) : Prop := ∀ puts entries (q : Put), q.runId ≠ id →
  S puts entries → S (puts ++ [q]) (shelve entries q)

theorem names_append (front back : Fields) : Fields.names (front ++ back) = Fields.names front ++ Fields.names back :=
  List.map_append

theorem names_suffix {some all : Fields} (part : some <:+ all) : Fields.names some <:+ Fields.names all :=
  part.map Prod.fst

theorem absent_shelve {id : String} {entries : Fields} {q : Put} (other : q.runId ≠ id)
    (absent : id ∉ Fields.names entries) : id ∉ Fields.names (shelve entries q) := by
  intro member
  have there := (names_suffix (shelve_suffix entries q)).subset member
  rw [names_append] at there
  rcases List.mem_append.mp there with old | new
  · exact absent old
  · exact other (List.mem_singleton.mp new).symm

theorem shelve_split (front back : Fields) (entry : String × Json) (q : Put) : shelve (front ++ entry :: back) q
    = (front ++ entry :: (back ++ [q.entry])).drop (Namespaces.overflow (front.length + back.length + 2) q.limit) := by
  unfold shelve
  rw [List.append_assoc, List.cons_append, List.length_append, List.length_cons]
  rfl

theorem carried_absent (id : String) : Carried id fun _ entries => id ∉ Fields.names entries :=
  fun _ _ _ other absent => absent_shelve other absent

namespace Stand

variable {id : String} {value : Json} {puts : List Put} {entries : Fields}

/-- A new record is the last one, unless the shelf may hold none. -/
theorem first {old : Fields} {q : Put} (fresh : q.runId ∉ Fields.names old) :
    Stand q.runId q.value [q] (shelve old q) := by
  by_cases fits : 1 ≤ q.limit
  · have drops : Namespaces.overflow (old.length + 1) q.limit ≤ old.length := by
      unfold Namespaces.overflow
      omega
    refine .kept (room_singleton.mpr fits) (List.drop_append_of_le_length drops) ?_
      (rfl : ([] : Fields).length + 1 = [q].length)
    rw [List.append_nil]
    exact fun member => fresh ((names_suffix (List.drop_suffix _ old)).subset member)
  · have empty : shelve old q = [] := by
      refine List.length_eq_zero_iff.mp ?_
      rw [length_shelve]
      omega
    refine .gone (fun room => fits (room_singleton.mp room)) ?_
    rw [empty]
    exact List.not_mem_nil

theorem carried (id : String) (value : Json) : Carried id (Stand id value) := by
  rintro puts entries q other (⟨room, rfl, alone, since⟩ | ⟨crowded, absent⟩)
  · rename_i front back
    have apart : id ∉ Fields.names (back ++ [q.entry]) := by
      rw [names_append] at alone ⊢
      intro member
      rcases List.mem_append.mp member with old | new
      · exact alone (List.mem_append_right _ old)
      · exact other (List.mem_singleton.mp new).symm
    rw [shelve_split]
    by_cases fits : (puts.length : Int) + 1 ≤ q.limit
    · have drops : Namespaces.overflow (front.length + back.length + 2) q.limit ≤ front.length := by
        unfold Namespaces.overflow
        omega
      rw [List.drop_append_of_le_length drops]
      refine .kept (room_snoc.mpr ⟨room, fits⟩) rfl ?_ ?_
      · rw [names_append] at alone ⊢
        intro member
        rcases List.mem_append.mp member with old | new
        · exact alone (List.mem_append_left _ ((names_suffix (List.drop_suffix _ front)).subset old))
        · exact apart new
      · simp [since]
    · have drops : front.length + 1 ≤ Namespaces.overflow (front.length + back.length + 2) q.limit := by
        unfold Namespaces.overflow
        omega
      refine .gone (fun room => fits (room_snoc.mp room).2) fun member => apart ?_
      have behind : (front ++ (id, value) :: (back ++ [q.entry])).drop (front.length + 1) = back ++ [q.entry] := by
        rw [List.drop_append]
        simp
      have late := (List.drop_suffix_drop_left _ drops).trans ⟨[], behind⟩
      exact (names_suffix late).subset member
  · exact .gone (fun room => crowded (room_snoc.mp room).1) (absent_shelve other absent)

theorem get?_of_room (h : Stand id value puts entries) (room : Room puts) : Fields.get? entries id = some value := by
  obtain ⟨-, rfl, alone, -⟩ | ⟨crowded, -⟩ := h
  · rename_i front back
    rw [names_append, List.mem_append, not_or] at alone
    have missing : Fields.get? front id = none := by
      rw [← Option.not_isSome_iff_eq_none, Fields.get?_isSome_iff]
      exact alone.1
    unfold Fields.get? at missing ⊢
    rw [List.lookup_append, missing]
    simp
  · exact absurd room crowded

theorem get?_of_crowded (h : Stand id value puts entries) (crowded : ¬ Room puts) : Fields.get? entries id = none := by
  obtain ⟨room, -, -, -⟩ | ⟨-, absent⟩ := h
  · exact absurd room crowded
  · rwa [← Option.not_isSome_iff_eq_none, Fields.get?_isSome_iff]

end Stand

/-- A store in which run `n` is numbered, and a shelf of it that shows of its record what `S` says. -/
def Shelf.Follows (shelf : Shelf) (n : Int) (S : List Put → Fields → Prop) (puts : List Put) (all : Namespaces) : Prop :=
  ∃ count low entries, all.Numbered count low ∧ n ≤ count ∧ all.entriesOf shelf.space = .obj entries ∧ S puts entries

namespace Shelf.Follows

variable {shelf : Shelf} {n : Int} {S : List Put → Fields → Prop} {puts : List Put} {w : World σ}

/-- What later runs put on the shelf are records of their own. -/
theorem run (carried : Carried (Run.idOf n) S) (h : shelf.Follows n S puts w.store.namespaces) (p : Run.Plan σ) :
    shelf.Follows n S (puts ++ shelf.puts (p.steps.journal w)) (p.attempt.outcome w).2.store.namespaces := by
  obtain ⟨count, low, entries, numbered, known, here, shown⟩ := h
  obtain ⟨⟨low', after⟩, there⟩ := numbered.turn p shelf here
  refine ⟨count + 1, low', _, after, by omega, there, ?_⟩
  rcases p.puts_cases w shelf with none | ⟨q, once, -, runId, named, own⟩
  · rw [none, List.append_nil]
    exact shown
  · rw [once]
    refine carried puts entries q ?_ shown
    have new := Run.nextId_of_counts numbered.counts (Prod.ext named rfl)
    rw [own.named, new]
    intro same
    have := Run.idOf_injective same
    omega

theorem call (h : shelf.Follows n S puts w.store.namespaces) (c : Rollback.Call) :
    shelf.Follows n S puts (c.leave w).store.namespaces := by
  obtain ⟨count, low, entries, numbered, known, here, shown⟩ := h
  refine ⟨count, low, entries, c.numbered_leave numbered, known, ?_, shown⟩
  have same : (c.leave w).shows shelf.space = w.shows shelf.space := by
    cases c with
    | update config runId recordedAt sample => exact Rollback.leaves_update shelf.space_ne_rollback _ _ _ _ w
    | reset => exact Rollback.leaves_reset shelf.space_ne_rollback w
  exact (congrArg (·.getD (.obj [])) same).trans here

end Shelf.Follows

namespace Run

variable {p : Plan σ} {w w' : World σ} {result : RunResult} {count : Int} {low : Nat}

theorem runId_of_returned (counts : w.store.namespaces.Counts count) (ran : p.attempt.outcome w = (.ok result, w')) :
    result.runId = idOf (count + 1) := by
  obtain ⟨r⟩ := Plan.returned_of_eq ran
  obtain ⟨_, _, named, answered⟩ := bind_eq_ok.mp r.opening
  obtain ⟨_, _, -, given⟩ := bind_eq_ok.mp answered
  cases given
  exact r.runId_eq.trans (nextId_of_counts counts named)

/-- A tracked run that returned has put its record on the shelf as the last one. -/
theorem stands_of_returned (numbered : w.store.namespaces.Numbered count low)
    (ran : p.attempt.outcome w = (.ok result, w')) (tracked : p.tracked = true) :
    Shelf.decisions.Follows (count + 1) (Stand result.runId (.obj result.decision.toFields))
      (Shelf.decisions.puts (p.steps.journal w)) w'.store.namespaces := by
  obtain ⟨old, here⟩ := numbered.regular Shelf.decisions.space
  obtain ⟨⟨low', after⟩, there⟩ := numbered.turn p .decisions here
  rw [ran] at after there
  refine ⟨count + 1, low', _, after, Int.le_refl _, there, ?_⟩
  rw [((p.keeping w).returned result w' ran).2.1 tracked]
  refine Stand.first (q := ⟨result.runId, .decision result.decision, p.limit .decisions⟩) ?_
  show result.runId ∉ Fields.names old
  rw [runId_of_returned numbered.counts ran]
  exact numbered.unknown here (Int.lt_succ count)

/-- An untracked run has put nothing there. -/
theorem absent_of_returned (numbered : w.store.namespaces.Numbered count low)
    (ran : p.attempt.outcome w = (.ok result, w')) (untracked : p.tracked = false) :
    Shelf.decisions.Follows (count + 1) (fun _ entries => result.runId ∉ Fields.names entries) [] w'.store.namespaces := by
  obtain ⟨old, here⟩ := numbered.regular Shelf.decisions.space
  obtain ⟨⟨low', after⟩, there⟩ := numbered.turn p .decisions here
  rw [ran] at after there
  rw [(p.keeping w).untracked untracked] at there
  refine ⟨count + 1, low', old, after, Int.le_refl _, there, ?_⟩
  rw [runId_of_returned numbered.counts ran]
  exact numbered.unknown here (Int.lt_succ count)

end Run

end CanaryGate
