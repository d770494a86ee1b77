import CanaryGate.Proofs.Run.Entries
import CanaryGate.Proofs.Run.History
import CanaryGate.Proofs.Run.Numbers

/-! # Bounded histories

A record is put on its shelf under the id of its run, and the oldest records make room. What stands on a shelf is
the `shelved` of all that was put on it, with the limit of each time: a suffix of it, as the numbers of the runs
are all new. That they are follows from the order of a run's changes, which puts no two records on one shelf.
-/

namespace CanaryGate

open Attempt

variable {σ : Type}

/-- A shelf after a record was put on it, and the oldest ones made room. -/
def shelve (entries : Fields) (put : Put) : Fields :=
  (entries ++ [put.entry]).drop (Namespaces.overflow (entries.length + 1) put.limit)

/-- What is left of records that were put on an empty shelf. -/
def shelved (puts : List Put) : Fields := puts.foldl shelve []

theorem shelved_snoc (puts : List Put) (put : Put) : shelved (puts ++ [put]) = shelve (shelved puts) put := by
  simp [shelved]

theorem shelve_suffix (entries : Fields) (put : Put) : shelve entries put <:+ entries ++ [put.entry] :=
  List.drop_suffix _ _

theorem length_shelve (entries : Fields) (put : Put) :
    (shelve entries put).length = min (entries.length + 1) put.limit.toNat := by
  unfold shelve Namespaces.overflow
  rw [List.length_drop, List.length_append, List.length_singleton]
  omega

theorem getLast?_shelve (entries : Fields) {put : Put} (room : 1 ≤ put.limit) :
    (shelve entries put).getLast? = some put.entry := by
  have short : ¬ (entries ++ [put.entry]).length ≤ Namespaces.overflow (entries.length + 1) put.limit := by
    unfold Namespaces.overflow
    rw [List.length_append, List.length_singleton]
    omega
  unfold shelve
  rw [List.getLast?_drop, if_neg short, List.getLast?_concat]

theorem shelved_suffix (puts : List Put) : shelved puts <:+ puts.map Put.entry := by
  induction puts using List.reverseRecOn with
  | nil => exact List.suffix_refl []
  | append_singleton puts put ih =>
      rw [shelved_snoc, List.map_append]
      obtain ⟨gone, whole⟩ := ih
      refine (shelve_suffix _ put).trans ⟨gone, ?_⟩
      rw [← List.append_assoc, whole]
      rfl

/-- A record with a new key goes behind all others. -/
theorem Namespaces.entriesOf_shelved {all : Namespaces} {entries : Fields} {put : Put}
    (here : all.entriesOf put.shelf.space = .obj entries) (fresh : put.runId ∉ Fields.names entries) :
    (all.kept put.shelf.space put.runId put.value put.limit).entriesOf put.shelf.space = .obj (shelve entries put) := by
  rw [Namespaces.entriesOf_kept here, Fields.set_append fresh, List.length_append, List.length_singleton]
  rfl

/-- What was put on a shelf so far, `count` runs having been numbered; those that are due put nothing on it yet. -/
structure Shelf.Standing (shelf : Shelf) (count : Int) (low : Nat) (puts : List Put) (all : Namespaces)
    (numbers : List Int) : Prop where
  entries : all.entriesOf shelf.space = .obj (shelved puts)
  named : puts.map Put.runId = numbers.map Run.idOf
  increasing : numbers.Pairwise (· < ·)
  counted : ∀ n ∈ numbers, n ≤ count
  due : low ≤ shelf.stage → ∀ n ∈ numbers, n < count

/-- The shelves between two changes: `count` runs are numbered, and the changes from the stage `low` on are due. -/
structure Standing (count : Int) (low : Nat) (past : List (Moment σ)) (all : Namespaces) : Prop where
  regular : all.Regular
  counts : all.Counts count
  shelf : ∀ shelf : Shelf, ∃ numbers, shelf.Standing count low (shelf.puts past) all numbers

theorem Shelf.Standing.names {shelf : Shelf} {count : Int} {low : Nat} {puts : List Put} {all : Namespaces}
    {numbers : List Int} (h : shelf.Standing count low puts all numbers) :
    ∃ rest, Fields.names (shelved puts) = rest.map Run.idOf ∧ rest <:+ numbers := by
  obtain ⟨gone, whole⟩ := shelved_suffix puts
  have names : Fields.names (shelved puts) = (numbers.map Run.idOf).drop gone.length := by
    have keys : puts.map Put.runId = (puts.map Put.entry).map Prod.fst := by
      rw [List.map_map]
      rfl
    rw [← h.named, keys, ← whole, List.map_append, List.drop_left' (List.length_map _)]
    rfl
  exact ⟨numbers.drop gone.length, by rw [names, List.map_drop], List.drop_suffix _ _⟩

namespace Shelf.Standing

variable {shelf : Shelf} {count : Int} {low : Nat} {past : List (Moment σ)} {m : Moment σ} {numbers : List Int}

/-- A change elsewhere leaves the shelf as it is. -/
theorem elsewhere (h : shelf.Standing count low (shelf.puts past) m.before.store.namespaces numbers)
    (apart : shelf.space ≠ m.change.space) {next : Nat} (later : low ≤ next) :
    shelf.Standing count next (shelf.puts (past ++ [m])) m.after.store.namespaces numbers := by
  rw [Shelf.puts_append, Shelf.puts_singleton_of_apart apart, List.append_nil]
  refine ⟨?_, h.named, h.increasing, h.counted, fun due => h.due (Nat.le_trans later due)⟩
  rw [m.entriesOf_after apart]
  exact h.entries

/-- A record of the run that was numbered last is put on the shelf while it is due. -/
theorem put {p : Run.Plan σ} {w : World σ} {q : Put} (regular : w.store.namespaces.Regular)
    (h : q.shelf.Standing count low (q.shelf.puts past) w.store.namespaces numbers) (own : q.By p (Run.idOf count))
    (due : low ≤ q.shelf.stage) :
    q.shelf.Standing count ((Change.put q).stage + 1) (q.shelf.puts (past ++ [⟨w, .put q⟩]))
      (Moment.after ⟨w, .put q⟩).store.namespaces (numbers ++ [count]) := by
  have fresh : q.runId ∉ Fields.names (shelved (q.shelf.puts past)) := by
    obtain ⟨rest, names, part⟩ := h.names
    rw [names, own.named]
    intro member
    obtain ⟨n, there, same⟩ := List.mem_map.mp member
    have before := h.due due n (part.subset there)
    rw [Run.idOf_injective same] at before
    exact Int.lt_irrefl _ before
  rw [Shelf.puts_append, Shelf.puts_singleton_put w rfl]
  refine ⟨?_, ?_, ?_, ?_, ?_⟩
  · rw [Moment.namespaces_of_put regular, shelved_snoc]
    exact Namespaces.entriesOf_shelved h.entries fresh
  · simp [h.named, own.named]
  · refine List.pairwise_append.mpr ⟨h.increasing, List.pairwise_singleton _ _, fun n member k last => ?_⟩
    rw [List.mem_singleton.mp last]
    exact h.due due n member
  · intro n member
    rcases List.mem_append.mp member with old | last
    · exact h.counted n old
    · exact Int.le_of_eq (List.mem_singleton.mp last)
  · intro later
    rw [Change.stage_put] at later
    exact absurd later (Nat.not_succ_le_self _)

end Shelf.Standing

namespace Standing

variable {count : Int} {low : Nat} {past : List (Moment σ)}

theorem nil : Standing 0 6 ([] : List (Moment σ)) [] where
  regular := Namespaces.regular_nil
  counts := Namespaces.counts_nil
  shelf := fun _ => ⟨[], rfl, rfl, .nil, nofun, fun _ => nofun⟩

/-- A new number is new to all shelves. -/
theorem number {w : World σ} (h : Standing count low past w.store.namespaces) :
    Standing (count + 1) 1 (past ++ [⟨w, .number⟩]) (Moment.after ⟨w, .number⟩).store.namespaces where
  regular := Moment.regular_after _ h.regular
  counts := Moment.counts_number h.counts
  shelf := by
    intro shelf
    obtain ⟨numbers, standing⟩ := h.shelf shelf
    have apart : shelf.space ≠ (Moment.mk w .number).change.space := shelf.space_ne_sequences
    obtain ⟨entries, named, increasing, counted, -⟩ := standing.elsewhere apart (Nat.le_refl low)
    refine ⟨numbers, entries, named, increasing, ?_, fun _ => ?_⟩
    · exact fun n member => Int.le_trans (counted n member) (by omega)
    · exact fun n member => Int.lt_of_le_of_lt (counted n member) (by omega)

/-- The changes of the run that was numbered last keep the shelves as they stand. -/
theorem change {p : Run.Plan σ} {m : Moment σ} (h : Standing count low past m.before.store.namespaces)
    (own : m.change.By p (Run.idOf count)) (numbered : 1 ≤ m.change.stage) (due : low ≤ m.change.stage) :
    Standing count (m.change.stage + 1) (past ++ [m]) m.after.store.namespaces where
  regular := m.regular_after h.regular
  counts := m.counts_after h.counts numbered
  shelf := by
    intro shelf
    obtain ⟨numbers, standing⟩ := h.shelf shelf
    by_cases here : shelf.space = m.change.space
    · obtain ⟨q, same, rfl⟩ := Change.put_of_space here
      obtain ⟨w, c⟩ := m
      cases same
      exact ⟨numbers ++ [count], standing.put h.regular own (Change.stage_put q ▸ due)⟩
    · exact ⟨numbers, standing.elsewhere here (Nat.le_succ_of_le due)⟩

end Standing

/-- The shelves stand as they do between two changes. -/
def Stands (past : List (Moment σ)) (all : Namespaces) : Prop := ∃ count low, Standing count low past all

theorem Stands.run {past : List (Moment σ)} {w : World σ} (h : Stands past w.store.namespaces) (p : Run.Plan σ)
    {done more : List (Moment σ)} (split : p.steps.journal w = done ++ more) :
    Stands (past ++ done) (w.store.following done).namespaces := by
  obtain ⟨count, low, standing⟩ := h
  refine p.holds_at (I := fun done s => Stands (past ++ done) s.namespaces)
    (R := fun runId low done s => runId = Run.idOf (count + 1) ∧ Standing (count + 1) low (past ++ done) s.namespaces)
    ?_ ?_ ?_ ?_ ?_ split
  · exact ⟨count, low, by rwa [List.append_nil]⟩
  · exact fun _ _ _ => ⟨count + 1, 1, standing.number⟩
  · exact fun _ _ named => ⟨Run.nextId_of_counts standing.counts named, standing.number⟩
  · rintro _ low done m own numbered due ⟨rfl, standing⟩
    rw [← List.append_assoc]
    exact ⟨rfl, standing.change own numbered due⟩
  · exact fun _ low _ _ held => ⟨count + 1, low, held.2⟩

namespace World

/-- All the changes of a history of runs. -/
def story (w : World σ) : List (Run.Plan σ) → List (Moment σ)
  | [] => []
  | p :: rest => p.steps.journal w ++ story (p.attempt.outcome w).2 rest

theorem stands_story {past : List (Moment σ)} {w : World σ} (h : Stands past w.store.namespaces)
    {plans : List (Run.Plan σ)} {done more : List (Moment σ)} (split : w.story plans = done ++ more) :
    Stands (past ++ done) (w.store.following done).namespaces := by
  induction plans generalizing past w done with
  | nil =>
      obtain ⟨rfl, -⟩ := List.append_eq_nil_iff.mp split.symm
      rwa [List.append_nil]
  | cons p rest ih =>
      have parts : p.steps.journal w ++ story (p.attempt.outcome w).2 rest = done ++ more := split
      rcases List.append_eq_append_iff.mp parts with ⟨later, rfl, tail⟩ | ⟨later, whole, -⟩
      · have ends := (p.steps.linked_journal w).2
        rw [p.attempt_steps] at ends
        have ended := h.run p (List.append_nil (p.steps.journal w)).symm
        rw [ends] at ended
        have goes := ih ended tail
        rwa [List.append_assoc, ← ends, ← Store.following_append] at goes
      · exact h.run p whole

end World

end CanaryGate
