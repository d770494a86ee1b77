import CanaryGate.Proofs.Run.Shelves

/-! # The histories of runs are bounded

Between any two changes a shelf holds the newest of its records, as many as it was last told to keep. A run puts
one record there or leaves the shelf alone; only a tracked run puts a decision, and if it returns it has done so.
-/

namespace CanaryGate

open Attempt

variable {σ : Type}

/-- The newest of the records that were put on a shelf, each once and in the order of their runs. -/
structure Shelf.Holds (shelf : Shelf) (past : List (Moment σ)) (entries : Fields) : Prop where
  newest : entries <:+ (shelf.puts past).map Put.entry
  ordered : ∃ numbers : List Int, Fields.names entries = numbers.map Run.idOf ∧ numbers.Pairwise (· < ·)
  distinct : (Fields.names entries).Nodup
  bounded : ∀ last, (shelf.puts past).getLast? = some last → entries.length ≤ last.limit.toNat

/-- What a run makes of a shelf. -/
inductive Shelf.Turn (p : Run.Plan σ) (w : World σ) (shelf : Shelf) (old : Fields) : Fields → Prop where
  | spared (unput : shelf.puts (p.steps.journal w) = []) : Turn p w shelf old old
  | kept {new : Fields} (put : Put) (once : shelf.puts (p.steps.journal w) = [put])
      (named : (Run.nextId.outcome w).1 = .ok put.runId) (own : ∀ id ∈ put.record.runIds, id = put.runId)
      (limited : put.limit = p.limit shelf) (length : new.length = min (old.length + 1) (p.limit shelf).toNat)
      (present : 1 ≤ p.limit shelf → new.getLast? = some put.entry) : Turn p w shelf old new

/-- What a run has put down. -/
structure Run.Plan.Keeping (p : Plan σ) (w : World σ) : Prop where
  untracked : p.tracked = false → Shelf.decisions.puts (p.steps.journal w) = []
  returned : ∀ result w', p.attempt.outcome w = (.ok result, w') → result.persisted = p.tracked
    ∧ (p.tracked = true → Shelf.decisions.puts (p.steps.journal w)
      = [⟨result.runId, .decision result.decision, p.limit .decisions⟩])
    ∧ ∃ stages : Returned p w result w', Moment.puts (p.steps.journal w) = stages.puts

namespace Shelf.Standing

variable {shelf : Shelf} {count : Int} {low : Nat} {all : Namespaces} {numbers : List Int}

theorem items {puts : List Put} (h : shelf.Standing count low puts all numbers) :
    all.items shelf.space = .ok (shelved puts) := Namespaces.items_of_entries h.entries

theorem holds {past : List (Moment σ)} (h : shelf.Standing count low (shelf.puts past) all numbers) :
    shelf.Holds past (shelved (shelf.puts past)) := by
  obtain ⟨rest, names, part⟩ := h.names
  have increasing := h.increasing.sublist part.sublist
  refine ⟨shelved_suffix _, ⟨rest, names, increasing⟩, ?_, ?_⟩
  · rw [names]
    exact (increasing.imp Int.ne_of_lt).map Run.idOf fun _ _ apart same => apart (Run.idOf_injective same)
  · intro last ends
    obtain ⟨before, puts⟩ := List.getLast?_eq_some_iff.mp ends
    rw [puts, shelved_snoc, length_shelve]
    exact Nat.min_le_right _ _

end Shelf.Standing

namespace Run.Plan

theorem keeping (p : Plan σ) (w : World σ) : p.Keeping w where
  untracked := by
    intro untracked
    rcases p.puts_cases w .decisions with none | ⟨q, _, here, runId, -, own⟩
    · exact none
    · rw [own.tracked here] at untracked
      cases untracked
  returned := by
    intro result w' ran
    obtain ⟨r⟩ := returned_of_eq ran
    have puts := puts_steps r
    refine ⟨?_, ?_, r, puts⟩
    · rw [r.persisted_eq, p.trackingEnabled_routing]
    · intro tracked
      unfold Shelf.puts
      rw [puts, Returned.puts, if_pos tracked, r.runId_eq, List.filter_append, List.filter_append]
      cases r.trial.shadow.stored with
      | none =>
          cases r.trying.alternate with
          | none => rfl
          | some record => rfl
      | some record =>
          cases r.trying.alternate with
          | none => rfl
          | some record => rfl

end Run.Plan

namespace Stands

variable {past : List (Moment σ)} {w : World σ}

theorem turn (h : Stands past w.store.namespaces) (p : Run.Plan σ) (shelf : Shelf) : ∃ old new,
    w.store.namespaces.items shelf.space = .ok old
      ∧ (p.attempt.outcome w).2.store.namespaces.items shelf.space = .ok new ∧ shelf.Turn p w old new := by
  have later := h.run p (List.append_nil (p.steps.journal w)).symm
  rw [(p.steps.linked_journal w).2, p.attempt_steps] at later
  obtain ⟨_, _, standing⟩ := h
  obtain ⟨_, _, standing'⟩ := later
  obtain ⟨_, before⟩ := standing.shelf shelf
  obtain ⟨_, after⟩ := standing'.shelf shelf
  refine ⟨_, _, before.items, after.items, ?_⟩
  rw [Shelf.puts_append]
  rcases p.puts_cases w shelf with none | ⟨q, once, here, runId, numbered, own⟩
  · rw [none, List.append_nil]
    exact .spared none
  · have limited : q.limit = p.limit shelf := here ▸ own.limited
    rw [once, shelved_snoc]
    refine .kept q once ?_ ?_ limited ?_ ?_
    · rw [own.named, numbered]
    · rw [own.named]
      exact own.own
    · rw [length_shelve, limited]
    · intro room
      exact getLast?_shelve _ (limited ▸ room)

end Stands

namespace World

/-- The changes of a history lead, one after the other, from the store before it to the one after it. -/
theorem linked_story (w : World σ) (plans : List (Run.Plan σ)) : Linked w.store (w.story plans)
    ∧ w.store.following (w.story plans) = (w.after (plans.map Event.run)).store := by
  induction plans generalizing w with
  | nil => exact ⟨.nil _, rfl⟩
  | cons p rest ih =>
      obtain ⟨linked, ends⟩ := p.steps.linked_journal w
      rw [p.attempt_steps] at ends
      obtain ⟨later, after⟩ := ih (p.attempt.outcome w).2
      rw [← ends] at later after
      exact ⟨linked.append later, (Store.following_append ..).trans after⟩

/-- After any history of runs from an empty store, and between any two changes in it, each shelf holds the newest
of the records that were put on it, bounded by the limit it was put there with; and so does the next run. -/
theorem histories_bounded {w : World σ} (empty : w.store.namespaces = []) (plans : List (Run.Plan σ)) :
    Linked w.store (w.story plans) ∧ w.store.following (w.story plans) = (w.after (plans.map .run)).store
      ∧ (∀ done more, w.story plans = done ++ more → ∀ shelf : Shelf, ∃ entries,
        (w.store.following done).namespaces.items shelf.space = .ok entries ∧ shelf.Holds done entries)
      ∧ ∀ p : Run.Plan σ, p.Keeping (w.after (plans.map .run)) ∧ ∀ shelf : Shelf, ∃ old new,
        (w.after (plans.map .run)).store.namespaces.items shelf.space = .ok old
          ∧ (w.after ((plans ++ [p]).map .run)).store.namespaces.items shelf.space = .ok new
          ∧ shelf.Turn p (w.after (plans.map .run)) old new := by
  have start : Stands ([] : List (Moment σ)) w.store.namespaces := ⟨0, 6, empty ▸ .nil⟩
  obtain ⟨linked, ends⟩ := w.linked_story plans
  refine ⟨linked, ends, ?_, ?_⟩
  · intro done more split shelf
    obtain ⟨_, _, standing⟩ := stands_story start split
    obtain ⟨_, standing⟩ := standing.shelf shelf
    exact ⟨_, standing.items, standing.holds⟩
  · intro p
    have now := stands_story start (List.append_nil (w.story plans)).symm
    rw [ends, List.nil_append] at now
    refine ⟨p.keeping _, fun shelf => ?_⟩
    rw [List.map_append, List.map_singleton, after_snoc]
    exact now.turn p shelf

/-- The third run is told to keep a single decision, and the two that were there make room for its own. -/
theorem histories_bounded_of_narrowed_limit :
    let w : World Unit := ⟨.inMemory [], .zero, [], ()⟩
    let matching : Engine Unit := ⟨"engine", fun _ s => (.ok (.obj [("matching", .obj [])]), s)⟩
    let plan (limit : Int) : Run.Plan Unit := ⟨⟨some matching, some matching, none⟩, ⟨2026, 3, 1, 12, 0, 0, 0⟩,
      ⟨.unknown, none, none, [], [], [], 50, none⟩,
      ⟨{ CanaryConfig.default with maxDecisions := limit }, { PrimaryConfig.default with enabled := true }, .default,
        .default, .default⟩, none⟩
    w.store.namespaces = [] ∧ ∃ old new,
      (w.after ([plan 2, plan 2].map .run)).store.namespaces.items Shelf.decisions.space = .ok old
        ∧ Fields.names old = ["mrun_000001", "mrun_000002"]
        ∧ Shelf.decisions.Turn (plan 1) (w.after ([plan 2, plan 2].map .run)) old new
        ∧ Fields.names new = ["mrun_000003"] := by
  intro w matching plan
  obtain ⟨-, -, -, turns⟩ := histories_bounded (w := w) rfl [plan 2, plan 2]
  obtain ⟨old, new, earlier, later, turn⟩ := (turns (plan 1)).2 .decisions
  have two : ((w.after ([plan 2, plan 2].map .run)).store.namespaces.items Shelf.decisions.space).toOption.map
      Fields.names = some ["mrun_000001", "mrun_000002"] := by decide +kernel
  have one : ((w.after (([plan 2, plan 2] ++ [plan 1]).map .run)).store.namespaces.items
      Shelf.decisions.space).toOption.map Fields.names = some ["mrun_000003"] := by decide +kernel
  rw [earlier] at two
  rw [later] at one
  exact ⟨rfl, old, new, earlier, Option.some.inj two, turn, Option.some.inj one⟩

end World

end CanaryGate
