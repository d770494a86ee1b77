import CanaryGate.Proofs.Store.Durability

/-! # What pruning keeps

A namespace has its entries in the order in which their keys were first put. Pruning cuts this sequence in two: the
oldest go, as many as there are too many, and the newest stay as they are. A value that is put before the pruning
takes the place of the one under its key, or comes last, so a record is the newest one only under a new key.
-/

namespace CanaryGate

open Attempt

namespace Fields

/-- What putting a value under a key makes of some fields: the value takes the place of the one that is there, or it
comes last. -/
inductive Placed (key : String) (value : Json) : Fields → Fields → Prop where
  | inPlace {before after : Fields} (old : Json) (first : key ∉ names before) :
      Placed key value (before ++ (key, old) :: after) (before ++ (key, value) :: after)
  | atEnd {fields : Fields} (absent : key ∉ names fields) : Placed key value fields (fields ++ [(key, value)])

/-- One field in front changes nothing, if its key is another one. -/
theorem Placed.cons {key other : String} {value shown : Json} {fields grown : Fields}
    (h : Placed key value fields grown) (apart : other ≠ key) :
    Placed key value ((other, shown) :: fields) ((other, shown) :: grown) := by
  cases h with
  | @inPlace before after old first =>
      have still : key ∉ names ((other, shown) :: before) := by
        simpa [names, apart.symm] using first
      exact .inPlace old still
  | atEnd absent =>
      have still : key ∉ names ((other, shown) :: fields) := by
        simpa [names, apart.symm] using absent
      exact .atEnd still

theorem placed_set (fields : Fields) (key : String) (value : Json) : Placed key value fields (set fields key value) := by
  induction fields with
  | nil => exact .atEnd (by simp [names])
  | cons entry rest ih =>
      obtain ⟨other, shown⟩ := entry
      unfold set
      split
      · rename_i same
        subst same
        have first : other ∉ names [] := by simp [names]
        exact .inPlace shown first
      · rename_i apart
        exact ih.cons apart

end Fields

namespace Namespaces

variable {all : Namespaces} {space : String} {entries : Fields}

theorem names_ensure (all : Namespaces) (space : String) : Fields.names (ensure all space)
    = if space ∈ Fields.names all then Fields.names all else Fields.names all ++ [space] := by
  unfold ensure
  by_cases known : space ∈ Fields.names all
  · rw [if_pos ((Fields.get?_isSome_iff all space).mpr known), if_pos known]
  · rw [if_neg (mt (Fields.get?_isSome_iff all space).mp known), Fields.names_set]

theorem mem_names_ensure (all : Namespaces) (space : String) : space ∈ Fields.names (ensure all space) := by
  rw [names_ensure]
  split
  · assumption
  · simp

/-- Pruning leaves the namespaces in their places. -/
theorem names_prune (here : all.entriesOf space = .obj entries) (limit : Int) :
    Fields.names (prune all space limit).2 = Fields.names (ensure all space) := by
  rw [prune_of_entries here]
  dsimp only
  split
  · rfl
  · rw [Fields.names_set, if_pos (mem_names_ensure all space)]

/-- No entry is beyond the limit any more. -/
theorem overflow_drop (entries : Fields) (limit : Int) :
    overflow (entries.drop (overflow entries.length limit)).length limit = 0 := by
  simp only [overflow, List.length_drop]
  omega

/-- What was pruned to a limit is not changed by pruning it to the limit again. -/
theorem prune_prune (here : all.entriesOf space = .obj entries) (limit : Int) :
    prune (prune all space limit).2 space limit = (.ok [], (prune all space limit).2) := by
  have there := entriesOf_prune here limit
  have known : ensure (prune all space limit).2 space = (prune all space limit).2 := by
    have shown : space ∈ Fields.names (prune all space limit).2 := by
      rw [names_prune here]
      exact mem_names_ensure all space
    unfold ensure
    rw [if_pos ((Fields.get?_isSome_iff _ space).mpr shown)]
  rw [prune_of_entries there, overflow_drop, known]
  simp

end Namespaces

namespace Store

variable {s : Store} {space : String} {entries : Fields}

/-- What pruning makes of a store in which a namespace has some entries: the oldest of them go and the newest stay,
and nothing else changes. -/
structure Pruned (space : String) (limit : Int) (entries : Fields) (s : Store) (r : Except Fault (List Json))
    (t : Store) : Prop where
  /-- The entries are cut in two. The keys of the first part are given back, in order. -/
  split : ∃ evicted kept, evicted ++ kept = entries ∧ (evicted.length : Int) = max 0 (entries.length - max limit 0)
    ∧ t.namespaces.items space = .ok kept ∧ ∀ keys, r = .ok keys → keys = (Fields.names evicted).map .str
  elsewhere : ∀ other, other ≠ space → t.shows other = s.shows other
  places : Fields.names t.namespaces = if space ∈ Fields.names s.namespaces then Fields.names s.namespaces
    else Fields.names s.namespaces ++ [space]
  depth : t.depth = s.depth
  /-- The keys are given back, unless the file cannot be written where it has to be. -/
  returns : Succeeds r ↔ (s.depth = 0 → (s.holding t.namespaces).Committable)
  /-- Pruning to the same limit again evicts nothing. -/
  again : ∃ r' u, (prune space limit).outcome t = (r', u) ∧ u.namespaces = t.namespaces
    ∧ (∀ keys, r' = .ok keys → keys = []) ∧ (Succeeds r → Succeeds r')

/-- A store in which a value was put under a key, and nothing else. -/
structure Grown (space key : String) (value : Json) (entries grown : Fields) (s t : Store) : Prop where
  placed : Fields.Placed key value entries grown
  items : t.namespaces.items space = .ok grown
  elsewhere : ∀ other, other ≠ space → t.shows other = s.shows other
  depth : t.depth = s.depth
  disk : t.disk = s.disk

section

variable {limit : Int} {r : Except Fault (List Json)} {t : Store}

/-- What is left was committed, or need not be. -/
theorem committable_of_pruned (here : s.namespaces.entriesOf space = .obj entries)
    (ran : (prune space limit).outcome s = (r, t)) (given : Succeeds r) : t.depth = 0 → t.Committable := by
  rw [outcome_prune here] at ran
  obtain ⟨rfl, rfl⟩ := Prod.mk.inj ran
  intro closed
  rw [depth_commit] at closed
  exact (commit_of_committable (succeeds_commit_iff.mp (succeeds_map.mp given) closed)).2

/-- Pruning to the same limit again is nothing but a commit. -/
theorem outcome_prune_again (here : s.namespaces.entriesOf space = .obj entries)
    (left : t.namespaces = (s.namespaces.prune space limit).2) :
    (prune space limit).outcome t = (t.commit.1.map fun _ => [], t.commit.2) := by
  have same : t.namespaces.prune space limit = (.ok [], t.namespaces) := by
    rw [left]
    exact Namespaces.prune_prune here limit
  unfold prune
  rw [outcome_onNamespaces, same]

theorem pruned_of_outcome (here : s.namespaces.entriesOf space = .obj entries)
    (ran : (prune space limit).outcome s = (r, t)) : Pruned space limit entries s r t := by
  have left : t.namespaces = (s.namespaces.prune space limit).2 := by
    have memory : ((prune space limit).outcome s).2.namespaces = (s.namespaces.prune space limit).2 :=
      namespaces_onNamespaces _ s
    rwa [ran] at memory
  have answer : r = (s.holding t.namespaces).commit.1.map fun _ =>
      (entries.take (Namespaces.overflow entries.length limit)).map fun e => .str e.1 := by
    rw [outcome_prune here, ← left] at ran
    exact (congrArg Prod.fst ran).symm
  have still : t.depth = s.depth := by
    rw [outcome_prune here] at ran
    obtain ⟨-, rfl⟩ := Prod.mk.inj ran
    exact depth_commit _
  refine ⟨?split, ?elsewhere, ?places, still, ?returns, ?again⟩
  case split =>
    refine ⟨entries.take (Namespaces.overflow entries.length limit),
      entries.drop (Namespaces.overflow entries.length limit), List.take_append_drop _ _, ?_, ?_, ?_⟩
    · simp only [Namespaces.overflow, List.length_take]
      omega
    · exact Namespaces.items_of_entries (left ▸ Namespaces.entriesOf_prune here limit)
    · rintro keys rfl
      obtain ⟨_, -, given⟩ := except_map_eq_ok.mp answer.symm
      rw [← given, Fields.names, List.map_map]
      rfl
  case elsewhere =>
    intro other apart
    exact (leaves_prune apart limit).of_eq ran
  case places => rw [left, Namespaces.names_prune here, Namespaces.names_ensure]
  case returns =>
    rw [answer, succeeds_map]
    exact succeeds_commit_iff
  case again =>
    refine ⟨_, _, outcome_prune_again here left, namespaces_commit t, ?_, ?_⟩
    · intro keys given
      obtain ⟨_, -, none⟩ := except_map_eq_ok.mp given
      exact none.symm
    · intro given
      exact succeeds_map.mpr (succeeds_commit_iff.mpr (committable_of_pruned here ran given))

end

theorem grown_set (here : s.namespaces.entriesOf space = .obj entries) (key : String) (value : Json) :
    Grown space key value entries (Fields.set entries key value) s
      (s.holding (s.namespaces.set space key value).2) where
  placed := Fields.placed_set entries key value
  items := by
    refine Namespaces.items_of_entries ?_
    show (s.namespaces.set space key value).2.entriesOf space = _
    rw [Namespaces.set_of_entries here, Namespaces.entriesOf_set]
  elsewhere := fun _ apart => Namespaces.get?_set_of_ne apart key value
  depth := rfl
  disk := rfl

/-- Pruning keeps exactly the newest entries of a namespace, and putting before it does what pruning does to the store
in which the value was put. -/
theorem newest_kept (here : s.namespaces.items space = .ok entries) (limit : Int) :
    (∃ r t, (prune space limit).outcome s = (r, t) ∧ Pruned space limit entries s r t)
      ∧ ∀ key value, ∃ grown s', Grown space key value entries grown s s'
        ∧ (putAndPrune space key value limit).outcome s = (prune space limit).outcome s'
        ∧ ∃ r t, (putAndPrune space key value limit).outcome s = (r, t) ∧ Pruned space limit grown s' r t := by
  have found := Namespaces.entries_of_items here
  refine ⟨⟨_, _, rfl, pruned_of_outcome found rfl⟩, fun key value => ?_⟩
  have put := grown_set found key value
  have same := outcome_putAndPrune_eq found key value limit
  exact ⟨_, _, put, same, _, _, rfl, pruned_of_outcome (Namespaces.entries_of_items put.items) same.symm⟩

/-- A store in memory with two namespaces, one of three entries. -/
def threefold : Store := .inMemory [("n", .obj [("a", .int 1), ("b", .int 2), ("c", .int 3)]), ("m", .obj [("a", .null)])]

/-- A limit below zero leaves nothing. A value that is put under the second key stays there, and the first key goes. -/
theorem newest_kept_of_threefold :
    threefold.namespaces.items "n" = .ok [("a", .int 1), ("b", .int 2), ("c", .int 3)]
      ∧ (∃ t, (prune "n" (-1)).outcome threefold = (.ok [.str "a", .str "b", .str "c"], t)
        ∧ t.namespaces.items "n" = .ok [] ∧ t.shows "m" = threefold.shows "m")
      ∧ ∃ t, (putAndPrune "n" "b" (.int 5) 2).outcome threefold = (.ok [.str "a"], t)
        ∧ t.namespaces.items "n" = .ok [("b", .int 5), ("c", .int 3)] ∧ t.shows "m" = threefold.shows "m" := by
  have here : threefold.namespaces.items "n" = .ok [("a", .int 1), ("b", .int 2), ("c", .int 3)] := rfl
  have emptied : (prune "n" (-1)).outcome threefold = (.ok [.str "a", .str "b", .str "c"], _) := rfl
  have pruned : (putAndPrune "n" "b" (.int 5) 2).outcome threefold = (.ok [.str "a"], _) := rfl
  obtain ⟨⟨r, t, ran, all⟩, -⟩ := newest_kept here (-1)
  obtain ⟨grown, s', put, -, r', t', ran', newest⟩ := (newest_kept here 2).2 "b" (.int 5)
  obtain ⟨rfl, rfl⟩ := Prod.mk.inj (emptied.symm.trans ran)
  obtain ⟨rfl, rfl⟩ := Prod.mk.inj (pruned.symm.trans ran')
  exact ⟨here, ⟨_, emptied, rfl, all.elsewhere "m" (by decide)⟩, _, pruned, rfl,
    (newest.elsewhere "m" (by decide)).trans (put.elsewhere "m" (by decide))⟩

end Store

end CanaryGate
