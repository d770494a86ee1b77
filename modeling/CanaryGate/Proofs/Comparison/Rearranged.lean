import CanaryGate.Proofs.Attempt.Faults
import CanaryGate.Proofs.Comparison.Labels
import CanaryGate.Proofs.Comparison.Sides
import Mathlib.Logic.Relation

/-! # Cycles in another order

Two engines may enumerate the same cycles, and those who take part in them, in different orders and with other entries
in between. A key does not depend on the order of the participants, and the comparison takes the keys of a side as a
set. The order of the proposals matters only where there are more of them than are compared.
-/

namespace CanaryGate

/-- There is one more entry, which is no object. -/
inductive Strayed : List Json → List Json → Prop where
  | among (front back : List Json) {stray : Json} (h : stray.isObject = false) :
    Strayed (front ++ back) (front ++ stray :: back)

/-- A change in how the participants of a cycle are enumerated. -/
inductive ParticipantsChange : List Json → List Json → Prop where
  | permuted {items items' : List Json} (h : items.Perm items') : ParticipantsChange items items'
  | inserted {items items' : List Json} (h : Strayed items items') : ParticipantsChange items items'
  | removed {items items' : List Json} (h : Strayed items' items) : ParticipantsChange items items'

/-- A change in how proposals are enumerated. They may be permuted where no more of them are objects than are
compared. -/
inductive ProposalsChange (limit : Nat) : List Json → List Json → Prop where
  | permuted {items items' : List Json} (h : items.Perm items') (few : (Json.arr items).objects.length ≤ limit) :
    ProposalsChange limit items items'
  | inserted {items items' : List Json} (h : Strayed items items') : ProposalsChange limit items items'
  | removed {items items' : List Json} (h : Strayed items' items) : ProposalsChange limit items items'
  | participants (front back : List Json) {proposal : Fields} {items items' : List Json}
      (listed : Fields.get proposal "participants" = .arr items) (h : ParticipantsChange items items') :
    ProposalsChange limit (front ++ .obj proposal :: back)
      (front ++ .obj (Fields.set proposal "participants" (.arr items')) :: back)

/-- A change in how a result enumerates its proposals. -/
inductive Rearranged (limit : Nat) : Json → Json → Prop where
  | proposals {fields matching : Fields} {items items' : List Json} (found : Fields.get fields "matching" = .obj matching)
      (listed : Fields.get matching "proposals" = .arr items) (h : ProposalsChange limit items items') :
    Rearranged limit (.obj fields)
      (.obj (Fields.set fields "matching" (.obj (Fields.set matching "proposals" (.arr items')))))

theorem Fields.get_set (fields : Fields) (name : String) (value : Json) (other : String) :
    get (set fields name value) other = if other = name then value else get fields other := by
  unfold get
  rw [get?_set]
  split
  · rfl
  · rfl

/-! What is seen of the entries. -/

theorem Strayed.objects_eq {items items' : List Json} (h : Strayed items items') :
    (Json.arr items').objects = (Json.arr items).objects := by
  obtain ⟨front, back, stray⟩ := h
  rename_i entry
  have none : entry.fields? = none := by
    cases entry with
    | obj fields => cases stray
    | null | bool b | int n | float x | str s | arr items => rfl
  simp [Json.objects, none]

theorem ParticipantsChange.objects_perm {items items' : List Json} (h : ParticipantsChange items items') :
    (Json.arr items).objects.Perm (Json.arr items').objects := by
  cases h with
  | permuted h => exact h.filterMap _
  | inserted h => rw [h.objects_eq]
  | removed h => rw [h.objects_eq]

/-! The keys. -/

/-- A list that was permuted is read as a permutation of what was read, or neither list is. Which of its items is the
first that cannot be read may change. -/
theorem mapM_perm {α β : Type} {f : α → Except Fault β} {xs xs' : List α} (h : xs.Perm xs') :
    (∃ fault fault', xs.mapM f = .error fault ∧ xs'.mapM f = .error fault')
      ∨ ∃ ys ys', xs.mapM f = .ok ys ∧ xs'.mapM f = .ok ys' ∧ ys.Perm ys' := by
  have both : Succeeds (xs.mapM f) ↔ Succeeds (xs'.mapM f) := by
    rw [succeeds_mapM, succeeds_mapM]
    exact forall_congr' fun x => imp_congr_left h.mem_iff
  cases read : xs.mapM f with
  | error fault =>
      cases read' : xs'.mapM f with
      | error fault' => exact .inl ⟨fault, fault', rfl, rfl⟩
      | ok ys' =>
          obtain ⟨ys, done⟩ := both.mpr ⟨ys', read'⟩
          cases read.symm.trans done
  | ok ys =>
      obtain ⟨ys', read'⟩ := both.mp ⟨ys, read⟩
      have images : (ys.map Except.ok : List (Except Fault β)).Perm (ys'.map Except.ok) := by
        rw [← mapM_eq_ok.mp read, ← mapM_eq_ok.mp read']
        exact h.map f
      exact .inr ⟨ys, ys', rfl, read', (List.map_perm_map_iff fun _ _ => Except.ok.inj).mp images⟩

/-- The key of a proposal, if it has one. -/
def key? (proposal : Fields) : Option String := (cycleKey proposal).toOption

theorem key?_eq_some {proposal : Fields} {key : String} : key? proposal = some key ↔ cycleKey proposal = .ok key := by
  unfold key?
  cases cycleKey proposal <;> simp [Except.toOption]

/-- The key of a cycle does not depend on how its participants are enumerated. -/
theorem key?_of_participants {proposal : Fields} {items items' : List Json}
    (listed : Fields.get proposal "participants" = .arr items) (h : ParticipantsChange items items') :
    key? (Fields.set proposal "participants" (.arr items')) = key? proposal := by
  have list : ∀ items, ((Json.arr items).orElse (.arr [])).objectItems = .ok (Json.arr items).objects := fun items => by
    rw [Json.objectItems_orElse]
    exact if_neg (by simp [Json.isSolid])
  have id : Fields.get (Fields.set proposal "participants" (.arr items')) "id" = Fields.get proposal "id" :=
    (Fields.get_set _ _ _ _).trans (if_neg (by decide))
  have changed : Fields.get (Fields.set proposal "participants" (.arr items')) "participants" = .arr items' :=
    (Fields.get_set _ _ _ _).trans (if_pos rfl)
  unfold key? cycleKey
  dsimp only
  rw [id, changed, listed, list, list]
  split
  · rfl
  · dsimp only [bind, Except.bind]
    rcases mapM_perm (f := fun p => (Fields.get p "intent_id").spelled) h.objects_perm
      with ⟨_, _, failed, failed'⟩ | ⟨intents, intents', read, read', order⟩
    · rw [failed, failed']
      rfl
    · rw [read, read']
      dsimp only
      rw [sortTexts_of_perm order]

/-- The keys of the proposals that are compared. -/
def comparedKeys (limit : Nat) (items : List Json) : List (Option String) :=
  ((Json.arr items).objects.take limit).map key?

theorem ProposalsChange.keys_perm {limit : Nat} {items items' : List Json} (h : ProposalsChange limit items items') :
    (comparedKeys limit items).Perm (comparedKeys limit items') := by
  unfold comparedKeys
  cases h with
  | permuted h few =>
      have order : (Json.arr items).objects.Perm (Json.arr items').objects := h.filterMap _
      rw [List.take_of_length_le few, List.take_of_length_le (order.length_eq ▸ few)]
      exact order.map key?
  | inserted h => rw [h.objects_eq]
  | removed h => rw [h.objects_eq]
  | participants front back listed h =>
      -- the changed proposal keeps its place, so it is compared or left off as before
      have keys := key?_of_participants listed h
      rw [List.map_take, List.map_take]
      simp [Json.objects, Json.fields?, keys]

/-- A change of a result leaves the keys of its first proposals, except for their order. -/
theorem Rearranged.keys_perm {limit : Nat} {result result' : Json} (h : Rearranged limit result result') :
    ((firstProposals result limit).map key?).Perm ((firstProposals result' limit).map key?) := by
  obtain ⟨found, listed, change⟩ := h
  unfold firstProposals
  rw [reported_of_found found, listed, reported_of_found (by rw [Fields.get_set, if_pos rfl]), Fields.get_set, if_pos rfl]
  exact change.keys_perm

theorem keysOf_of_perm {proposals others : List Fields} (h : (proposals.map key?).Perm (others.map key?)) :
    keysOf proposals = keysOf others := by
  ext key
  have listed : some key ∈ proposals.map key? ↔ some key ∈ others.map key? := h.mem_iff
  simpa [keysOf, key?_eq_some] using listed

/-- However often a result is changed, the set of its keys stays. -/
theorem keysOf_rearranged {limit : Nat} {result result' : Json}
    (h : Relation.ReflTransGen (Rearranged limit) result result') :
    keysOf (firstProposals result limit) = keysOf (firstProposals result' limit) := by
  induction h with
  | refl => rfl
  | tail _ change ih => exact ih.trans (keysOf_of_perm change.keys_perm)

namespace Comparison

/-- Sides with the same keys are matched alike. -/
theorem matched_alike {a a' b b' : Json} {base base' cand cand' : List Fields} {left left' right right' : Side}
    (h : Side.ofSelected a base = .ok left) (h' : Side.ofSelected a' base' = .ok left')
    (k : Side.ofSelected b cand = .ok right) (k' : Side.ofSelected b' cand' = .ok right')
    (baseKeys : keysOf base = keysOf base') (candKeys : keysOf cand = keysOf cand') :
    (left.against right).overlap = (left'.against right').overlap
      ∧ (left.against right).onlyBaseline = (left'.against right').onlyBaseline
      ∧ (left.against right).onlyCandidate = (left'.against right').onlyCandidate := by
  have lefts : ∀ key, key ∈ left.keys ↔ key ∈ left'.keys := fun key => by
    rw [Side.mem_keys_iff h, Side.mem_keys_iff h', baseKeys]
  have rights : ∀ key, key ∈ right.keys ↔ key ∈ right'.keys := fun key => by
    rw [Side.mem_keys_iff k, Side.mem_keys_iff k', candKeys]
  refine ⟨keysWhere_congr fun key => ?_, keysWhere_congr fun key => ?_, keysWhere_congr fun key => ?_⟩
  · simp [lefts, rights]
  · simp [lefts, rights]
  · simp [lefts, rights]

/-- However the proposals and participants of both results are enumerated, the same cycles are matched, under any
labels. -/
theorem matched_in_any_order {limit : Nat} {a a' b b' : Json} {c c' : Comparison}
    (baseline : Relation.ReflTransGen (Rearranged limit) a a') (candidate : Relation.ReflTransGen (Rearranged limit) b b')
    (before : ofResults a b (.int limit) = .ok c) (after : ofResults a' b' (.int limit) = .ok c') (x y : String) :
    c'.selectedKeys x y = c.selectedKeys x y
      ∧ Fields.get? (c'.metrics x y) (x ++ "_vs_" ++ y ++ "_overlap")
        = Fields.get? (c.metrics x y) (x ++ "_vs_" ++ y ++ "_overlap") := by
  obtain ⟨left, right, measured, measured', rfl⟩ := ofResults_eq_ok.mp before
  obtain ⟨left', right', again, again', rfl⟩ := ofResults_eq_ok.mp after
  obtain ⟨overlap, onlyBaseline, onlyCandidate⟩ := matched_alike (Side.ofSelected_of_ofResult measured)
    (Side.ofSelected_of_ofResult again) (Side.ofSelected_of_ofResult measured') (Side.ofSelected_of_ofResult again')
    (keysOf_rearranged baseline) (keysOf_rearranged candidate)
  constructor
  · unfold selectedKeys
    rw [overlap, onlyBaseline, onlyCandidate]
  · rw [get?_common, get?_common, overlap]

/-- The baseline enumerates a cycle and its participants in another order, and null stands among them; the candidate
has this cycle alone. -/
theorem matched_in_any_order_of_swapped :
    let result : List Json → Json := fun proposals => .obj [("matching", .obj [("proposals", .arr proposals)])]
    let intent : String → Json := fun id => .obj [("intent_id", .str id)]
    let cycle : List Json → Json := fun participants => .obj [("participants", .arr participants)]
    let named : Json := .obj [("id", .str "p2")]
    let a := result [cycle [intent "i2", intent "i1"], named]
    let a' := result [.null, named, cycle [intent "i1", .null, intent "i2"]]
    let b := result [cycle [intent "i1", intent "i2"]]
    let c : Comparison := ⟨0, 0, 2, 1, 0, 0, ["i1>i2"], ["p2"], []⟩
    Relation.ReflTransGen (Rearranged 2) a a' ∧ ofResults a b (.int (2 : Nat)) = .ok c
      ∧ ∃ c', ofResults a' b (.int (2 : Nat)) = .ok c' ∧ c'.selectedKeys "v1" "v2" = c.selectedKeys "v1" "v2"
        ∧ Fields.get? (c'.metrics "v1" "v2") ("v1" ++ "_vs_" ++ "v2" ++ "_overlap")
          = Fields.get? (c.metrics "v1" "v2") ("v1" ++ "_vs_" ++ "v2" ++ "_overlap") := by
  intro result intent cycle named a a' b c
  have one : ∀ items items', ProposalsChange 2 items items' → Rearranged 2 (result items) (result items') :=
    fun items items' h => @Rearranged.proposals 2 [("matching", .obj [("proposals", .arr items)])]
      [("proposals", .arr items)] items items' rfl rfl h
  have inner : ∀ items items', ParticipantsChange items items' →
      ProposalsChange 2 [cycle items, named] [cycle items', named] := fun _ _ h => .participants [] [named] rfl h
  have swapped := one _ _ (inner _ _ (.permuted (.swap (intent "i1") (intent "i2") [])))
  have strayed := one _ _ (inner _ _ (.inserted (@Strayed.among [intent "i1"] [intent "i2"] .null rfl)))
  have moved := one _ _ (.permuted (.swap named (cycle [intent "i1", .null, intent "i2"]) []) (by decide))
  have added := one _ _ (.inserted (@Strayed.among [] [named, cycle [intent "i1", .null, intent "i2"]] .null rfl))
  have changed : Relation.ReflTransGen (Rearranged 2) a a' :=
    (((Relation.ReflTransGen.single swapped).tail strayed).tail moved).tail added
  have sorted : sortTexts ["i1", "i2"] = ["i1", "i2"] := List.mergeSort_of_pairwise (by decide)
  have key : cycleKey [("participants", .arr [intent "i1", intent "i2"])] = .ok "i1>i2" := by
    show Except.ok (">".intercalate (sortTexts ["i1", "i2"])) = _
    rw [sorted]
    rfl
  have keySwapped : cycleKey [("participants", .arr [intent "i2", intent "i1"])] = .ok "i1>i2" := by
    show Except.ok (">".intercalate (sortTexts ["i2", "i1"])) = _
    rw [sortTexts_of_perm (.swap "i2" "i1" []), sorted]
    rfl
  have keyStrayed : cycleKey [("participants", .arr [intent "i1", .null, intent "i2"])] = .ok "i1>i2" := key
  have baseline : Side.ofResult a (.int (2 : Nat)) = .ok ⟨["i1>i2", "p2"], 0, 0⟩ :=
    Side.ofResult_eq_ok.mpr ⟨_, rfl, Side.ofSelected_eq_ok.mpr ⟨mapM_eq_ok.mpr (congrArg (· :: _) keySwapped),
      ⟨.zero, by decide +kernel, by decide +kernel⟩, by decide +kernel⟩⟩
  have again : Side.ofResult a' (.int (2 : Nat)) = .ok ⟨["p2", "i1>i2"], 0, 0⟩ :=
    Side.ofResult_eq_ok.mpr ⟨_, rfl, Side.ofSelected_eq_ok.mpr ⟨mapM_eq_ok.mpr (congrArg (_ :: [·]) keyStrayed),
      ⟨.zero, by decide +kernel, by decide +kernel⟩, by decide +kernel⟩⟩
  have candidate : Side.ofResult b (.int (2 : Nat)) = .ok ⟨["i1>i2"], 0, 0⟩ :=
    Side.ofResult_eq_ok.mpr ⟨_, rfl, Side.ofSelected_eq_ok.mpr ⟨mapM_eq_ok.mpr (congrArg ([·]) key),
      ⟨.zero, by decide +kernel, by decide +kernel⟩, by decide +kernel⟩⟩
  have before : ofResults a b (.int (2 : Nat)) = .ok c :=
    ofResults_eq_ok.mpr ⟨_, _, baseline, candidate, by decide +kernel⟩
  have after : ofResults a' b (.int (2 : Nat)) = .ok c :=
    ofResults_eq_ok.mpr ⟨_, _, again, candidate, by decide +kernel⟩
  exact ⟨changed, before, c, after, matched_in_any_order changed .refl before after "v1" "v2"⟩

end Comparison

end CanaryGate
