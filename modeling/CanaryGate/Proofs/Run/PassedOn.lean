import CanaryGate.Proofs.Config.Limits
import CanaryGate.Proofs.Json.Wide
import CanaryGate.Run.Loop

/-! # What a request passes on

The intents and the edge intents of a request go to the engines as they stand in the document, and the asset values as
the doubles that they were read as. So the question to an engine is as fit to be sent as those parts are: their numbers
must be finite, and no half of a surrogate pair may stand in their texts.
-/

namespace CanaryGate

namespace Reader

variable {α : Type} {r : Reader α}

/-- What a reader of mappings accepts was read under the same names. -/
theorem mem_of_entries {fields : Fields} {read : List (String × α)} (h : entries r fields = .accepted read) :
    ∀ entry ∈ read, ∃ value, (entry.1, value) ∈ fields ∧ r value = .accepted entry.2 := by
  induction fields generalizing read with
  | nil =>
      cases h
      nofun
  | cons field rest ih =>
      obtain ⟨name, value⟩ := field
      obtain ⟨_, others, first, later, rfl⟩ := Checked.both_eq_accepted_iff.mp h
      obtain ⟨a, accepted, rfl⟩ := Checked.map_eq_accepted_iff.mp first
      intro entry member
      rcases List.mem_cons.mp member with rfl | inside
      · exact ⟨value, .head _, Checked.under_eq_accepted_iff.mp accepted⟩
      · obtain ⟨other, stands, given⟩ := ih later entry inside
        exact ⟨other, .tail _ stands, given⟩

theorem eq_of_entries_anything {fields read : Fields} (h : entries anything fields = .accepted read) :
    read = fields := by
  induction fields generalizing read with
  | nil =>
      cases h
      rfl
  | cons field rest ih =>
      obtain ⟨_, others, first, later, rfl⟩ := Checked.both_eq_accepted_iff.mp h
      obtain ⟨a, accepted, rfl⟩ := Checked.map_eq_accepted_iff.mp first
      cases Checked.under_eq_accepted_iff.mp accepted
      rw [ih later]

theorem eq_of_mapping_anything {input : Json} {fields : Fields} (h : mapping anything input = .accepted fields) :
    input = .obj fields := by
  cases input with
  | obj standing => rw [eq_of_entries_anything h]
  | null | bool b | int n | float x | str s | arr items => cases h

theorem eq_of_items_anything {index : Nat} {inputs : List Json} {rows : List Fields}
    (h : items (mapping anything) index inputs = .accepted rows) : inputs = rows.map .obj := by
  induction inputs generalizing index rows with
  | nil =>
      cases h
      rfl
  | cons input rest ih =>
      obtain ⟨_, others, first, later, rfl⟩ := Checked.both_eq_accepted_iff.mp h
      obtain ⟨row, accepted, rfl⟩ := Checked.map_eq_accepted_iff.mp first
      rw [eq_of_mapping_anything (Checked.under_eq_accepted_iff.mp accepted), ih later]
      rfl

/-- A number that is not spelled as a text is finite where the value was. -/
theorem isFinite_of_number {input : Json} {x : Binary64} (h : number input = .accepted x) (finite : input.Finite)
    (unspelled : ∀ s, input ≠ .str s) : x.isFinite = true := by
  cases input with
  | float y =>
      cases h
      exact Json.finite_float.mp finite
  | int n =>
      unfold number at h
      dsimp only at h
      split at h
      · rename_i inside
        cases h
        exact inside
      · cases h
  | bool b =>
      cases h
      cases b with
      | false => decide +kernel
      | true => decide +kernel
  | str s => exact absurd rfl (unspelled s)
  | null | arr items | obj fields => cases h

end Reader

namespace RunRequest

open Json Run

/-- Every number that is passed on to the engines is finite. -/
structure Finite (r : RunRequest) : Prop where
  intents : ∀ fields ∈ r.intents, Json.Finite (.obj fields)
  assetValues : ∀ entry ∈ r.assetValues, entry.2.isFinite = true
  edgeIntents : ∀ fields ∈ r.edgeIntents, Json.Finite (.obj fields)

theorem eq_of_readMappings {input : Json} {rows : List Fields} (h : readMappings input = .accepted rows) :
    input = .arr (rows.map .obj) := by
  cases input with
  | arr items => rw [Reader.eq_of_items_anything h]
  | null | bool b | int n | float x | str s | obj fields => cases h

variable {P : Json → Prop} {fields : Fields} {request : RunRequest}

/-- A property of what stands in the document is one of the mappings that are read from it. -/
theorem forall_mappings (parts : ∀ {items}, P (.arr items) → ∀ item ∈ items, P item)
    (all : ∀ field ∈ fields, P field.2) {name : String} {rows : List Fields}
    (h : Fields.defaulted fields name [] readMappings = .accepted rows) :
    ∀ row ∈ rows, P (.obj row) := by
  refine Fields.of_standing (P := fun rows => ∀ row ∈ rows, P (.obj row)) (by simp) ?_ h
  intro input rows stands read row member
  have held : P input := all _ (Fields.mem_of_get? stands)
  rw [eq_of_readMappings read] at held
  exact parts held _ (List.mem_map_of_mem member)

/-- The readings of the three parts that are passed on. -/
theorem readings_of_read (h : read (.obj fields) = .accepted request) :
    Fields.defaulted fields "intents" [] readMappings = .accepted request.intents
      ∧ Fields.defaulted fields "asset_values_usd" [] (Reader.mapping Reader.number) = .accepted request.assetValues
      ∧ Fields.defaulted fields "edge_intents" [] readMappings = .accepted request.edgeIntents := by
  simp only [read, Reader.record, readFields, Checked.seq_eq_accepted, Checked.map_eq_accepted] at h
  obtain ⟨_, _, h, -, rfl⟩ := h
  obtain ⟨_, edgeIntents, h, readEdges, rfl⟩ := h
  obtain ⟨_, assetValues, h, readAssets, rfl⟩ := h
  obtain ⟨_, intents, h, readIntents, rfl⟩ := h
  obtain ⟨_, _, h, -, rfl⟩ := h
  obtain ⟨_, _, h, -, rfl⟩ := h
  obtain ⟨_, -, rfl⟩ := h
  exact ⟨readIntents, readAssets, readEdges⟩

/-- A document of finite numbers passes on finite numbers, unless an asset value is spelled as a text. -/
theorem finite_of_read {value : Json} (finite : value.Finite) (h : read value = .accepted request)
    (unspelled : ∀ values, value.field? "asset_values_usd" = some (.obj values) →
      ∀ entry ∈ values, ∀ s, entry.2 ≠ .str s) : request.Finite := by
  cases value with
  | obj fields =>
      obtain ⟨readIntents, readAssets, readEdges⟩ := readings_of_read h
      have all := finite_obj.mp finite
      refine ⟨forall_mappings finite_arr.mp all readIntents, ?_, forall_mappings finite_arr.mp all readEdges⟩
      refine Fields.of_standing (P := fun assets => ∀ entry ∈ assets, entry.2.isFinite = true) (by simp) ?_ readAssets
      intro input assets stands read entry member
      cases input with
      | obj values =>
          obtain ⟨value, inside, accepted⟩ := Reader.mem_of_entries read entry member
          have held := finite_obj.mp (all _ (Fields.mem_of_get? stands))
          exact Reader.isFinite_of_number accepted (held _ inside) (unspelled values stands _ inside)
      | null | bool b | int n | float x | str s | arr items => cases read
  | null | bool b | int n | float x | str s | arr items => cases h

/-! Wide documents. -/

/-- What is passed on to the engines has bytes. -/
structure Encodable (r : RunRequest) : Prop where
  finite : r.Finite
  whole : r.halves = none

/-- An accepted document is accepted as it is shown. -/
theorem eq_of_readWide {wide : Json} (h : readWide wide = .accepted request) :
    ∃ r, read wide.shown = .accepted r ∧ request = ofWide wide r := by
  obtain ⟨_, _, accepted, -, rfl⟩ := Checked.both_eq_accepted_iff.mp h
  obtain ⟨r, shown, rfl⟩ := Checked.map_eq_accepted_iff.mp accepted
  exact ⟨r, shown, rfl⟩

theorem readWide_of_read {wide : Json} {r : RunRequest} (shown : read wide.shown = .accepted r)
    (key : readKey wide = .accepted ()) : readWide wide = .accepted (ofWide wide r) :=
  Checked.both_eq_accepted_iff.mpr ⟨_, (), Checked.map_eq_accepted_iff.mpr ⟨r, shown, rfl⟩, key, rfl⟩

theorem finite_ofWide {wide : Json} {r : RunRequest} (finite : r.Finite) : (ofWide wide r).Finite :=
  ⟨finite.intents, finite.assetValues, finite.edgeIntents⟩

/-- Halves of pairs are passed on exactly from where the engines are told of them. -/
theorem halves_eq_none_iff {wide : Json} (h : readWide wide = .accepted request) :
    request.halves = none ↔ tellsHalves wide = false := by
  obtain ⟨r, -, rfl⟩ := eq_of_readWide h
  show halvesOf wide _ = none ↔ _
  unfold halvesOf
  cases tellsHalves wide with
  | false => simp
  | true => simp

/-- A document without halves of pairs tells the engines of none. -/
theorem tellsHalves_of_untorn {wide : Json} (untorn : wide.torn = false) : tellsHalves wide = false := by
  have parts : ∀ name, (wide.field? name).any torn = false := by
    intro name
    cases found : wide.field? name with
    | none => rfl
    | some part => exact untorn_of_field? untorn found
  have names : (((wide.field? "asset_values_usd").bind fields?).getD []).any (fun entry => tornText entry.1) = false := by
    cases found : wide.field? "asset_values_usd" with
    | none => rfl
    | some part =>
        have whole := untorn_of_field? untorn found
        cases part with
        | obj entries => exact List.any_eq_false.mpr fun entry member => by simp [(untorn_of_mem whole member).1]
        | null | bool b | int n | float x | str s | arr items => rfl
  have time : (wide.wideText? "recorded_at").any (fun time => !Point.whole time) = false := by
    cases found : wide.wideText? "recorded_at" with
    | none => rfl
    | some time => simp [whole_wideText? untorn found]
  rw [tellsHalves, parts, names, parts, time]
  rfl

/-! The question. -/

theorem finite_payload_iff (request : RunRequest) (recordedAt : String) (config : MatcherConfig) :
    Json.Finite (.obj (engineRequest request recordedAt config).payload) ↔ request.Finite := by
  have settings : Json.Finite (.obj config.toFields) := by
    have optional : ∀ n : Option Int, Json.Finite (Json.optional .int n) := by
      intro n
      cases n with
      | none => exact .null
      | some n => exact .int n
    simp [MatcherConfig.toFields, Json.Finite.int, Json.Finite.bool, optional]
  constructor
  · intro h
    simp only [EngineRequest.payload, engineRequest, finite_obj, List.forall_mem_cons, finite_arr, List.forall_mem_map,
      finite_float] at h
    obtain ⟨intents, assets, edges, -⟩ := h
    exact ⟨fun row member => finite_obj.mpr (intents row member), assets,
      fun row member => finite_obj.mpr (edges row member)⟩
  · intro h
    have assets : Json.Finite (.obj (request.assetValues.map fun e => (e.1, .float e.2))) :=
      finite_obj.mpr (List.forall_mem_map.mpr fun entry member => .float (h.assetValues entry member))
    refine finite_obj.mpr ?_
    simp only [EngineRequest.payload, engineRequest, List.forall_mem_cons, finite_arr, List.forall_mem_map]
    exact ⟨h.intents, assets, h.edgeIntents, .str _, settings, by simp⟩

/-- The integers that are passed on to the baseline are short, since they were read or are the baseline's own. -/
theorem short_payload {value : Json} (short : value.Short) (h : read value = .accepted request) (recordedAt : String) :
    Json.Short (.obj (engineRequest request recordedAt .default).payload) := by
  cases value with
  | obj fields =>
      obtain ⟨readIntents, -, readEdges⟩ := readings_of_read h
      have all := short_obj.mp short
      have assets : Json.Short (.obj (request.assetValues.map fun e => (e.1, .float e.2))) :=
        short_obj.mpr (List.forall_mem_map.mpr fun entry _ => .float entry.2)
      have settings : Json.Short (.obj MatcherConfig.default.toFields) := by
        have two : Json.Short (.int 2) := .int (writable_digit (by decide))
        have three : Json.Short (.int 3) := .int (writable_digit (by decide))
        simp [MatcherConfig.toFields, MatcherConfig.default, two, three, Json.Short.bool, Json.Short.null,
          Json.optional]
      refine short_obj.mpr ?_
      simp only [EngineRequest.payload, engineRequest, List.forall_mem_cons]
      refine ⟨short_arr.mpr ?_, assets, short_arr.mpr ?_, .str _, settings, by simp⟩
      · exact List.forall_mem_map.mpr (forall_mappings short_arr.mp all readIntents)
      · exact List.forall_mem_map.mpr (forall_mappings short_arr.mp all readEdges)
  | null | bool b | int n | float x | str s | arr items => cases h

theorem short_payload_of_readWide {wide : Json} (short : wide.Short) (h : readWide wide = .accepted request)
    (recordedAt : String) : Json.Short (.obj (engineRequest request recordedAt .default).payload) := by
  obtain ⟨r, shown, rfl⟩ := eq_of_readWide h
  exact short_payload short.shown shown recordedAt

end RunRequest

end CanaryGate
