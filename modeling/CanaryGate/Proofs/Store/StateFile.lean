import CanaryGate.Proofs.Json.Plain
import CanaryGate.Proofs.Json.RoundTrip
import CanaryGate.Proofs.Store.Commit

/-! # State files

What a commit writes is what a new store finds: the same namespaces, each value of the same kind and in the same
place. For that the names of an object have to be different, and in a store they are, since a state that is
read has no repeated names and no operation brings any in.
-/

namespace CanaryGate

namespace Json

/-- What is written for storage reads back. -/
theorem read_render {v : Json} (within : Within depthLimit v) (distinct : Distinct v) :
    read (render .stored v) = .ok v := by
  have plain := allPlain_write v
  have mark : (write .stored v).head? ≠ some (Char.ofNat 0xFEFF) := by
    intro first
    have shown := plain _ (List.mem_of_head? first)
    exact absurd shown (by decide)
  unfold read render
  dsimp only
  rw [String.toList_ofList, if_neg mark]
  exact readWithin_write within distinct

end Json

namespace Disk

theorem normalizeLines_of_plain {s : List Char} (plain : Json.AllPlain s) : normalizeLines s = s := by
  induction s with
  | nil => rfl
  | cons c rest ih =>
      obtain ⟨first, others⟩ := Json.allPlain_cons.mp plain
      have other : c ≠ '\r' := by
        rintro rfl
        exact absurd first (by decide)
      unfold normalizeLines
      split
      · rename_i same
        cases same
      · rename_i same
        exact absurd (List.cons.inj same).1 other
      · rename_i same
        exact absurd (List.cons.inj same).1 other
      · rename_i same
        cases same
        rw [ih others]

theorem encode_eq_ok {state : Namespaces} {text : String} (h : encode state = .ok text) :
    state.Writable ∧ text = (Json.obj state).render .stored := by
  have writable : state.Writable := succeeds_encode.mp ⟨text, h⟩
  unfold encode at h
  dsimp only at h
  rw [writable] at h
  exact ⟨writable, (Except.ok.inj h).symm⟩

/-- A state that was encoded is decoded. -/
theorem read_of_encode {d : Disk} {state : Namespaces} {text : String} (distinct : (Json.obj state).Distinct)
    (encoded : encode state = .ok text) (here : d.entry = .document text) : d.read = .ok (some state) := by
  obtain ⟨writable, rfl⟩ := encode_eq_ok encoded
  have line : normalizeLines (Json.write .stored (.obj state)) = Json.write .stored (.obj state) :=
    normalizeLines_of_plain (Json.allPlain_write _)
  unfold read
  rw [here]
  dsimp only
  rw [Json.render, String.toList_ofList, line]
  have back := Json.read_render writable distinct
  rw [Json.render] at back
  rw [back]

theorem read_write {d : Disk} {state : Namespaces} (distinct : (Json.obj state).Distinct)
    (written : (d.write state).1 = .ok ()) : (d.write state).2.read = .ok (some state) := by
  obtain ⟨text, encoded, here⟩ := entry_write_ok written
  exact read_of_encode distinct encoded here

/-- A state that a file holds has no repeated names. -/
theorem distinct_of_read {d : Disk} {state : Namespaces} (h : d.read = .ok (some state)) :
    (Json.obj state).Distinct := by
  unfold read at h
  split at h
  · cases h
  · cases h
  · cases h
  · split at h
    · rename_i fields found
      cases h
      exact Json.distinct_of_read found
    · cases h
    · cases h

/-- What is read is decided by what stands at the path. -/
theorem read_congr {d d' : Disk} (path : d.path = d'.path) (entry : d.entry = d'.entry) : d.read = d'.read := by
  unfold read
  rw [path, entry]

theorem path_write (d : Disk) (state : Namespaces) : (d.write state).2.path = d.path := by
  unfold write
  cases encode state with
  | error fault => rfl
  | ok text => cases here : d.entry <;> simp [addTemporary, dropTemporary, replace, here]

end Disk

namespace Store

theorem openFile_of_read {d : Disk} {state : Namespaces} (h : d.read = .ok (some state)) :
    openFile d = .ok ⟨state, 0, some d⟩ := by
  unfold openFile
  rw [h]
  rfl

theorem read_of_commit {s : Store} {d : Disk} (file : s.disk = some d) (outermost : s.depth = 0)
    (distinct : (Json.obj s.namespaces).Distinct) (committed : s.commit.1 = .ok ()) :
    ∃ d', s.commit.2.disk = some d' ∧ d'.read = .ok (some s.namespaces) := by
  unfold commit at committed ⊢
  rw [if_pos outermost, file] at committed ⊢
  exact ⟨_, rfl, Disk.read_write distinct committed⟩

/-- Values of all kinds, among them some whose text has to be escaped, in a store that was not written yet. -/
def mixed : Store :=
  ⟨[("z\n", .obj [("b", .arr [.int (-3), .float .nan, .obj []]), ("a", .str "\t\"é😀")]),
    ("a", .obj [("one", .float (.ofInt 1)), ("yes", .bool true), ("", .null), ("far", .float (.infinite true))])],
    0, some ⟨"state.json", .absent, []⟩⟩

end Store

end CanaryGate
