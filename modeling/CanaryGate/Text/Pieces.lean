/-!
# Pieces of a text

A text cut at every mark of one kind. Put together again the pieces give the text.
-/

namespace CanaryGate

/-- The pieces of a text between marks. There is one more of them than there are marks. -/
def pieces (mark : Char) : List Char → List (List Char)
  | [] => [[]]
  | c :: rest =>
    if c = mark then [] :: pieces mark rest
    else match pieces mark rest with
      | [] => [[c]]
      | piece :: more => (c :: piece) :: more

def joinPieces (mark : Char) : List (List Char) → List Char
  | [] => []
  | [piece] => piece
  | piece :: more => piece ++ mark :: joinPieces mark more

theorem pieces_ne_nil (mark : Char) (s : List Char) : pieces mark s ≠ [] := by
  cases s with
  | nil => simp [pieces]
  | cons c rest =>
    unfold pieces
    split
    · simp
    · split <;> simp

theorem joinPieces_cons_of_ne_nil {mark : Char} {piece : List Char} {more : List (List Char)} (h : more ≠ []) :
    joinPieces mark (piece :: more) = piece ++ mark :: joinPieces mark more := by
  cases more with
  | nil => exact absurd rfl h
  | cons next rest => rfl

/-- Cutting loses nothing. -/
theorem joinPieces_pieces (mark : Char) (s : List Char) : joinPieces mark (pieces mark s) = s := by
  induction s with
  | nil => rfl
  | cons c rest ih =>
    unfold pieces
    split
    · rename_i same
      rw [joinPieces_cons_of_ne_nil (pieces_ne_nil mark rest), ih, same]
      rfl
    · cases h : pieces mark rest with
      | nil => exact absurd h (pieces_ne_nil mark rest)
      | cons piece more =>
        rw [h] at ih
        cases more with
        | nil => simpa [joinPieces] using ih
        | cons next more => simpa [joinPieces] using ih

theorem length_pieces (mark : Char) (s : List Char) : (pieces mark s).length = s.count mark + 1 := by
  induction s with
  | nil => rfl
  | cons c rest ih =>
    unfold pieces
    split
    · rename_i same
      simp [ih, same]
    · rename_i differ
      cases h : pieces mark rest with
      | nil => exact absurd h (pieces_ne_nil mark rest)
      | cons piece more => simpa [h, List.count_cons, differ] using ih

theorem pieces_of_notMem {mark : Char} {s : List Char} (h : mark ∉ s) : pieces mark s = [s] := by
  induction s with
  | nil => rfl
  | cons c rest ih =>
    rw [List.mem_cons, not_or] at h
    unfold pieces
    rw [if_neg (Ne.symm h.1), ih h.2]

/-- What stands in front of the first mark is the first piece. -/
theorem pieces_append_mark {mark : Char} {s : List Char} (h : mark ∉ s) (rest : List Char) :
    pieces mark (s ++ mark :: rest) = s :: pieces mark rest := by
  induction s with
  | nil => exact if_pos rfl
  | cons c more ih =>
    rw [List.mem_cons, not_or] at h
    simp only [List.cons_append, pieces, if_neg (Ne.symm h.1), ih h.2]

end CanaryGate
