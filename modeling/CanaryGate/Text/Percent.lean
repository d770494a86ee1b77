import CanaryGate.Text.Encoding

/-!
# Percent escapes

Bytes in a text of plain characters: a percent sign and two hexadecimal digits stand for a byte, and a
character that a text cannot hold is written by the bytes that stand for it.
-/

namespace CanaryGate

namespace Percent

def byBytes (c : Char) : List Char :=
  (String.ofList [c]).toUTF8.toList.flatMap fun b => '%' :: (hexDigits 2 b.toNat).map Char.toUpper

/-- A text in which every character that is not kept is written by its bytes. -/
def escape (keep : Char → Bool) (s : List Char) : List Char := s.flatMap fun c => if keep c then [c] else byBytes c

/-- The bytes that a text stands for: an escape for its byte, any other character for its own bytes. -/
def bytes : List Char → List UInt8
  | [] => []
  | c :: rest =>
    if c = '%' then
      match rest with
      | a :: b :: more =>
        match hexValue? a, hexValue? b with
        | some high, some low => (high * 16 + low).toUInt8 :: bytes more
        | _, _ => '%'.toUInt8 :: bytes (a :: b :: more)
      | short => '%'.toUInt8 :: bytes short
    else (String.ofList [c]).toUTF8.toList ++ bytes rest
termination_by s => s.length

/-- The text that a text with escapes stands for. -/
def unescape (s : List Char) : List Char := Encoding.decodeLoosely (bytes s)

/-- A text of which every character is kept stands as it is. -/
theorem escape_of_all {keep : Char → Bool} {s : List Char} (h : s.all keep = true) : escape keep s = s := by
  induction s with
  | nil => rfl
  | cons c rest ih =>
    simp only [List.all_cons, Bool.and_eq_true] at h
    have tail := ih h.2
    simp only [escape] at tail ⊢
    simp [h.1, tail]

end Percent

end CanaryGate
