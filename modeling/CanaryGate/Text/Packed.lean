import CanaryGate.Text.Point

/-!
# Packed texts

A text that may hold halves of surrogate pairs, spelled with characters alone. A mark and another character stand for
such a half, and two marks for the mark itself; so a text is known again from its spelling.
-/

namespace CanaryGate

namespace Point

/-- The last number of the first plane, which no script uses. -/
def mark : Char := Char.ofNat 0xFFFF

/-- The character that stands behind a mark for half of a pair. -/
def sign (index : Fin 0x800) : Char := Char.ofNat (0xE000 + index)

def packed : Point → List Char
  | char c => if c = mark then [mark, mark] else [c]
  | half index => [mark, sign index]

def pack (s : List Point) : List Char := s.flatMap packed

/-- What a character behind a mark stands for. -/
def marked (c : Char) : Point :=
  if h : 0xE000 ≤ c.toNat ∧ c.toNat < 0xE800 then half ⟨c.toNat - 0xE000, by omega⟩ else char c

def unpack : List Char → List Point
  | [] => []
  | [c] => [char c]
  | c :: d :: rest => if c = mark then marked d :: unpack rest else char c :: unpack (d :: rest)

theorem toNat_sign (index : Fin 0x800) : (sign index).toNat = 0xE000 + index := by
  have valid : (0xE000 + index.val).isValidChar := .inr ⟨by omega, by omega⟩
  rw [sign, Char.ofNat, dif_pos valid]
  rfl

theorem marked_sign (index : Fin 0x800) : marked (sign index) = half index := by
  have number := toNat_sign index
  have inside : 0xE000 ≤ (sign index).toNat ∧ (sign index).toNat < 0xE800 := by omega
  rw [marked, dif_pos inside]
  exact congrArg half (Fin.ext (by simp only; omega))

/-- A character that is no mark stands for itself. -/
theorem unpack_cons {c : Char} (plain : c ≠ mark) (s : List Char) : unpack (c :: s) = char c :: unpack s := by
  cases s with
  | nil => rfl
  | cons d rest => rw [unpack, if_neg plain]

theorem unpack_packed (p : Point) (s : List Char) : unpack (p.packed ++ s) = p :: unpack s := by
  cases p with
  | half index =>
      show unpack (mark :: sign index :: s) = _
      rw [unpack, if_pos rfl, marked_sign]
  | char c =>
      by_cases same : c = mark
      · subst same
        rfl
      · rw [packed, if_neg same]
        exact unpack_cons same s

/-- A text is read back from its spelling. -/
theorem unpack_pack (s : List Point) : unpack (pack s) = s := by
  induction s with
  | nil => rfl
  | cons p s ih =>
      show unpack (p.packed ++ pack s) = p :: s
      rw [unpack_packed, ih]

end Point

end CanaryGate
