/-!
# Blank characters

The characters that are dropped from the ends of a text, and those that make up a blank one.
-/

namespace CanaryGate

def isWhiteSpace (c : Char) : Bool :=
  let n := c.toNat
  (9 ≤ n && n ≤ 13) || n == 0x20 || n == 0x85 || n == 0xA0 || n == 0x1680 || (0x2000 ≤ n && n ≤ 0x200A)
    || n == 0x2028 || n == 0x2029 || n == 0x202F || n == 0x205F || n == 0x3000

/-- White space together with the four information separators. -/
def isBlank (c : Char) : Bool :=
  isWhiteSpace c || (0x1C ≤ c.toNat && c.toNat ≤ 0x1F)

/-- A sequence without the members of a class at both ends. -/
def trimBoth {α : Type} (drop : α → Bool) (s : List α) : List α :=
  ((s.dropWhile drop).reverse.dropWhile drop).reverse

/-- What is trimmed away has every property that all members of the class have. -/
theorem all_dropWhile {α : Type} {drop keep : α → Bool} (members : ∀ a, drop a = true → keep a = true) (s : List α) :
    (s.dropWhile drop).all keep = s.all keep := by
  induction s with
  | nil => rfl
  | cons a s ih =>
    rw [List.dropWhile_cons]
    split
    · next dropped => rw [ih, List.all_cons, members a dropped, Bool.true_and]
    · rfl

theorem all_trimBoth {α : Type} {drop keep : α → Bool} (members : ∀ a, drop a = true → keep a = true) (s : List α) :
    (trimBoth drop s).all keep = s.all keep := by
  unfold trimBoth
  rw [List.all_reverse, all_dropWhile members, List.all_reverse, all_dropWhile members]

/-- The text without blank ends. -/
def strip (s : String) : String := String.ofList (trimBoth isBlank s.toList)

def blank (s : String) : Bool := s.toList.all isBlank

theorem blank_empty : blank "" = true := rfl

end CanaryGate
