import CanaryGate.Json.Reader
import CanaryGate.Json.Writer
import Mathlib.Tactic.SplitIfs

/-! # Texts in documents

Each character is read back from what is written for it: itself, a letter after a backslash, the code of its
unit, or the codes of a pair of units.
-/

namespace CanaryGate

theorem hexValue?_hexDigit {n : Nat} (h : n < 16) : hexValue? (hexDigit n) = some n := by
  have all : ∀ n : Fin 16, hexValue? (hexDigit n.val) = some n.val := by decide
  exact all ⟨n, h⟩

namespace Json

/-- Four digits of a unit are read back where something follows. -/
theorem readUnit_hexDigits {n : Nat} (h : n < 0x10000) {rest : List Char} (more : rest ≠ []) :
    readUnit (hexDigits 4 n ++ rest) = some (n, rest) := by
  obtain ⟨next, rest, rfl⟩ := List.exists_cons_of_ne_nil more
  have digits : hexDigits 4 n ++ next :: rest = hexDigit (n / 16 / 16 / 16 % 16) :: hexDigit (n / 16 / 16 % 16)
      :: hexDigit (n / 16 % 16) :: hexDigit (n % 16) :: next :: rest := rfl
  have digit : ∀ m : Nat, hexValue? (hexDigit (m % 16)) = some (m % 16) := fun m =>
    hexValue?_hexDigit (Nat.mod_lt m (by decide))
  have value : n / 16 / 16 / 16 % 16 * 4096 + n / 16 / 16 % 16 * 256 + n / 16 % 16 * 16 + n % 16 = n := by omega
  rw [digits]
  simp only [readUnit, digit, Option.bind_eq_bind, Option.bind_some, Option.pure_def, value]

/-- No character is half of a pair. -/
theorem not_surrogate (c : Char) : ¬ (0xD800 ≤ c.toNat ∧ c.toNat < 0xE000) := by
  have valid := c.valid
  rcases valid with low | high
  · have : c.toNat < 0xD800 := low
    omega
  · have : 0xDFFF < c.toNat := high.1
    omega

theorem toNat_lt (c : Char) : c.toNat < 0x110000 := by
  rcases c.valid with low | high
  · have : c.toNat < 0xD800 := low
    omega
  · exact high.2

theorem characterOf_toNat (c : Char) : characterOf c.toNat = c := by
  rw [characterOf, Point.ofNat, dif_neg (not_surrogate c), Point.shown, Char.ofNat_toNat]

/-- One unit is read back. -/
theorem readUnicode_unit {c : Char} (h : c.toNat < 0x10000) {rest : List Char} (more : rest ≠ []) :
    readUnicode (hexDigits 4 c.toNat ++ rest) = .ok (c, rest) := by
  have whole := not_surrogate c
  unfold readUnicode
  rw [readUnit_hexDigits h more]
  dsimp only
  split
  · rw [if_neg (by omega), characterOf_toNat]
  · rw [characterOf_toNat]

/-- A pair of units is read back as one character. -/
theorem readUnicode_pair (high low : Nat) (first : 0xD800 ≤ high ∧ high < 0xDC00) (second : 0xDC00 ≤ low ∧ low < 0xE000)
    {rest : List Char} (more : rest ≠ []) : readUnicode (hexDigits 4 high ++ (unitEscape low ++ rest))
      = .ok (Char.ofNat (pairNumber high low), rest) := by
  have again : unitEscape low ++ rest = '\\' :: 'u' :: (hexDigits 4 low ++ rest) := rfl
  have behind : (hexDigits 4 low ++ rest).drop 4 = rest := rfl
  unfold readUnicode
  rw [again, readUnit_hexDigits (by omega) (by simp)]
  dsimp only
  split
  · rename_i same
    cases same
    rw [behind, if_pos ⟨first.1, first.2, more⟩, readUnit_hexDigits (by omega) more]
    dsimp only
    rw [if_pos second]
  · rename_i other
    exact absurd rfl (other _)

/-- A character beyond sixteen bits is its pair of units. -/
theorem ofNat_pairNumber {c : Char} (h : 0x10000 ≤ c.toNat) :
    Char.ofNat (pairNumber (0xD800 + (c.toNat - 0x10000) / 0x400) (0xDC00 + (c.toNat - 0x10000) % 0x400)) = c := by
  have number : pairNumber (0xD800 + (c.toNat - 0x10000) / 0x400) (0xDC00 + (c.toNat - 0x10000) % 0x400) = c.toNat := by
    unfold pairNumber
    omega
  rw [number, Char.ofNat_toNat]

/-! The escapes. -/

/-- The ways in which a character is written between double quotes. -/
inductive Escaped (asciiOnly : Bool) (c : Char) : List Char → Prop where
  | itself (mark : c ≠ doubleQuote) (slash : c ≠ backslash) (shown : 32 ≤ c.toNat)
      (ascii : asciiOnly = true → c.toNat < 127) : Escaped asciiOnly c [c]
  | letter {e : Char} (shown : 32 ≤ e.toNat ∧ e.toNat < 127) (other : e ≠ 'u') (meant : simpleEscape? e = some c) :
      Escaped asciiOnly c [backslash, e]
  | unit (small : c.toNat < 0x10000) : Escaped asciiOnly c (unitEscape c.toNat)
  | pair (ascii : asciiOnly = true) (large : 0x10000 ≤ c.toNat) : Escaped asciiOnly c
      (unitEscape (0xD800 + (c.toNat - 0x10000) / 0x400) ++ unitEscape (0xDC00 + (c.toNat - 0x10000) % 0x400))

theorem escaped_escape (asciiOnly : Bool) (c : Char) : Escaped asciiOnly c (escape asciiOnly c) := by
  unfold escape
  split_ifs with marked feed turn tab form back low shown small
  · rcases marked with rfl | rfl
    · exact .letter (by decide) (by decide) rfl
    · exact .letter (by decide) (by decide) rfl
  · exact .letter (by decide) (by decide) (feed ▸ rfl)
  · exact .letter (by decide) (by decide) (turn ▸ rfl)
  · exact .letter (by decide) (by decide) (tab ▸ rfl)
  · have same : c = Char.ofNat 12 := by rw [← form, Char.ofNat_toNat]
    exact .letter (by decide) (by decide) (same ▸ rfl)
  · have same : c = Char.ofNat 8 := by rw [← back, Char.ofNat_toNat]
    exact .letter (by decide) (by decide) (same ▸ rfl)
  · exact .unit (by omega)
  · rw [not_or] at marked
    exact .itself marked.1 marked.2 (by omega) fun ascii => by simpa [ascii] using shown
  · exact .unit small
  · cases asciiOnly with
    | false => exact absurd rfl shown
    | true => exact .pair rfl (by omega)

section Escapes

variable (opened fuel : Nat) {rest : List Char}

theorem readText_plain {c : Char} (mark : c ≠ doubleQuote) (slash : c ≠ backslash) (shown : 32 ≤ c.toNat) :
    readText opened (fuel + 1) (c :: rest)
      = (readText opened fuel rest).map fun p => (c :: p.1, p.2) := by
  conv =>
    lhs
    unfold readText
  rw [if_neg mark, if_neg slash, if_neg (by omega)]
  cases readText opened fuel rest <;> rfl

theorem readText_letter {e c : Char} (letter : e ≠ 'u') (meant : simpleEscape? e = some c) :
    readText opened (fuel + 1) (backslash :: e :: rest)
      = (readText opened fuel rest).map fun p => (c :: p.1, p.2) := by
  conv =>
    lhs
    unfold readText
  rw [if_neg (by decide), if_pos rfl]
  split
  · rename_i same
    cases same
  · rename_i same
    cases same
    exact absurd rfl letter
  · rename_i same
    cases same
    rw [meant]
    cases readText opened fuel rest <;> rfl

theorem readText_code {s : List Char} {c : Char} (meant : readUnicode s = .ok (c, rest)) :
    readText opened (fuel + 1) (backslash :: 'u' :: s)
      = (readText opened fuel rest).map fun p => (c :: p.1, p.2) := by
  have step : readText opened (fuel + 1) (backslash :: 'u' :: s)
      = readUnicode s >>= fun p => readText opened fuel p.2 >>= fun q => .ok (p.1 :: q.1, q.2) := rfl
  have known : readText opened (fuel + 1) (backslash :: 'u' :: s)
      = readText opened fuel rest >>= fun p => .ok (c :: p.1, p.2) := by
    rw [step, meant]
    rfl
  rw [known]
  cases readText opened fuel rest <;> rfl

/-- A character is read back from what is written for it. -/
theorem readText_escape {asciiOnly : Bool} (c : Char) (more : rest ≠ []) :
    readText opened (fuel + 1) (escape asciiOnly c ++ rest)
      = (readText opened fuel rest).map fun p => (c :: p.1, p.2) := by
  have written := escaped_escape asciiOnly c
  generalize escape asciiOnly c = shown at written ⊢
  cases written with
  | itself mark slash shown => exact readText_plain opened fuel mark slash shown
  | letter _ other meant => exact readText_letter opened fuel other meant
  | unit small => exact readText_code opened fuel (readUnicode_unit small more)
  | pair _ large =>
      have most := toNat_lt c
      have meant := readUnicode_pair (0xD800 + (c.toNat - 0x10000) / 0x400) (0xDC00 + (c.toNat - 0x10000) % 0x400)
        (by omega) (by omega) more
      rw [ofNat_pairNumber large] at meant
      rw [List.append_assoc]
      exact readText_code opened fuel meant

end Escapes

/-- A text is read back up to its closing quote. -/
theorem readText_flatMap (opened : Nat) {fuel : Nat} {chars : List Char} (enough : chars.length < fuel)
    (rest : List Char) :
    readText opened fuel (chars.flatMap (escape true) ++ doubleQuote :: rest) = .ok (chars, rest) := by
  induction chars generalizing fuel with
  | nil =>
      obtain ⟨fuel, rfl⟩ := Nat.exists_eq_succ_of_ne_zero (Nat.ne_of_gt enough)
      rfl
  | cons c chars ih =>
      obtain ⟨fuel, rfl⟩ := Nat.exists_eq_succ_of_ne_zero (Nat.ne_of_gt (Nat.zero_lt_of_lt enough))
      rw [List.flatMap_cons, List.append_assoc, readText_escape opened fuel c (by simp),
        ih (Nat.lt_of_succ_lt_succ enough)]
      rfl

theorem escape_ne_nil (asciiOnly : Bool) (c : Char) : escape asciiOnly c ≠ [] := by
  have written := escaped_escape asciiOnly c
  generalize escape asciiOnly c = shown at written ⊢
  cases written <;> simp [unitEscape]

theorem length_le_length_flatMap (chars : List Char) : chars.length ≤ (chars.flatMap (escape true)).length := by
  induction chars with
  | nil => exact Nat.zero_le _
  | cons c chars ih =>
      have some := List.length_pos_iff.mpr (escape_ne_nil true c)
      rw [List.flatMap_cons, List.length_append, List.length_cons]
      omega

end Json

end CanaryGate
