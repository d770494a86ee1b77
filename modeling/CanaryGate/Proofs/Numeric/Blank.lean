import CanaryGate.Numeric.Numeral
import CanaryGate.Text.LowerCase

/-! # Blank texts are no numerals

Blank characters are a few runs of code points, and neither a digit of any script nor a character that a numeral
is written with lies in one of them. So a text of blanks is refused by both wide grammars, and it is no word.
-/

namespace CanaryGate

/-- The runs of blank code points, each by its first and its last. -/
def blankRuns : List (Nat × Nat) :=
  [(9, 13), (0x1C, 0x20), (0x85, 0x85), (0xA0, 0xA0), (0x1680, 0x1680), (0x2000, 0x200A), (0x2028, 0x2029),
    (0x202F, 0x202F), (0x205F, 0x205F), (0x3000, 0x3000)]

theorem mem_blankRuns {c : Char} (h : isBlank c = true) :
    ∃ run ∈ blankRuns, run.1 ≤ c.toNat ∧ c.toNat ≤ run.2 := by
  simp only [isBlank, isWhiteSpace, Bool.or_eq_true, Bool.and_eq_true, decide_eq_true_eq, beq_iff_eq] at h
  simp only [blankRuns, List.mem_cons, List.not_mem_nil, or_false, exists_eq_or_imp, exists_eq_left]
  omega

theorem digitZeros_apart : ∀ run ∈ blankRuns, ∀ start ∈ digitZeros, start + 10 ≤ run.1 ∨ run.2 < start := by
  decide

/-- No blank character is a digit of any script. -/
theorem digitValue?_of_blank {c : Char} (h : isBlank c = true) : digitValue? c = none := by
  obtain ⟨run, listed, first, last⟩ := mem_blankRuns h
  have noZero : ∀ start ∈ digitZeros, ¬ (start ≤ c.toNat ∧ c.toNat < start + 10) := by
    intro start zero here
    rcases digitZeros_apart run listed start zero with below | above <;> omega
  simp only [digitValue?, Option.map_eq_none_iff, List.find?_eq_none, decide_eq_true_eq]
  exact noZero

theorem mem_of_mem_trimBoth {drop : Char → Bool} {s : List Char} {c : Char} (h : c ∈ trimBoth drop s) : c ∈ s := by
  have here := (List.dropWhile_sublist drop).subset (List.mem_reverse.mp h)
  exact (List.dropWhile_sublist drop).subset (List.mem_reverse.mp here)

/-- A range of characters that no run reaches into holds no blank. -/
theorem outside_of_blank (low high : Char) {c : Char}
    (apart : ∀ run ∈ blankRuns, high.toNat < run.1 ∨ run.2 < low.toNat) (h : isBlank c = true) :
    ¬ (low ≤ c ∧ c ≤ high) := by
  rintro ⟨above, below⟩
  obtain ⟨run, listed, first, last⟩ := mem_blankRuns h
  have above : low.toNat ≤ c.toNat := above
  have below : c.toNat ≤ high.toNat := below
  rcases apart run listed with before | after <;> omega

variable {s : List Char} {text : String}

theorem map_of_blank {f : Char → Char} (fixed : ∀ c, isBlank c = true → f c = c) (h : ∀ c ∈ s, isBlank c = true) :
    s.map f = s := by
  calc s.map f
    _ = s.map id := List.map_congr_left fun c inside => fixed c (h c inside)
    _ = s := List.map_id s

theorem lowerCharacter_of_blank {c : Char} (h : isBlank c = true) : lowerCharacter c = c :=
  if_neg (outside_of_blank 'A' 'Z' (by decide) h)

/-- A blank text is not a word with a character that is written. -/
theorem ne_of_blank (h : blank text = true) (word : String) (written : ∃ c ∈ word.toList, isBlank c = false) :
    text ≠ word := by
  rintro rfl
  obtain ⟨c, inside, shown⟩ := written
  simp [List.all_eq_true.mp h c inside] at shown

theorem lowerAscii_of_blank (h : blank text = true) : lowerAscii text = text := by
  rw [lowerAscii, map_of_blank (fun c => lowerCharacter_of_blank) (List.all_eq_true.mp h), String.ofList_toList]

namespace Numeral

theorem isAsciiDigit_of_blank {c : Char} (h : isBlank c = true) : isAsciiDigit c = false :=
  decide_eq_false (outside_of_blank '0' '9' (by decide) h)

theorem plainDigits_of_blank (h : ∀ c ∈ s, isBlank c = true) : plainDigits s = s :=
  map_of_blank (fun c skipped => by simp [digitValue?_of_blank skipped]) h

theorem takeSign_of_blank (h : ∀ c ∈ s, isBlank c = true) : takeSign s = (false, s) := by
  unfold takeSign
  split
  · cases h '-' List.mem_cons_self
  · cases h '+' List.mem_cons_self
  · rfl

theorem joinGroups_of_blank (afterDigit : Bool) (h : ∀ c ∈ s, isBlank c = true) :
    joinGroups afterDigit s = some s := by
  induction s generalizing afterDigit with
  | nil => rfl
  | cons c rest ih =>
    have noUnderscore : c ≠ '_' := by
      rintro rfl
      cases h '_' List.mem_cons_self
    have more := ih (isAsciiDigit c) fun d later => h d (List.mem_cons_of_mem c later)
    unfold joinGroups
    split <;> simp_all

/-- A run of characters none of which is blank does not begin in a blank text. -/
theorem takeWhile_of_blank {p : Char → Bool} (h : ∀ c ∈ s, isBlank c = true)
    (apart : ∀ c, isBlank c = true → p c = false) : s.takeWhile p = [] := by
  cases s with
  | nil => rfl
  | cons c rest => simp [apart c (h c List.mem_cons_self)]

theorem unsignedDecimal_of_blank (negative : Bool) (h : ∀ c ∈ s, isBlank c = true) :
    unsignedDecimal negative s = none := by
  have noWhole : s.takeWhile isAsciiDigit = [] := takeWhile_of_blank h fun c => isAsciiDigit_of_blank
  have rest : s.dropWhile isAsciiDigit = s := by
    simpa [noWhole] using List.takeWhile_append_dropWhile (p := isAsciiDigit) (l := s)
  simp only [unsignedDecimal, noWhole, rest]
  split
  · cases h '.' List.mem_cons_self
  · simp

theorem plainNumber_of_blank (h : ∀ c ∈ s, isBlank c = true) : plainNumber s = none := by
  have lowered : s.map lowerCharacter = s := map_of_blank (fun c => lowerCharacter_of_blank) h
  have skipped : blank (String.ofList s) = true := by simpa [blank] using h
  have noInf := ne_of_blank skipped "inf" ⟨'i', by decide⟩
  have noInfinity := ne_of_blank skipped "infinity" ⟨'i', by decide⟩
  have noNan := ne_of_blank skipped "nan" ⟨'n', by decide⟩
  simp only [plainNumber, takeSign_of_blank h, unsignedNumber]
  unfold lowerCharacter at lowered
  simp [lowered, noInf, noInfinity, noNan, unsignedDecimal_of_blank false h]

theorem trimmed_of_blank (h : blank text = true) :
    ∀ c ∈ trimBoth isWhiteSpace (plainDigits text.toList), isBlank c = true := by
  have all := List.all_eq_true.mp h
  rw [plainDigits_of_blank all]
  intro c inside
  exact all c (mem_of_mem_trimBoth inside)

/-- A blank text is no integer. -/
theorem integer_of_blank (h : blank text = true) : integer text = .error (.notInteger text) := by
  have body := trimmed_of_blank h
  have noRun : (trimBoth isWhiteSpace (plainDigits text.toList)).takeWhile
      (fun c => isAsciiDigit c || c = '_') = [] := by
    refine takeWhile_of_blank body fun c first => ?_
    have noUnderscore : c ≠ '_' := by
      rintro rfl
      cases first
    simp [isAsciiDigit_of_blank first, noUnderscore]
  simp [integer, takeSign_of_blank body, noRun, joinGroups]

/-- A blank text is no number. -/
theorem number_of_blank (h : blank text = true) : number text = .error (.notNumber text) := by
  have body := trimmed_of_blank h
  simp [number, joinGroups_of_blank false body, plainNumber_of_blank body]

end Numeral

end CanaryGate
