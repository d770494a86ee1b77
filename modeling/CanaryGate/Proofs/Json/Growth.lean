import CanaryGate.Proofs.Decimal.Width
import CanaryGate.Proofs.Json.Readers
import CanaryGate.Proofs.Json.Text

/-! # How far documents grow

A document that is read and written again in compact form has at most eight times as many characters. What makes it
longer are its doubles: three characters can spell one, and twenty-four may be needed to print it. Texts, integers
and words take no more characters than they were spelled with.
-/

namespace CanaryGate

namespace Json

/-! Texts. -/

theorem length_unitEscape (n : Nat) : (unitEscape n).length = 6 := by
  simp [unitEscape, hexDigits]

theorem length_escape_le (c : Char) : (escape false c).length ≤ 6 := by
  have written := escaped_escape false c
  generalize escape false c = shown at written ⊢
  cases written with
  | itself => simp
  | letter => simp
  | unit => exact Nat.le_of_eq (length_unitEscape _)
  | pair ascii => cases ascii

/-- What one letter after a backslash stands for is written with no more. -/
theorem length_escape_of_letter {e c : Char} (h : simpleEscape? e = some c) : (escape false c).length ≤ 2 := by
  unfold simpleEscape? at h
  split_ifs at h with itself
  · cases h
    simp only [Bool.or_eq_true, decide_eq_true_eq, or_assoc] at itself
    rcases itself with rfl | rfl | rfl
    all_goals decide
  all_goals
    cases h
    decide

theorem escape_of_plain {c : Char} (mark : c ≠ doubleQuote) (slash : c ≠ backslash) (shown : 32 ≤ c.toNat) :
    escape false c = [c] := by
  have apart : ∀ d : Char, d.toNat < 32 → c ≠ d := by
    rintro d low rfl
    omega
  unfold escape
  rw [if_neg (not_or.mpr ⟨mark, slash⟩), if_neg (apart '\n' (by decide)), if_neg (apart '\r' (by decide)),
    if_neg (apart '\t' (by decide)), if_neg (by omega), if_neg (by omega), if_neg (by omega)]
  rfl

theorem length_of_readUnit {s rest : List Char} {n : Nat} (h : readUnit s = some (n, rest)) :
    s.length = rest.length + 4 := by
  unfold readUnit at h
  split at h
  · simp only [Option.bind_eq_bind, Option.bind_eq_some_iff, Option.pure_def] at h
    obtain ⟨_, -, _, -, _, -, _, -, given⟩ := h
    cases given
    rfl
  · cases h

theorem length_of_readUnicode {s rest : List Char} {c : Char} (h : readUnicode s = .ok (c, rest)) :
    rest.length + 4 ≤ s.length := by
  unfold readUnicode at h
  split at h
  · cases h
  · rename_i high after first
    have four := length_of_readUnit first
    split at h
    · split at h
      · split at h
        · cases h
        · rename_i low later second
          have pair := length_of_readUnit second
          simp only [List.length_cons] at four
          split at h
          · simp only [Except.ok.injEq, Prod.mk.injEq] at h
            obtain ⟨-, rfl⟩ := h
            omega
          · cases h
            simp only [List.length_cons]
            omega
      · cases h
        omega
    · cases h
      omega

/-- A text takes no more characters than it was spelled with. -/
theorem length_of_readText {opened fuel : Nat} {s rest chars : List Char}
    (h : readText opened fuel s = .ok (chars, rest)) :
    (chars.flatMap (escape false)).length + rest.length + 1 ≤ s.length := by
  induction fuel generalizing s chars with
  | zero => simp [readText] at h
  | succ fuel ih =>
      cases s with
      | nil => simp [readText] at h
      | cons c s =>
          -- one character was read, and the rest of the text behind it
          have onward : ∀ (ch : Char) (after : List Char), (escape false ch).length + after.length ≤ s.length + 1 →
              (readText opened fuel after >>= fun p => .ok (ch :: p.1, p.2)) = .ok (chars, rest) →
              (chars.flatMap (escape false)).length + rest.length + 1 ≤ s.length + 1 := by
            intro ch after fits read
            obtain ⟨⟨more, final⟩, others, given⟩ := except_bind_eq_ok.mp read
            cases given
            have left := ih others
            rw [List.flatMap_cons, List.length_append]
            dsimp only at left ⊢
            omega
          unfold readText at h
          split at h
          · cases h
            simp
          rename_i mark
          split at h
          · split at h
            · cases h
            · obtain ⟨⟨ch, after⟩, code, h⟩ := except_bind_eq_ok.mp h
              have unit := length_of_readUnicode code
              have most := length_escape_le ch
              apply onward ch after _ h
              simp only [List.length_cons]
              omega
            · split at h
              · cases h
              · rename_i ch letter
                have most := length_escape_of_letter letter
                apply onward ch _ _ h
                simp only [List.length_cons]
                omega
          · rename_i slash
            split at h
            · cases h
            · rename_i shown
              apply onward c s _ h
              rw [escape_of_plain mark slash (by omega), List.length_singleton]
              omega

/-! Numbers. -/

theorem length_of_wholeDigits {s whole rest : List Char} (h : wholeDigits s = some (whole, rest)) :
    s.length = whole.length + rest.length ∧ 0 < whole.length := by
  unfold wholeDigits at h
  split at h
  · cases h
    exact ⟨Nat.add_comm _ 1, Nat.one_pos⟩
  · split at h
    · cases h
      rename_i d s _ digit
      have parts := congrArg List.length (List.takeWhile_append_dropWhile (p := Numeral.isAsciiDigit) (l := s))
      rw [List.length_append] at parts
      simp only [List.length_cons]
      omega
    · cases h
  · cases h

theorem length_of_fractionDigits {s fraction rest : List Char} (h : fractionDigits s = some (fraction, rest)) :
    rest.length + 2 ≤ s.length := by
  unfold fractionDigits at h
  split at h
  · split at h
    · cases h
      exact Nat.succ_le_succ (Nat.succ_le_succ (List.dropWhile_sublist _).length_le)
    · cases h
  · cases h

/-- A fraction that is there takes two characters at the least. -/
theorem length_getD_fractionDigits (s : List Char) : ((fractionDigits s).getD ([], s)).2.length ≤ s.length
    ∧ (((fractionDigits s).getD ([], s)).1 ≠ [] → ((fractionDigits s).getD ([], s)).2.length + 2 ≤ s.length) := by
  cases point : fractionDigits s with
  | none => exact ⟨Nat.le_refl _, fun filled => absurd rfl filled⟩
  | some p =>
      have shorter : p.2.length + 2 ≤ s.length := length_of_fractionDigits point
      exact ⟨(Nat.le_add_right _ 2).trans shorter, fun _ => shorter⟩

theorem length_takeSign_le (s : List Char) : (Numeral.takeSign s).2.length ≤ s.length := by
  unfold Numeral.takeSign
  split
  · exact Nat.le_succ _
  · exact Nat.le_succ _
  · exact Nat.le_refl _

theorem length_of_exponentDigits {s rest : List Char} {e : Int} (h : exponentDigits s = some (e, rest)) :
    rest.length + 2 ≤ s.length := by
  unfold exponentDigits at h
  split at h
  · rename_i mark s
    split at h
    · have unsigned := length_takeSign_le s
      generalize Numeral.takeSign s = signed at h unsigned
      obtain ⟨negative, body⟩ := signed
      dsimp only at h unsigned
      split at h
      · cases h
      · rename_i digits
        cases h
        have parts := congrArg List.length (List.takeWhile_append_dropWhile (p := Numeral.isAsciiDigit) (l := body))
        have some : 0 < (body.takeWhile Numeral.isAsciiDigit).length :=
          List.length_pos_iff.mpr fun none => digits (by rw [none]; rfl)
        rw [List.length_append] at parts
        rw [List.length_cons]
        omega
    · cases h
  · cases h

/-- An integer is written with no more digits than it was spelled with. -/
theorem length_integerText_signed {digits : List Char} (all : ∀ c ∈ digits, Numeral.isAsciiDigit c = true)
    (some : 0 < digits.length) (negative : Bool) :
    (integerText (Numeral.signed negative (Numeral.valueOf digits))).length ≤ digits.length + if negative then 1 else 0 := by
  have fewer : (Decimal.digitsOf (Numeral.valueOf digits)).length ≤ digits.length :=
    (Decimal.length_digitsOf_le_iff some).mpr (Numeral.valueOf_lt all)
  rw [integerText, natAbs_signed]
  cases negative with
  | false =>
      have unsigned : ¬ Numeral.signed false (Numeral.valueOf digits) < 0 := by simp [Numeral.signed]
      rw [if_neg unsigned]
      exact fewer
  | true =>
      split
      · exact Nat.succ_le_succ fewer
      · exact Nat.le_succ_of_le fewer

theorem length_of_readNumber {start : Nat} {negative : Bool} {s rest : List Char} {v : Json}
    (h : readNumber start negative s = .ok (v, rest)) :
    (write .compact v).length + 8 * rest.length ≤ 8 * s.length + if negative then 1 else 0 := by
  unfold readNumber at h
  split at h
  · cases h
  · rename_i whole after found
    obtain ⟨parts, some⟩ := length_of_wholeDigits found
    -- a double is spelled with three characters at the least
    have double : ∀ (x : Binary64) (left : List Char), left.length + 2 ≤ after.length →
        (Layout.document.text x).length + 8 * left.length ≤ 8 * s.length := by
      intro x left shorter
      have printed := Layout.length_text_le x
      omega
    have behind := length_getD_fractionDigits after
    generalize (fractionDigits after).getD ([], after) = fraction at h behind
    obtain ⟨fraction, left⟩ := fraction
    dsimp only at h behind
    split at h
    · rename_i exponent
      cases h
      have shorter := length_of_exponentDigits exponent
      exact Nat.le_add_right_of_le (double _ _ (by omega))
    · split at h
      · split at h
        · cases h
        · cases h
          have printed := length_integerText_signed (isAsciiDigit_of_wholeDigits found) some negative
          rw [write]
          omega
      · rename_i filled
        cases h
        exact Nat.le_add_right_of_le (double _ _ (behind.2 (by simpa using filled)))

/-! Documents. -/

/-- What stands between two places of a text takes no more than eight characters for each of its own. -/
def Covers (s rest : List Char) (written : Nat) : Prop := written + 8 * rest.length ≤ 8 * s.length

namespace Covers

variable {s middle rest : List Char} {m n : Nat}

theorem trans (front : Covers s middle m) (back : Covers middle rest n) : Covers s rest (m + n) := by
  unfold Covers at *
  omega

theorem mono (h : Covers s rest n) (fewer : m ≤ n) : Covers s rest m := by
  unfold Covers at *
  omega

theorem cons (c : Char) (s : List Char) : Covers (c :: s) s 8 := Nat.le_of_eq (Nat.add_comm _ _)

theorem gaps (s : List Char) : Covers s (skipGaps s) 0 := by
  have fewer := (List.dropWhile_sublist isGap (l := s)).length_le
  unfold Covers skipGaps
  omega

/-- A mark behind gaps. -/
theorem mark {c : Char} (h : skipGaps s = c :: rest) : Covers s rest 8 :=
  ((h ▸ gaps s : Covers s (c :: rest) 0).trans (cons c rest)).mono (by decide)

theorem text {opened fuel : Nat} {chars : List Char} (h : readText opened fuel s = .ok (chars, rest)) :
    Covers (doubleQuote :: s) rest (quoted false (String.ofList chars)).length := by
  have inner := length_of_readText h
  unfold Covers quoted
  simp only [String.toList_ofList, List.length_cons, List.length_append, List.length_nil]
  omega

end Covers

theorem covers_of_readScalar {s rest : List Char} {v : Json} (h : readScalar s = .ok (v, rest)) :
    Covers s rest (write .compact v).length := by
  have words : ∀ w ∈ wordValues, (write .compact w.2).length = w.1.length := by
    simp only [wordValues, List.forall_mem_cons]
    exact ⟨rfl, rfl, rfl, rfl, rfl, rfl, by simp⟩
  unfold readScalar at h
  unfold Covers
  split at h
  · rename_i word value found
    cases h
    have same := words (word, v) (List.mem_of_find?_eq_some found)
    have spelled := List.find?_some found
    have short := (List.isPrefixOf_iff_prefix.mp spelled).length_le
    dsimp only at same short
    rw [List.length_drop, same]
    omega
  · split at h
    · have printed := length_of_readNumber h
      rw [if_pos rfl] at printed
      rw [List.length_cons]
      omega
    · exact length_of_readNumber h

/-- The most that a list takes between its brackets. -/
def itemsWidth (items : List Json) : Nat := (items.map fun item => (write .compact item).length + 1).sum

/-- The most that one field takes, what follows it included. -/
def fieldWidth (field : String × Json) : Nat := (quoted false field.1).length + 1 + (write .compact field.2).length + 1

/-- The most that an object takes between its braces. -/
def fieldsWidth (fields : List (String × Json)) : Nat := (fields.map fieldWidth).sum

@[simp] theorem itemsWidth_cons (item : Json) (items : List Json) :
    itemsWidth (item :: items) = (write .compact item).length + 1 + itemsWidth items := rfl

@[simp] theorem fieldsWidth_cons (field : String × Json) (fields : List (String × Json)) :
    fieldsWidth (field :: fields) = fieldWidth field + fieldsWidth fields := rfl

theorem length_writeItems_le (items : List Json) : (writeItems .compact items).length ≤ itemsWidth items := by
  induction items with
  | nil => exact Nat.le_refl _
  | cons item items ih =>
      cases items with
      | nil => exact Nat.le_succ _
      | cons next items =>
          have gap : Style.compact.itemGap.length = 1 := rfl
          rw [itemsWidth_cons, writeItems]
          · simp only [List.length_append, gap]
            omega
          · exact List.cons_ne_nil next items

theorem length_writeFields_le (fields : List (String × Json)) :
    (writeFields .compact fields).length ≤ fieldsWidth fields := by
  have gaps : Style.compact.itemGap.length = 1 ∧ Style.compact.nameGap.length = 1 := ⟨rfl, rfl⟩
  have marks : Style.compact.asciiOnly = false := rfl
  induction fields with
  | nil => exact Nat.le_refl _
  | cons field fields ih =>
      obtain ⟨name, value⟩ := field
      rw [fieldsWidth_cons, fieldWidth]
      cases fields with
      | nil =>
          simp only [writeFields, List.length_append, gaps, marks]
          omega
      | cons next fields =>
          rw [writeFields]
          · simp only [List.length_append, gaps, marks]
            omega
          · exact List.cons_ne_nil next fields

theorem fieldsWidth_set_le (fields : Fields) (entry : String × Json) :
    fieldsWidth (fields.set entry.1 entry.2) ≤ fieldsWidth fields + fieldWidth entry := by
  obtain ⟨name, value⟩ := entry
  induction fields with
  | nil => exact Nat.le_of_eq (Nat.add_comm _ 0)
  | cons field fields ih =>
      obtain ⟨key, old⟩ := field
      unfold Fields.set
      split
      · rename_i same
        subst same
        simp only [fieldsWidth_cons]
        omega
      · simp only [fieldsWidth_cons]
        dsimp only at ih
        omega

/-- Entries that repeat a name take less as an object. -/
theorem fieldsWidth_ofList_le (entries : List (String × Json)) :
    fieldsWidth (Fields.ofList entries) ≤ fieldsWidth entries := by
  suffices grown : ∀ done : Fields, fieldsWidth (entries.foldl (fun (fs : Fields) e => fs.set e.1 e.2) done)
      ≤ fieldsWidth done + fieldsWidth entries from (grown []).trans (Nat.le_of_eq (Nat.zero_add _))
  induction entries with
  | nil => exact fun done => Nat.le_refl _
  | cons entry entries ih =>
      intro done
      have put := fieldsWidth_set_le done entry
      have others := ih (done.set entry.1 entry.2)
      rw [List.foldl_cons, fieldsWidth_cons]
      omega

/-- All readers cover what they read, however much fuel they have. -/
structure ReadersCover (fuel : Nat) : Prop where
  value : ∀ {room s v rest}, readValue room fuel s = .ok (v, rest) → Covers s rest (write .compact v).length
  items : ∀ {room s items rest}, readItems room fuel s = .ok (items, rest) → Covers s rest (itemsWidth items)
  fields : ∀ {room s entries rest}, readFields room fuel s = .ok (entries, rest) → Covers s rest (fieldsWidth entries)

namespace ReadersCover

variable {fuel room : Nat} {s rest : List Char}

theorem of_readValue (ih : ReadersCover fuel) {v : Json} (h : readValue room (fuel + 1) s = .ok (v, rest)) :
    Covers s rest (write .compact v).length := by
  unfold readValue at h
  split at h
  · rename_i s
    split at h
    · cases h
    · split at h
      · rename_i closed
        cases h
        exact ((Covers.cons '[' s).trans (.mark closed)).mono (by decide)
      · obtain ⟨⟨items, after⟩, read, given⟩ := except_bind_eq_ok.mp h
        cases given
        have width := length_writeItems_le items
        refine (((Covers.cons '[' s).trans (.gaps s)).trans (ih.items read)).mono ?_
        simp only [write, List.length_cons, List.length_append, List.length_nil]
        omega
  · rename_i s
    split at h
    · cases h
    · split at h
      · rename_i closed
        cases h
        exact ((Covers.cons '\x7b' s).trans (.mark closed)).mono (by decide)
      · obtain ⟨⟨entries, after⟩, read, given⟩ := except_bind_eq_ok.mp h
        cases given
        have width := (length_writeFields_le (Fields.ofList entries)).trans (fieldsWidth_ofList_le entries)
        refine (((Covers.cons '\x7b' s).trans (.gaps s)).trans (ih.fields read)).mono ?_
        simp only [write, List.length_cons, List.length_append, List.length_nil]
        omega
  · split at h
    · rename_i same
      subst same
      obtain ⟨⟨chars, after⟩, read, given⟩ := except_bind_eq_ok.mp h
      cases given
      exact .text read
    · exact covers_of_readScalar h
  · cases h

theorem of_readItems (ih : ReadersCover fuel) {items : List Json}
    (h : readItems room (fuel + 1) s = .ok (items, rest)) : Covers s rest (itemsWidth items) := by
  unfold readItems at h
  obtain ⟨⟨item, left⟩, first, h⟩ := except_bind_eq_ok.mp h
  have here := ih.value first
  dsimp only at h
  split at h
  · rename_i closed
    cases h
    exact (here.trans (.mark closed)).mono (Nat.add_le_add_left (by decide : 1 ≤ 8) _)
  · rename_i more comma
    obtain ⟨⟨others, after⟩, read, given⟩ := except_bind_eq_ok.mp h
    cases given
    refine (((here.trans (.mark comma)).trans (.gaps more)).trans (ih.items read)).mono ?_
    dsimp only [itemsWidth_cons]
    omega
  · cases h

theorem of_readFields (ih : ReadersCover fuel) {entries : List (String × Json)}
    (h : readFields room (fuel + 1) s = .ok (entries, rest)) : Covers s rest (fieldsWidth entries) := by
  unfold readFields at h
  split at h
  · cases h
  · split at h
    · rename_i same
      subst same
      obtain ⟨⟨name, left⟩, named, h⟩ := except_bind_eq_ok.mp h
      dsimp only at h
      split at h
      · rename_i more colon
        obtain ⟨⟨value, left⟩, first, h⟩ := except_bind_eq_ok.mp h
        have front := (((Covers.text named).trans (.mark colon)).trans (.gaps more)).trans (ih.value first)
        dsimp only at h
        split at h
        · rename_i closed
          cases h
          refine (front.trans (.mark closed)).mono ?_
          dsimp only [fieldsWidth_cons, fieldWidth]
          have none : fieldsWidth [] = 0 := rfl
          omega
        · rename_i more comma
          obtain ⟨⟨others, after⟩, read, given⟩ := except_bind_eq_ok.mp h
          cases given
          refine (((front.trans (.mark comma)).trans (.gaps more)).trans (ih.fields read)).mono ?_
          dsimp only [fieldsWidth_cons, fieldWidth]
          omega
        · cases h
      · cases h
    · cases h

end ReadersCover

theorem readersCover (fuel : Nat) : ReadersCover fuel := by
  induction fuel with
  | zero =>
      refine ⟨?_, ?_, ?_⟩
      · intro room s v rest h
        simp [readValue] at h
      · intro room s items rest h
        simp [readItems] at h
      · intro room s entries rest h
        simp [readFields] at h
  | succ fuel ih => exact ⟨ih.of_readValue, ih.of_readItems, ih.of_readFields⟩

/-- A document is not written again with more than eight times its characters. -/
theorem length_render_le {text : String} {v : Json} (h : read text = .ok v) :
    (v.render .compact).length ≤ 8 * text.length := by
  obtain ⟨fuel, rest, front⟩ := readValue_of_readCharacters (readCharacters_of_read h)
  have covered := (Covers.gaps text.toList).trans ((readersCover fuel).value front)
  unfold Covers at covered
  rw [String.length_toList] at covered
  rw [render, String.length_ofList]
  omega

end Json

end CanaryGate
