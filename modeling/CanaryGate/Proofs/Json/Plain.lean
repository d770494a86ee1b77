import CanaryGate.Proofs.Json.Number
import CanaryGate.Proofs.Json.Text

/-! # What is written is plain

A stored document is one line of ASCII, whatever texts it holds. So it is the same text after the ends of its
lines were changed, and it never starts with a byte order mark. In compact form characters beyond ASCII stand for
themselves, and still nothing below the blank does.
-/

namespace CanaryGate

namespace Json

/-- A character that is shown in ASCII. -/
def IsPlain (c : Char) : Prop := 32 ≤ c.toNat ∧ c.toNat < 127

/-- Every character of a text is plain. -/
def AllPlain (s : List Char) : Prop := ∀ c ∈ s, IsPlain c

instance (c : Char) : Decidable (IsPlain c) := inferInstanceAs (Decidable (_ ∧ _))

instance (s : List Char) : Decidable (AllPlain s) := List.decidableBAll IsPlain s

@[simp] theorem allPlain_nil : AllPlain [] := fun _ member => absurd member List.not_mem_nil

@[simp] theorem allPlain_cons {c : Char} {s : List Char} : AllPlain (c :: s) ↔ IsPlain c ∧ AllPlain s :=
  List.forall_mem_cons

@[simp] theorem allPlain_append {s t : List Char} : AllPlain (s ++ t) ↔ AllPlain s ∧ AllPlain t :=
  List.forall_mem_append

theorem allPlain_replicate {c : Char} (h : IsPlain c) (n : Nat) : AllPlain (List.replicate n c) := by
  intro d member
  rw [List.eq_of_mem_replicate member]
  exact h

/-! Texts. -/

theorem allPlain_hexDigits (width n : Nat) : AllPlain (hexDigits width n) := by
  have digit : ∀ n : Fin 16, IsPlain (hexDigit n.val) := by decide
  induction width generalizing n with
  | zero => exact allPlain_nil
  | succ width ih =>
      rw [hexDigits, allPlain_append, allPlain_cons]
      exact ⟨ih (n / 16), digit ⟨n % 16, Nat.mod_lt n (by decide)⟩, allPlain_nil⟩

theorem allPlain_unitEscape (n : Nat) : AllPlain (unitEscape n) := by
  rw [unitEscape, allPlain_cons, allPlain_cons]
  exact ⟨by decide, by decide, allPlain_hexDigits 4 n⟩

theorem allPlain_escape (c : Char) : AllPlain (escape true c) := by
  have written := escaped_escape true c
  generalize escape true c = shown at written ⊢
  cases written with
  | itself _ _ shown ascii => exact List.forall_mem_singleton.mpr ⟨shown, ascii rfl⟩
  | letter shown => exact allPlain_cons.mpr ⟨by decide, List.forall_mem_singleton.mpr shown⟩
  | unit => exact allPlain_unitEscape _
  | pair => exact allPlain_append.mpr ⟨allPlain_unitEscape _, allPlain_unitEscape _⟩

/-! Numbers. -/

theorem allPlain_digitsOf (n : Nat) : AllPlain (Decimal.digitsOf n) := by
  intro c member
  have between := of_decide_eq_true (Decimal.isAsciiDigit_of_mem_digitsOf c member)
  have low : '0'.toNat ≤ c.toNat := between.1
  have high : c.toNat ≤ '9'.toNat := between.2
  have zero : '0'.toNat = 48 := rfl
  have nine : '9'.toNat = 57 := rfl
  exact ⟨by omega, by omega⟩

theorem allPlain_signed {text : List Char} (plain : AllPlain text) (negative : Bool) :
    AllPlain (if negative then '-' :: text else text) := by
  cases negative with
  | false => exact plain
  | true => exact allPlain_cons.mpr ⟨by decide, plain⟩

theorem allPlain_positional {digits : List Char} (plain : AllPlain digits) (whole : Int) :
    AllPlain (Layout.positional digits whole) := by
  have zeros := allPlain_replicate (c := '0') (by decide)
  have split : AllPlain (digits.take whole.toNat) ∧ AllPlain (digits.drop whole.toNat) := by
    rw [← allPlain_append, List.take_append_drop]
    exact plain
  unfold Layout.positional
  dsimp only
  split_ifs
  · simp only [allPlain_cons, allPlain_append]
    exact ⟨by decide, by decide, zeros _, plain⟩
  · simp only [allPlain_append]
    exact ⟨⟨plain, zeros _⟩, by decide⟩
  · simp only [allPlain_cons, allPlain_append]
    exact ⟨split.1, by decide, split.2⟩

theorem allPlain_scientific (width : Nat) {digits : List Char} (plain : AllPlain digits) (exponent : Int) :
    AllPlain (Layout.scientific width digits exponent) := by
  have sign : IsPlain (if exponent < 0 then '-' else '+') := by
    split
    · decide
    · decide
  have tail : AllPlain ('e' :: (if exponent < 0 then '-' else '+') :: (List.replicate
      (width - (Decimal.digitsOf exponent.natAbs).length) '0' ++ Decimal.digitsOf exponent.natAbs)) := by
    simp only [allPlain_cons, allPlain_append]
    exact ⟨by decide, sign, allPlain_replicate (by decide) _, allPlain_digitsOf _⟩
  unfold Layout.scientific
  dsimp only
  rw [allPlain_append]
  refine ⟨?_, tail⟩
  split
  · decide
  · exact plain
  · rw [allPlain_cons] at plain
    simp only [allPlain_cons]
    exact ⟨plain.1, by decide, plain.2⟩

theorem allPlain_text (x : Binary64) : AllPlain (Layout.document.text x) := by
  cases x with
  | nan => exact (by decide : AllPlain "NaN".toList)
  | infinite negative => cases negative with
    | false => exact (by decide : AllPlain "Infinity".toList)
    | true => exact (by decide : AllPlain "-Infinity".toList)
  | finite negative rank =>
      rw [document_text_finite]
      apply allPlain_signed
      unfold Layout.magnitude
      dsimp only
      split_ifs
      · decide
      · exact allPlain_positional (allPlain_digitsOf _) _
      · exact allPlain_scientific _ (allPlain_digitsOf _) _

/-! Documents. -/

/-- A property of all characters that a style writes, plain ones apart from its escapes and gaps. -/
structure Style.Shows (style : Style) (P : Char → Prop) : Prop where
  plain : ∀ c, IsPlain c → P c
  escape : ∀ c, ∀ d ∈ escape style.asciiOnly c, P d
  itemGap : ∀ c ∈ style.itemGap, P c
  nameGap : ∀ c ∈ style.nameGap, P c

namespace Style.Shows

variable {style : Style} {P : Char → Prop}

theorem ofPlain (shows : style.Shows P) {s : List Char} (plain : AllPlain s) : ∀ c ∈ s, P c :=
  fun c member => shows.plain c (plain c member)

theorem quoted (shows : style.Shows P) (s : String) : ∀ c ∈ quoted style.asciiOnly s, P c := by
  rw [Json.quoted, List.forall_mem_cons, List.forall_mem_append]
  refine ⟨shows.plain _ (by decide), ?_, shows.ofPlain (by decide)⟩
  intro c member
  obtain ⟨source, -, written⟩ := List.mem_flatMap.mp member
  exact shows.escape source c written

mutual

theorem write (shows : style.Shows P) : ∀ v : Json, ∀ c ∈ write style v, P c
  | .null => shows.ofPlain (by decide : AllPlain "null".toList)
  | .bool true => shows.ofPlain (by decide : AllPlain "true".toList)
  | .bool false => shows.ofPlain (by decide : AllPlain "false".toList)
  | .int n => by
      rw [Json.write, integerText_eq]
      exact shows.ofPlain (allPlain_signed (allPlain_digitsOf n.natAbs) _)
  | .float x => shows.ofPlain (allPlain_text x)
  | .str s => shows.quoted s
  | .arr items => by
      rw [Json.write, List.forall_mem_cons, List.forall_mem_append]
      exact ⟨shows.plain _ (by decide), writeItems shows items, shows.ofPlain (by decide)⟩
  | .obj fields => by
      rw [Json.write, List.forall_mem_cons, List.forall_mem_append]
      exact ⟨shows.plain _ (by decide), writeFields shows fields, shows.ofPlain (by decide)⟩

theorem writeItems (shows : style.Shows P) : ∀ items : List Json, ∀ c ∈ writeItems style items, P c
  | [] => fun _ member => absurd member List.not_mem_nil
  | [item] => write shows item
  | item :: next :: items => by
      rw [Json.writeItems, List.forall_mem_append, List.forall_mem_append]
      · exact ⟨⟨write shows item, shows.itemGap⟩, writeItems shows (next :: items)⟩
      · exact List.cons_ne_nil next items

theorem writeFields (shows : style.Shows P) : ∀ fields : List (String × Json), ∀ c ∈ writeFields style fields, P c
  | [] => fun _ member => absurd member List.not_mem_nil
  | [(name, value)] => by
      simp only [Json.writeFields, List.forall_mem_append]
      exact ⟨⟨shows.quoted name, shows.nameGap⟩, write shows value⟩
  | (name, value) :: next :: fields => by
      simp only [Json.writeFields, List.forall_mem_append]
      exact ⟨⟨⟨⟨shows.quoted name, shows.nameGap⟩, write shows value⟩, shows.itemGap⟩,
        writeFields shows (next :: fields)⟩

end

end Style.Shows

theorem shows_stored : Style.stored.Shows IsPlain where
  plain _ plain := plain
  escape := allPlain_escape
  itemGap := (by decide : AllPlain Style.stored.itemGap)
  nameGap := (by decide : AllPlain Style.stored.nameGap)

theorem allPlain_write (v : Json) : AllPlain (write .stored v) := shows_stored.write v

/-- In compact form characters beyond ASCII stand for themselves, and control characters do not. -/
theorem shows_compact : Style.compact.Shows fun c => 32 ≤ c.toNat where
  plain _ plain := plain.1
  itemGap c member := ((by decide : AllPlain Style.compact.itemGap) c member).1
  nameGap c member := ((by decide : AllPlain Style.compact.nameGap) c member).1
  escape c := by
    have written := escaped_escape Style.compact.asciiOnly c
    generalize escape Style.compact.asciiOnly c = shown at written ⊢
    cases written with
    | itself _ _ shown => exact List.forall_mem_singleton.mpr shown
    | letter shown => exact List.forall_mem_cons.mpr ⟨by decide, List.forall_mem_singleton.mpr shown.1⟩
    | unit => exact fun d member => (allPlain_unitEscape c.toNat d member).1
    | pair ascii => cases ascii

end Json

end CanaryGate
