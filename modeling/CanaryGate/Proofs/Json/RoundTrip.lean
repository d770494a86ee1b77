import CanaryGate.Proofs.Json.Distinct
import CanaryGate.Proofs.Json.Limits
import CanaryGate.Proofs.Json.Number
import CanaryGate.Proofs.Json.Text

/-! # Documents read back

Reading undoes writing, for every value that can be written and whose objects have each name once: kinds of
numbers, texts, and the order of items and fields included. The value is read from the front of a longer text,
so the proof goes along the value, and what follows is a comma, a bracket or a brace.
-/

namespace CanaryGate

namespace Json

/-! The first character. -/

/-- A character with which a value may start. -/
def Opening (c : Char) : Prop := isGap c = false ∧ c ≠ ']'

/-- A character with which a word or a number may start. -/
structure BareOpening (c : Char) : Prop where
  opening : Opening c
  list : c ≠ '['
  object : c ≠ '\x7b'
  mark : c ≠ doubleQuote

/-- Neither a text nor a list or an object. -/
def Bare : Json → Prop
  | .str _ | .arr _ | .obj _ => False
  | .null | .bool _ | .int _ | .float _ => True

theorem bareOpening_of_digit {c : Char} (h : Numeral.isAsciiDigit c = true) : BareOpening c := by
  have apart : ∀ d, Numeral.isAsciiDigit d = false → c ≠ d := by
    rintro d other rfl
    rw [h] at other
    cases other
  refine ⟨⟨?_, apart _ rfl⟩, apart _ rfl, apart _ rfl, apart _ rfl⟩
  simp only [isGap, Bool.or_eq_false_iff, decide_eq_false_iff_not]
  exact ⟨⟨⟨apart _ rfl, apart _ rfl⟩, apart _ rfl⟩, apart _ rfl⟩

/-- A digit may start a value, and so may a minus. -/
theorem bareOpening_of_signed {text : List Char}
    (first : ∃ c more, text = c :: more ∧ Numeral.isAsciiDigit c = true) (negative : Bool) :
    ∃ c more, (if negative then '-' :: text else text) = c :: more ∧ BareOpening c := by
  obtain ⟨c, more, rfl, digit⟩ := first
  cases negative with
  | false => exact ⟨c, more, rfl, bareOpening_of_digit digit⟩
  | true => exact ⟨'-', c :: more, rfl, ⟨rfl, by decide⟩, by decide, by decide, by decide⟩

theorem write_bare {v : Json} (h : Bare v) : ∃ c more, write .stored v = c :: more ∧ BareOpening c := by
  cases v with
  | null => exact ⟨'n', _, rfl, ⟨rfl, by decide⟩, by decide, by decide, by decide⟩
  | bool b => cases b with
    | false => exact ⟨'f', _, rfl, ⟨rfl, by decide⟩, by decide, by decide, by decide⟩
    | true => exact ⟨'t', _, rfl, ⟨rfl, by decide⟩, by decide, by decide, by decide⟩
  | int n =>
      rw [write, integerText_eq]
      exact bareOpening_of_signed (whole_digitsOf n.natAbs).starts _
  | float x => cases x with
    | nan => exact ⟨'N', _, rfl, ⟨rfl, by decide⟩, by decide, by decide, by decide⟩
    | infinite negative => cases negative with
      | false => exact ⟨'I', _, rfl, ⟨rfl, by decide⟩, by decide, by decide, by decide⟩
      | true => exact ⟨'-', _, rfl, ⟨rfl, by decide⟩, by decide, by decide, by decide⟩
    | finite negative rank =>
        rw [write, document_text_finite]
        exact bareOpening_of_signed (magnitude_starts Layout.document rank) negative
  | str s => exact h.elim
  | arr items => exact h.elim
  | obj fields => exact h.elim

theorem write_starts (v : Json) : ∃ c more, write .stored v = c :: more ∧ Opening c := by
  have bare : Bare v → ∃ c more, write .stored v = c :: more ∧ Opening c := by
    intro h
    obtain ⟨c, more, shown, first⟩ := write_bare h
    exact ⟨c, more, shown, first.opening⟩
  cases v with
  | str s => exact ⟨doubleQuote, _, rfl, rfl, by decide⟩
  | arr items => exact ⟨'[', _, rfl, rfl, by decide⟩
  | obj fields => exact ⟨'\x7b', _, rfl, rfl, by decide⟩
  | null => exact bare trivial
  | bool b => exact bare trivial
  | int n => exact bare trivial
  | float x => exact bare trivial

theorem skipGaps_of_starts {c : Char} (h : isGap c = false) (rest : List Char) : skipGaps (c :: rest) = c :: rest := by
  unfold skipGaps
  rw [List.dropWhile_cons_of_neg (by simp [h])]

/-! Values. -/

variable {room fuel : Nat} {rest : List Char}

theorem readValue_eq_readScalar {c : Char} (first : BareOpening c) :
    readValue room (fuel + 1) (c :: rest) = readScalar (c :: rest) := by
  unfold readValue
  split
  · rename_i same
    exact absurd (List.cons.inj same).1 first.list
  · rename_i same
    exact absurd (List.cons.inj same).1 first.object
  · rename_i same
    cases same
    rw [if_neg first.mark]
  · rename_i same
    cases same

/-- Words and numbers are read back. -/
theorem readValue_bare {v : Json} (h : Bare v) (within : Within room v) (closes : Closes rest) :
    readValue room (fuel + 1) (write .stored v ++ rest) = .ok (v, rest) := by
  obtain ⟨c, more, shown, first⟩ := write_bare h
  have step : readValue room (fuel + 1) (write .stored v ++ rest) = readScalar (write .stored v ++ rest) := by
    rw [shown]
    exact readValue_eq_readScalar first
  rw [step]
  cases v with
  | null => rfl
  | bool b => cases b <;> rfl
  | int n =>
      rw [within_int] at within
      exact readScalar_integer within closes
  | float x => exact readScalar_double x closes
  | str s => exact h.elim
  | arr items => exact h.elim
  | obj fields => exact h.elim

/-- A written text is read back. -/
theorem readText_quoted (opened : Nat) (s : String) (rest : List Char) :
    readText opened ((s.toList.flatMap (escape true) ++ [doubleQuote] ++ rest).length + 1)
      (s.toList.flatMap (escape true) ++ [doubleQuote] ++ rest) = .ok (s.toList, rest) := by
  have enough := length_le_length_flatMap s.toList
  rw [List.append_assoc]
  apply readText_flatMap
  rw [List.length_append]
  omega

theorem readValue_quoted (s : String) : readValue room (fuel + 1) (quoted true s ++ rest) = .ok (.str s, rest) := by
  have step : readValue room (fuel + 1) (quoted true s ++ rest)
      = readText (quoted true s ++ rest).length ((s.toList.flatMap (escape true) ++ [doubleQuote] ++ rest).length + 1)
        (s.toList.flatMap (escape true) ++ [doubleQuote] ++ rest)
        >>= fun p => .ok (.str (String.ofList p.1), p.2) := rfl
  rw [step, readText_quoted]
  exact congrArg (fun s => Except.ok (Json.str s, rest)) String.ofList_toList

/-! Lists and objects, step by step. -/

/-- Text with which a value may start. -/
def Opens (s : List Char) : Prop := ∃ c more, s = c :: more ∧ Opening c

theorem Opens.append {s : List Char} (h : Opens s) (rest : List Char) : Opens (s ++ rest) := by
  obtain ⟨c, more, rfl, opening⟩ := h
  exact ⟨c, more ++ rest, rfl, opening⟩

theorem Opens.skipGaps_eq {s : List Char} (h : Opens s) : skipGaps s = s := by
  obtain ⟨c, more, rfl, opening⟩ := h
  exact skipGaps_of_starts opening.1 more

variable {s more after : List Char}

theorem readItems_last {item : Json} (h : readValue room fuel s = .ok (item, ']' :: after)) :
    readItems room (fuel + 1) s = .ok ([item], after) := by
  unfold readItems
  rw [h]
  rfl

theorem readItems_more {item : Json} {items : List Json} (h : readValue room fuel s = .ok (item, ',' :: ' ' :: more))
    (opens : Opens more) (others : readItems room fuel more = .ok (items, after)) :
    readItems room (fuel + 1) s = .ok (item :: items, after) := by
  have gap : skipGaps (' ' :: more) = more := opens.skipGaps_eq
  unfold readItems
  rw [h]
  show (readItems room fuel (skipGaps (' ' :: more)) >>= fun p => .ok (item :: p.1, p.2)) = _
  rw [gap, others]
  rfl

theorem readValue_list {items : List Json} (opens : Opens s) (h : readItems room fuel s = .ok (items, after)) :
    readValue (room + 1) (fuel + 1) ('[' :: s) = .ok (.arr items, after) := by
  rw [readValue, opens.skipGaps_eq]
  obtain ⟨c, more, rfl, opening⟩ := opens
  split
  · rename_i same
    exact absurd (List.cons.inj same).1 opening.2
  · rw [h]
    rfl

/-- The value of a field is read behind its name. -/
theorem readFields_named {name : String} {value : Json} (opens : Opens s)
    (h : readValue room fuel s = .ok (value, more)) :
    readFields room (fuel + 1) (quoted true name ++ ':' :: ' ' :: s) = match skipGaps more with
      | '\x7d' :: after => .ok ([(name, value)], after)
      | ',' :: more => do
        let (entries, after) ← readFields room fuel (skipGaps more)
        return ((name, value) :: entries, after)
      | other => .error (.flaw .expectingComma other.length) := by
  have gap : skipGaps (' ' :: s) = s := opens.skipGaps_eq
  have text := readText_quoted (quoted true name ++ ':' :: ' ' :: s).length name (':' :: ' ' :: s)
  have cut : quoted true name ++ ':' :: ' ' :: s
      = doubleQuote :: (name.toList.flatMap (escape true) ++ [doubleQuote] ++ ':' :: ' ' :: s) := rfl
  have colon : skipGaps (':' :: ' ' :: s) = ':' :: ' ' :: s := rfl
  rw [cut] at text ⊢
  rw [readFields, if_pos rfl, text]
  simp only [bind, Except.bind, colon, gap, h, String.ofList_toList]
  rfl

theorem readFields_last {name : String} {value : Json} (opens : Opens s)
    (h : readValue room fuel s = .ok (value, '\x7d' :: after)) :
    readFields room (fuel + 1) (quoted true name ++ ':' :: ' ' :: s) = .ok ([(name, value)], after) := by
  rw [readFields_named opens h]
  rfl

theorem readFields_more {name : String} {value : Json} {fields : Fields} (opens : Opens s)
    (h : readValue room fuel s = .ok (value, ',' :: ' ' :: more)) (continued : Opens more)
    (others : readFields room fuel more = .ok (fields, after)) :
    readFields room (fuel + 1) (quoted true name ++ ':' :: ' ' :: s) = .ok ((name, value) :: fields, after) := by
  have gap : skipGaps (' ' :: more) = more := continued.skipGaps_eq
  rw [readFields_named opens h]
  show (readFields room fuel (skipGaps (' ' :: more)) >>= fun p => .ok ((name, value) :: p.1, p.2)) = _
  rw [gap, others]
  rfl

theorem readValue_object {fields : Fields} (names : (Fields.names fields).Nodup)
    (h : readFields room fuel (doubleQuote :: s) = .ok (fields, after)) :
    readValue (room + 1) (fuel + 1) ('\x7b' :: doubleQuote :: s) = .ok (.obj fields, after) := by
  have step : readValue (room + 1) (fuel + 1) ('\x7b' :: doubleQuote :: s)
      = readFields room fuel (doubleQuote :: s) >>= fun p => .ok (.obj (Fields.ofList p.1), p.2) := rfl
  rw [step, h]
  exact congrArg (fun fields => Except.ok (Json.obj fields, after)) (Fields.ofList_eq names)

/-! Everything that is written. -/

/-- A value that is read back from the front of a text, if there is room for it. -/
def ReadsBack (v : Json) : Prop := ∀ (room fuel : Nat) (rest : List Char), Within room v → Closes rest →
  2 * (write .stored v).length ≤ fuel → readValue room fuel (write .stored v ++ rest) = .ok (v, rest)

theorem fuel_of_write {v : Json} (enough : 2 * (write .stored v).length ≤ fuel) : ∃ n, fuel = n + 1 := by
  obtain ⟨c, more, shown, -⟩ := write_starts v
  rw [shown, List.length_cons] at enough
  exact Nat.exists_eq_succ_of_ne_zero (by omega)

theorem readsBack_bare {v : Json} (h : Bare v) : ReadsBack v := by
  intro room fuel rest within closes enough
  obtain ⟨fuel, rfl⟩ := fuel_of_write enough
  exact readValue_bare h within closes

theorem closes_cons {c : Char} (h : c = ',' ∨ c = ']' ∨ c = '\x7d') : Closes (c :: rest) := by
  intro d member
  cases member
  exact h

theorem writeItems_starts {items : List Json} (some : items ≠ []) : Opens (writeItems .stored items) := by
  cases items with
  | nil => exact absurd rfl some
  | cons item items => cases items with
    | nil => exact write_starts item
    | cons next items => exact (Opens.append (write_starts item) [',', ' ']).append _

theorem writeFields_starts {fields : Fields} (some : fields ≠ []) :
    ∃ more, writeFields .stored fields = doubleQuote :: more := by
  cases fields with
  | nil => exact absurd rfl some
  | cons field fields =>
      obtain ⟨name, value⟩ := field
      cases fields with
      | nil => exact ⟨_, rfl⟩
      | cons next fields => exact ⟨_, rfl⟩

theorem readItems_write {items : List Json} (back : ∀ item ∈ items, ReadsBack item) (some : items ≠ [])
    (within : ∀ item ∈ items, Within room item) (enough : 2 * (writeItems .stored items).length + 1 ≤ fuel) :
    readItems room fuel (writeItems .stored items ++ ']' :: rest) = .ok (items, rest) := by
  induction items generalizing fuel with
  | nil => exact absurd rfl some
  | cons item items ih =>
      obtain ⟨fuel, rfl⟩ := Nat.exists_eq_succ_of_ne_zero (n := fuel) (by omega)
      have here := back item (.head _) room fuel
      have fits := within item (.head _)
      cases items with
      | nil =>
          rw [writeItems] at enough ⊢
          exact readItems_last (here _ fits (closes_cons (.inr (.inl rfl))) (by omega))
      | cons next items =>
          have shown : writeItems .stored (item :: next :: items) ++ ']' :: rest
              = write .stored item ++ ',' :: ' ' :: (writeItems .stored (next :: items) ++ ']' :: rest) := by
            simp [writeItems, Style.stored]
          have length : (writeItems .stored (item :: next :: items)).length
              = (write .stored item).length + 2 + (writeItems .stored (next :: items)).length := by
            simp [writeItems, Style.stored]
            omega
          have others : readItems room fuel (writeItems .stored (next :: items) ++ ']' :: rest)
              = .ok (next :: items, rest) :=
            ih (fun item member => back item (.tail _ member)) (by simp)
              (fun item member => within item (.tail _ member)) (by omega)
          rw [shown]
          exact readItems_more (here _ fits (closes_cons (.inl rfl)) (by omega))
            ((writeItems_starts (by simp)).append _) others

theorem readFields_write {fields : Fields} (back : ∀ field ∈ fields, ReadsBack field.2) (some : fields ≠ [])
    (within : ∀ field ∈ fields, Within room field.2) (enough : 2 * (writeFields .stored fields).length + 1 ≤ fuel) :
    readFields room fuel (writeFields .stored fields ++ '\x7d' :: rest) = .ok (fields, rest) := by
  induction fields generalizing fuel with
  | nil => exact absurd rfl some
  | cons field fields ih =>
      obtain ⟨name, value⟩ := field
      obtain ⟨fuel, rfl⟩ := Nat.exists_eq_succ_of_ne_zero (n := fuel) (by omega)
      have here : ReadsBack value := back (name, value) (.head _)
      have fits : Within room value := within (name, value) (.head _)
      have opens := fun rest => Opens.append (write_starts value) rest
      cases fields with
      | nil =>
          have shown : writeFields .stored [(name, value)] ++ '\x7d' :: rest
              = quoted true name ++ ':' :: ' ' :: (write .stored value ++ '\x7d' :: rest) := by
            simp [writeFields, Style.stored]
          have length : (writeFields .stored [(name, value)]).length
              = (quoted true name).length + 2 + (write .stored value).length := by
            simp [writeFields, Style.stored]
            omega
          rw [shown]
          exact readFields_last (opens _) (here _ _ _ fits (closes_cons (.inr (.inr rfl))) (by omega))
      | cons next fields =>
          have shown : writeFields .stored ((name, value) :: next :: fields) ++ '\x7d' :: rest = quoted true name
              ++ ':' :: ' ' :: (write .stored value
                ++ ',' :: ' ' :: (writeFields .stored (next :: fields) ++ '\x7d' :: rest)) := by
            simp [writeFields, Style.stored]
          have length : (writeFields .stored ((name, value) :: next :: fields)).length = (quoted true name).length + 2
              + (write .stored value).length + 2 + (writeFields .stored (next :: fields)).length := by
            simp [writeFields, Style.stored]
            omega
          have others : readFields room fuel (writeFields .stored (next :: fields) ++ '\x7d' :: rest)
              = .ok (next :: fields, rest) :=
            ih (fun field member => back field (.tail _ member)) (by simp)
              (fun field member => within field (.tail _ member)) (by omega)
          obtain ⟨more, marked⟩ := writeFields_starts (List.cons_ne_nil next fields)
          rw [shown]
          exact readFields_more (opens _) (here _ _ _ fits (closes_cons (.inl rfl)) (by omega))
            (Opens.append ⟨_, _, marked, rfl, by decide⟩ _) others

/-- Reading undoes writing, inside a document as well. -/
theorem Distinct.readsBack {v : Json} (h : Distinct v) : ReadsBack v := by
  induction h with
  | null => exact readsBack_bare trivial
  | bool b => exact readsBack_bare trivial
  | int n => exact readsBack_bare trivial
  | float x => exact readsBack_bare trivial
  | str s =>
      intro room fuel rest _ _ enough
      obtain ⟨fuel, rfl⟩ := fuel_of_write enough
      exact readValue_quoted s
  | @arr items inner back =>
      intro room fuel rest within closes enough
      obtain ⟨fuel, rfl⟩ := fuel_of_write enough
      cases room with
      | zero => exact absurd within (not_within_zero_arr items)
      | succ room =>
          by_cases none : items = []
          · subst none
            rfl
          · rw [write, List.length_cons, List.length_append, List.length_singleton] at enough
            have shown : write .stored (.arr items) ++ rest = '[' :: (writeItems .stored items ++ ']' :: rest) := by
              simp [write]
            rw [shown]
            exact readValue_list ((writeItems_starts none).append _)
              (readItems_write back none (within_arr.mp within) (by omega))
  | @obj fields names inner back =>
      intro room fuel rest within closes enough
      obtain ⟨fuel, rfl⟩ := fuel_of_write enough
      cases room with
      | zero => exact absurd within (not_within_zero_obj fields)
      | succ room =>
          by_cases none : fields = []
          · subst none
            rfl
          · rw [write, List.length_cons, List.length_append, List.length_singleton] at enough
            have shown :
                write .stored (.obj fields) ++ rest = '\x7b' :: (writeFields .stored fields ++ '\x7d' :: rest) := by
              simp [write]
            have inside : readFields room fuel (writeFields .stored fields ++ '\x7d' :: rest) = .ok (fields, rest) :=
              readFields_write back none (within_obj.mp within) (by omega)
            obtain ⟨more, marked⟩ := writeFields_starts none
            rw [marked] at shown inside
            rw [shown]
            exact readValue_object names inside

/-- A document that is written reads back as the value. -/
theorem readWithin_write {v : Json} {room : Nat} (within : Within room v) (distinct : Distinct v) :
    readWithin room (write .stored v) = .ok v := by
  have back := distinct.readsBack room (2 * (write .stored v).length + 2) [] within
    (fun c member => absurd member (by simp)) (by omega)
  obtain ⟨c, more, shown, first⟩ := write_starts v
  have gap : skipGaps (write .stored v) = write .stored v := by
    rw [shown]
    exact skipGaps_of_starts first.1 more
  rw [List.append_nil] at back
  unfold readWithin readAll
  rw [gap, back]
  rfl

end Json

end CanaryGate
