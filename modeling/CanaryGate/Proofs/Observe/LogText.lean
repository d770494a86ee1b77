import CanaryGate.Observe.Sanitize
import CanaryGate.Proofs.Attempt.Success
import CanaryGate.Proofs.Json.Plain

/-! # Log text stays on its line

Text gets into a log in one of two ways. A document is read, which turns its escapes into the characters they stand
for, and written again in compact form, where no character below the blank is written as itself, at whatever depth it
stands and in names too. All other text is escaped character by character and then cut, and a cut leaves no character
that was not there, its three dots apart.
-/

namespace CanaryGate

/-- A front that is kept stays in front. -/
theorem head?_trimBoth {drop : Char → Bool} {c : Char} (kept : drop c = false) (rest : List Char) :
    (trimBoth drop (c :: rest)).head? = some c := by
  have stays : ¬ drop c = true := by simp [kept]
  unfold trimBoth
  rw [List.dropWhile_cons_of_neg stays, List.head?_reverse, List.reverse_cons, List.dropWhile_append]
  split
  · rw [List.dropWhile_cons_of_neg stays]
    rfl
  · exact List.getLast?_concat

namespace LogText

/-- A longer text that starts with no blank looks like what it starts with. -/
theorem looksLikeDocument_cons {c : Char} {rest : List Char} (shown : isBlank c = false) (more : rest ≠ []) :
    looksLikeDocument (String.ofList (c :: rest)) = decide (c = '\x7b' ∨ c = '[' ∨ c = doubleQuote) := by
  have first : (strip (String.ofList (c :: rest))).toList.head? = some c := by
    rw [strip, String.toList_ofList, String.toList_ofList, head?_trimBoth shown]
  unfold looksLikeDocument
  rw [first]
  simp [more, List.length_pos_iff, Bool.or_assoc]

/-- The text is taken for a document, and spells a value. -/
def Spells (text : String) (v : Json) : Prop := looksLikeDocument text = true ∧ Json.read text = .ok v

/-- What is logged for a text. -/
inductive Logged (text : String) : String → Prop where
  /-- A document, written again. -/
  | document {v : Json} (spells : Spells text v) : Logged text (v.render .compact)
  /-- A text that is none, escaped and cut. -/
  | plain (other : ∀ v, ¬ Spells text v) : Logged text (LogText.plain text)

theorem logged_of_sanitizeText {text t : String} (h : sanitizeText text = .ok t) : Logged text t := by
  unfold sanitizeText at h
  split at h
  · rename_i looks
    split at h
    · rename_i v read
      cases h
      exact .document ⟨looks, read⟩
    · rename_i flawed
      cases h
      apply Logged.plain
      rintro v ⟨-, read⟩
      rw [read] at flawed
      cases flawed
    · cases h
  · rename_i other
    cases h
    exact .plain fun v spells => other spells.1

/-- A value is logged as its text, except that none is. -/
theorem logged_of_sanitize {value : Json} {t : String} (h : sanitize value = .ok t) :
    value = .null ∧ t = "null" ∨ Logged value.display t := by
  have shown : ∀ v : Json, v.spelled >>= sanitizeText = .ok t → Logged v.display t := by
    intro v written
    obtain ⟨text, spelled, sanitized⟩ := except_bind_eq_ok.mp written
    rw [← Json.eq_display_of_spelled spelled]
    exact logged_of_sanitizeText sanitized
  cases value with
  | null =>
      cases h
      exact .inl ⟨rfl, rfl⟩
  | bool _ | int _ | float _ | str _ | arr _ | obj _ => exact .inr (shown _ h)

/-! Characters that break a line. -/

/-- A character that leaves the line, and the column, where they are. -/
def Inline (c : Char) : Prop := c ≠ '\n' ∧ c ≠ '\r' ∧ c ≠ '\t'

instance (c : Char) : Decidable (Inline c) := inferInstanceAs (Decidable (_ ∧ _))

/-- A text of one line, without a tab. -/
def OneLine (t : String) : Prop := ∀ c ∈ t.toList, Inline c

theorem inline_of_le {c : Char} (h : 32 ≤ c.toNat) : Inline c := by
  have apart : ∀ d : Char, d.toNat < 32 → c ≠ d := by
    rintro d low rfl
    omega
  exact ⟨apart '\n' (by decide), apart '\r' (by decide), apart '\t' (by decide)⟩

theorem oneLine_render (v : Json) : OneLine (v.render .compact) := by
  intro c member
  rw [Json.render, String.toList_ofList] at member
  exact inline_of_le (Json.shows_compact.write v c member)

/-- An escape has nothing of what it stands for. -/
theorem inline_escape (c : Char) : ∀ d ∈ escape c, Inline d := by
  have letter : ∀ d, Inline d → ∀ e ∈ [backslash, d], Inline e := by
    intro d inline
    rw [List.forall_mem_cons, List.forall_mem_singleton]
    exact ⟨by decide, inline⟩
  unfold escape
  split_ifs with slash feed turn tab mark
  · exact letter backslash (by decide)
  · exact letter 'n' (by decide)
  · exact letter 'r' (by decide)
  · exact letter 't' (by decide)
  · exact letter doubleQuote (by decide)
  · exact List.forall_mem_singleton.mpr ⟨feed, turn, tab⟩

theorem forall_mem_cut {P : Char → Prop} {s : List Char} (all : ∀ c ∈ s, P c) (dot : P '.') : ∀ c ∈ cut s, P c := by
  unfold cut
  split
  · rw [List.forall_mem_append]
    refine ⟨fun c member => all c (List.mem_of_mem_take member), ?_⟩
    simp [dot]
  · exact all

theorem oneLine_plain (text : String) : OneLine (plain text) := by
  intro c member
  rw [plain, String.toList_ofList] at member
  refine forall_mem_cut (fun d escaped => ?_) (by decide) c member
  obtain ⟨source, -, written⟩ := List.mem_flatMap.mp escaped
  exact inline_escape source d written

theorem Logged.oneLine {text t : String} (h : Logged text t) : OneLine t := by
  cases h with
  | document _ => exact oneLine_render _
  | plain _ => exact oneLine_plain text

/-- Whatever a value or a text comes to in a log, it starts no new line. -/
theorem no_line_broken {t : String} (h : (∃ value, sanitize value = .ok t) ∨ ∃ text, sanitizeText text = .ok t) :
    OneLine t := by
  rcases h with ⟨value, sanitized⟩ | ⟨text, sanitized⟩
  · rcases logged_of_sanitize sanitized with ⟨-, rfl⟩ | logged
    · intro c member
      exact inline_of_le ((by decide : Json.AllPlain "null".toList) c member).1
    · exact logged.oneLine
  · exact (logged_of_sanitizeText sanitized).oneLine

/-- A document with breaks between its parts, in a name and in a text, and a text with all three. -/
theorem no_line_broken_of_breaks :
    sanitizeText "\x7b\n\"a\\nb\":\t[\"c\\u000dd\"]\x7d" = .ok "\x7b\"a\\nb\":[\"c\\rd\"]\x7d"
      ∧ OneLine "\x7b\"a\\nb\":[\"c\\rd\"]\x7d"
      ∧ sanitizeText "a\r\n\tb" = .ok "a\\r\\n\\tb" ∧ OneLine "a\\r\\n\\tb" := by
  have document : sanitizeText "\x7b\n\"a\\nb\":\t[\"c\\u000dd\"]\x7d" = .ok "\x7b\"a\\nb\":[\"c\\rd\"]\x7d" := by
    decide +kernel
  have plain : sanitizeText "a\r\n\tb" = .ok "a\\r\\n\\tb" := by decide +kernel
  exact ⟨document, no_line_broken (.inr ⟨_, document⟩), plain, no_line_broken (.inr ⟨_, plain⟩)⟩

end LogText

end CanaryGate
