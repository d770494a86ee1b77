import CanaryGate.Proofs.Engine.Boundary
import CanaryGate.Proofs.Json.Growth
import CanaryGate.Proofs.Store.StateFile

/-! # How long log text gets

All text that is no document is cut to the limit. A document is written again and never cut, so that its log text is
as long as its compact form: at most eight times as long as the document, but beyond any limit. The words of an engine
failure are such text, and a response body in them is often a document.
-/

namespace CanaryGate

namespace LogText

theorem length_cut_le (s : List Char) : (cut s).length ≤ limit := by
  unfold cut
  split
  · rw [List.length_append]
    exact Nat.add_le_of_le_sub (by decide) (List.length_take_le _ _)
  · exact Nat.le_of_not_lt ‹_›

theorem length_plain_le (text : String) : (plain text).length ≤ limit := by
  rw [plain, String.length_ofList]
  exact length_cut_le _

/-- How long the log text of a text is. -/
structure Bounded (text t : String) : Prop where
  /-- It stays within the limit, unless it is a document that is longer in compact form. -/
  within : t.length ≤ limit ↔ ∀ v, Spells text v → (v.render .compact).length ≤ limit
  /-- A document is whole. -/
  whole : ∀ v, Spells text v → t = v.render .compact
  most : t.length ≤ max limit (8 * text.length)

theorem bounded_of_no_document {text t : String} (other : ∀ v, ¬ Spells text v) (short : t.length ≤ limit) :
    Bounded text t := by
  refine ⟨?within, ?whole, le_max_of_le_left short⟩
  case within => exact ⟨fun _ v spells => absurd spells (other v), fun _ => short⟩
  case whole => exact fun v spells => absurd spells (other v)

theorem Logged.bounded {text t : String} (h : Logged text t) : Bounded text t := by
  cases h with
  | plain other => exact bounded_of_no_document other (length_plain_le text)
  | @document v spells =>
      have same : ∀ w, Spells text w → v = w := fun w again => Except.ok.inj (spells.2.symm.trans again.2)
      refine ⟨?within, ?whole, le_max_of_le_right (Json.length_render_le spells.2)⟩
      case within => exact ⟨fun short w again => same w again ▸ short, fun all => all v spells⟩
      case whole =>
        intro w again
        rw [same w again]

theorem bounded_of_sanitize {value : Json} {t : String} (h : sanitize value = .ok t) : Bounded value.display t := by
  rcases logged_of_sanitize h with ⟨rfl, rfl⟩ | logged
  · exact bounded_of_no_document (fun v spells => absurd spells.1 (by decide)) (by decide)
  · exact logged.bounded

/-! Two kinds of long text. -/

theorem looksLikeDocument_render {v : Json} (inner : ¬ Json.Bare v) : looksLikeDocument (v.render .stored) = true := by
  unfold Json.render
  cases v with
  | str s => exact (looksLikeDocument_cons (by decide) (by simp)).trans (by decide)
  | arr items =>
      rw [Json.write]
      exact (looksLikeDocument_cons (by decide) (by simp)).trans (by decide)
  | obj fields =>
      rw [Json.write]
      exact (looksLikeDocument_cons (by decide) (by simp)).trans (by decide)
  | null | bool _ | int _ | float _ => exact absurd trivial inner

/-- A stored document is logged whole. -/
theorem sanitizeText_render {v : Json} (inner : ¬ Json.Bare v) (within : Json.Within Json.depthLimit v)
    (distinct : Json.Distinct v) : sanitizeText (v.render .stored) = .ok (v.render .compact) := by
  rw [sanitizeText, if_pos (looksLikeDocument_render inner), Json.read_render within distinct]

/-- The text of so many letters. -/
def letters (n : Nat) : String := String.ofList (List.replicate n 'x')

/-- The same in quotes. -/
def quotation (n : Nat) : String := String.ofList (doubleQuote :: (List.replicate n 'x' ++ [doubleQuote]))

theorem length_quotation (n : Nat) : (quotation n).length = n + 2 := by
  rw [quotation, String.length_ofList]
  simp

theorem render_letters (style : Json.Style) (n : Nat) : Json.render style (.str (letters n)) = quotation n := by
  have itself : Json.escape style.asciiOnly 'x' = ['x'] := by
    cases style.asciiOnly <;> rfl
  rw [Json.render, Json.write, Json.quoted, letters, String.toList_ofList, List.flatMap_replicate, itself,
    List.flatten_replicate_singleton]
  rfl

/-- A quotation is logged as it is, however long it is. -/
theorem sanitize_quotation (n : Nat) : sanitize (.str (quotation n)) = .ok (quotation n) := by
  have whole := sanitizeText_render (v := .str (letters n)) id (Json.within_str _) (.str _)
  rw [render_letters, render_letters] at whole
  rw [sanitize_str]
  exact whole

/-- Too many letters are cut. -/
theorem sanitize_letters {n : Nat} (many : limit < n) :
    sanitize (.str (letters n)) = .ok (String.ofList (List.replicate 997 'x' ++ ['.', '.', '.'])) := by
  obtain ⟨m, rfl⟩ := Nat.exists_eq_add_one.mpr (Nat.zero_lt_of_lt many)
  have more : List.replicate m 'x' ≠ [] := by
    have some : 0 < m := Nat.lt_of_lt_of_le (by decide) (Nat.le_of_lt_succ many)
    simpa using Nat.ne_of_gt some
  have other : looksLikeDocument (letters (m + 1)) = false := by
    rw [letters, List.replicate_succ, looksLikeDocument_cons (by decide) more]
    decide
  have itself : escape 'x' = ['x'] := rfl
  have escaped : (letters (m + 1)).toList.flatMap escape = List.replicate (m + 1) 'x' := by
    rw [letters, String.toList_ofList, List.flatMap_replicate, itself, List.flatten_replicate_singleton]
  rw [sanitize_str, sanitizeText, if_neg (by rw [other]; decide), plain, escaped, cut,
    if_pos (by rw [List.length_replicate]; exact many), List.take_replicate, Nat.min_eq_left (by unfold limit at *; omega)]
  rfl

end LogText

namespace EngineFailure

/-- What is logged of a failure. -/
def logged (failure : EngineFailure) : Except Fault String := LogText.sanitize (.str failure.message)

end EngineFailure

namespace Engine

variable {σ : Type} {engine : Engine σ} {request : EngineRequest} {code : String} {force : Option String} {w : World σ}

/-- A failure is logged on its way. -/
theorem recordFailure_eq (code : String) (failure : EngineFailure) :
    recordFailure code failure = failure.logged.map fun _ => .err code (failure.worded code) := by
  unfold recordFailure EngineFailure.logged
  cases LogText.sanitize (.str failure.message) <;> rfl

/-- An execution that comes to a failure has logged it. -/
theorem logged_of_execute {code' : String} {shown : EngineFailure}
    (h : ((engine.execute request code force).outcome w).1 = .ok (.err code' shown)) :
    ∃ failure t, Fails engine request force w.engines failure ∧ shown = failure.worded code ∧ failure.logged = .ok t := by
  rw [outcome_execute] at h
  rcases gives_or_fails engine request force w.engines with ⟨found, given, -⟩ | ⟨failure, failed, fails⟩
  · rw [given] at h
    cases h
  · rw [failed] at h
    have recorded : recordFailure code failure = .ok (.err code' shown) := h
    rw [recordFailure_eq] at recorded
    obtain ⟨t, logged, same⟩ := except_map_eq_ok.mp recorded
    cases same
    exact ⟨failure, t, fails, rfl, logged⟩

/-- What a failing engine comes to, once its failure could be logged. -/
theorem execute_of_logged (failure : EngineFailure) {t : String} (h : failure.logged = .ok t) :
    (((failing failure).execute emptyRequest Shadow.errorCode none).outcome idle).1
      = .ok (.err Shadow.errorCode (failure.worded Shadow.errorCode)) := by
  rw [outcome_execute]
  show recordFailure Shadow.errorCode failure = _
  rw [recordFailure_eq, h]
  rfl

/-- Log text is bounded but for documents, whatever is logged: a value, or the failure an execution comes to. Documents
are logged at any length. -/
theorem bounded_unless_document (engine : Engine σ) (request : EngineRequest) (code : String) (force : Option String)
    (w : World σ) :
    (∀ value t, LogText.sanitize value = .ok t → LogText.Bounded value.display t)
      ∧ (∀ code' shown, ((engine.execute request code force).outcome w).1 = .ok (.err code' shown) →
        ∃ failure t, Fails engine request force w.engines failure ∧ shown = failure.worded code
          ∧ failure.logged = .ok t ∧ LogText.Bounded failure.message t)
      ∧ ∀ n, ∃ value t, LogText.sanitize value = .ok t ∧ n < t.length := by
  refine ⟨fun value t => LogText.bounded_of_sanitize, ?failures, ?documents⟩
  case failures =>
    intro code' shown ended
    obtain ⟨failure, t, fails, same, logged⟩ := logged_of_execute ended
    exact ⟨failure, t, fails, same, logged, LogText.bounded_of_sanitize logged⟩
  case documents =>
    intro n
    refine ⟨_, _, LogText.sanitize_quotation n, ?_⟩
    rw [LogText.length_quotation]
    omega

/-- Five thousand letters as the words of a failure. -/
theorem bounded_of_letters :
    let crash : EngineFailure := ⟨"RuntimeError", LogText.letters 5000, none⟩
    let short := String.ofList (List.replicate 997 'x' ++ ['.', '.', '.'])
    LogText.sanitize (.str crash.message) = .ok short ∧ short.length = LogText.limit
      ∧ LogText.Bounded crash.message short
      ∧ (((failing crash).execute emptyRequest Shadow.errorCode none).outcome idle).1
        = .ok (.err Shadow.errorCode (crash.worded Shadow.errorCode))
      ∧ ∃ failure t, Fails (failing crash) emptyRequest none () failure
        ∧ crash.worded Shadow.errorCode = failure.worded Shadow.errorCode
        ∧ failure.logged = .ok t ∧ LogText.Bounded failure.message t := by
  intro crash short
  obtain ⟨values, failures, -⟩ := bounded_unless_document (failing crash) emptyRequest Shadow.errorCode none idle
  have cut : LogText.sanitize (.str crash.message) = .ok short := LogText.sanitize_letters (by decide)
  have ended := execute_of_logged crash cut
  have bounded : LogText.Bounded crash.message short := values (.str crash.message) short cut
  have logged := failures _ _ ended
  have length : short.length = LogText.limit := by
    rw [String.length_ofList, List.length_append, List.length_replicate]
    rfl
  exact ⟨cut, length, bounded, ended, logged⟩

/-- A thousand letters in quotes are logged whole, with their quotes two characters too many. -/
theorem quotation_uncut :
    let crash : EngineFailure := ⟨"RuntimeError", LogText.quotation 1000, none⟩
    LogText.sanitize (.str crash.message) = .ok (LogText.quotation 1000)
      ∧ (((failing crash).execute emptyRequest Shadow.errorCode none).outcome idle).1
        = .ok (.err Shadow.errorCode (crash.worded Shadow.errorCode))
      ∧ crash.logged = .ok (LogText.quotation 1000)
      ∧ (LogText.quotation 1000).length = 1002 ∧ LogText.limit < 1002 := by
  intro crash
  have whole := LogText.sanitize_quotation 1000
  exact ⟨whole, execute_of_logged crash whole, whole, LogText.length_quotation 1000, by decide⟩

end Engine

end CanaryGate
