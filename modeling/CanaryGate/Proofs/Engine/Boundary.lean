import CanaryGate.Proofs.Json.RoundTrip
import CanaryGate.Proofs.Observe.LogText
import CanaryGate.Proofs.Run.Hearing

/-! # The engine boundary

Whatever an engine does, its execution is counted once and comes to a value. One kind of failure gets through:
the words of a failure are read as a document if they look like one, and reading stops for good at an integer
that is too long and at lists and objects that are too deep. These refusals are no flaws of the text, so nothing
takes them back, and they leave the boundary in place of the failure.
-/

namespace CanaryGate

open Attempt

variable {σ : Type}

namespace Json

/-- Refused for its size, and not for a flaw. -/
def ReadError.Excessive : ReadError → Prop
  | flawed .. => False
  | tooManyDigits _ | tooDeep _ => True

/-- Reading goes as deep as there is room, before it sees that the lists are never closed. -/
theorem readValue_replicate {room fuel n : Nat} (deep : room ≤ n) (enough : 2 * room < fuel) :
    readValue room fuel (List.replicate (n + 1) '[') = .error (.tooDeep .list) := by
  induction room generalizing fuel n with
  | zero =>
      obtain ⟨less, rfl⟩ := Nat.exists_eq_add_one.mpr enough
      rw [List.replicate_succ, readValue]
  | succ room ih =>
      obtain ⟨m, rfl⟩ : ∃ m, n = m + 1 := ⟨n - 1, by omega⟩
      obtain ⟨less, rfl⟩ : ∃ less, fuel = less + 2 := ⟨fuel - 2, by omega⟩
      have inner : readItems room (less + 1) (List.replicate (m + 1) '[') = .error (.tooDeep .list) := by
        rw [readItems, ih (by omega) (by omega)]
        rfl
      have step : readValue (room + 1) (less + 2) (List.replicate (m + 2) '[')
          = readItems room (less + 1) (List.replicate (m + 1) '[') >>= fun p => .ok (.arr p.1, p.2) := rfl
      rw [step, inner]
      rfl

theorem read_replicate {n : Nat} (deep : depthLimit ≤ n) :
    read (String.ofList (List.replicate (n + 1) '[')) = .error (.tooDeep (some .list)) := by
  have stopped : readAll depthLimit (List.replicate (n + 1) '[') = .error (.tooDeep .list) := by
    unfold readAll
    rw [List.length_replicate, List.replicate_succ, skipGaps_of_starts (by decide), ← List.replicate_succ,
      readValue_replicate deep (by omega)]
    rfl
  have unmarked : (List.replicate (n + 1) '[').head? ≠ some (Char.ofNat 0xFEFF) := by
    rw [List.replicate_succ, List.head?_cons]
    decide
  unfold read
  dsimp only
  rw [String.toList_ofList, if_neg unmarked, readCharacters, readWithin, stopped]

end Json

namespace LogText

/-- The text looks like a document, and is refused as one for its size. -/
def Oversized (text : String) (error : Json.ReadError) : Prop :=
  looksLikeDocument text = true ∧ Json.read text = .error error ∧ error.Excessive

theorem sanitize_str (text : String) : sanitize (.str text) = sanitizeText text := by
  have spelled : Json.spelled (.str text) = .ok text := rfl
  unfold sanitize
  dsimp only
  rw [spelled]
  exact pure_bind text sanitizeText

theorem sanitize_of_oversized {text : String} {error : Json.ReadError} (h : Oversized text error) :
    sanitize (.str text) = .error (.document error) := by
  obtain ⟨looks, refused, excessive⟩ := h
  rw [sanitize_str, sanitizeText, if_pos looks, refused]
  cases error with
  | flawed flaw line column place => exact excessive.elim
  | tooManyDigits count => rfl
  | tooDeep kind => rfl

/-- All other words can be sanitized. -/
theorem sanitize_of_fitting {text : String} (h : ∀ error, ¬ Oversized text error) : Succeeds (sanitize (.str text)) := by
  rw [sanitize_str, sanitizeText]
  split
  · rename_i looks
    cases read : Json.read text with
    | ok value => exact succeeds_ok _
    | error error =>
        cases error with
        | flawed flaw line column place => exact succeeds_ok _
        | tooManyDigits count => exact absurd ⟨looks, read, trivial⟩ (h _)
        | tooDeep kind => exact absurd ⟨looks, read, trivial⟩ (h _)
  · exact succeeds_ok _

theorem looksLikeDocument_replicate {n : Nat} (h : 0 < n) :
    looksLikeDocument (String.ofList (List.replicate (n + 1) '[')) = true := by
  have more : List.replicate n '[' ≠ [] := by
    simpa using Nat.ne_of_gt h
  rw [List.replicate_succ, looksLikeDocument_cons (by decide) more]
  decide

theorem oversized_replicate {n : Nat} (deep : Json.depthLimit < n) :
    Oversized (String.ofList (List.replicate n '[')) (.tooDeep (some .list)) := by
  obtain ⟨m, rfl⟩ := Nat.exists_eq_add_one.mpr (Nat.zero_lt_of_lt deep)
  have below : Json.depthLimit ≤ m := Nat.le_of_lt_succ deep
  exact ⟨looksLikeDocument_replicate (Nat.lt_of_lt_of_le (by decide) below), Json.read_replicate below, trivial⟩

end LogText

namespace Tally

variable {κ : Type} [BEq κ] [LawfulBEq κ] [DecidableEq κ]

theorem count_cons (key : κ) (times : Nat) (rest : Tally κ) (label : κ) :
    count ((key, times) :: rest) label = if label = key then times else count rest label := by
  unfold count
  by_cases same : label = key
  · simp [same]
  · have apart : (label == key) = false := beq_false_of_ne same
    simp [List.lookup_cons, apart, same]

/-- Counting a label leaves the others as they were. -/
theorem count_bump (t : Tally κ) (label other : κ) :
    (t.bump label).count other = t.count other + if other = label then 1 else 0 := by
  induction t with
  | nil =>
      rw [bump, count_cons]
      exact (Nat.zero_add _).symm
  | cons entry rest ih =>
      obtain ⟨key, times⟩ := entry
      rw [bump]
      split
      · rename_i here
        obtain rfl : key = label := eq_of_beq here
        rw [count_cons, count_cons]
        split
        · rfl
        · rfl
      · rename_i apart
        rw [count_cons, count_cons, ih]
        split
        · rename_i same
          rw [if_neg fun found => apart (beq_of_eq (same.symm.trans found)), Nat.add_zero]
        · rfl

end Tally

namespace EngineFailure

/-- The failure under a code, which also stands in for missing words. -/
def worded (code : String) (failure : EngineFailure) : EngineFailure :=
  { failure with message := if failure.message = "" then code else failure.message }

theorem worded_ne_empty {code : String} (named : code ≠ "") (failure : EngineFailure) :
    (failure.worded code).message ≠ "" := by
  unfold worded
  dsimp only
  split
  · exact named
  · assumption

end EngineFailure

namespace Engine

/-- No failure is asked for by name. -/
def Unforced (force : Option String) : Prop := force.filter (· != "") = none

/-- The engine is asked, and answers with an object that has an object under its matching name. -/
structure Gives (engine : Engine σ) (request : EngineRequest) (force : Option String) (s : σ) (result : Json) : Prop where
  unforced : Unforced force
  answered : (engine.respond request s).1 = .ok result
  matching : ∃ fields matching, result = .obj fields ∧ Fields.get fields "matching" = .obj matching

/-- The ways in which an execution fails. -/
inductive Fails (engine : Engine σ) (request : EngineRequest) (force : Option String) (s : σ) : EngineFailure → Prop where
  | forced {message : String} (asked : force = some message) (named : message ≠ "") :
      Fails engine request force s (.forced message)
  | raised {failure : EngineFailure} (unforced : Unforced force)
      (answered : (engine.respond request s).1 = .error failure) : Fails engine request force s failure
  | unfit {result : Json} (unforced : Unforced force) (answered : (engine.respond request s).1 = .ok result)
      (other : ¬ ∃ fields matching, result = .obj fields ∧ Fields.get fields "matching" = .obj matching) :
      Fails engine request force s .noResult

/-- What an execution has to settle. -/
def verdict (engine : Engine σ) (request : EngineRequest) (force : Option String) (s : σ) : Except EngineFailure Json :=
  match force.filter (· != "") with
  | some message => .error (.forced message)
  | none =>
    match (engine.respond request s).1 with
    | .ok result => if isMatchingResult result then .ok result else .error .noResult
    | .error failure => .error failure

/-- The world once the engine was asked, if it is. -/
def asked (engine : Engine σ) (request : EngineRequest) (force : Option String) (w : World σ) : World σ :=
  match force.filter (· != "") with
  | some _ => w
  | none => { w with engines := (engine.respond request w.engines).2, calls := w.calls ++ [⟨engine.name, request⟩] }

variable {engine : Engine σ} {request : EngineRequest} {code : String} {force : Option String} {w : World σ} {s : σ}

/-- The two are all there is. -/
theorem gives_or_fails (engine : Engine σ) (request : EngineRequest) (force : Option String) (s : σ) :
    (∃ result, verdict engine request force s = .ok result ∧ Gives engine request force s result)
      ∨ ∃ failure, verdict engine request force s = .error failure ∧ Fails engine request force s failure := by
  unfold verdict
  cases named : force.filter (· != "") with
  | some message =>
      obtain ⟨given, some⟩ := Option.filter_eq_some_iff.mp named
      exact .inr ⟨_, rfl, .forced given (by simpa using some)⟩
  | none =>
      dsimp only
      cases answered : (engine.respond request s).1 with
      | error failure => exact .inr ⟨_, rfl, .raised named answered⟩
      | ok result =>
          dsimp only
          cases fits : isMatchingResult result with
          | true => exact .inl ⟨_, rfl, named, answered, isMatchingResult_iff.mp fits⟩
          | false =>
              refine .inr ⟨_, rfl, .unfit named answered fun found => ?_⟩
              rw [isMatchingResult_iff.mpr found] at fits
              contradiction

theorem verdict_of_gives {result : Json} (h : Gives engine request force s result) :
    verdict engine request force s = .ok result := by
  unfold verdict
  rw [show force.filter (· != "") = none from h.unforced, h.answered]
  exact if_pos (isMatchingResult_iff.mpr h.matching)

theorem verdict_of_fails {failure : EngineFailure} (h : Fails engine request force s failure) :
    verdict engine request force s = .error failure := by
  unfold verdict
  cases h with
  | forced given named =>
      subst given
      rw [Option.filter_some_pos (by simpa using named)]
  | raised unforced answered => rw [show force.filter (· != "") = none from unforced, answered]
  | unfit unforced answered other =>
      rw [show force.filter (· != "") = none from unforced, answered]
      exact if_neg fun fits => other (isMatchingResult_iff.mp fits)

theorem outcome_answering (engine : Engine σ) (request : EngineRequest) (force : Option String) (w : World σ) :
    (engine.answering request force).outcome w = (.ok (engine.verdict request force w.engines), engine.asked request force w) := by
  unfold answering verdict asked
  cases force.filter (· != "") with
  | some message => rfl
  | none => rfl

/-- Whatever the verdict, it is settled, after the execution was counted. -/
theorem outcome_execute (engine : Engine σ) (request : EngineRequest) (code : String) (force : Option String)
    (w : World σ) : (engine.execute request code force).outcome w = (settle code (engine.verdict request force w.engines),
      ((engine.countLatency).outcome (engine.asked request force w)).2) := by
  rw [execute_eq, outcome_bind_of_ok (outcome_answering engine request force w)]
  rfl

theorem settle_of_fitting {failure : EngineFailure} (fits : ∀ error, ¬ LogText.Oversized failure.message error) :
    settle code (.error failure) = .ok (.err code (failure.worded code)) := by
  obtain ⟨text, sanitized⟩ := LogText.sanitize_of_fitting fits
  show recordFailure code failure = _
  unfold recordFailure
  rw [sanitized]
  rfl

theorem settle_of_oversized {failure : EngineFailure} {error : Json.ReadError}
    (h : LogText.Oversized failure.message error) : settle code (.error failure) = .error (.document error) := by
  show recordFailure code failure = _
  unfold recordFailure
  rw [LogText.sanitize_of_oversized h]
  rfl

/-- What the verdict comes to. -/
inductive Settled (engine : Engine σ) (request : EngineRequest) (code : String) (force : Option String) (s : σ) :
    Except Fault EngineOutcome → Prop where
  | result {found : Json} (gives : Gives engine request force s found) : Settled engine request code force s (.ok (.ok found))
  | failure {failure : EngineFailure} (fails : Fails engine request force s failure)
      (fits : ∀ error, ¬ LogText.Oversized failure.message error) :
      Settled engine request code force s (.ok (.err code (failure.worded code)))
  /-- The words get through. -/
  | escape {failure : EngineFailure} {error : Json.ReadError} (fails : Fails engine request force s failure)
      (oversized : LogText.Oversized failure.message error) : Settled engine request code force s (.error (.document error))

theorem settled_iff {r : Except Fault EngineOutcome} :
    Settled engine request code force s r ↔ r = settle code (engine.verdict request force s) := by
  constructor
  · intro h
    cases h with
    | result gives =>
        rw [verdict_of_gives gives]
        rfl
    | failure fails fits => rw [verdict_of_fails fails, settle_of_fitting fits]
    | escape fails oversized => rw [verdict_of_fails fails, settle_of_oversized oversized]
  · rintro rfl
    obtain ⟨result, given, gives⟩ | ⟨failure, failed, fails⟩ := gives_or_fails engine request force s
    · rw [given]
      exact .result gives
    · rw [failed]
      by_cases h : ∃ error, LogText.Oversized failure.message error
      · obtain ⟨error, oversized⟩ := h
        rw [settle_of_oversized oversized]
        exact .escape fails oversized
      · push Not at h
        rw [settle_of_fitting h]
        exact .failure fails h

theorem Settled.unique {r r' : Except Fault EngineOutcome} (h : Settled engine request code force s r)
    (h' : Settled engine request code force s r') : r = r' := (settled_iff.mp h).trans (settled_iff.mp h').symm

/-- What an execution comes to, and what it leaves. -/
structure Contained (engine : Engine σ) (request : EngineRequest) (code : String) (force : Option String) (w : World σ)
    (r : Except Fault EngineOutcome) (w' : World σ) : Prop where
  /-- There is an outcome, unless the words of a failure are oversized. -/
  returns : Succeeds r ↔ ∀ failure error, Fails engine request force w.engines failure → ¬ LogText.Oversized failure.message error
  escapes : ∀ fault, r = .error fault → ∃ error, fault = .document error
  result : ∀ found, r = .ok (.ok found) ↔ Gives engine request force w.engines found
  failure : ∀ code' shown, r = .ok (.err code' shown) → code' = code ∧ shown.message ≠ ""
    ∧ ∃ failure, Fails engine request force w.engines failure ∧ shown = failure.worded code
  unasked : ¬ Unforced force → w'.calls = w.calls ∧ w'.engines = w.engines
  asked : Unforced force →
    w'.calls = w.calls ++ [⟨engine.name, request⟩] ∧ w'.engines = (engine.respond request w.engines).2
  /-- The execution is counted once. -/
  counted : ∀ label, w'.metrics.latencies.count label
    = w.metrics.latencies.count label + if label = engine.name then 1 else 0
  /-- Nothing else is counted. -/
  uncounted : w'.metrics = { w.metrics with latencies := w'.metrics.latencies }
  store : w'.store = w.store

theorem asked_of_unforced (h : Unforced force) : engine.asked request force w
    = { w with engines := (engine.respond request w.engines).2, calls := w.calls ++ [⟨engine.name, request⟩] } := by
  unfold asked
  rw [show force.filter (· != "") = none from h]

theorem asked_of_forced (h : ¬ Unforced force) : engine.asked request force w = w := by
  unfold asked
  split
  · rfl
  · rename_i unforced
    exact absurd unforced h

/-- Asking touches neither the store nor the metrics. -/
theorem asked_apart (engine : Engine σ) (request : EngineRequest) (force : Option String) (w : World σ) :
    (engine.asked request force w).store = w.store ∧ (engine.asked request force w).metrics = w.metrics := by
  unfold asked
  split
  · exact ⟨rfl, rfl⟩
  · exact ⟨rfl, rfl⟩

/-- The boundary holds, but for words that are oversized. -/
theorem contained_unless_oversized (engine : Engine σ) (request : EngineRequest) {code : String} (named : code ≠ "")
    (force : Option String) (w : World σ) :
    ∃ r w', (engine.execute request code force).outcome w = (r, w') ∧ Contained engine request code force w r w' := by
  obtain ⟨store, metrics⟩ := asked_apart engine request force w
  have settled : Settled engine request code force w.engines _ := settled_iff.mpr rfl
  refine ⟨_, _, outcome_execute engine request code force w, ?_⟩
  generalize settle code (engine.verdict request force w.engines) = r at settled
  refine ⟨?returns, ?escapes, ?result, ?failure, ?unasked, ?asked, ?counted, ?uncounted, store⟩
  case returns =>
    constructor
    · rintro ⟨outcome, rfl⟩ failure error fails oversized
      cases settled.unique (.escape fails oversized)
    · intro fits
      cases settled with
      | result gives => exact succeeds_ok _
      | failure fails _ => exact succeeds_ok _
      | escape fails oversized => exact absurd oversized (fits _ _ fails)
  case escapes =>
    rintro fault rfl
    cases settled with
    | escape fails oversized => exact ⟨_, rfl⟩
  case result =>
    intro found
    constructor
    · rintro rfl
      cases settled with
      | result gives => exact gives
    · exact fun gives => settled.unique (.result gives)
  case failure =>
    rintro code' shown rfl
    cases settled with
    | failure fails fits => exact ⟨rfl, EngineFailure.worded_ne_empty named _, _, fails, rfl⟩
  case unasked =>
    intro forced
    show (engine.asked request force w).calls = _ ∧ (engine.asked request force w).engines = _
    rw [asked_of_forced forced]
    exact ⟨rfl, rfl⟩
  case asked =>
    intro unforced
    show (engine.asked request force w).calls = _ ∧ (engine.asked request force w).engines = _
    rw [asked_of_unforced unforced]
    exact ⟨rfl, rfl⟩
  case counted =>
    intro label
    rw [← metrics]
    exact Tally.count_bump _ engine.name label
  case uncounted =>
    rw [← metrics]
    rfl

/-- An engine that always fails in the same way. -/
def failing (failure : EngineFailure) : Engine Unit := ⟨"v2", fun _ s => (.error failure, s)⟩

def emptyRequest : EngineRequest := ⟨.arr [], .obj [], .arr [], .str "2026-03-01T12:00:00Z", .default, none⟩

def idle : World Unit := ⟨.inMemory [], .zero, [], ()⟩

theorem contained_of_refused_connection :
    let refused : EngineFailure := ⟨"ConnectError", "connection refused", none⟩
    Shadow.errorCode ≠ "" ∧ ∃ w', ((failing refused).execute emptyRequest Shadow.errorCode none).outcome idle
      = (.ok (.err Shadow.errorCode refused), w') ∧ w'.calls = [⟨"v2", emptyRequest⟩] ∧ w'.metrics.latencies.count "v2" = 1 := by
  intro refused
  have named : Shadow.errorCode ≠ "" := by decide
  obtain ⟨r, w', ran, contained⟩ := contained_unless_oversized (failing refused) emptyRequest named none idle
  have fits : ∀ error, ¬ LogText.Oversized refused.message error := fun _ oversized => absurd oversized.1 (by decide)
  have came := outcome_execute (failing refused) emptyRequest Shadow.errorCode none idle
  have failed : (failing refused).verdict emptyRequest none () = .error refused := rfl
  rw [failed, settle_of_fitting fits, ran] at came
  obtain ⟨rfl, -⟩ := Prod.mk.inj came
  exact ⟨named, w', ran, (contained.asked rfl).1, contained.counted "v2"⟩

/-- Five thousand opening brackets as the words of a failure get through the boundary. -/
theorem escapes_of_brackets :
    let crash : EngineFailure := ⟨"RuntimeError", String.ofList (List.replicate 5000 '['), none⟩
    Shadow.errorCode ≠ "" ∧ (((failing crash).execute emptyRequest Shadow.errorCode none).outcome idle).1
      = .error (.document (.tooDeep (some .list))) := by
  intro crash
  have oversized : LogText.Oversized crash.message (.tooDeep (some .list)) :=
    LogText.oversized_replicate (by decide)
  refine ⟨by decide, ?_⟩
  rw [outcome_execute]
  exact settle_of_oversized oversized

end Engine

end CanaryGate
