import CanaryGate.Comparison
import CanaryGate.Decision.Records

/-!
# Metrics

Counters of what the gateway did, and the gauge of the rollback latch. Latencies are counted, not
measured.
-/

namespace CanaryGate

/-- How often each label was counted. -/
abbrev Tally (κ : Type) := List (κ × Nat)

namespace Tally

def count [BEq κ] (t : Tally κ) (label : κ) : Nat := (List.lookup label t).getD 0

/-- Counts a label once more. -/
def bump [BEq κ] : Tally κ → κ → Tally κ
  | [], label => [(label, 1)]
  | (l, n) :: rest, label => if l == label then (l, n + 1) :: rest else (l, n) :: bump rest label

end Tally

/-- What became of a selected run. -/
inductive AttemptOutcome where
  | served
  | fallback
  | error
  deriving DecidableEq, Repr

namespace AttemptOutcome

def text : AttemptOutcome → String
  | served => "served"
  | fallback => "fallback"
  | error => "error"

end AttemptOutcome

/-- Which shadow a record belongs to. -/
inductive ShadowKind where
  | candidate
  | alternate
  deriving DecidableEq, Repr

namespace ShadowKind

def text : ShadowKind → String
  | candidate => "v2"
  | alternate => "alt"

end ShadowKind

/-- Whether a shadow record holds a comparison or an error. -/
inductive RecordKind where
  | diff
  | error
  deriving DecidableEq, Repr

namespace RecordKind

def text : RecordKind → String
  | diff => "diff"
  | error => "error"

end RecordKind

/-- All counters and the gauge. -/
structure Metrics where
  /-- Finished runs. -/
  runs : Tally (RolloutMode × EngineName)
  /-- Selected runs by what became of them. -/
  attempts : Tally (RolloutMode × AttemptOutcome)
  /-- Fallbacks by reason code. -/
  fallbacks : Tally String
  /-- Shadow records made. -/
  shadowRecords : Tally (ShadowKind × RecordKind)
  /-- Trips of the latch by reason code. -/
  trips : Tally String
  /-- The gauge of the latch. -/
  rollbackActive : Bool
  /-- Engine executions by engine. -/
  latencies : Tally String
  deriving DecidableEq, Repr

namespace Metrics

/-- Nothing counted yet. -/
def zero : Metrics := ⟨[], [], [], [], [], false, []⟩

/-- A named count with its labels, the labels in the order of their names. -/
structure Sample where
  name : String
  labels : List (String × String)
  value : Nat
  deriving DecidableEq, Repr

def samplesOf (name : String) (labels : κ → List (String × String)) (t : Tally κ) : List Sample :=
  t.map fun e => ⟨name, labels e.1, e.2⟩

/-- Order by texts, the first difference deciding; a start of a list comes before the list. -/
def textsBefore : List String → List String → Bool
  | [], _ => true
  | _ :: _, [] => false
  | a :: as, b :: bs => if a < b then true else if b < a then false else textsBefore as bs

def Sample.key (s : Sample) : List String := s.name :: s.labels.flatMap fun l => [l.1, l.2]

def samples (m : Metrics) : List Sample :=
  let all :=
    samplesOf "matching_runs_total" (fun l => [("mode", l.1.text), ("primary_engine", l.2.text)]) m.runs
    ++ samplesOf "matching_v2_candidate_outcomes_total" (fun l => [("mode", l.1.text), ("outcome", l.2.text)]) m.attempts
    ++ samplesOf "matching_v2_fallbacks_total" (fun l => [("reason_code", l)]) m.fallbacks
    ++ samplesOf "matching_shadow_records_total" (fun l => [("outcome", l.2.text), ("shadow", l.1.text)]) m.shadowRecords
    ++ samplesOf "matching_v2_rollback_trips_total" (fun l => [("reason_code", l)]) m.trips
    ++ samplesOf "matching_engine_latency_seconds_count" (fun l => [("engine", l)]) m.latencies
    ++ [⟨"matching_v2_rollback_active", [], if m.rollbackActive then 1 else 0⟩]
  all.mergeSort fun a b => textsBefore a.key b.key

/-- The families by name, with their help and their type. -/
def families : List (String × String × String) := [
  ("matching_runs_total", "Total number of matching runs", "counter"),
  ("matching_v2_candidate_outcomes_total", "Candidate engine attempts by outcome", "counter"),
  ("matching_v2_fallbacks_total", "Runs that fell back to v1 after the candidate was attempted", "counter"),
  ("matching_shadow_records_total", "Shadow comparison records stored", "counter"),
  ("matching_v2_rollback_trips_total", "Times the canary rollback latch tripped", "counter"),
  ("matching_v2_rollback_active", "1 while the canary rollback latch is active", "gauge"),
  ("matching_engine_latency_seconds", "Matching engine execution latency in seconds", "histogram")]

/-- How a character of a label value is escaped. -/
def escapeLabel (c : Char) : List Char :=
  if c = Char.ofNat 92 then [c, c]
  else if c = '\n' then [Char.ofNat 92, 'n']
  else if c = Char.ofNat 34 then [Char.ofNat 92, c]
  else [c]

def Sample.line (s : Sample) : String :=
  let label (l : String × String) : String :=
    l.1 ++ "=\"" ++ String.ofList (l.2.toList.flatMap escapeLabel) ++ "\""
  let labels := if s.labels.isEmpty then "" else "\x7b" ++ ",".intercalate (s.labels.map label) ++ "\x7d"
  s.name ++ labels ++ " " ++ toString s.value ++ ".0"

/-- The lines of the exposition, in the order of their texts. -/
def lines (m : Metrics) : List String :=
  sortTexts (families.flatMap (fun f => ["# HELP " ++ f.1 ++ " " ++ f.2.1, "# TYPE " ++ f.1 ++ " " ++ f.2.2])
    ++ m.samples.map Sample.line)

end Metrics

end CanaryGate
