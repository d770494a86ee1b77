import CanaryGate.Numeric.Figure

/-!
# The sample window

A window of run samples, reduced to counts and rates of four signals, and the reason for a rollback
that they give. The signals are looked at in a fixed order, and the first rate above its limit names
the reason.
-/

namespace CanaryGate

/-- What can be wrong with a sampled run, in the order of precedence. -/
inductive Signal where
  | error
  | timeout
  | limited
  | negativeDelta
  deriving DecidableEq, Repr

namespace Signal

/-- All signals in the order of precedence. -/
def all : List Signal := [error, timeout, limited, negativeDelta]

def name : Signal → String
  | error => "error"
  | timeout => "timeout"
  | limited => "limited"
  | negativeDelta => "negative_delta"

def reasonCode : Signal → String
  | error => "v2_canary_error_rate_exceeded"
  | timeout => "v2_canary_timeout_rate_exceeded"
  | limited => "v2_canary_limited_rate_exceeded"
  | negativeDelta => "v2_canary_negative_delta_rate_exceeded"

end Signal

structure SampleFlags where
  error : Bool
  timeout : Bool
  limited : Bool
  nonNegativeDelta : Bool
  deriving DecidableEq, Repr

namespace SampleFlags

/-- The flags found in a value by name; a missing flag is down. -/
def ofJson (value : Json) : SampleFlags :=
  ⟨(value.fieldD "error").truthy, (value.fieldD "timeout").truthy, (value.fieldD "limited").truthy,
    (value.fieldD "non_negative_delta").truthy⟩

def shows (flags : SampleFlags) : Signal → Bool
  | .error => flags.error
  | .timeout => flags.timeout
  | .limited => flags.limited
  | .negativeDelta => !flags.nonNegativeDelta

end SampleFlags

/-- The limits a window is held to. -/
structure Thresholds where
  minSamples : Figure
  maxErrorRate : Figure
  maxTimeoutRate : Figure
  maxLimitedRate : Figure
  maxNegativeDeltaRate : Figure
  deriving DecidableEq, Repr

namespace Thresholds

/-- No signal is tolerated, and one sample is enough. -/
def strict : Thresholds :=
  let zero := Figure.real .zero
  ⟨.whole 1, zero, zero, zero, zero⟩

/-- The highest tolerated rate of a signal. -/
def limit (t : Thresholds) : Signal → Figure
  | .error => t.maxErrorRate
  | .timeout => t.maxTimeoutRate
  | .limited => t.maxLimitedRate
  | .negativeDelta => t.maxNegativeDeltaRate

end Thresholds

/-- A window reduced to its counts, with the reason for a rollback if there is one. -/
structure WindowSummary where
  samples : Nat
  errors : Nat
  timeouts : Nat
  limiteds : Nat
  negativeDeltas : Nat
  reason : Option Signal
  deriving DecidableEq, Repr

namespace WindowSummary

/-- The number of samples that showed a signal. -/
def count (s : WindowSummary) : Signal → Nat
  | .error => s.errors
  | .timeout => s.timeouts
  | .limited => s.limiteds
  | .negativeDelta => s.negativeDeltas

/-- The double nearest to a count over a number of samples; zero for an empty window. -/
def rateOf (count samples : Nat) : Binary64 :=
  if samples = 0 then .zero else Binary64.ofRatio false count samples

/-- A signal that all samples show has the rate one. -/
theorem rateOf_self {samples : Nat} (h : samples ≠ 0) : rateOf samples samples = Binary64.ofNat 1 := by
  rw [rateOf, if_neg h, Binary64.ofRatio_self false (Nat.pos_of_ne_zero h)]
  rfl

def rate (s : WindowSummary) (signal : Signal) : Binary64 := rateOf (s.count signal) s.samples

/-- The first signal whose rate is above its limit, provided there are samples enough. -/
def reasonFor (samples : Nat) (count : Signal → Nat) (t : Thresholds) : Option Signal :=
  if samples ≠ 0 ∧ t.minSamples.le (.whole samples) then
    Signal.all.find? fun signal => (t.limit signal).lt (.real (rateOf (count signal) samples))
  else none

/-- The first of some signals whose rate is above its limit; none if a limit that has to be looked at is no
number. -/
def firstAbove? (rate : Signal → Binary64) (limit : Signal → Option Figure) : List Signal → Option (Option Signal)
  | [] => some none
  | signal :: rest =>
    (limit signal).bind fun most => if most.lt (.real (rate signal)) then some (some signal) else firstAbove? rate limit rest

/-- The reason under limits of which some may be no numbers. -/
def reasonUnder? (samples : Nat) (count : Signal → Nat) (least : Option Figure) (limit : Signal → Option Figure) :
    Option (Option Signal) :=
  least.bind fun least =>
    if samples ≠ 0 ∧ least.le (.whole samples) then
      firstAbove? (fun signal => rateOf (count signal) samples) limit Signal.all
    else some none

/-- Where all limits are numbers the first signal above its limit is found. -/
theorem firstAbove?_some (rate : Signal → Binary64) (limit : Signal → Figure) (signals : List Signal) :
    firstAbove? rate (fun s => some (limit s)) signals = some (signals.find? fun s => (limit s).lt (.real (rate s))) := by
  induction signals with
  | nil => rfl
  | cons signal rest ih =>
    simp only [firstAbove?, Option.bind_some, List.find?_cons, ih]
    cases (limit signal).lt (.real (rate signal)) <;> rfl

/-- Where all limits are numbers they give the same reason. -/
theorem reasonUnder?_some (samples : Nat) (count : Signal → Nat) (t : Thresholds) :
    reasonUnder? samples count (some t.minSamples) (fun s => some (t.limit s)) = some (reasonFor samples count t) := by
  simp only [reasonUnder?, reasonFor, Option.bind_some, firstAbove?_some]
  split <;> rfl

def countIn (window : List SampleFlags) (signal : Signal) : Nat := window.countP (·.shows signal)

def ofWindow (window : List SampleFlags) (t : Thresholds) : WindowSummary where
  samples := window.length
  errors := countIn window .error
  timeouts := countIn window .timeout
  limiteds := countIn window .limited
  negativeDeltas := countIn window .negativeDelta
  reason := reasonFor window.length (countIn window) t

/-- The summary of a window under limits of which some may be no numbers. -/
def ofWindow? (window : List SampleFlags) (least : Option Figure) (limit : Signal → Option Figure) :
    Option WindowSummary :=
  (reasonUnder? window.length (countIn window) least limit).map fun reason => { ofWindow window .strict with reason }

def signalFields (s : WindowSummary) (signal : Signal) : Fields :=
  [(signal.name ++ "_count", .int (s.count signal)), (signal.name ++ "_rate", .float (s.rate signal))]

def reasonCode (s : WindowSummary) : Option String := s.reason.map Signal.reasonCode

def toFields (s : WindowSummary) : Fields :=
  ("samples_count", .int s.samples) :: (Signal.all.flatMap s.signalFields
    ++ [("reason_code", Json.optional .str s.reasonCode)])

end WindowSummary

end CanaryGate
