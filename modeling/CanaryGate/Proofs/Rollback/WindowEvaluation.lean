import CanaryGate.Rollback.Records

/-! # How a window is evaluated

The report of a window counts the samples that show each signal, and nothing of it depends on their order. The
reason is looked for among the rates as they are reported: it is the first signal above its limit, once the window
holds as many samples as a judgement takes. A least number that is not a number is never reached.
-/

namespace CanaryGate

namespace Figure

/-- A number that is not at most a whole number is above it, or it is no number. -/
theorem le_whole_eq_false_iff {a : Figure} {n : Int} : a.le (whole n) = false ↔ (whole n).lt a = true ∨ a = real .nan := by
  cases a with
  | whole m => simp [le, lt, fraction]
  | real x =>
      cases x with
      | nan => simp [le, fraction]
      | infinite negative => cases negative with
        | false => simp [le, lt, fraction]
        | true => simp [le, lt, fraction]
      | finite negative rank => simp [le, lt, fraction]

end Figure

/-- The sample shows the signal by its fields; a missing field counts as false. -/
def Signal.shownIn (sample : Json) : Signal → Bool
  | .error => (sample.fieldD "error").truthy
  | .timeout => (sample.fieldD "timeout").truthy
  | .limited => (sample.fieldD "limited").truthy
  | .negativeDelta => !(sample.fieldD "non_negative_delta").truthy

namespace WindowSummary

/-- What is reported of a window of samples under limits. -/
def report (window : List Json) (t : Thresholds) : Fields := (ofWindow (window.map SampleFlags.ofJson) t).toFields

/-- The number of samples that show a signal. -/
def shown (window : List Json) (signal : Signal) : Nat := window.countP fun sample => signal.shownIn sample

theorem countIn_ofJson (window : List Json) (signal : Signal) :
    countIn (window.map SampleFlags.ofJson) signal = shown window signal := by
  unfold countIn shown
  rw [List.countP_map]
  cases signal with
  | error | timeout | limited | negativeDelta => rfl

theorem count_ofWindow (flags : List SampleFlags) (t : Thresholds) (signal : Signal) :
    (ofWindow flags t).count signal = countIn flags signal := by
  cases signal with
  | error | timeout | limited | negativeDelta => rfl

/-- Samples in another order have the same summary. -/
theorem ofWindow_perm {flags shuffled : List SampleFlags} (h : flags.Perm shuffled) (t : Thresholds) :
    ofWindow shuffled t = ofWindow flags t := by
  have counts : countIn shuffled = countIn flags := funext fun signal => (h.countP_eq _).symm
  unfold ofWindow
  rw [counts, h.length_eq]

/-- Limits that are all numbers always give a summary. -/
theorem ofWindow?_some (flags : List SampleFlags) (t : Thresholds) :
    ofWindow? flags (some t.minSamples) (fun signal => some (t.limit signal)) = some (ofWindow flags t) := by
  unfold ofWindow?
  rw [reasonUnder?_some]
  rfl

variable {window : List Json} {t : Thresholds} {signal : Signal}

/-! What stands under each name of a report. -/

theorem names_report : Fields.names (report window t) = ["samples_count", "error_count", "error_rate", "timeout_count",
    "timeout_rate", "limited_count", "limited_rate", "negative_delta_count", "negative_delta_rate", "reason_code"] :=
  rfl

theorem get?_count : Fields.get? (report window t) (signal.name ++ "_count") = some (.int (shown window signal)) := by
  rw [← countIn_ofJson]
  cases signal with
  | error | timeout | limited | negativeDelta => rfl

theorem get?_rate : Fields.get? (report window t) (signal.name ++ "_rate")
    = some (.float (rateOf (shown window signal) window.length)) := by
  have reported : Fields.get? (report window t) (signal.name ++ "_rate")
      = some (.float ((ofWindow (window.map SampleFlags.ofJson) t).rate signal)) := by
    cases signal with
    | error | timeout | limited | negativeDelta => rfl
  rw [reported, rate, count_ofWindow, countIn_ofJson]
  simp [ofWindow]

theorem get?_reason : Fields.get? (report window t) "reason_code"
    = some (Json.optional .str ((reasonFor window.length (shown window) t).map Signal.reasonCode)) := by
  have counts : countIn (window.map SampleFlags.ofJson) = shown window := funext (countIn_ofJson window)
  have size : (window.map SampleFlags.ofJson).length = window.length := List.length_map _
  rw [← counts, ← size]
  rfl

/-- The rate that a report gives a signal is above the limit of the signal. -/
def Exceeds (report : Fields) (t : Thresholds) (signal : Signal) : Prop :=
  ∃ rate, Fields.get? report (signal.name ++ "_rate") = some (.float rate) ∧ (t.limit signal).lt (.real rate) = true

theorem exceeds_report_iff : Exceeds (report window t) t signal
    ↔ (t.limit signal).lt (.real (rateOf (shown window signal) window.length)) = true := by
  unfold Exceeds
  rw [get?_rate]
  constructor
  · rintro ⟨rate, reported, above⟩
    cases reported
    exact above
  · exact fun above => ⟨_, rfl, above⟩

/-- What a report says of a window of samples under limits. -/
structure Evaluates (window : List Json) (t : Thresholds) (report : Fields) : Prop where
  names : Fields.names report = ["samples_count", "error_count", "error_rate", "timeout_count", "timeout_rate",
    "limited_count", "limited_rate", "negative_delta_count", "negative_delta_rate", "reason_code"]
  samples : Fields.get? report "samples_count" = some (.int window.length)
  counts : ∀ signal : Signal, Fields.get? report (signal.name ++ "_count") = some (.int (shown window signal))
  /-- A rate is the double nearest to the count divided by the number of samples. -/
  rates : ∀ signal : Signal, Fields.get? report (signal.name ++ "_rate") = some (.float
    (if window = [] then .zero else Binary64.ofRatio false (shown window signal) window.length))
  unjudged : window = [] ∨ (Figure.whole window.length).lt t.minSamples = true ∨ t.minSamples = .real .nan →
    Fields.get? report "reason_code" = some .null
  /-- The first signal above its limit gives the reason. -/
  judged : window ≠ [] → (Figure.whole window.length).lt t.minSamples = false → t.minSamples ≠ .real .nan →
    (∃ before signal after, Signal.all = before ++ signal :: after ∧ (∀ earlier ∈ before, ¬ Exceeds report t earlier)
        ∧ Exceeds report t signal ∧ Fields.get? report "reason_code" = some (.str signal.reasonCode))
      ∨ (∀ signal, ¬ Exceeds report t signal) ∧ Fields.get? report "reason_code" = some .null

theorem unjudged_report (few : window = [] ∨ (Figure.whole window.length).lt t.minSamples = true ∨ t.minSamples = .real .nan) :
    Fields.get? (report window t) "reason_code" = some .null := by
  have ungiven : ¬ (window.length ≠ 0 ∧ t.minSamples.le (.whole window.length) = true) := by
    rintro ⟨present, enough⟩
    rcases few with rfl | short
    · exact present rfl
    · rw [Figure.le_whole_eq_false_iff.mpr short] at enough
      contradiction
  rw [get?_reason, reasonFor, if_neg ungiven]
  rfl

theorem judged_report (present : window ≠ []) (long : (Figure.whole window.length).lt t.minSamples = false)
    (numeric : t.minSamples ≠ .real .nan) :
    (∃ before signal after, Signal.all = before ++ signal :: after
        ∧ (∀ earlier ∈ before, ¬ Exceeds (report window t) t earlier) ∧ Exceeds (report window t) t signal
        ∧ Fields.get? (report window t) "reason_code" = some (.str signal.reasonCode))
      ∨ (∀ signal, ¬ Exceeds (report window t) t signal)
        ∧ Fields.get? (report window t) "reason_code" = some .null := by
  have given : window.length ≠ 0 ∧ t.minSamples.le (.whole window.length) = true := by
    refine ⟨fun none => present (List.length_eq_zero_iff.mp none), ?_⟩
    cases enough : t.minSamples.le (.whole window.length) with
    | true => rfl
    | false =>
        rcases Figure.le_whole_eq_false_iff.mp enough with short | nan
        · rw [long] at short
          contradiction
        · exact absurd nan numeric
  simp only [get?_reason, reasonFor, if_pos given, exceeds_report_iff]
  cases found : Signal.all.find? fun signal => (t.limit signal).lt (.real (rateOf (shown window signal) window.length)) with
  | none =>
      refine .inr ⟨fun signal => List.find?_eq_none.mp found signal ?_, rfl⟩
      cases signal with
      | error | timeout | limited | negativeDelta => decide
  | some signal =>
      obtain ⟨above, before, after, split, below⟩ := List.find?_eq_some_iff_append.mp found
      exact .inl ⟨before, signal, after, split, fun earlier member => by simpa using below earlier member, above, rfl⟩

theorem evaluates_report (window : List Json) (t : Thresholds) : Evaluates window t (report window t) where
  names := names_report
  samples := by
    show some (Json.int (window.map SampleFlags.ofJson).length) = _
    rw [List.length_map]
  counts signal := get?_count
  rates signal := by
    rw [get?_rate, rateOf]
    simp only [List.length_eq_zero_iff]
  unjudged := unjudged_report
  judged := judged_report

/-- A window is evaluated by the signals that its samples show, in whatever order they stand, and limits that are
numbers always give a report. What is recorded of runs is evaluated as it is written. -/
theorem window_evaluated (window : List Json) (t : Thresholds) :
    Evaluates window t (report window t)
    ∧ (∀ shuffled, window.Perm shuffled → report shuffled t = report window t)
    ∧ (ofWindow? (window.map SampleFlags.ofJson) (some t.minSamples) fun signal => some (t.limit signal)).map toFields
      = some (report window t)
    ∧ ∀ recorded : List RunSample,
      (ofWindow (recorded.map RunSample.flags) t).toFields = report (recorded.map fun sample => .obj sample.toFields) t := by
  refine ⟨evaluates_report window t, fun shuffled h => ?_, ?_, fun recorded => ?_⟩
  · exact congrArg toFields (ofWindow_perm (h.map SampleFlags.ofJson) t)
  · rw [ofWindow?_some]
    rfl
  · -- the flags of a recorded sample are those of the fields that it is written to
    unfold report
    rw [List.map_map]
    rfl

/-- Of three samples one ran into the limit of time, which is tolerated, and two were limited, which is not. Neither
the order of the samples nor that a worse delta is not tolerated either changes the reason. -/
theorem window_evaluated_of_limited :
    let sample : List (String × Bool) → Json := fun flags => .obj (flags.map fun flag => (flag.1, .bool flag.2))
    let window := [sample [("limited", true)], sample [("timeout", true), ("non_negative_delta", true)],
      sample [("limited", true), ("non_negative_delta", true)]]
    let third : Figure := .real (Binary64.ofRatio false 1 3)
    let t : Thresholds := ⟨.real (Binary64.ofNat 3), .real .nan, third, third, .real .zero⟩
    window.Perm window.reverse ∧ report window.reverse t = report window t
      ∧ Fields.get? (report window t) "negative_delta_count" = some (.int 1)
      ∧ Exceeds (report window t) t .limited ∧ Exceeds (report window t) t .negativeDelta
      ∧ Fields.get? (report window.reverse t) "reason_code" = some (.str "v2_canary_limited_rate_exceeded") := by
  intro sample window third t
  obtain ⟨evaluates, unordered, -, -⟩ := window_evaluated window t
  have turned : window.Perm window.reverse := (List.reverse_perm window).symm
  have limited : Exceeds (report window t) t .limited := exceeds_report_iff.mpr (by decide +kernel)
  have worse : Exceeds (report window t) t .negativeDelta := exceeds_report_iff.mpr (by decide +kernel)
  have reason : Fields.get? (report window t) "reason_code" = some (.str "v2_canary_limited_rate_exceeded") := by
    rw [get?_reason]
    have found : reasonFor window.length (shown window) t = some .limited := by decide +kernel
    rw [found]
    rfl
  refine ⟨turned, unordered _ turned, evaluates.counts .negativeDelta, limited, worse, ?_⟩
  rw [unordered _ turned]
  exact reason

/-- A sample that failed is above a limit of zero, and one sample is not fewer than a least number that is not a
number; still no reason is given. -/
theorem no_reason_of_nan :
    let window := [Json.obj [("error", .bool true)]]
    let t := { Thresholds.strict with minSamples := .real .nan }
    window ≠ [] ∧ (Figure.whole window.length).lt t.minSamples = false ∧ Exceeds (report window t) t .error
      ∧ Fields.get? (report window t) "reason_code" = some .null := by
  intro window t
  exact ⟨List.cons_ne_nil _ _, by decide, exceeds_report_iff.mpr (by decide +kernel), unjudged_report (.inr (.inr rfl))⟩

end WindowSummary

end CanaryGate
