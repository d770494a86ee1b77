import CanaryGate.Gateway.Service
import CanaryGate.Proofs.Config.Limits
import CanaryGate.Proofs.Numeric.Blank
import CanaryGate.Proofs.Numeric.Range
import CanaryGate.Proofs.Rollback.Persistence

/-! # Settings as the environment gives them

The configurations of a run are loaded setting by setting, each from a variable of its own. The tables of switches,
quantities and rate limits say which variable that is, and the `value_runConfigs` lemmas how it is read; what holds
of one setting then holds of all of its kind. A variable that holds no integer from the setting's least one on, or
no finite number, counts as unset, and what is loaded keeps to the limits that the records are checked for.
-/

namespace CanaryGate

variable {given : Option String} {x : Binary64}

/-! How a setting is read. -/

theorem Binary64.isNan_ofRatio (negative : Bool) (num den : Nat) : (ofRatio negative num den).isNan = false := by
  have ranked : ∀ rank, (ofRank negative rank).isNan = false := by
    intro rank
    unfold ofRank
    split <;> rfl
  unfold ofRatio
  split <;> exact ranked _

namespace Setting

open Binary64

/-- What is put between two bounds lies between them. -/
theorem within_clamp {low high : Binary64} (ordered : low.le high = true) (number : x.isNan = false) :
    low.le (clamp low high x) = true ∧ (clamp low high x).le high = true := by
  obtain ⟨lowNumber, highNumber⟩ := isNan_of_le ordered
  unfold clamp
  cases below : x.lt low with
  | true => simp [lt_of_le ordered, le_rfl lowNumber, ordered]
  | false =>
    have above := le_of_lt_eq_false number lowNumber below
    cases beyond : high.lt x with
    | true => simp [beyond, ordered, le_rfl highNumber]
    | false => simp [beyond, above, le_of_lt_eq_false highNumber number beyond]

/-- What lies between the bounds already stays. -/
theorem clamp_of_within {low high : Binary64} (above : low.le x = true) (below : x.le high = true) :
    clamp low high x = x := by
  simp [clamp, lt_of_le above, lt_of_le below]

/-- A parser that refuses blank texts need not be told that they count as absent. -/
theorem present_bind {α : Type} {parse : String → Option α} (refuses : ∀ text, blank text = true → parse text = none)
    (given : Option String) : (present given).bind parse = given.bind parse := by
  cases given with
  | none => rfl
  | some text =>
    cases skipped : blank text with
    | true => simp [present, Option.filter, skipped, refuses text skipped]
    | false => simp [present, Option.filter, skipped]

theorem integer_eq_some_iff {least n : Int} :
    integer (some least) given = some n
      ↔ ∃ text, given = some text ∧ Numeral.integer text = .ok n ∧ least ≤ n := by
  have whole : integer (some least) given = given.bind fun text => (Numeral.integer text).toOption.bind fun m =>
      if m < least then none else some m := by
    refine (present_bind ?_ given).trans (by simp)
    intro text skipped
    rw [Numeral.integer_of_blank skipped]
    rfl
  rw [whole, Option.bind_eq_some_iff]
  refine exists_congr fun text => and_congr_right fun _ => ?_
  cases read : Numeral.integer text with
  | error e => simp [Except.toOption]
  | ok m =>
    simp only [Except.toOption, Option.bind_some, Except.ok.injEq]
    split
    · refine iff_of_false (by simp) ?_
      omega
    · simp only [Option.some.injEq]
      omega

theorem finiteNumber_eq_some_iff :
    finiteNumber given = some x ↔ ∃ text, given = some text ∧ Numeral.number text = .ok x ∧ x.isFinite = true := by
  have whole : finiteNumber given = given.bind fun text => (Numeral.number text).toOption.bind fun y =>
      if y.isFinite then some y else none := by
    refine (present_bind ?_ given).trans rfl
    intro text skipped
    rw [Numeral.number_of_blank skipped]
    rfl
  rw [whole, Option.bind_eq_some_iff]
  refine exists_congr fun text => and_congr_right fun _ => ?_
  cases read : Numeral.number text with
  | error e => simp [Except.toOption]
  | ok y =>
    simp only [Except.toOption, Option.bind_some, Except.ok.injEq]
    split
    · rename_i inside
      simp only [Option.some.injEq]
      exact ⟨fun same => ⟨same, same ▸ inside⟩, And.left⟩
    · rename_i outside
      refine iff_of_false (by simp) ?_
      rintro ⟨rfl, inside⟩
      exact outside inside

/-- A rate lies between zero and one. -/
theorem within_of_rate (h : rate given = some x) : zero.le x = true ∧ x.le (ofNat 1) = true := by
  obtain ⟨y, found, rfl⟩ := Option.map_eq_some_iff.mp h
  obtain ⟨text, -, -, inside⟩ := finiteNumber_eq_some_iff.mp found
  refine within_clamp (by decide +kernel) ?_
  split
  · cases y <;> simp_all [isFinite, isNan]
  · cases y with
    | nan | infinite negative => cases inside
    | finite negative rank =>
      obtain ⟨hundred, divisor, hs⟩ : ∃ s, ofNat 100 = finite false s ∧ 0 < s.val :=
        ⟨⟨4636737291354636288, by decide⟩, by decide +kernel, by decide⟩
      obtain ⟨num, den, -, -, quotient⟩ := div_finite negative false rank hundred hs
      rw [divisor, quotient]
      exact isNan_ofRatio _ num den

/-- A number between zero and one is taken as it is. -/
theorem rate_of_within (found : finiteNumber given = some x) (above : zero.le x = true)
    (below : x.le (ofNat 1) = true) :
    rate given = some x := by
  have kept : clamp .zero (ofNat 1) x = x := clamp_of_within above below
  simp [rate, found, below, kept]

theorem rate_eq_none_iff : rate given = none ↔ finiteNumber given = none := Option.map_eq_none_iff

theorem within_of_basisPoints {n : Int} (h : basisPoints given = some n) : 0 ≤ n ∧ n ≤ 10000 := by
  unfold basisPoints at h
  split at h
  · cases h
    omega
  · cases h

theorem basisPoints_eq_none_iff : basisPoints given = none ↔ finiteNumber given = none := by
  unfold basisPoints
  constructor
  · intro h
    split at h
    · cases h
    · rename_i other
      cases found : finiteNumber given with
      | none => rfl
      | some x =>
        obtain ⟨text, -, -, inside⟩ := finiteNumber_eq_some_iff.mp found
        cases x with
        | nan | infinite negative => cases inside
        | finite negative rank => exact (other _ _ found).elim
  · intro h
    rw [h]

end Setting

/-- What an empty environment stands for. -/
def RunConfigs.default : RunConfigs :=
  ⟨.default, .default, .default, .default, .default⟩

/-! The settings. -/

/-- The switches of a run. -/
inductive Switch where
  | canary
  | canaryError
  | shadowError
  | shadow
  | forceBucket
  | forceSkip
  | primary
  | fallbackOnTimeout
  | fallbackOnLimited
  | primaryError
  | rollbackReset
  | forceTimeout
  | forceLimited
  | altShadow
  | altShadowError
  deriving DecidableEq

namespace Switch

def name : Switch → String
  | canary => "MATCHING_V2_CANARY_ENABLED"
  | canaryError => "MATCHING_V2_CANARY_FORCE_ERROR"
  | shadowError => "MATCHING_V2_SHADOW_FORCE_ERROR"
  | shadow => "MATCHING_V2_SHADOW_ENABLED"
  | forceBucket => "MATCHING_V2_CANARY_FORCE_BUCKET_V2"
  | forceSkip => "MATCHING_V2_CANARY_FORCE_SKIP"
  | primary => "MATCHING_V2_PRIMARY_ENABLED"
  | fallbackOnTimeout => "MATCHING_V2_PRIMARY_FALLBACK_ON_TIMEOUT"
  | fallbackOnLimited => "MATCHING_V2_PRIMARY_FALLBACK_ON_LIMITED"
  | primaryError => "MATCHING_V2_PRIMARY_FORCE_ERROR"
  | rollbackReset => "MATCHING_V2_PRIMARY_ROLLBACK_RESET"
  | forceTimeout => "MATCHING_V2_PRIMARY_FORCE_TIMEOUT"
  | forceLimited => "MATCHING_V2_PRIMARY_FORCE_LIMITED"
  | altShadow => "MATCHING_ALT_SHADOW_ENABLED"
  | altShadowError => "MATCHING_ALT_SHADOW_FORCE_ERROR"

def value (c : RunConfigs) : Switch → Bool
  | canary => c.canary.enabled
  | canaryError => c.canary.forceCanaryError
  | shadowError => c.canary.forceShadowError
  | shadow => c.canary.shadowEnabled
  | forceBucket => c.canary.forceBucket
  | forceSkip => c.canary.forceSkip
  | primary => c.primary.enabled
  | fallbackOnTimeout => c.primary.fallbackOnTimeout
  | fallbackOnLimited => c.primary.fallbackOnLimited
  | primaryError => c.primary.forcePrimaryError
  | rollbackReset => c.primary.rollbackReset
  | forceTimeout => c.primary.forceTimeout
  | forceLimited => c.primary.forceLimited
  | altShadow => c.altShadow.enabled
  | altShadowError => c.altShadow.forceShadowError

theorem value_runConfigs (env : Environment) (s : Switch) :
    value env.runConfigs s = env.switch s.name (value .default s) := by
  cases s <;> rfl

end Switch

/-- The settings of a run that are integers. -/
inductive Quantity where
  | windowRuns
  | shadowDiffs
  | decisions
  | samples
  | altShadowDiffs
  | minCycleLength
  | maxCycleLength
  | cyclesExplored
  | timeoutMs
  deriving DecidableEq

namespace Quantity

def name : Quantity → String
  | windowRuns => "MATCHING_V2_CANARY_ROLLBACK_WINDOW_RUNS"
  | shadowDiffs => "MATCHING_V2_SHADOW_MAX_DIFFS"
  | decisions => "MATCHING_V2_CANARY_MAX_DECISIONS"
  | samples => "MATCHING_V2_CANARY_ROLLBACK_MIN_SAMPLES"
  | altShadowDiffs => "MATCHING_ALT_SHADOW_MAX_DIFFS"
  | minCycleLength => "MATCHING_V2_MIN_CYCLE_LENGTH"
  | maxCycleLength => "MATCHING_V2_MAX_CYCLE_LENGTH"
  | cyclesExplored => "MATCHING_V2_MAX_CYCLES_EXPLORED"
  | timeoutMs => "MATCHING_V2_TIMEOUT_MS"

/-- The least integer a setting may have. -/
def least : Quantity → Int
  | windowRuns => 1
  | shadowDiffs => 0
  | decisions => 0
  | samples => 1
  | altShadowDiffs => 0
  | minCycleLength => 2
  | maxCycleLength => 2
  | cyclesExplored => 1
  | timeoutMs => 1

/-- What a configuration has; two of the settings may be left open. -/
def value (c : RunConfigs) : Quantity → Option Int
  | windowRuns => c.canary.windowRuns
  | shadowDiffs => c.canary.maxShadowDiffs
  | decisions => c.canary.maxDecisions
  | samples => c.canary.minSamples
  | altShadowDiffs => c.altShadow.maxShadowDiffs
  | minCycleLength => c.candidateMatcher.minCycleLength
  | maxCycleLength => c.candidateMatcher.maxCycleLength
  | cyclesExplored => c.candidateMatcher.maxCyclesExplored
  | timeoutMs => c.candidateMatcher.timeoutMs

theorem value_runConfigs (env : Environment) (q : Quantity) :
    value env.runConfigs q = (Setting.integer (some q.least) (env.get? q.name)).or (value .default q) := by
  cases q with
  | cyclesExplored | timeoutMs => exact (Option.or_none).symm
  | _ => exact (Option.or_some).symm

/-- Every default is one that the setting may have. -/
theorem least_le_default (q : Quantity) : ∀ n ∈ value .default q, q.least ≤ n := by
  cases q <;> decide

end Quantity

/-- The rates above which the latch closes. -/
inductive RateLimit where
  | error
  | timeout
  | limited
  | negativeDelta
  deriving DecidableEq

namespace RateLimit

def name : RateLimit → String
  | error => "MATCHING_V2_CANARY_ROLLBACK_MAX_ERROR_RATE"
  | timeout => "MATCHING_V2_CANARY_ROLLBACK_MAX_TIMEOUT_RATE"
  | limited => "MATCHING_V2_CANARY_ROLLBACK_MAX_LIMITED_RATE"
  | negativeDelta => "MATCHING_V2_CANARY_ROLLBACK_MAX_NEGATIVE_DELTA_RATE"

def value (c : RunConfigs) : RateLimit → Binary64
  | error => c.canary.maxErrorRate
  | timeout => c.canary.maxTimeoutRate
  | limited => c.canary.maxLimitedRate
  | negativeDelta => c.canary.maxNegativeDeltaRate

theorem value_runConfigs (env : Environment) (r : RateLimit) :
    value env.runConfigs r = (Setting.rate (env.get? r.name)).getD (value .default r) := by
  cases r <;> rfl

end RateLimit

/-- The variable of the share of actors that are rolled out to. -/
def rolloutName : String := "MATCHING_V2_CANARY_ROLLOUT_BPS"

namespace Environment

/-- A variable is set to an integer. -/
def HoldsInteger (env : Environment) (name : String) (n : Int) : Prop :=
  ∃ text, env.get? name = some text ∧ Numeral.integer text = .ok n

/-- A variable is set to a number. -/
def HoldsNumber (env : Environment) (name : String) (x : Binary64) : Prop :=
  ∃ text, env.get? name = some text ∧ Numeral.number text = .ok x

variable {env : Environment} {name : String}

theorem integer_of_holds {least n : Int} (held : env.HoldsInteger name n) (enough : least ≤ n) :
    Setting.integer (some least) (env.get? name) = some n := by
  obtain ⟨text, set, read⟩ := held
  exact Setting.integer_eq_some_iff.mpr ⟨text, set, read, enough⟩

theorem integer_eq_none {least : Int} (unfit : ∀ n, env.HoldsInteger name n → n < least) :
    Setting.integer (some least) (env.get? name) = none := by
  refine Option.eq_none_iff_forall_ne_some.mpr fun n found => ?_
  obtain ⟨text, set, read, enough⟩ := Setting.integer_eq_some_iff.mp found
  have := unfit n ⟨text, set, read⟩
  omega

theorem finiteNumber_of_holds {x : Binary64} (held : env.HoldsNumber name x) (inside : x.isFinite = true) :
    Setting.finiteNumber (env.get? name) = some x := by
  obtain ⟨text, set, read⟩ := held
  exact Setting.finiteNumber_eq_some_iff.mpr ⟨text, set, read, inside⟩

theorem finiteNumber_eq_none (unfit : ∀ x, env.HoldsNumber name x → x.isFinite = false) :
    Setting.finiteNumber (env.get? name) = none := by
  refine Option.eq_none_iff_forall_ne_some.mpr fun x found => ?_
  obtain ⟨text, set, read, inside⟩ := Setting.finiteNumber_eq_some_iff.mp found
  have := unfit x ⟨text, set, read⟩
  simp [this] at inside

theorem le_integer {least default : Int} (h : least ≤ default) : least ≤ env.integer name least default := by
  unfold integer
  cases found : Setting.integer (some least) (env.get? name) with
  | none => exact h
  | some n =>
    obtain ⟨text, -, -, enough⟩ := Setting.integer_eq_some_iff.mp found
    exact enough

theorem within_rate : Binary64.zero.le (env.rate name .zero) = true
    ∧ (env.rate name .zero).le (Binary64.ofNat 1) = true := by
  unfold rate
  cases found : Setting.rate (env.get? name) with
  | none => decide +kernel
  | some x => exact Setting.within_of_rate found

end Environment

/-! What the records accept. -/

namespace Reader

theorem integerFrom_int {least n : Int} (h : least ≤ n) : integerFrom least (.int n) = .accepted n := by
  simp [integerFrom, integer, Checked.thenRead, h]

theorem integerWithin_int {least most n : Int} (low : least ≤ n) (high : n ≤ most) :
    integerWithin least most (.int n) = .accepted n := by
  simp [integerWithin, integer, Checked.thenRead, Int.not_lt.mpr low, Int.not_lt.mpr high]

theorem rate_float {x : Binary64} (h : Binary64.zero.le x = true ∧ x.le (Binary64.ofNat 1) = true) :
    rate (.float x) = .accepted x := by
  simp [rate, number, Checked.thenRead, h]

theorem optional_integerFrom {least : Int} {n : Option Int} (h : ∀ m ∈ n, least ≤ m) :
    optional (integerFrom least) (Json.optional .int n) = .accepted n := by
  cases n with
  | none => rfl
  | some m =>
    have accepted := integerFrom_int (h m rfl)
    simp [Json.optional, optional, accepted, Checked.map]

end Reader

theorem CanaryConfig.read_toFields {c : CanaryConfig} (valid : c.Valid) (whole : Point.whole c.salt = true) :
    read (.obj c.toFields) = .accepted c := by
  have salt : Reader.points (.str (Point.toText c.salt)) = .accepted c.salt :=
    congrArg Checked.accepted (Point.ofString_toText whole)
  have window := Reader.integerFrom_int valid.window_pos
  have shadowDiffs := Reader.integerFrom_int valid.shadowDiffs_nonneg
  have decisions := Reader.integerFrom_int valid.decisions_nonneg
  have samples := Reader.integerFrom_int valid.samples_pos
  have bps := Reader.integerWithin_int valid.bps_nonneg valid.bps_le
  simp [read, Reader.record, toFields, Fields.defaulted, Fields.get?_cons, Reader.boolean, salt, window,
    shadowDiffs, decisions, samples, bps, Reader.rate_float valid.errorRate, Reader.rate_float valid.timeoutRate,
    Reader.rate_float valid.limitedRate, Reader.rate_float valid.negativeDeltaRate]

theorem PrimaryConfig.read_toFields (c : PrimaryConfig) : read (.obj c.toFields) = .accepted c := by
  simp [read, Reader.record, toFields, Fields.defaulted, Fields.get?_cons, Reader.boolean]

theorem AltShadowConfig.read_toFields {c : AltShadowConfig} (valid : c.Valid) :
    read (.obj c.toFields) = .accepted c := by
  have diffs := Reader.integerFrom_int valid
  simp [read, Reader.record, toFields, Fields.defaulted, Fields.get?_cons, Reader.boolean, diffs]

theorem MatcherConfig.read_toFields {c : MatcherConfig} (valid : c.Valid) : read (.obj c.toFields) = .accepted c := by
  have low := Reader.integerFrom_int valid.min_ge
  have high := Reader.integerFrom_int valid.max_ge
  simp [read, Reader.record, toFields, Fields.defaulted, Fields.get?_cons, Reader.boolean, low, high,
    Reader.optional_integerFrom valid.explored_pos, Reader.optional_integerFrom valid.timeout_pos]

/-! What is loaded. -/

namespace Environment

theorem canary_valid (env : Environment) : env.canary.Valid := by
  have share : 0 ≤ env.canary.rolloutBps ∧ env.canary.rolloutBps ≤ 10000 := by
    show 0 ≤ (Setting.basisPoints (env.get? rolloutName)).getD 0
      ∧ (Setting.basisPoints (env.get? rolloutName)).getD 0 ≤ 10000
    cases found : Setting.basisPoints (env.get? rolloutName) with
    | none => decide
    | some n => exact Setting.within_of_basisPoints found
  exact {
    bps_nonneg := share.1
    bps_le := share.2
    window_pos := le_integer (by decide)
    shadowDiffs_nonneg := le_integer (by decide)
    decisions_nonneg := le_integer (by decide)
    samples_pos := le_integer (by decide)
    errorRate := within_rate
    timeoutRate := within_rate
    limitedRate := within_rate
    negativeDeltaRate := within_rate }

theorem salt_canary (env : Environment) : env.canary.salt
    = ((Setting.text (env.get? "MATCHING_V2_CANARY_SALT")).map Point.ofString).getD CanaryConfig.default.salt := rfl

/-- The texts of an environment are whole. -/
theorem whole_salt_canary (env : Environment) : Point.whole env.canary.salt = true := by
  rw [salt_canary]
  cases Setting.text (env.get? "MATCHING_V2_CANARY_SALT") with
  | none => exact Point.whole_ofString _
  | some salt => exact Point.whole_ofString salt

theorem altShadow_valid (env : Environment) : env.altShadow.Valid := le_integer (by decide)

theorem candidateMatcher_valid (env : Environment) : env.candidateMatcher.Valid := by
  have given : ∀ name, ∀ n ∈ Setting.integer (some 1) (env.get? name), 1 ≤ n := by
    intro name n found
    obtain ⟨text, -, -, enough⟩ := Setting.integer_eq_some_iff.mp found
    exact enough
  exact {
    min_ge := le_integer (by decide)
    max_ge := le_integer (by decide)
    explored_pos := given _
    timeout_pos := given _ }

end Environment

/-- What is promised of the configurations that are loaded from an environment: the records take them unchanged,
they keep to their limits, and a setting is what its variable holds or else, if that does not fit, its default. -/
structure RunConfigs.LoadedFrom (env : Environment) (c : RunConfigs) : Prop where
  canary_accepted : CanaryConfig.read (.obj c.canary.toFields) = .accepted c.canary
  primary_accepted : PrimaryConfig.read (.obj c.primary.toFields) = .accepted c.primary
  altShadow_accepted : AltShadowConfig.read (.obj c.altShadow.toFields) = .accepted c.altShadow
  matcher_accepted : MatcherConfig.read (.obj c.candidateMatcher.toFields) = .accepted c.candidateMatcher
  canary_valid : c.canary.Valid
  altShadow_valid : c.altShadow.Valid
  matcher_valid : c.candidateMatcher.Valid
  integer_held : ∀ (q : Quantity) (n : Int), env.HoldsInteger q.name n → q.least ≤ n → q.value c = some n
  integer_unfit : ∀ q : Quantity, (∀ n, env.HoldsInteger q.name n → n < q.least) → q.value c = q.value .default
  rate_held : ∀ (r : RateLimit) (x : Binary64), env.HoldsNumber r.name x → Binary64.zero.le x = true →
    x.le (Binary64.ofNat 1) = true → r.value c = x
  rate_unfit : ∀ r : RateLimit, (∀ x, env.HoldsNumber r.name x → x.isFinite = false) → r.value c = r.value .default
  rollout_held : ∀ negative rank, env.HoldsNumber rolloutName (.finite negative rank) →
    c.canary.rolloutBps = min (max (Binary64.truncate negative rank.val) 0) 10000
  rollout_unfit : (∀ x, env.HoldsNumber rolloutName x → x.isFinite = false) →
    c.canary.rolloutBps = CanaryConfig.default.rolloutBps

/-- Whatever the environment holds, a run gets configurations, and they keep to their limits. -/
theorem Environment.runConfigs_loaded (env : Environment) : env.runConfigs.LoadedFrom env where
  canary_accepted := CanaryConfig.read_toFields env.canary_valid env.whole_salt_canary
  primary_accepted := PrimaryConfig.read_toFields _
  altShadow_accepted := AltShadowConfig.read_toFields env.altShadow_valid
  matcher_accepted := MatcherConfig.read_toFields env.candidateMatcher_valid
  canary_valid := env.canary_valid
  altShadow_valid := env.altShadow_valid
  matcher_valid := env.candidateMatcher_valid
  integer_held := by
    intro q n held enough
    rw [Quantity.value_runConfigs, integer_of_holds held enough, Option.some_or]
  integer_unfit := by
    intro q unfit
    rw [Quantity.value_runConfigs, integer_eq_none unfit, Option.none_or]
  rate_held := by
    intro r x held above below
    have inside : x.isFinite = true := by
      cases x with
      | nan => cases above
      | infinite negative => cases negative <;> revert above below <;> decide +kernel
      | finite negative rank => rfl
    rw [RateLimit.value_runConfigs, Setting.rate_of_within (finiteNumber_of_holds held inside) above below,
      Option.getD_some]
  rate_unfit := by
    intro r unfit
    rw [RateLimit.value_runConfigs, Setting.rate_eq_none_iff.mpr (finiteNumber_eq_none unfit), Option.getD_none]
  rollout_held := by
    intro negative rank held
    have found := finiteNumber_of_holds held rfl
    show (Setting.basisPoints (env.get? rolloutName)).getD _ = _
    rw [Setting.basisPoints, found, Option.getD_some]
  rollout_unfit := by
    intro unfit
    show (Setting.basisPoints (env.get? rolloutName)).getD _ = _
    rw [Setting.basisPoints_eq_none_iff.mpr (finiteNumber_eq_none unfit), Option.getD_none]

/-- An integer with a blank and an underscore, one below its least, and a rate that is no number. -/
def Environment.mixed : Environment := [
  ("MATCHING_V2_CANARY_ROLLBACK_WINDOW_RUNS", " 1_0"),
  ("MATCHING_V2_MIN_CYCLE_LENGTH", "1"),
  ("MATCHING_V2_CANARY_ROLLBACK_MAX_ERROR_RATE", "nan")]

theorem Environment.mixed_loaded :
    Environment.mixed.runConfigs.LoadedFrom Environment.mixed
      ∧ Quantity.windowRuns.value Environment.mixed.runConfigs = some 10
      ∧ Quantity.minCycleLength.value Environment.mixed.runConfigs = some 2
      ∧ RateLimit.error.value Environment.mixed.runConfigs = .zero := by
  have loaded := Environment.runConfigs_loaded Environment.mixed
  refine ⟨loaded, loaded.integer_held .windowRuns 10 ⟨" 1_0", rfl, rfl⟩ (by decide), ?_, ?_⟩
  · refine loaded.integer_unfit .minCycleLength fun n held => ?_
    obtain ⟨text, set, read⟩ := held
    cases set
    cases read
    decide
  · refine loaded.rate_unfit .error fun x held => ?_
    obtain ⟨text, set, read⟩ := held
    cases set
    cases read
    rfl

end CanaryGate
