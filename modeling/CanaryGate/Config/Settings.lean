import CanaryGate.Config.Records
import CanaryGate.Fault
import CanaryGate.Text.LowerCase
import CanaryGate.Text.Uppercase

/-!
# Settings

The run configuration as the environment gives it. A setting that is blank, unreadable or out of
bounds counts as unset, so loading a configuration cannot fail; switches are the exception, where
only an absent one counts as unset.
-/

namespace CanaryGate

/-- Named texts. -/
abbrev Environment := List (String × String)

namespace Setting

/-- The words that turn a switch on. -/
def onWords : List String := ["1", "true", "yes", "on"]

/-- A switch; any other word turns it off. -/
def switch (value : Option String) : Option Bool :=
  value.map fun s => onWords.contains (lowerAscii s)

def present (value : Option String) : Option String := value.filter fun s => !blank s

/-- An integer not below the minimum, if there is one. -/
def integer (minimum : Option Int) (value : Option String) : Option Int := do
  let n ← (Numeral.integer (← present value)).toOption
  if minimum.any (n < ·) then none else some n

def finiteNumber (value : Option String) : Option Binary64 := do
  let x ← (Numeral.number (← present value)).toOption
  if x.isFinite then some x else none

/-- The double between `low` and `high` that is nearest. -/
def clamp (low high x : Binary64) : Binary64 :=
  let raised := if x.lt low then low else x
  if high.lt raised then high else raised

/-- A rate between zero and one. Above one it is taken for a percentage. -/
def rate (value : Option String) : Option Binary64 :=
  (finiteNumber value).map fun x =>
    let one := Binary64.ofNat 1
    clamp .zero one (if x.le one then x else x.div (Binary64.ofNat 100))

/-- Ten-thousandths, the fraction dropped, between none and all. -/
def basisPoints (value : Option String) : Option Int :=
  match finiteNumber value with
  | some (.finite negative rank) => some (min (max (Binary64.truncate negative rank.val) 0) 10000)
  | _ => none

def text (value : Option String) : Option String := value.filter (· != "")

end Setting

namespace Environment

def get? (env : Environment) (name : String) : Option String := List.lookup name env

def switch (env : Environment) (name : String) (default : Bool) : Bool :=
  (Setting.switch (get? env name)).getD default

def integer (env : Environment) (name : String) (minimum default : Int) : Int :=
  (Setting.integer (some minimum) (get? env name)).getD default

def rate (env : Environment) (name : String) (default : Binary64) : Binary64 :=
  (Setting.rate (get? env name)).getD default

def canary (env : Environment) : CanaryConfig :=
  let d := CanaryConfig.default
  { enabled := switch env "MATCHING_V2_CANARY_ENABLED" d.enabled
    rolloutBps := (Setting.basisPoints (get? env "MATCHING_V2_CANARY_ROLLOUT_BPS")).getD d.rolloutBps
    salt := ((Setting.text (get? env "MATCHING_V2_CANARY_SALT")).map Point.ofString).getD d.salt
    windowRuns := integer env "MATCHING_V2_CANARY_ROLLBACK_WINDOW_RUNS" 1 d.windowRuns
    forceCanaryError := switch env "MATCHING_V2_CANARY_FORCE_ERROR" d.forceCanaryError
    forceShadowError := switch env "MATCHING_V2_SHADOW_FORCE_ERROR" d.forceShadowError
    maxShadowDiffs := integer env "MATCHING_V2_SHADOW_MAX_DIFFS" 0 d.maxShadowDiffs
    shadowEnabled := switch env "MATCHING_V2_SHADOW_ENABLED" d.shadowEnabled
    forceBucket := switch env "MATCHING_V2_CANARY_FORCE_BUCKET_V2" d.forceBucket
    forceSkip := switch env "MATCHING_V2_CANARY_FORCE_SKIP" d.forceSkip
    maxDecisions := integer env "MATCHING_V2_CANARY_MAX_DECISIONS" 0 d.maxDecisions
    minSamples := integer env "MATCHING_V2_CANARY_ROLLBACK_MIN_SAMPLES" 1 d.minSamples
    maxErrorRate := rate env "MATCHING_V2_CANARY_ROLLBACK_MAX_ERROR_RATE" d.maxErrorRate
    maxTimeoutRate := rate env "MATCHING_V2_CANARY_ROLLBACK_MAX_TIMEOUT_RATE" d.maxTimeoutRate
    maxLimitedRate := rate env "MATCHING_V2_CANARY_ROLLBACK_MAX_LIMITED_RATE" d.maxLimitedRate
    maxNegativeDeltaRate :=
      rate env "MATCHING_V2_CANARY_ROLLBACK_MAX_NEGATIVE_DELTA_RATE" d.maxNegativeDeltaRate }

/-- The graduated-rollout configuration. -/
def primary (env : Environment) : PrimaryConfig :=
  let d := PrimaryConfig.default
  { enabled := switch env "MATCHING_V2_PRIMARY_ENABLED" d.enabled
    fallbackOnTimeout := switch env "MATCHING_V2_PRIMARY_FALLBACK_ON_TIMEOUT" d.fallbackOnTimeout
    fallbackOnLimited := switch env "MATCHING_V2_PRIMARY_FALLBACK_ON_LIMITED" d.fallbackOnLimited
    forcePrimaryError := switch env "MATCHING_V2_PRIMARY_FORCE_ERROR" d.forcePrimaryError
    rollbackReset := switch env "MATCHING_V2_PRIMARY_ROLLBACK_RESET" d.rollbackReset
    forceTimeout := switch env "MATCHING_V2_PRIMARY_FORCE_TIMEOUT" d.forceTimeout
    forceLimited := switch env "MATCHING_V2_PRIMARY_FORCE_LIMITED" d.forceLimited }

/-- The alternate-shadow configuration. -/
def altShadow (env : Environment) : AltShadowConfig :=
  let d := AltShadowConfig.default
  { enabled := switch env "MATCHING_ALT_SHADOW_ENABLED" d.enabled
    forceShadowError := switch env "MATCHING_ALT_SHADOW_FORCE_ERROR" d.forceShadowError
    maxShadowDiffs := integer env "MATCHING_ALT_SHADOW_MAX_DIFFS" 0 d.maxShadowDiffs }

/-- The matcher configuration of the baseline, which the environment does not change. -/
def baselineMatcher : MatcherConfig := MatcherConfig.default

def candidateMatcher (env : Environment) : MatcherConfig :=
  let d := MatcherConfig.default
  { d with
    minCycleLength := integer env "MATCHING_V2_MIN_CYCLE_LENGTH" 2 d.minCycleLength
    maxCycleLength := integer env "MATCHING_V2_MAX_CYCLE_LENGTH" 2 d.maxCycleLength
    maxCyclesExplored := Setting.integer (some 1) (get? env "MATCHING_V2_MAX_CYCLES_EXPLORED")
    timeoutMs := Setting.integer (some 1) (get? env "MATCHING_V2_TIMEOUT_MS") }

def engineUrl (env : Environment) (engine : String) : Option String :=
  Setting.text (get? env ("MATCHING_" ++ upperCase engine ++ "_URL"))

/-- How long an engine may take, in seconds. The setting is in milliseconds. -/
def engineTimeout (env : Environment) : Except Fault Binary64 :=
  let ms := Binary64.ofInt (integer env "MATCHING_ENGINE_TIMEOUT_MS" 1 3000)
  if ms.isFinite then .ok (ms.div (Binary64.ofNat 1000)) else .error .doubleRange

def statePath (env : Environment) : Option String := Setting.text (get? env "MATCHING_STATE_PATH")

end Environment

end CanaryGate
