import CanaryGate.Proofs.Config.Settings

/-! # Blank settings

A blank text is what an operator leaves who clears a setting. The parsers of integers and numbers skip it, so that
the setting is as good as unset; a switch reads it as a word that turns it off. The two differ for a switch that is
on by default, of which there are two.
-/

namespace CanaryGate

variable {text : String}

/-! The variables that are parsed. -/

inductive Variable where
  | switch (s : Switch)
  | quantity (q : Quantity)
  | rate (r : RateLimit)
  | rollout
  | engineTimeout
  deriving DecidableEq

namespace Variable

def name : Variable → String
  | switch s => s.name
  | quantity q => q.name
  | rate r => r.name
  | rollout => rolloutName
  | engineTimeout => "MATCHING_ENGINE_TIMEOUT_MS"

def all : List Variable :=
  [.canary, .canaryError, .shadowError, .shadow, .forceBucket, .forceSkip, .primary, .fallbackOnTimeout,
    .fallbackOnLimited, .primaryError, .rollbackReset, .forceTimeout, .forceLimited, .altShadow,
    .altShadowError].map switch
  ++ [.windowRuns, .shadowDiffs, .decisions, .samples, .altShadowDiffs, .minCycleLength, .maxCycleLength,
    .cyclesExplored, .timeoutMs].map quantity
  ++ [.error, .timeout, .limited, .negativeDelta].map rate
  ++ [rollout, engineTimeout]

/-- A variable is found by its name. -/
theorem find?_name (v : Variable) : all.find? (fun w => w.name == v.name) = some v := by
  cases v with
  | switch s => cases s <;> decide
  | quantity q => cases q <;> decide
  | rate r => cases r <;> decide
  | rollout | engineTimeout => decide

theorem name_injective : Function.Injective name := by
  intro v w same
  have found := find?_name v
  rw [same, find?_name w] at found
  exact (Option.some.inj found).symm

end Variable

/-! What a parser makes of a blank text. -/

namespace Setting

theorem present_of_blank (h : blank text = true) : present (some text) = none := by
  simp [present, Option.filter, h]

theorem integer_of_blank (least : Int) (h : blank text = true) :
    integer (some least) (some text) = integer (some least) none := by
  rw [integer, integer, present_of_blank h]
  rfl

theorem finiteNumber_of_blank (h : blank text = true) : finiteNumber (some text) = finiteNumber none := by
  rw [finiteNumber, finiteNumber, present_of_blank h]
  rfl

theorem rate_congr {a b : Option String} (same : finiteNumber a = finiteNumber b) : rate a = rate b := by
  rw [rate, rate, same]

theorem basisPoints_congr {a b : Option String} (same : finiteNumber a = finiteNumber b) :
    basisPoints a = basisPoints b := by
  rw [basisPoints, basisPoints, same]

/-- The words that turn a switch on are not blank. -/
theorem switch_of_blank (h : blank text = true) : switch (some text) = some false := by
  have written : onWords.all (fun word => word.toList.any fun c => !isBlank c) = true := by decide
  have absent : text ∉ onWords := by
    intro inside
    obtain ⟨c, there, shown⟩ := List.any_eq_true.mp (List.all_eq_true.mp written text inside)
    exact ne_of_blank h text ⟨c, there, by simpa using shown⟩ rfl
  simp [switch, lowerAscii_of_blank h, absent]

end Setting

namespace Environment

/-- The environment with a variable set to a text. -/
def assign (env : Environment) (name text : String) : Environment := (name, text) :: env

/-- The environment without a variable. -/
def unset (env : Environment) (name : String) : Environment := env.filter fun entry => entry.1 != name

theorem get?_assign (env : Environment) (name text other : String) :
    (env.assign name text).get? other = if other = name then some text else env.get? other := by
  unfold assign get?
  by_cases same : other = name
  · subst same
    simp
  · have apart : (other == name) = false := by simpa using same
    rw [if_neg same, List.lookup_cons, apart]

theorem get?_unset (env : Environment) (name other : String) :
    (env.unset name).get? other = if other = name then none else env.get? other := by
  unfold unset get?
  induction env with
  | nil => simp
  | cons entry rest ih =>
    obtain ⟨key, text⟩ := entry
    by_cases gone : key = name
    · subst gone
      rw [List.filter_cons_of_neg (by simp), ih]
      split
      · rfl
      · rename_i apart
        have differ : (other == key) = false := by simpa using apart
        rw [List.lookup_cons, differ]
    · rw [List.filter_cons_of_pos (by simpa using gone), List.lookup_cons, List.lookup_cons, ih]
      by_cases here : other = key
      · subst here
        simp [gone]
      · have apart : (other == key) = false := by simpa using here
        rw [apart]

end Environment

/-- Everything that the environment sets, the engines' addresses apart. -/
def Environment.loaded (env : Environment) : RunConfigs × Except Fault Binary64 := (env.runConfigs, env.engineTimeout)

/-- A configuration from its settings, read off the tables. -/
def RunConfigs.ofSettings (switches : Switch → Bool) (quantities : Quantity → Option Int)
    (rates : RateLimit → Binary64) (rolloutBps : Int) (salt : List Point) (baseline : MatcherConfig)
    (diagnostics : Bool) : RunConfigs where
  canary := {
    enabled := switches .canary
    rolloutBps := rolloutBps
    salt := salt
    windowRuns := (quantities .windowRuns).getD 0
    forceCanaryError := switches .canaryError
    forceShadowError := switches .shadowError
    maxShadowDiffs := (quantities .shadowDiffs).getD 0
    shadowEnabled := switches .shadow
    forceBucket := switches .forceBucket
    forceSkip := switches .forceSkip
    maxDecisions := (quantities .decisions).getD 0
    minSamples := (quantities .samples).getD 0
    maxErrorRate := rates .error
    maxTimeoutRate := rates .timeout
    maxLimitedRate := rates .limited
    maxNegativeDeltaRate := rates .negativeDelta }
  primary := {
    enabled := switches .primary
    fallbackOnTimeout := switches .fallbackOnTimeout
    fallbackOnLimited := switches .fallbackOnLimited
    forcePrimaryError := switches .primaryError
    rollbackReset := switches .rollbackReset
    forceTimeout := switches .forceTimeout
    forceLimited := switches .forceLimited }
  altShadow := {
    enabled := switches .altShadow
    forceShadowError := switches .altShadowError
    maxShadowDiffs := (quantities .altShadowDiffs).getD 0 }
  baselineMatcher := baseline
  candidateMatcher := {
    minCycleLength := (quantities .minCycleLength).getD 0
    maxCycleLength := (quantities .maxCycleLength).getD 0
    includeDiagnostics := diagnostics
    maxCyclesExplored := quantities .cyclesExplored
    timeoutMs := quantities .timeoutMs }

theorem RunConfigs.eq_ofSettings (c : RunConfigs) :
    c = ofSettings (Switch.value c) (Quantity.value c) (RateLimit.value c) c.canary.rolloutBps c.canary.salt
      c.baselineMatcher c.candidateMatcher.includeDiagnostics := rfl

/-- Two environments that the parsers of integers and numbers cannot tell apart, and that turn on the same
switches. -/
structure Environment.Alike (e e' : Environment) : Prop where
  switches : ∀ s : Switch, s.value e.runConfigs = s.value e'.runConfigs
  integers : ∀ least name, Setting.integer (some least) (e.get? name) = Setting.integer (some least) (e'.get? name)
  numbers : ∀ name, Setting.finiteNumber (e.get? name) = Setting.finiteNumber (e'.get? name)
  salt : e.canary.salt = e'.canary.salt

theorem Environment.Alike.loaded {e e' : Environment} (alike : e.Alike e') : e.loaded = e'.loaded := by
  have quantities : Quantity.value e.runConfigs = Quantity.value e'.runConfigs := by
    funext q
    rw [Quantity.value_runConfigs, Quantity.value_runConfigs, alike.integers]
  have rates : RateLimit.value e.runConfigs = RateLimit.value e'.runConfigs := by
    funext r
    rw [RateLimit.value_runConfigs, RateLimit.value_runConfigs, Setting.rate_congr (alike.numbers r.name)]
  have rollout : e.canary.rolloutBps = e'.canary.rolloutBps := by
    show (Setting.basisPoints (e.get? rolloutName)).getD 0 = (Setting.basisPoints (e'.get? rolloutName)).getD 0
    rw [Setting.basisPoints_congr (alike.numbers rolloutName)]
  have timeout : e.engineTimeout = e'.engineTimeout := by
    have ms : e.integer "MATCHING_ENGINE_TIMEOUT_MS" 1 3000 = e'.integer "MATCHING_ENGINE_TIMEOUT_MS" 1 3000 := by
      rw [integer, integer, alike.integers]
    rw [engineTimeout, engineTimeout, ms]
  have configs : e.runConfigs = e'.runConfigs := by
    rw [RunConfigs.eq_ofSettings e.runConfigs, RunConfigs.eq_ofSettings e'.runConfigs, funext alike.switches,
      quantities, rates]
    exact congrArg₂ (fun bps salt => RunConfigs.ofSettings _ _ _ bps salt .default false) rollout alike.salt
  exact congrArg₂ Prod.mk configs timeout

namespace Environment

theorem salt_apart (v : Variable) : "MATCHING_V2_CANARY_SALT" ≠ v.name := by
  cases v with
  | switch s => cases s <;> decide
  | quantity q => cases q <;> decide
  | rate r => cases r <;> decide
  | rollout | engineTimeout => decide

/-- Two ways to set one parsed variable are alike if every parser takes them alike. -/
theorem alike_of_parsed {v : Variable} {e e' : Environment}
    (others : ∀ name, name ≠ v.name → e.get? name = e'.get? name)
    (switches : ∀ s : Switch, v = .switch s → s.value e.runConfigs = s.value e'.runConfigs)
    (integers : ∀ least, Setting.integer (some least) (e.get? v.name) = Setting.integer (some least) (e'.get? v.name))
    (numbers : Setting.finiteNumber (e.get? v.name) = Setting.finiteNumber (e'.get? v.name)) : e.Alike e' where
  switches := by
    intro s
    by_cases same : v = .switch s
    · exact switches s same
    · have apart : s.name ≠ v.name := fun named => same (@Variable.name_injective v (.switch s) named.symm)
      rw [Switch.value_runConfigs, Switch.value_runConfigs, switch, switch, others s.name apart]
  integers := by
    intro least name
    by_cases same : name = v.name
    · rw [same, integers]
    · rw [others name same]
  numbers := by
    intro name
    by_cases same : name = v.name
    · rw [same, numbers]
    · rw [others name same]
  salt := by
    rw [salt_canary, salt_canary, others _ (salt_apart v)]

theorem value_assign (env : Environment) (s : Switch) (text : String) :
    s.value (env.assign s.name text).runConfigs = (Setting.switch (some text)).getD (s.value .default) := by
  rw [Switch.value_runConfigs, switch, get?_assign, if_pos rfl]

theorem value_unset (env : Environment) (s : Switch) :
    s.value (env.unset s.name).runConfigs = s.value .default := by
  rw [Switch.value_runConfigs, switch, get?_unset, if_pos rfl]
  rfl

theorem assign_alike_unset (env : Environment) {v : Variable} (h : blank text = true)
    (off : ∀ s : Switch, v = .switch s → s.value .default = false) :
    (env.assign v.name text).Alike (env.unset v.name) := by
  apply alike_of_parsed
  · intro name apart
    rw [get?_assign, get?_unset, if_neg apart, if_neg apart]
  · rintro s rfl
    show s.value (env.assign s.name text).runConfigs = s.value (env.unset s.name).runConfigs
    rw [value_assign, value_unset, Setting.switch_of_blank h, off s rfl, Option.getD_some]
  · intro least
    rw [get?_assign, get?_unset, if_pos rfl, if_pos rfl, Setting.integer_of_blank least h]
  · rw [get?_assign, get?_unset, if_pos rfl, if_pos rfl, Setting.finiteNumber_of_blank h]

/-- A blank text is as good as a word that is neither a number nor turns a switch on. -/
theorem assign_alike_off (env : Environment) (v : Variable) (h : blank text = true) :
    (env.assign v.name text).Alike (env.assign v.name "off") := by
  apply alike_of_parsed
  · intro name apart
    rw [get?_assign, get?_assign, if_neg apart, if_neg apart]
  · rintro s rfl
    show s.value (env.assign s.name text).runConfigs = s.value (env.assign s.name "off").runConfigs
    rw [value_assign, value_assign, Setting.switch_of_blank h]
    rfl
  · intro least
    rw [get?_assign, get?_assign, if_pos rfl, if_pos rfl, Setting.integer_of_blank least h]
    rfl
  · rw [get?_assign, get?_assign, if_pos rfl, if_pos rfl, Setting.finiteNumber_of_blank h]
    rfl

end Environment

theorem Switch.on_by_default_iff (s : Switch) :
    s.value .default = true ↔ s = .fallbackOnTimeout ∨ s = .fallbackOnLimited := by
  cases s <;> decide

/-- Setting a variable to a blank text loads the same as not setting it, except for the two switches that are on by
default. It loads the same as the word off for all of them. -/
theorem Environment.blank_unset_iff (env : Environment) (v : Variable) (h : blank text = true) :
    ((env.assign v.name text).loaded = (env.unset v.name).loaded
      ↔ v ≠ .switch .fallbackOnTimeout ∧ v ≠ .switch .fallbackOnLimited)
    ∧ (env.assign v.name text).loaded = (env.assign v.name "off").loaded := by
  refine ⟨⟨fun same => ?_, fun spared => ?_⟩, (assign_alike_off env v h).loaded⟩
  · have kept : ∀ s : Switch, v = .switch s → s.value .default = false := by
      rintro s rfl
      have both := congrArg (fun l => s.value l.1) same
      calc s.value .default
        _ = s.value (env.unset s.name).runConfigs := (value_unset env s).symm
        _ = s.value (env.assign s.name text).runConfigs := both.symm
        _ = false := by rw [value_assign, Setting.switch_of_blank h, Option.getD_some]
    constructor
    · rintro rfl
      cases kept _ rfl
    · rintro rfl
      cases kept _ rfl
  · apply Alike.loaded
    apply assign_alike_unset env h
    rintro s rfl
    have notOn := (Switch.on_by_default_iff s).not
    simp_all

/-- A limit that was cleared. -/
theorem Environment.blank_limit_unset :
    blank " " = true
      ∧ (assign [("MATCHING_V2_PRIMARY_ENABLED", "1")] "MATCHING_V2_CANARY_MAX_DECISIONS" " ").loaded
        = (unset [("MATCHING_V2_PRIMARY_ENABLED", "1")] "MATCHING_V2_CANARY_MAX_DECISIONS").loaded :=
  ⟨rfl, (blank_unset_iff [("MATCHING_V2_PRIMARY_ENABLED", "1")] (.quantity .decisions) rfl).1.mpr
    ⟨by decide, by decide⟩⟩

/-- An empty text takes away the fallback that an unset variable leaves. -/
theorem Environment.blank_fallback_differs :
    blank "" = true
      ∧ (assign [] "MATCHING_V2_PRIMARY_FALLBACK_ON_TIMEOUT" "").loaded
        ≠ (unset [] "MATCHING_V2_PRIMARY_FALLBACK_ON_TIMEOUT").loaded := by
  refine ⟨rfl, fun same => ?_⟩
  have fallback := congrArg (fun l => l.1.primary.fallbackOnTimeout) same
  revert fallback
  decide

end CanaryGate
