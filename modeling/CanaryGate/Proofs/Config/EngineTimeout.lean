import CanaryGate.Proofs.Config.Settings
import CanaryGate.Proofs.Numeric.Numeral

/-! # The engines' timeout

The timeout is an integer of milliseconds, turned into a double and divided. An integer that the doubles do not
reach breaks the division, and with it the setting up of the engines; any other gives a positive number of seconds.
-/

namespace CanaryGate

namespace Environment

variable {σ : Type} {env : Environment}

def timeoutName : String := "MATCHING_ENGINE_TIMEOUT_MS"

/-- The timeout is set to an integer that no double is near to. -/
def Overlong (env : Environment) : Prop := ∃ n, env.HoldsInteger timeoutName n ∧ 2 ^ 1024 - 2 ^ 970 ≤ n

theorem HoldsInteger.unique {name : String} {n m : Int} (h : env.HoldsInteger name n)
    (h' : env.HoldsInteger name m) : n = m := by
  obtain ⟨text, set, read⟩ := h
  obtain ⟨text', set', read'⟩ := h'
  cases set.symm.trans set'
  exact Except.ok.inj (read.symm.trans read')

theorem timeout_of_held {n : Int} (held : env.HoldsInteger timeoutName n) (enough : 1 ≤ n) :
    env.integer timeoutName 1 3000 = n := by
  rw [integer, integer_of_holds held enough, Option.getD_some]

theorem timeout_of_unfit (unfit : ∀ n, env.HoldsInteger timeoutName n → n < 1) :
    env.integer timeoutName 1 3000 = 3000 := by
  rw [integer, integer_eq_none unfit, Option.getD_none]

/-- What the timeout is, in milliseconds: the integer that is held if it is positive, else the default. -/
theorem timeout_cases (env : Environment) :
    (∃ n, env.HoldsInteger timeoutName n ∧ 1 ≤ n ∧ env.integer timeoutName 1 3000 = n)
      ∨ (∀ n, env.HoldsInteger timeoutName n → n < 1) ∧ env.integer timeoutName 1 3000 = 3000 := by
  by_cases unfit : ∀ n, env.HoldsInteger timeoutName n → n < 1
  · exact .inr ⟨unfit, timeout_of_unfit unfit⟩
  · push Not at unfit
    obtain ⟨n, held, enough⟩ := unfit
    exact .inl ⟨n, held, enough, timeout_of_held held enough⟩

theorem one_le_timeout (env : Environment) : 1 ≤ env.integer timeoutName 1 3000 := le_integer (by decide)

/-- The timeout leaves the range of doubles exactly if an integer is held that does. -/
theorem timeout_inside_iff (env : Environment) :
    (Binary64.ofInt (env.integer timeoutName 1 3000)).isFinite = true ↔ ¬ env.Overlong := by
  have default : (3000 : Int) < 2 ^ 1024 - 2 ^ 970 :=
    (Binary64.isFinite_ofInt_of_nonneg (by decide)).mp (by decide +kernel)
  rcases timeout_cases env with ⟨n, held, enough, same⟩ | ⟨unfit, same⟩
  · rw [same, Binary64.isFinite_ofInt_of_nonneg (by omega)]
    constructor
    · rintro inside ⟨m, also, beyond⟩
      rw [HoldsInteger.unique also held] at beyond
      exact not_lt.mpr beyond inside
    · intro fits
      exact not_le.mp fun beyond => fits ⟨n, held, beyond⟩
  · rw [same, Binary64.isFinite_ofInt_of_nonneg (by decide)]
    refine iff_of_true default ?_
    rintro ⟨m, also, beyond⟩
    have small := unfit m also
    exact absurd (default.trans_le beyond) (by omega)

theorem engineTimeout_of_overlong (h : env.Overlong) : env.engineTimeout = .error .doubleRange := by
  have outside := (timeout_inside_iff env).not.mpr (not_not.mpr h)
  unfold engineTimeout
  exact if_neg outside

theorem engineTimeout_of_fitting (h : ¬ env.Overlong) :
    env.engineTimeout = .ok ((Binary64.ofInt (env.integer timeoutName 1 3000)).div (Binary64.ofNat 1000)) := by
  have inside := (timeout_inside_iff env).mpr h
  unfold engineTimeout
  exact if_pos inside

theorem engineUrl_of_set {url : String} (address : env.get? "MATCHING_V1_URL" = some url) (some : url ≠ "") :
    env.engineUrl "v1" = .some url := by
  have name : "MATCHING_" ++ upperCase "v1" ++ "_URL" = "MATCHING_V1_URL" := by decide +kernel
  rw [engineUrl, name, address, Setting.text, Option.filter_some, if_pos (by simpa using some)]

/-- With an address of the baseline the engines are set up, unless the timeout is overlong: then there is no run at
all. The timeout is a positive number of seconds, three of them unless it is set to a positive integer. -/
theorem engines_unless_overlong (env : Environment) (network : Http.Network σ) (correlationId : String) {url : String}
    (address : env.get? "MATCHING_V1_URL" = some url) (named : url ≠ "") :
    (env.Overlong →
      env.engineTimeout = .error .doubleRange ∧ env.runEngines network correlationId = .error .doubleRange)
    ∧ (¬ env.Overlong →
      (∃ seconds, env.engineTimeout = .ok seconds ∧ seconds.isFinite = true ∧ Binary64.zero.lt seconds = true)
      ∧ ∃ baseline candidate alternate,
        env.runEngines network correlationId = .ok (some ⟨some baseline, candidate, alternate⟩))
    ∧ ((∀ n, env.HoldsInteger timeoutName n → n < 1) → env.engineTimeout = .ok (.ofNat 3))
    ∧ (¬ env.Overlong → ∀ n, env.HoldsInteger timeoutName n → 1 ≤ n →
      env.engineTimeout = .ok ((Binary64.ofInt n).div (Binary64.ofNat 1000))) := by
  refine ⟨fun beyond => ?_, fun fits => ⟨?_, ?_⟩, fun unfit => ?_, fun fits n held enough => ?_⟩
  · have failed := engineTimeout_of_overlong beyond
    refine ⟨failed, ?_⟩
    rw [runEngines, failed]
    rfl
  · have inside := (timeout_inside_iff env).mpr fits
    exact ⟨_, engineTimeout_of_fitting fits, Binary64.thousandth_of_pos (one_le_timeout env) inside⟩
  · have baseline : env.remoteEngine network correlationId "v1"
        = some ((RemoteEngine.ofAddress "v1" url (some correlationId)).toEngine network) := by
      rw [remoteEngine, engineUrl_of_set address named, Option.map_some]
    rw [runEngines, engineTimeout_of_fitting fits, baseline]
    exact ⟨_, _, _, rfl⟩
  · have fits : ¬ env.Overlong := by
      refine (timeout_inside_iff env).mp ?_
      rw [timeout_of_unfit unfit]
      decide +kernel
    rw [engineTimeout_of_fitting fits, timeout_of_unfit unfit]
    decide +kernel
  · rw [engineTimeout_of_fitting fits, timeout_of_held held enough]

/-- An address of the baseline, and a timeout. -/
def patience (ms : String) : Environment := [("MATCHING_V1_URL", "http://v1:8080"), (timeoutName, ms)]

/-- A network on which every request is answered with nothing. -/
def silent : Http.Network Unit := ⟨fun _ s => (.ok ⟨200, [], []⟩, s)⟩

theorem engines_of_short_timeout :
    (patience "250").get? "MATCHING_V1_URL" = some "http://v1:8080" ∧ ¬ (patience "250").Overlong
      ∧ ∃ baseline candidate alternate,
        (patience "250").runEngines silent "c" = .ok (some ⟨some baseline, candidate, alternate⟩) := by
  have fits : ¬ (patience "250").Overlong := by
    rw [← timeout_inside_iff]
    decide +kernel
  exact ⟨rfl, fits, ((engines_unless_overlong (patience "250") silent "c" rfl (by decide)).2.1 fits).2⟩

/-- A timeout of four hundred nines is read, and no double is near to it. -/
theorem no_engines_of_nines :
    let nines := String.ofList (Decimal.digitsOf (10 ^ 400 - 1))
    (patience nines).get? "MATCHING_V1_URL" = some "http://v1:8080"
      ∧ (patience nines).engineTimeout = .error .doubleRange
      ∧ (patience nines).runEngines silent "c" = .error .doubleRange := by
  intro nines
  have length : ∀ k, 0 < k → (Decimal.digitsOf (10 ^ k - 1)).length ≤ k := by
    intro k some
    refine (Decimal.length_digitsOf_le_iff some).mpr ?_
    exact Nat.sub_lt (Nat.pow_pos (by decide)) Nat.one_pos
  have read : Numeral.integer nines = .ok ((10 ^ 400 - 1 : Nat) : Int) :=
    Numeral.integer_digitsOf ((length 400 (by decide)).trans (by decide))
  have beyond : (patience nines).Overlong := ⟨_, ⟨nines, rfl, read⟩, by decide +kernel⟩
  have failed := engineTimeout_of_overlong beyond
  refine ⟨rfl, failed, ?_⟩
  rw [runEngines, failed]
  rfl

end Environment

end CanaryGate
