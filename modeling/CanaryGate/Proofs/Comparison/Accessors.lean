import CanaryGate.Comparison
import CanaryGate.Engine.Boundary

/-! # What is read of a matching result

A matching result has an object under its matching name, and nothing more is known of it. The number of
cycles is whatever its statistic stands for, unless that is an infinite number; its proposals are the objects
of a list, unless they are a number or a truth value, which cannot be looked through.
-/

namespace CanaryGate

theorem Binary64.truncate_zero (negative : Bool) : truncate negative 0 = 0 := by
  have nothing : numerator (significand 0) (scale 0) = 0 := by
    show 0 * _ = 0
    exact Nat.zero_mul _
  unfold truncate
  rw [nothing, Nat.zero_div]
  cases negative with
  | false => rfl
  | true => rfl

namespace Json

/-- The objects of a list; other values have none. -/
def objects : Json → List Fields
  | .arr items => items.filterMap Json.fields?
  | _ => []

/-- It counts as true, and there is nothing in it to be looked through. -/
def isSolid (value : Json) : Bool :=
  value.truthy && match value with
    | .arr _ | .str _ | .obj _ => false
    | _ => true

def isInfinite : Json → Bool
  | .float (.infinite _) => true
  | _ => false

/-- The whole number that a value stands for, zero if it stands for none. -/
def wholeOrZero (value : Json) : Int := value.toInteger.toOption.getD 0

theorem objectItems_orElse (value : Json) :
    (value.orElse (.arr [])).objectItems = if value.isSolid then .error .unsuitable else .ok value.objects := by
  unfold orElse isSolid
  cases held : value.truthy with
  | true =>
      cases value with
      | null => contradiction
      | bool b | int n | float x | str s | arr items | obj fields => rfl
  | false =>
      cases value with
      | arr items =>
          have none : items = [] := by simpa [truthy] using held
          rw [none]
          rfl
      | null | bool b | int n | float x | str s | obj fields => rfl

/-- A value that counts as false stands for zero or for nothing. -/
theorem wholeOrZero_of_falsy {value : Json} (h : value.truthy = false) : value.wholeOrZero = 0 := by
  cases value with
  | null | arr items | obj fields => rfl
  | bool b =>
      rw [show b = false from h]
      rfl
  | int n =>
      have zero : n = 0 := by simpa [truthy] using h
      rw [zero]
      rfl
  | float x =>
      cases x with
      | nan | infinite negative => rfl
      | finite negative rank =>
          have zero : rank.val = 0 := bne_eq_false_iff_eq.mp h
          show Binary64.truncate negative rank.val = 0
          rw [zero, Binary64.truncate_zero]
  | str s =>
      have empty : s = "" := by simpa [truthy] using h
      rw [empty]
      rfl

theorem truthy_of_isInfinite {value : Json} (h : value.isInfinite = true) : value.truthy = true := by
  unfold isInfinite at h
  split at h
  · rfl
  · contradiction

/-- Only infinite numbers are refused for another reason than that they stand for no whole number. -/
theorem toInteger_cases (value : Json) : (∃ n, value.toInteger = .ok n ∧ value.isInfinite = false)
    ∨ (∃ fault, value.toInteger = .error fault ∧ value.isInfinite = false ∧ fault.unreadable = true)
    ∨ value.isInfinite = true ∧ value.toInteger = .error .infiniteInteger := by
  cases value with
  | int n => exact .inl ⟨n, rfl, rfl⟩
  | bool b => exact .inl ⟨_, rfl, rfl⟩
  | null | arr items | obj fields => exact .inr (.inl ⟨_, rfl, rfl, rfl⟩)
  | float x =>
      cases x with
      | nan => exact .inr (.inl ⟨_, rfl, rfl, rfl⟩)
      | infinite negative => exact .inr (.inr ⟨rfl, rfl⟩)
      | finite negative rank => exact .inl ⟨_, rfl, rfl⟩
  | str s =>
      rw [show (str s).toInteger = (Numeral.integer s).mapError Fault.numeral from rfl]
      cases Numeral.integer s with
      | ok n => exact .inl ⟨n, rfl, rfl⟩
      | error cause => exact .inr (.inl ⟨.numeral cause, rfl, rfl, rfl⟩)

end Json

/-- What a result has under its matching name. -/
def reported (result : Json) (name : String) : Json := (result.fieldD "matching").fieldD name

theorem reported_of_found {fields matching : Fields} (found : Fields.get fields "matching" = .obj matching)
    (name : String) : reported (.obj fields) name = Fields.get matching name := by
  show ((Fields.get fields "matching").fieldD name) = _
  rw [found]
  rfl

/-- Where the matching part of a result can be read, it is what the result reports. -/
theorem reported_of_matchingOf {result : Json} {matching : Fields} (h : matchingOf result = .ok matching)
    (name : String) : reported result name = Fields.get matching name := by
  unfold matchingOf at h
  split at h
  · rename_i falsy
    cases h
    cases result with
    | obj fields =>
        have none : fields = [] := by simpa [Json.truthy] using falsy
        rw [none]
        rfl
    | null | bool b | int n | float x | str s | arr items => rfl
  · split at h
    · rename_i fields _
      split at h
      · rename_i found
        cases h
        exact reported_of_found found name
      · rename_i other
        cases h
        show ((Fields.get fields "matching").fieldD name) = .null
        cases found : Fields.get fields "matching" with
        | obj matching => exact absurd found (other matching)
        | null | bool b | int n | float x | str s | arr items => rfl
    · contradiction

/-- The number of cycles that a matching result reports. -/
def reportedCycles (result : Json) : Json := (reported result "stats").fieldD "candidate_cycles"

theorem candidateCycles_of_matching {result : Json} (h : isMatchingResult result = true) :
    candidateCycles result = if (reportedCycles result).isInfinite then .error .infiniteInteger
      else .ok (reportedCycles result).wholeOrZero := by
  obtain ⟨fields, matching, rfl, found⟩ := isMatchingResult_iff.mp h
  have stat : statOf (.obj fields) "candidate_cycles" = .ok (reportedCycles (.obj fields)) := by
    unfold statOf reportedCycles
    rw [matchingOf_obj found, reported_of_found found]
    rfl
  unfold candidateCycles
  rw [stat]
  generalize reportedCycles (.obj fields) = value
  dsimp only [bind, Except.bind, pure, Except.pure, throw, throwThe, MonadExceptOf.throw]
  unfold Json.orElse
  cases held : value.truthy with
  | false =>
      have finite : value.isInfinite = false := by
        cases infinite : value.isInfinite with
        | false => rfl
        | true => rw [Json.truthy_of_isInfinite infinite] at held; contradiction
      rw [Json.wholeOrZero_of_falsy held, finite]
      rfl
  | true =>
      simp only [if_true, Json.wholeOrZero]
      rcases value.toInteger_cases with ⟨n, read, finite⟩ | ⟨fault, read, finite, missing⟩ | ⟨infinite, read⟩
      · simp [read, finite, Except.toOption]
      · simp [read, finite, missing, Except.toOption]
      · simp [read, infinite, Fault.unreadable]

/-- Proposals that can be looked through are the objects among those that are reported. -/
theorem proposalsOf_eq {result : Json} {proposals : List Fields} (h : proposalsOf result = .ok proposals) :
    proposals = (reported result "proposals").objects := by
  unfold proposalsOf at h
  cases found : matchingOf result with
  | error fault =>
      rw [found] at h
      contradiction
  | ok matching =>
      rw [reported_of_matchingOf found]
      rw [found] at h
      replace h : ((Fields.get matching "proposals").orElse (.arr [])).objectItems = .ok proposals := h
      rw [Json.objectItems_orElse] at h
      split at h
      · contradiction
      · exact (Except.ok.inj h).symm

/-- The objects among the proposals that a matching result reports. -/
theorem selectedProposals_of_matching {result : Json} (h : isMatchingResult result = true) (maxProposals : Int) :
    selectedProposals result maxProposals = if (reported result "proposals").isSolid then .error .unsuitable
      else .ok (takeUpTo maxProposals (reported result "proposals").objects) := by
  obtain ⟨fields, matching, rfl, found⟩ := isMatchingResult_iff.mp h
  unfold selectedProposals proposalsOf
  rw [matchingOf_obj found, reported_of_found found]
  show ((Fields.get matching "proposals").orElse (.arr [])).objectItems >>= _ = _
  rw [Json.objectItems_orElse]
  split
  · rfl
  · rfl

end CanaryGate
