import CanaryGate.Json.Coerce
import CanaryGate.Numeric.Sum

/-!
# Comparing two engine results

What a candidate's result has in common with a baseline's: the numbers of candidate cycles, the
cycles selected by both or by one alone, and the difference of their confidence sums in ten
thousandths. Results come from outside, so every part of them may be missing or of another kind.
-/

namespace CanaryGate

/-- The part of a result that the engine reports under its matching name. -/
def matchingOf (result : Json) : Except Fault Fields :=
  if !result.truthy then .ok []
  else match result with
    | .obj fields =>
      match Fields.get fields "matching" with
      | .obj matching => .ok matching
      | _ => .ok []
    | _ => .error .noFields

theorem matchingOf_obj {fields matching : Fields} (h : Fields.get fields "matching" = .obj matching) :
    matchingOf (.obj fields) = .ok matching := by
  have present : (Json.obj fields).truthy = true := by
    cases fields with
    | nil => simp [Fields.get, Fields.get?] at h
    | cons field rest => rfl
  simp [matchingOf, present, h]

/-- One of the reported statistics, null if it is not there. -/
def statOf (result : Json) (name : String) : Except Fault Json := do
  let matching ← matchingOf result
  return (Fields.get matching "stats").fieldD name

/-- Faults that count as a missing number. -/
def Fault.unreadable : Fault → Bool
  | .unsuitable | .numeral _ | .nanInteger => true
  | _ => false

/-- The number of cycles the engine considered; zero if it reports none that can be read. -/
def candidateCycles (result : Json) : Except Fault Int := do
  let stat ← statOf result "candidate_cycles"
  match (stat.orElse (.int 0)).toInteger with
  | .ok n => return n
  | .error fault => if fault.unreadable then return 0 else throw fault

/-- Whether an engine stopped early, by its own account. -/
structure SafetySignals where
  timedOut : Bool
  limited : Bool
  deriving DecidableEq, Repr

def safetySignals (result : Json) : Except Fault SafetySignals := do
  let timedOut ← statOf result "cycle_enumeration_timed_out"
  let limited ← statOf result "cycle_enumeration_limited"
  return ⟨timedOut.truthy, limited.truthy⟩

/-- The first `count` items; a negative count leaves off that many at the end. -/
def takeUpTo (count : Int) (items : List α) : List α :=
  items.take (if 0 ≤ count then count.toNat else items.length - count.natAbs)

theorem takeUpTo_prefix (count : Int) (items : List α) : takeUpTo count items <+: items :=
  List.take_prefix _ _

def proposalsOf (result : Json) : Except Fault (List Fields) := do
  let matching ← matchingOf result
  ((Fields.get matching "proposals").orElse (.arr [])).objectItems

/-- The objects among a result's proposals, at most `maxProposals` of them. -/
def selectedProposals (result : Json) (maxProposals : Int) : Except Fault (List Fields) := do
  return takeUpTo maxProposals (← proposalsOf result)

/-- The first items up to a limit of any kind; null is no limit. -/
def takeWithin (limit : Json) (items : List α) : Except Fault (List α) :=
  match limit with
  | .null => .ok items
  | limit => limit.wholeNumber.map fun count => takeUpTo count items

/-- An integer is a limit like any other. -/
@[simp] theorem takeWithin_int (count : Int) (items : List α) :
    takeWithin (.int count) items = .ok (takeUpTo count items) := rfl

/-- Texts in increasing order of their characters. -/
def sortTexts (texts : List String) : List String := texts.mergeSort (fun a b => !decide (b < a))

theorem sortTexts_perm (texts : List String) : (sortTexts texts).Perm texts := List.mergeSort_perm _ _

/-- What a proposal is recognised by: its id, or else the sorted ids of the participating intents. -/
def cycleKey (proposal : Fields) : Except Fault String :=
  let id := Fields.get proposal "id"
  if id.truthy then id.spelled
  else do
    let participants ← ((Fields.get proposal "participants").orElse (.arr [])).objectItems
    let intents ← participants.mapM fun p => (Fields.get p "intent_id").spelled
    return ">".intercalate (sortTexts intents)

/-- The confidence score of a proposal; a missing one counts as zero. -/
def score (proposal : Fields) : Except Fault Binary64 :=
  ((Fields.get proposal "confidence_score").orElse (.float .zero)).toDouble

def scoreSum (proposals : List Fields) : Except Fault Binary64 := do
  return Binary64.sum (← proposals.mapM score)

/-- The sum of the confidence scores of the items of a value, each of which has to be an object. -/
def scoreSumOf (proposals : Json) : Except Fault Binary64 := do
  return Binary64.sum (← (← proposals.itemsOf).mapM fun p => p.fieldsOf >>= score)

/-- Scores are compared in units of one ten-thousandth. -/
def scoreScale : Nat := 10000

/-- A score in ten-thousandths, rounded to the nearest, a half to the even one. -/
def scaled (score : Binary64) : Except Fault Int :=
  match score.mul (Binary64.ofNat scoreScale) with
  | .finite negative rank => .ok (Binary64.nearestInt negative rank)
  | .infinite _ => .error .infiniteInteger
  | .nan => .error .nanInteger

/-- A whole score in ten-thousandths, as a double holds them; they must fit into 64 bits. -/
def scaledWhole (score : Int) : Except Fault Int :=
  let units := score * scoreScale
  if -0x8000000000000000 ≤ units ∧ units < 0x10000000000000000 then (.float (Binary64.ofInt units) : Json).toInteger else .error .unsuitable

/-- A comparison of two results. -/
structure Comparison where
  baselineCycles : Int
  candidateCycles : Int
  baselineSelected : Nat
  candidateSelected : Nat
  baselineScore : Int
  candidateScore : Int
  /-- Keys selected by both, increasing. -/
  overlap : List String
  /-- Keys selected by the baseline alone, increasing. -/
  onlyBaseline : List String
  /-- Keys selected by the candidate alone, increasing. -/
  onlyCandidate : List String
  deriving DecidableEq, Repr

namespace Comparison

/-- The distinct keys that satisfy a test, increasing. -/
def keysWhere (test : String → Bool) (keys : List String) : List String :=
  sortTexts ((keys.filter test).eraseDups)

/-- Compares the proposals that are selected of two results. -/
def ofSelected (baseline candidate : Json) (base cand : List Fields) : Except Fault Comparison := do
  let baseKeys ← base.mapM cycleKey
  let candKeys ← cand.mapM cycleKey
  let baseSum ← scoreSum base
  let candSum ← scoreSum cand
  let baseScore ← scaled baseSum
  let candScore ← scaled candSum
  let baseCycles ← CanaryGate.candidateCycles baseline
  let candCycles ← CanaryGate.candidateCycles candidate
  return {
    baselineCycles := baseCycles
    candidateCycles := candCycles
    baselineSelected := base.length
    candidateSelected := cand.length
    baselineScore := baseScore
    candidateScore := candScore
    overlap := keysWhere (candKeys.contains ·) baseKeys
    onlyBaseline := keysWhere (!candKeys.contains ·) baseKeys
    onlyCandidate := keysWhere (!baseKeys.contains ·) candKeys }

/-- Compares the first proposals of two results, up to a limit of any kind. -/
def ofResults (baseline candidate limit : Json) : Except Fault Comparison := do
  let base ← takeWithin limit (← proposalsOf baseline)
  let cand ← takeWithin limit (← proposalsOf candidate)
  ofSelected baseline candidate base cand

/-- An integer as the limit selects that many proposals of each result. -/
theorem ofResults_int (baseline candidate : Json) (maxProposals : Int) :
    ofResults baseline candidate (.int maxProposals) =
      selectedProposals baseline maxProposals >>= fun base =>
        selectedProposals candidate maxProposals >>= fun cand => ofSelected baseline candidate base cand := by
  unfold ofResults selectedProposals
  cases proposalsOf baseline <;> cases proposalsOf candidate <;> rfl

/-- How much higher the candidate scores, in ten-thousandths. -/
def scoreDelta (c : Comparison) : Int := c.candidateScore - c.baselineScore

/-- The difference of the scores as a double with four places. -/
def scoreDeltaDouble (c : Comparison) : Binary64 :=
  (Binary64.ofRatio (decide (c.scoreDelta < 0)) c.scoreDelta.natAbs scoreScale).roundTo 4

/-- The figures of a comparison, named after the labels of the two sides. -/
def metrics (c : Comparison) (baseline candidate : String) : Fields :=
  Fields.ofList [
    (baseline ++ "_candidate_cycles", .int c.baselineCycles),
    (candidate ++ "_candidate_cycles", .int c.candidateCycles),
    (baseline ++ "_selected_proposals", .int c.baselineSelected),
    (candidate ++ "_selected_proposals", .int c.candidateSelected),
    (baseline ++ "_vs_" ++ candidate ++ "_overlap", .int c.overlap.length),
    (baseline ++ "_score_sum_scaled", .int c.baselineScore),
    (candidate ++ "_score_sum_scaled", .int c.candidateScore),
    ("delta_score_sum_scaled", .int c.scoreDelta),
    ("delta_score_sum", .float c.scoreDeltaDouble)]

/-- The keys of a comparison, named after the labels of the two sides. -/
def selectedKeys (c : Comparison) (baseline candidate : String) : Fields :=
  Fields.ofList [
    ("overlap_count", .int c.overlap.length),
    ("only_" ++ baseline ++ "_count", .int c.onlyBaseline.length),
    ("only_" ++ candidate ++ "_count", .int c.onlyCandidate.length),
    ("overlap", .arr (c.overlap.map .str)),
    ("only_" ++ baseline, .arr (c.onlyBaseline.map .str)),
    ("only_" ++ candidate, .arr (c.onlyCandidate.map .str))]

end Comparison

end CanaryGate
