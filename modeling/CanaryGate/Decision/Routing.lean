import CanaryGate.Config.Records
import CanaryGate.Decision.Records
import CanaryGate.Fault
import CanaryGate.Rollout
import CanaryGate.Run.Records

/-!
# Routing

Whether a run goes to the candidate. In a graduated rollout every run does; in a canary those in the
rollout's buckets do. An operator's skip and a closed latch keep every run away.
-/

namespace CanaryGate

/-- What a run is hashed by, of what a request tells. -/
def Actor.origin (a : Actor) (idempotencyKey : Option String) (requestedAt : String) : Rollout.Origin :=
  ⟨.optional a.type, .optional a.id, .value (Json.optional .str idempotencyKey), .value (.str requestedAt)⟩

namespace RoutingDecision

/-- Nothing is rolled out. -/
def untracked : RoutingDecision := ⟨false, false, some "canary_disabled", none, false⟩

/-- Why a run is kept from the candidate; the first reason that holds. -/
def skipReason (forceSkip active bucketKnown inBucket : Bool) : Option String :=
  if forceSkip then some "operator_forced_skip"
  else if active then some "rollback_active"
  else if !bucketKnown then some "bucket_unavailable"
  else if !inBucket then some "rollout_excluded"
  else none

def tracked (forceSkip active : Bool) (bucket : Option Int) (bucketKnown inBucket : Bool) : RoutingDecision :=
  let reason := skipReason forceSkip active bucketKnown inBucket
  ⟨true, reason.isNone, reason, bucket, inBucket⟩

/-- The decision for a run for which a bucket was found, or none. A canary run without a bucket is recorded
under bucket zero and left out. -/
def placed (canary : CanaryConfig) (primary : PrimaryConfig) (rollback : RollbackSnapshot) (bucket : Option Nat) :
    RoutingDecision :=
  if !(canary.enabled || primary.enabled) then untracked
  else if primary.enabled then tracked canary.forceSkip rollback.active none true true
  else
    match bucket with
    | some bucket =>
      tracked canary.forceSkip rollback.active (some bucket) true
        (canary.forceBucket || Rollout.includes bucket canary.rolloutBps)
    | none => tracked canary.forceSkip rollback.active (some 0) false false

/-- The bucket of a run under a hash function. Only a canary looks for it. -/
def bucketWith (hash : Rollout.Hash) (canary : CanaryConfig) (primary : PrimaryConfig) (origin : Rollout.Origin) :
    Except Fault (Option Nat) :=
  if canary.enabled && !primary.enabled then
    (Rollout.bucketWith hash (.text canary.salt) origin).mapError .unencodable
  else .ok none

/-- Routes a run under a hash function. -/
def routeWith (hash : Rollout.Hash) (canary : CanaryConfig) (primary : PrimaryConfig) (rollback : RollbackSnapshot)
    (origin : Rollout.Origin) : Except Fault RoutingDecision :=
  (bucketWith hash canary primary origin).map (placed canary primary rollback)

def route (canary : CanaryConfig) (primary : PrimaryConfig) (rollback : RollbackSnapshot)
    (origin : Rollout.Origin) : Except Fault RoutingDecision :=
  routeWith Sha256.digest canary primary rollback origin

/-- A run is selected exactly when nothing keeps it away. -/
theorem canarySelected_placed (canary : CanaryConfig) (primary : PrimaryConfig) (rollback : RollbackSnapshot)
    (bucket : Option Nat) : (placed canary primary rollback bucket).canarySelected
      = (placed canary primary rollback bucket).skippedReason.isNone := by
  unfold placed
  split
  · rfl
  · split
    · rfl
    · split <;> rfl

/-- A closed latch keeps every run away. -/
theorem canarySelected_of_active {rollback : RollbackSnapshot} (h : rollback.active = true) (canary : CanaryConfig)
    (primary : PrimaryConfig) (bucket : Option Nat) :
    (placed canary primary rollback bucket).canarySelected = false := by
  have never : ∀ bucket known inside, (tracked canary.forceSkip true bucket known inside).canarySelected = false := by
    intro bucket known inside
    cases hs : canary.forceSkip <;> simp [tracked, skipReason]
  unfold placed
  split
  · rfl
  · rw [h]
    split
    · exact never _ _ _
    · split <;> exact never _ _ _

end RoutingDecision

end CanaryGate
