import CanaryGate.Digest.Sha256
import CanaryGate.Json.Value
import CanaryGate.Text.Blank
import CanaryGate.Text.Point

/-!
# Rollout buckets

Every run falls into one of ten thousand buckets, by a hash of who asked and when. The bucket
depends on nothing else, so a run keeps its bucket when the rollout grows. A text without bytes has
no hash, and the search for a bucket stops at it.
-/

namespace CanaryGate

namespace Rollout

/-- A hash function on bytes. -/
abbrev Hash := List UInt8 → List UInt8

/-- The number of buckets. -/
def space : Nat := 10000

/-- The word that stands for a missing actor field. -/
def unknownActor : String := "unknown"

/-- The word that stands for a missing idempotency key. -/
def noKey : String := "none"

/-- What a run is hashed by may be anything. The text of a value is whole; another text need not be. -/
inductive Trait where
  | value (v : Json)
  | text (s : List Point)

/-- The text, where the trait is one. -/
def Trait.text? : Trait → Option (List Point)
  | value v => v.str?.map Point.ofString
  | text s => some s

/-- A text that may be missing. -/
def Trait.optional : Option (List Point) → Trait
  | some s => text s
  | none => value .null

/-- Who asks for a run, under which key, and when. -/
structure Origin where
  actorType : Trait
  actorId : Trait
  idempotencyKey : Trait
  requestedAt : Trait

/-- The stripped text; a trait that is no text, or a blank one, counts as missing. -/
def normalize (trait : Trait) (default : String) : List Point :=
  match trait.text? with
  | some s =>
    if s.all (Point.isIn isBlank) then Point.ofString default else trimBoth (Point.isIn isBlank) s
  | none => Point.ofString default

/-- What a run is hashed by. -/
def key (salt : List Point) (o : Origin) (requestedAt : List Point) : List Point :=
  [.char '|'].intercalate [salt, normalize o.actorType unknownActor, normalize o.actorId unknownActor,
    normalize o.idempotencyKey noKey, requestedAt]

/-- The number in the first four bytes of a digest. -/
def leadingWord (digest : List UInt8) : Nat :=
  (digest.take 4).foldl (fun n byte => 256 * n + byte.toNat) 0

/-- The bucket under a hash function; there is none unless salt and request time are texts. -/
def bucketWith (hash : Hash) (salt : Trait) (o : Origin) : Except Unencodable (Option Nat) :=
  match salt.text?, o.requestedAt.text? with
  | some salt, some requestedAt => do
    let bytes ← Point.encode (key salt o requestedAt)
    return some (leadingWord (hash bytes) % space)
  | _, _ => .ok none

def bucket (salt : Trait) (o : Origin) : Except Unencodable (Option Nat) := bucketWith Sha256.digest salt o

/-- The bucket that a run is recorded under; zero where there is none. -/
def bucketBps (salt : Trait) (o : Origin) : Except Unencodable Nat := (bucket salt o).map (·.getD 0)

/-- A rollout of `bps` ten-thousandths takes the buckets below `bps`. -/
def includes (bucket bps : Int) : Bool := decide (bucket < bps)

theorem bucketWith_lt {hash : Hash} {salt : Trait} {o : Origin} {n : Nat} (h : bucketWith hash salt o = .ok (some n)) :
    n < space := by
  unfold bucketWith at h
  split at h
  · cases encoded : Point.encode (key _ o _) with
    | error e =>
        rw [encoded] at h
        cases h
    | ok bytes =>
        rw [encoded] at h
        cases h
        exact Nat.mod_lt _ (by decide)
  · cases h

end Rollout

end CanaryGate
