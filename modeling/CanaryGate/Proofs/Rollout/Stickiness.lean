import CanaryGate.Decision.Routing
import Mathlib.Data.List.DropRight

/-! # Who stays in a rollout

The bucket of a run sees of each field no more than its stripped text, or that it is missing. So it is the same for
whatever can stand for a field, and a canary that grows takes new runs without letting one go: it takes none at its
lower end, and all at the upper one that nothing else keeps away. Where one of the texts holds half of a surrogate pair
there is no bucket to be in, and the search for it breaks the run off.
-/

namespace CanaryGate

section Stripping

variable {α : Type} {drop : α → Bool}

theorem trimBoth_eq (s : List α) : trimBoth drop s = (s.dropWhile drop).rdropWhile drop := rfl

/-- Nothing is left at the front of a text that was trimmed there before it was trimmed at the end. -/
theorem dropWhile_trimBoth (s : List α) : (trimBoth drop s).dropWhile drop = trimBoth drop s := by
  rw [trimBoth_eq, List.dropWhile_eq_self_iff]
  intro some
  have front : (s.dropWhile drop).rdropWhile drop <+: s.dropWhile drop := List.rdropWhile_prefix drop _
  have longer := Nat.lt_of_lt_of_le some front.length_le
  have same := front.getElem some
  have kept := List.dropWhile_get_zero_not drop s longer
  rwa [List.get_eq_getElem, ← same] at kept

theorem trimBoth_trimBoth (s : List α) : trimBoth drop (trimBoth drop s) = trimBoth drop s := by
  rw [trimBoth_eq (trimBoth drop s), dropWhile_trimBoth, trimBoth_eq, List.rdropWhile_idempotent]

/-- A text is blank if nothing is left of it. -/
theorem trimBoth_eq_nil_iff {s : List α} : trimBoth drop s = [] ↔ s.all drop = true := by
  rw [trimBoth_eq, List.rdropWhile_eq_nil_iff, List.all_eq_true]
  constructor
  · intro rest c member
    rw [← List.takeWhile_append_dropWhile (p := drop) (l := s)] at member
    rcases List.mem_append.mp member with front | back
    · exact List.mem_takeWhile_imp front
    · exact rest c back
  · exact fun all c member => all c ((List.dropWhile_suffix drop).subset member)

theorem all_trimBoth_self (s : List α) : (trimBoth drop s).all drop = s.all drop := by
  rw [Bool.eq_iff_iff, ← trimBoth_eq_nil_iff, ← trimBoth_eq_nil_iff, trimBoth_trimBoth]

end Stripping

namespace Point

/-- A text has bytes exactly if it is whole. -/
theorem encode_of_whole {s : List Point} (h : whole s = true) : ∃ bytes, encode s = .ok bytes := by
  unfold encode
  rw [if_pos h]
  exact ⟨_, rfl⟩

theorem encode_of_torn {s : List Point} (h : ¬ whole s = true) : encode s = .error (firstHalves s) := by
  unfold encode
  rw [if_neg h]

end Point

namespace Rollout

/-- The trait is a text. -/
def Trait.IsText (trait : Trait) : Prop := ∃ s, trait.text? = some s

/-- If the trait is a text, then no half of a pair stands in it. -/
def Trait.Whole (trait : Trait) : Prop := ∀ s, trait.text? = some s → Point.whole s = true

theorem Trait.whole_iff {trait : Trait} {s : List Point} (text : trait.text? = some s) :
    trait.Whole ↔ Point.whole s = true := by
  unfold Whole
  rw [text]
  exact ⟨fun h => h s rfl, fun h t same => Option.some.inj same ▸ h⟩

theorem Trait.whole_value (value : Json) : (Trait.value value).Whole := by
  intro s text
  obtain ⟨t, -, rfl⟩ := Option.map_eq_some_iff.mp text
  exact Point.whole_ofString t

structure Origin.Whole (o : Origin) : Prop where
  actorType : o.actorType.Whole
  actorId : o.actorId.Whole
  idempotencyKey : o.idempotencyKey.Whole
  requestedAt : o.requestedAt.Whole

/-- There is no text in the trait that is not blank. -/
def Missing (trait : Trait) : Prop := ∀ s, trait.text? = some s → s.all (Point.isIn isBlank) = true

/-- The second trait can stand for the first one where `word` stands for a missing field. -/
inductive StandsFor (word : String) : Trait → Trait → Prop where
  | same (trait : Trait) : StandsFor word trait trait
  | stripped {trait other : Trait} {s : List Point} (text : trait.text? = some s)
      (bare : other.text? = some (trimBoth (Point.isIn isBlank) s)) : StandsFor word trait other
  | missing {trait other : Trait} (first : Missing trait) (second : Missing other) : StandsFor word trait other
  | named {trait other : Trait} (first : Missing trait) (second : other.text? = some (Point.ofString word)) :
      StandsFor word trait other

/-- The origin `o'` can stand for `o`: each field of the actor and the key for its own, at the same time. -/
structure Origin.StandsFor (o o' : Origin) : Prop where
  types : Rollout.StandsFor unknownActor o.actorType o'.actorType
  ids : Rollout.StandsFor unknownActor o.actorId o'.actorId
  keys : Rollout.StandsFor noKey o.idempotencyKey o'.idempotencyKey
  time : o'.requestedAt = o.requestedAt

theorem normalize_of_missing {trait : Trait} (missing : Missing trait) (word : String) :
    normalize trait word = Point.ofString word := by
  unfold normalize
  split
  · next s text => rw [if_pos (missing s text)]
  · rfl

theorem normalize_stripped {trait other : Trait} {s : List Point} (text : trait.text? = some s)
    (bare : other.text? = some (trimBoth (Point.isIn isBlank) s)) (word : String) :
    normalize other word = normalize trait word := by
  unfold normalize
  simp only [text, bare, all_trimBoth_self, trimBoth_trimBoth]

/-- A word that is a stripped text is read as itself. -/
theorem normalize_word {word : String} {trait : Trait}
    (stripped : trimBoth (Point.isIn isBlank) (Point.ofString word) = Point.ofString word)
    (text : trait.text? = some (Point.ofString word)) : normalize trait word = Point.ofString word := by
  unfold normalize
  simp only [text, stripped, ite_self]

theorem normalize_of_standsFor {word : String}
    (stripped : trimBoth (Point.isIn isBlank) (Point.ofString word) = Point.ofString word) {trait other : Trait}
    (h : StandsFor word trait other) : normalize other word = normalize trait word := by
  cases h with
  | same => rfl
  | stripped text bare => exact normalize_stripped text bare word
  | missing first second => rw [normalize_of_missing first, normalize_of_missing second]
  | named first second => rw [normalize_of_missing first, normalize_word stripped second]

theorem key_of_standsFor {o o' : Origin} (h : o.StandsFor o') (salt requestedAt : List Point) :
    key salt o' requestedAt = key salt o requestedAt := by
  have unknown : trimBoth (Point.isIn isBlank) (Point.ofString unknownActor) = Point.ofString unknownActor := by
    decide +kernel
  have unkeyed : trimBoth (Point.isIn isBlank) (Point.ofString noKey) = Point.ofString noKey := by
    decide +kernel
  unfold key
  rw [normalize_of_standsFor unknown h.types, normalize_of_standsFor unknown h.ids,
    normalize_of_standsFor unkeyed h.keys]

/-- Only blanks are stripped, and no half of a pair is one. -/
theorem whole_normalize (trait : Trait) (word : String) :
    Point.whole (normalize trait word) = true ↔ trait.Whole := by
  unfold normalize
  split
  · next s text =>
    rw [Trait.whole_iff text]
    split
    · next blank =>
      have chars : Point.whole s = true :=
        List.all_eq_true.mpr fun p member => Point.isChar_of_isIn p (List.all_eq_true.mp blank p member)
      rw [chars, Point.whole_ofString]
    · rw [Point.whole_trimBoth]
  · next none =>
    rw [Point.whole_ofString]
    exact ⟨fun _ s text => (nomatch none.symm.trans text), fun _ => rfl⟩

theorem whole_key (salt : List Point) (o : Origin) (requestedAt : List Point) :
    Point.whole (key salt o requestedAt) = true ↔ Point.whole salt = true ∧ o.actorType.Whole ∧ o.actorId.Whole
      ∧ o.idempotencyKey.Whole ∧ Point.whole requestedAt = true := by
  have bar : Point.whole [.char '|'] = true := rfl
  have append : ∀ s t, Point.whole (s ++ t) = (Point.whole s && Point.whole t) := fun s t => List.all_append
  rw [← whole_normalize o.actorType unknownActor, ← whole_normalize o.actorId unknownActor,
    ← whole_normalize o.idempotencyKey noKey]
  simp only [key, List.intercalate, List.intersperse, List.flatten_cons, List.flatten_nil, append, bar,
    Bool.and_eq_true, List.append_nil, true_and]

/-- The bucket of a run, where the texts that it is hashed by are whole, or the place where they are not. -/
theorem bucketWith_eq (hash : Hash) {salt : Trait} {o : Origin} (salted : salt.IsText) (timed : o.requestedAt.IsText) :
    (salt.Whole ∧ o.Whole → ∃ n : Nat, bucketWith hash salt o = .ok (some n))
      ∧ (¬ (salt.Whole ∧ o.Whole) → ∃ error, bucketWith hash salt o = .error error) := by
  obtain ⟨saltText, salted⟩ := salted
  obtain ⟨time, timed⟩ := timed
  have whole : Point.whole (key saltText o time) = true ↔ salt.Whole ∧ o.Whole := by
    rw [whole_key, ← Trait.whole_iff salted, ← Trait.whole_iff timed]
    exact ⟨fun ⟨s, t, i, k, r⟩ => ⟨s, t, i, k, r⟩, fun ⟨s, t, i, k, r⟩ => ⟨s, t, i, k, r⟩⟩
  have found : bucketWith hash salt o = (do
      let bytes ← Point.encode (key saltText o time)
      return some (leadingWord (hash bytes) % space)) := by
    unfold bucketWith
    rw [salted, timed]
  rw [found, ← whole]
  constructor
  · intro h
    obtain ⟨bytes, encoded⟩ := Point.encode_of_whole h
    exact ⟨leadingWord (hash bytes) % space, by rw [encoded]; rfl⟩
  · intro h
    exact ⟨_, by rw [Point.encode_of_torn h]; rfl⟩

theorem bucketWith_of_standsFor (hash : Hash) (salt : Trait) {o o' : Origin} (h : o.StandsFor o') :
    bucketWith hash salt o' = bucketWith hash salt o := by
  unfold bucketWith
  rw [h.time]
  split
  · rw [key_of_standsFor h]
  · rfl

end Rollout

namespace RoutingDecision

theorem canarySelected_tracked (forceSkip active known inside : Bool) (bucket : Option Int) :
    (tracked forceSkip active bucket known inside).canarySelected = (!forceSkip && !active && known && inside) := by
  cases forceSkip <;> cases active <;> cases known <;> cases inside <;> rfl

/-- Whether a run is selected by a canary of `bps` ten-thousandths, all else as it is configured. -/
def selectedAt (hash : Rollout.Hash) (canary : CanaryConfig) (primary : PrimaryConfig) (rollback : RollbackSnapshot)
    (o : Rollout.Origin) (bps : Int) : Except Fault Bool :=
  (routeWith hash { canary with rolloutBps := bps } primary rollback o).map (·.canarySelected)

variable {canary : CanaryConfig} {primary : PrimaryConfig} (on : canary.enabled = true)
  (ungraduated : primary.enabled = false) (hash : Rollout.Hash) (rollback : RollbackSnapshot) {o : Rollout.Origin}
include on ungraduated

/-- A canary selects the runs below its share, of those that nothing else keeps away. -/
theorem selectedAt_of_bucket {n : Nat}
    (found : Rollout.bucketWith hash (.text canary.salt) o = .ok (some n)) (bps : Int) :
    selectedAt hash canary primary rollback o bps
      = .ok (!canary.forceSkip && !rollback.active && (canary.forceBucket || decide ((n : Int) < bps))) := by
  unfold selectedAt routeWith bucketWith placed
  simp only [on, ungraduated, Bool.not_false, Bool.and_self, if_true, found, Bool.or_false, Bool.not_true,
    Bool.false_eq_true, if_false, Except.mapError, Except.map]
  rw [canarySelected_tracked, Bool.and_true]
  rfl

theorem selectedAt_of_torn {error : Unencodable}
    (torn : Rollout.bucketWith hash (.text canary.salt) o = .error error) (bps : Int) :
    selectedAt hash canary primary rollback o bps = .error (.unencodable error) := by
  unfold selectedAt routeWith bucketWith
  simp only [on, ungraduated, Bool.not_false, Bool.and_self, if_true, torn, Except.mapError, Except.map]

end RoutingDecision

namespace Rollout

open RoutingDecision

/-- Under any hash a run with a salt and a time has one of the ten thousand buckets exactly if no half of a surrogate
pair stands in what it is hashed by, and otherwise the search for one fails; the outcome is the same for all that can
stand for its fields. A canary that grows keeps the runs that it has; without a forced bucket it starts with none, and
in the end it has every run but those that the operator or the latch keeps away. A run whose bucket cannot be found is
not routed at all. -/
theorem sticky_and_exact_at_ends (hash : Hash) :
    (∀ (salt : Trait) (o : Origin), salt.IsText → o.requestedAt.IsText →
      ((∃ n : Nat, n ≤ 9999 ∧ bucketWith hash salt o = .ok (some n)) ↔ salt.Whole ∧ o.Whole)
        ∧ ((∃ error, bucketWith hash salt o = .error error) ↔ ¬ (salt.Whole ∧ o.Whole))
        ∧ ∀ o' : Origin, o.StandsFor o' → bucketWith hash salt o' = bucketWith hash salt o)
    ∧ ∀ (canary : CanaryConfig) (primary : PrimaryConfig) (rollback : RollbackSnapshot) (o : Origin),
      canary.enabled = true → primary.enabled = false → o.requestedAt.IsText →
      let selected := selectedAt hash canary primary rollback o
      let whole := (Trait.text canary.salt).Whole ∧ o.Whole
      (whole → (∀ bps, ∃ taken, selected bps = .ok taken)
        ∧ (∀ bps grown, bps ≤ grown → selected bps = .ok true → selected grown = .ok true)
        ∧ (canary.forceBucket = false → selected 0 = .ok false)
        ∧ (selected 10000 = .ok true ↔ canary.forceSkip = false ∧ rollback.active = false))
      ∧ (¬ whole → ∃ error, ∀ bps, selected bps = .error (.unencodable error)) := by
  constructor
  · intro salt o salted timed
    obtain ⟨whole, torn⟩ := bucketWith_eq hash salted timed
    refine ⟨⟨fun ⟨n, _, found⟩ => ?_, fun h => ?_⟩, ⟨fun ⟨error, failed⟩ h => ?_, torn⟩,
      fun o' h => bucketWith_of_standsFor hash salt h⟩
    · by_contra h
      obtain ⟨error, failed⟩ := torn h
      exact nomatch found.symm.trans failed
    · obtain ⟨n, found⟩ := whole h
      exact ⟨n, Nat.le_of_lt_succ (bucketWith_lt found), found⟩
    · obtain ⟨n, found⟩ := whole h
      exact nomatch found.symm.trans failed
  · intro canary primary rollback o on ungraduated timed selected _
    have salted : (Trait.text canary.salt).IsText := ⟨canary.salt, rfl⟩
    obtain ⟨whole, torn⟩ := bucketWith_eq hash salted timed
    refine ⟨fun h => ?_, fun h => ?_⟩
    · obtain ⟨n, found⟩ := whole h
      have below : n < space := bucketWith_lt found
      have decided : ∀ bps, selected bps
          = .ok (!canary.forceSkip && !rollback.active && (canary.forceBucket || decide ((n : Int) < bps))) :=
        selectedAt_of_bucket on ungraduated hash rollback found
      refine ⟨fun bps => ⟨_, decided bps⟩, fun bps grown larger taken => ?_, fun unforced => ?_, ?_⟩
      · rw [decided, Except.ok.injEq] at taken ⊢
        simp only [Bool.and_eq_true, Bool.or_eq_true, decide_eq_true_eq] at taken ⊢
        exact ⟨taken.1, taken.2.imp_right fun inside => Int.lt_of_lt_of_le inside larger⟩
      · have outside : ¬ (n : Int) < 0 := Int.not_lt.mpr (Int.natCast_nonneg n)
        rw [decided, unforced, decide_eq_false outside]
        simp
      · have inside : (n : Int) < 10000 := Int.ofNat_lt.mpr below
        rw [decided, decide_eq_true inside]
        simp
    · obtain ⟨error, failed⟩ := torn h
      exact ⟨error, selectedAt_of_torn on ungraduated hash rollback failed⟩

/-- A partner without an id is found in its bucket again when its type loses the blanks around it and the missing id is
spelled out. It is in half of the rollout and stays there when that grows, and is left out when nothing is rolled
out. -/
theorem sticky_of_partner :
    let hash : Hash := fun _ => [0, 0, 8, 0]
    let canary : CanaryConfig := { CanaryConfig.default with enabled := true }
    let salt : Trait := .text canary.salt
    let time : Trait := .value (.str "2026-03-01T12:00:00.000Z")
    let o : Origin := ⟨.value (.str "\u3000partner "), .value .null, .value .null, time⟩
    let o' : Origin := ⟨.value (.str "partner"), .value (.str "unknown"), .value (.int 7), time⟩
    let selected := selectedAt hash canary .default ⟨false, none⟩ o
    salt.IsText ∧ o.requestedAt.IsText ∧ salt.Whole ∧ o.Whole ∧ o.StandsFor o'
      ∧ (∃ n : Nat, n ≤ 9999 ∧ bucketWith hash salt o = .ok (some n)) ∧ bucketWith hash salt o' = bucketWith hash salt o
      ∧ canary.enabled = true ∧ PrimaryConfig.default.enabled = false
      ∧ selected 5000 = .ok true ∧ selected 7500 = .ok true ∧ selected 0 = .ok false ∧ selected 10000 = .ok true := by
  intro hash canary salt time o o' selected
  have whole := Trait.whole_value
  have salted : salt.Whole := (Trait.whole_iff rfl).mpr (Point.whole_ofString _)
  have known : o.Whole := ⟨whole _, whole _, whole _, whole _⟩
  have stands : o.StandsFor o' := by
    refine ⟨.stripped (s := Point.ofString "\u3000partner ") rfl ?_, .named nofun rfl, .missing nofun nofun, rfl⟩
    decide +kernel
  have half : selected 5000 = .ok true := by decide +kernel
  obtain ⟨buckets, canaries⟩ := sticky_and_exact_at_ends hash
  obtain ⟨found, -, same⟩ := buckets salt o ⟨_, rfl⟩ ⟨_, rfl⟩
  obtain ⟨sound, -⟩ := canaries canary .default ⟨false, none⟩ o rfl rfl ⟨_, rfl⟩
  obtain ⟨-, grows, none, all⟩ := sound ⟨salted, known⟩
  exact ⟨⟨_, rfl⟩, ⟨_, rfl⟩, salted, known, stands, found.mpr ⟨salted, known⟩, same o' stands, rfl, rfl, half,
    grows 5000 7500 (by decide) half, none rfl, all.mpr ⟨rfl, rfl⟩⟩

/-- An actor whose id is half of a surrogate pair has no bucket, and a canary cannot route its run. -/
theorem no_bucket_of_half :
    let canary : CanaryConfig := { CanaryConfig.default with enabled := true }
    let o : Origin :=
      ⟨.value (.str "user"), .text [.half 0], .value .null, .value (.str "2026-03-01T12:00:00.000Z")⟩
    let error : Unencodable := ⟨24, 1, 0xD800⟩
    bucket (.text canary.salt) o = .error error
      ∧ route canary .default ⟨false, none⟩ o = .error (.unencodable error) := by
  decide +kernel

end Rollout

end CanaryGate
