import CanaryGate.Proofs.Run.EngineLoad
import CanaryGate.Proofs.Run.Retention

/-! # What a run may touch

A run whose baseline fails leaves nothing behind but its number. What is switched off leaves its namespace alone,
whether the run returns or not; and to a shelf a run adds a record of its own at most, behind those that stand there,
and takes away none but the oldest.
-/

namespace CanaryGate

open Attempt

variable {σ : Type}

namespace Run

namespace Plan

variable {p : Plan σ}

/-- An untracked run looks at the latch, and does nothing else with it. -/
theorem leaves_latch_of_untracked (untracked : p.tracked = false) : Leaves (World.shows Rollback.space) p.attempt := by
  have unreset : p.resets = false := by
    unfold tracked at untracked
    unfold resets
    rw [(Bool.or_eq_false_iff.mp untracked).2, Bool.false_and]
  refine .of_keeps fun shown => Preserves.attempt (P := fun s => s.shows Rollback.space = shown) {
    opening := (p.leaves_opening (by decide)).keeps (· = shown)
    resetting := ?resetting
    shadowing := fun runId baseline before selection =>
      (p.leaves_shadowing (by decide) runId baseline before selection).keeps (· = shown)
    crossing := fun runId selection => (p.leaves_crossing (by decide) runId selection).keeps (· = shown)
    latching := ?latching
    recording := fun runId before decision => (p.leaves_recording (by decide) runId before decision).keeps (· = shown) }
  case resetting =>
    unfold resetting
    rw [unreset]
    exact .pure _
  case latching =>
    intro runId before sample
    unfold latching
    rw [p.trackingEnabled_routing, untracked]
    exact (leaves_untouched _ _).keeps fun s => s.shows Rollback.space = shown

/-- A run without an alternate shadow does not touch its namespace. -/
theorem leaves_crossChecks (off : p.configs.altShadow.enabled = false) :
    Leaves (World.shows AltShadow.space) p.attempt := by
  refine .of_keeps fun shown => Preserves.attempt (P := fun s => s.shows AltShadow.space = shown) {
    opening := (p.leaves_opening (by decide)).keeps (· = shown)
    resetting := (p.leaves_resetting (by decide)).keeps (· = shown)
    shadowing := fun runId baseline before selection =>
      (p.leaves_shadowing (by decide) runId baseline before selection).keeps (· = shown)
    crossing := ?crossing
    latching := fun runId before sample => (p.leaves_latching (by decide) runId before sample).keeps (· = shown)
    recording := fun runId before decision => (p.leaves_recording (by decide) runId before decision).keeps (· = shown) }
  intro runId selection
  unfold crossing AltShadow.run
  rw [off]
  exact .pure _

end Plan

section

variable {p : Plan σ} {w v : World σ} {runId : String} {engine : Engine σ} {failure : EngineFailure}

/-- What a failure of the baseline stops a run with: itself, unless its words get through the boundary. -/
inductive StoppedBy (failure : EngineFailure) : Fault → Prop where
  | blamed (fits : ∀ error, ¬ LogText.Oversized failure.message error) :
      StoppedBy failure (.baselineFailed failure.name (failure.worded baselineCode).message)
  | escaped {error : Json.ReadError} (oversized : LogText.Oversized failure.message error) :
      StoppedBy failure (.document error)

theorem baselineResult_of_failing {request : EngineRequest} (fails : engine.Fails request none v.engines failure) :
    ∃ fault stopped, (baselineResult (some engine) request).outcome v = (.error fault, stopped)
      ∧ StoppedBy failure fault := by
  have executed := engine.outcome_execute request baselineCode none v
  rw [Engine.verdict_of_fails fails] at executed
  by_cases big : ∃ error, LogText.Oversized failure.message error
  · obtain ⟨error, oversized⟩ := big
    rw [Engine.settle_of_oversized oversized] at executed
    exact ⟨_, _, outcome_bind_of_error executed, .escaped oversized⟩
  · push Not at big
    rw [Engine.settle_of_fitting big] at executed
    exact ⟨_, _, outcome_bind_of_ok executed, .blamed big⟩

/-- A run whose baseline fails stops there, and has put nothing in the store but its number. -/
theorem opening_of_failing (named : nextId.outcome w = (.ok runId, v)) (configured : p.engines.baseline = some engine)
    (fails : engine.Fails (p.ask p.configs.baselineMatcher) none w.engines failure) :
    ∃ fault stopped, p.opening.outcome w = (.error fault, stopped) ∧ StoppedBy failure fault
      ∧ stopped.store = v.store := by
  rw [← Plan.leaves_engines_nextId.of_eq named] at fails
  obtain ⟨fault, stopped, answered, by_failure⟩ := baselineResult_of_failing fails
  have answering : (baselineResult p.engines.baseline (p.ask p.configs.baselineMatcher) >>= fun baseline =>
      pure (runId, baseline)).outcome v = (.error fault, stopped) := by
    rw [configured]
    exact outcome_bind_of_error answered
  have kept := (leaves_baselineResult (some engine) (p.ask p.configs.baselineMatcher)).of_eq answered
  exact ⟨fault, stopped, (outcome_bind_of_ok named).trans answering, by_failure, kept⟩

end

/-- Of the store nothing but the counter of the runs is different: it is one higher, in the file as in memory. -/
structure CountedOnly (before after : Store) : Prop where
  counter : ∃ counters count, before.namespaces.entriesOf Namespaces.sequences = .obj counters
    ∧ (Fields.get? counters Run.counter).getD (.int 0) = .int count
    ∧ after.shows Namespaces.sequences = some (.obj (Fields.set counters Run.counter (.int (count + 1))))
  elsewhere : ∀ space, space ≠ Namespaces.sequences → after.shows space = before.shows space
  file : ∃ n : Int, Store.Filed (.ok n) before after

/-- What is left of a run whose baseline fails. -/
structure FailedRun (p : Plan σ) (w : World σ) (failure : EngineFailure) : Prop where
  /-- It stops with the failure, but for words that get through. -/
  stopped : ∃ fault, (p.attempt.outcome w).1 = .error fault ∧ StoppedBy failure fault
  asked : p.invocations w = [⟨.baseline, p.ask p.configs.baselineMatcher⟩]
  store : CountedOnly w.store (p.attempt.outcome w).2.store

/-- What a run makes of a shelf. -/
inductive Shelved (p : Plan σ) (w : World σ) (old : Fields) : Fields → Prop where
  | same : Shelved p w old old
  /-- A record is added in the name of the run, which the shelf did not know, and the oldest make room. -/
  | added {runId : String} (value : Json) (evicted : Nat) (named : (nextId.outcome w).1 = .ok runId)
      (fresh : runId ∉ Fields.names old) : Shelved p w old ((old ++ [(runId, value)]).drop evicted)

/-- What a run touches. -/
structure Footprint (p : Plan σ) (w : World σ) : Prop where
  failed : ∀ engine failure, p.engines.baseline = some engine →
    engine.Fails (p.ask p.configs.baselineMatcher) none w.engines failure → Finishes nextId w → FailedRun p w failure
  untracked : p.tracked = false → (p.attempt.outcome w).2.shows Rollback.space = w.shows Rollback.space
    ∧ (p.attempt.outcome w).2.shows decisionSpace = w.shows decisionSpace
  unshadowed : p.configs.canary.shadowEnabled = false →
    (p.attempt.outcome w).2.shows Shadow.space = w.shows Shadow.space
  uncrossed : p.configs.altShadow.enabled = false →
    (p.attempt.outcome w).2.shows AltShadow.space = w.shows AltShadow.space
  shelves : ∀ shelf : Shelf, ∃ old new, w.store.namespaces.entriesOf shelf.space = .obj old
    ∧ (p.attempt.outcome w).2.store.namespaces.entriesOf shelf.space = .obj new ∧ Shelved p w old new

variable {p : Plan σ} {w : World σ}

theorem countedOnly_of_nextId {count : Int} (counts : w.store.namespaces.Counts count) (outermost : w.store.Outermost)
    {runId : String} {v : World σ} (named : nextId.outcome w = (.ok runId, v)) : CountedOnly w.store v.store := by
  obtain ⟨n, u, counted, lifted⟩ := bind_eq_ok.mp named
  obtain ⟨-, rfl⟩ := Prod.mk.inj lifted
  have finished : (Change.number.attempt : Attempt (World σ) Int).outcome w = (.ok n, u) := counted
  have filed := Change.files_attempt (σ := σ) (c := .number) (fun q same => nomatch same) w outermost
  rw [finished] at filed
  have after : u.store.namespaces = (w.store.namespaces.advance counter).2 := by
    have left := Moment.namespaces_of_number w
    rwa [Moment.after, finished] at left
  refine ⟨?counter, ?elsewhere, n, filed⟩
  case counter =>
    obtain ⟨counters, here, held⟩ := counts
    refine ⟨counters, count, here, held, ?_⟩
    unfold Store.shows
    rw [after]
    unfold Namespaces.advance
    simp only [Namespaces.entriesOf_ensure, here, held, Json.toInteger, Fields.get?_set, if_true]
  case elsewhere =>
    intro space apart
    have same := Moment.shows_after (⟨w, .number⟩ : Moment σ) apart
    rwa [Moment.after, finished] at same

theorem failedRun_of_fails {count : Int} (counts : w.store.namespaces.Counts count) (outermost : w.store.Outermost)
    {engine : Engine σ} {failure : EngineFailure} (configured : p.engines.baseline = some engine)
    (fails : engine.Fails (p.ask p.configs.baselineMatcher) none w.engines failure) (given : Finishes nextId w) :
    FailedRun p w failure := by
  obtain ⟨runId, v, named⟩ := given.eq
  obtain ⟨fault, stopped, opening, by_failure, store⟩ := opening_of_failing named configured fails
  have ran : p.attempt.outcome w = (.error fault, stopped) := by
    rw [p.attempt_eq]
    exact outcome_bind_of_error opening
  refine ⟨⟨fault, congrArg Prod.fst ran, by_failure⟩, ?asked, ?store⟩
  case asked =>
    rw [p.invocations_eq, opening, Plan.openingLoad, named]
    dsimp only [afterwards]
    rw [List.append_nil, p.baselineLoad_eq, configured]
    rfl
  case store =>
    rw [ran]
    show CountedOnly w.store stopped.store
    rw [store]
    exact countedOnly_of_nextId counts outermost named

/-- A run puts a record of its own behind those that stand on the shelf, or leaves the shelf as it is. -/
theorem shelved_of_numbered {count : Int} {low : Nat} (numbered : w.store.namespaces.Numbered count low) (p : Plan σ)
    (shelf : Shelf) : ∃ old new, w.store.namespaces.entriesOf shelf.space = .obj old
      ∧ (p.attempt.outcome w).2.store.namespaces.entriesOf shelf.space = .obj new ∧ Shelved p w old new := by
  obtain ⟨old, here⟩ := numbered.regular shelf.space
  obtain ⟨-, there⟩ := numbered.turn p shelf here
  refine ⟨old, _, here, there, ?_⟩
  rcases p.puts_cases w shelf with none | ⟨q, once, -, runId, named, own⟩
  · rw [none]
    exact .same
  · have same := nextId_of_counts numbered.counts (Prod.ext named rfl)
    rw [once]
    show Shelved p w old (shelve old q)
    unfold shelve Put.entry
    rw [own.named]
    refine .added q.value _ named ?_
    rw [same]
    exact numbered.unknown here (Int.lt_succ count)

/-- What a run may touch of a store that runs and resets have left. -/
theorem footprint_of_reached (reached : Store.Reached σ w.store) (p : Plan σ) : Footprint p w := by
  have lasting := reached.throughout lasting_numbered
  obtain ⟨count, low, numbered⟩ := lasting.memory
  exact {
    failed := fun _ _ configured fails given =>
      failedRun_of_fails numbered.counts lasting.outermost configured fails given
    untracked := fun untracked => ⟨Plan.leaves_latch_of_untracked untracked w,
      p.shows_of_unput w ((p.keeping w).untracked untracked)⟩
    unshadowed := fun off => p.shows_of_unput w (Plan.compared_of_idle fun _ => .inl off)
    uncrossed := fun off => Plan.leaves_crossChecks off w
    shelves := shelved_of_numbered numbered p }

/-- A run whose baseline fails. -/
def failingPlan (failure : EngineFailure) : Plan Unit :=
  ⟨⟨some ⟨"v1", fun _ s => (.error failure, s)⟩, none, none⟩, ⟨2026, 3, 1, 12, 0, 0, 0⟩,
    ⟨.unknown, none, some "2026-03-01T12:00:00.000Z", [], [], [], 50, none⟩,
    ⟨.default, .default, .default, .default, .default⟩, none⟩

theorem finishes_nextId_idle : Finishes nextId Engine.idle := finishes_iff_isOk.mpr (by decide +kernel)

theorem footprint_of_refused_connection :
    let p := failingPlan ⟨"ConnectError", "connection refused", none⟩
    Store.Reached Unit Engine.idle.store
      ∧ (p.attempt.outcome Engine.idle).1 = .error (.baselineFailed "ConnectError" "connection refused")
      ∧ p.invocations Engine.idle = [⟨.baseline, p.ask p.configs.baselineMatcher⟩] := by
  intro p
  have reached : Store.Reached Unit Engine.idle.store := .start .memory
  have failed := (footprint_of_reached reached p).failed _ _ rfl (.raised rfl rfl) finishes_nextId_idle
  obtain ⟨fault, ran, stopped⟩ := failed.stopped
  refine ⟨reached, ?_, failed.asked⟩
  cases stopped with
  | blamed fits => exact ran
  | escaped oversized => exact absurd oversized.1 (by decide)

/-- Five thousand opening brackets as the words of the baseline's failure are not reported as its failure. -/
theorem unblamed_of_brackets :
    let crash : EngineFailure := ⟨"RuntimeError", String.ofList (List.replicate 5000 '['), none⟩
    let p := failingPlan crash
    (∃ engine, p.engines.baseline = some engine
        ∧ engine.Fails (p.ask p.configs.baselineMatcher) none Engine.idle.engines crash)
      ∧ Finishes nextId Engine.idle
      ∧ ∀ name message, (p.attempt.outcome Engine.idle).1 ≠ .error (.baselineFailed name message) := by
  intro crash p
  have fails : Engine.Fails ⟨"v1", fun _ s => (.error crash, s)⟩ (p.ask p.configs.baselineMatcher) none () crash :=
    .raised rfl rfl
  have oversized : LogText.Oversized crash.message (.tooDeep (some .list)) := LogText.oversized_replicate (by decide)
  obtain ⟨_, _, named⟩ := finishes_nextId_idle.eq
  obtain ⟨fault, stopped, opening, by_failure, -⟩ := opening_of_failing (p := p) named rfl fails
  have ran : p.attempt.outcome Engine.idle = (.error fault, stopped) := by
    rw [p.attempt_eq]
    exact outcome_bind_of_error opening
  refine ⟨⟨_, rfl, fails⟩, finishes_nextId_idle, fun name message blamed => ?_⟩
  rw [ran] at blamed
  cases by_failure with
  | blamed fits => exact fits _ oversized
  | escaped other => cases blamed

end Run

end CanaryGate
