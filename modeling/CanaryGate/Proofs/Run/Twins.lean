import CanaryGate.Proofs.Run.Answers
import CanaryGate.Proofs.Run.Frame
import CanaryGate.Proofs.Run.Returned

/-! # Runs that differ in their shadows alone

Two runs are twins if their configurations differ in what is said about shadows alone, and baseline and
candidate answer by the request. Two worlds agree if they show the same latch and the same counters. From
worlds that agree twins are numbered, opened and reset alike, and the worlds that they leave still agree.
-/

namespace CanaryGate

open Attempt

variable {σ τ : Type}

/-- Two worlds show the same latch and the same counters. -/
structure Agree (w : World σ) (v : World τ) : Prop where
  latch : w.shows Rollback.space = v.shows Rollback.space
  numbers : w.shows Namespaces.sequences = v.shows Namespaces.sequences

namespace Agree

theorem symm {w : World σ} {v : World τ} (h : Agree w v) : Agree v w := ⟨h.latch.symm, h.numbers.symm⟩

theorem trans {ρ : Type} {w : World σ} {v : World τ} {u : World ρ} (h : Agree w v) (h' : Agree v u) : Agree w u :=
  ⟨h.latch.trans h'.latch, h.numbers.trans h'.numbers⟩

theorem of_leaves {α : Type} {a : Attempt (World σ) α} (latch : Leaves (World.shows Rollback.space) a)
    (numbers : Leaves (World.shows Namespaces.sequences) a) {w w' : World σ} {r : Except Fault α}
    (ran : a.outcome w = (r, w')) : Agree w' w := ⟨latch.of_eq ran, numbers.of_eq ran⟩

end Agree

/-- The configuration without what it says about shadows. -/
def CanaryConfig.unshadowed (c : CanaryConfig) : CanaryConfig :=
  { c with shadowEnabled := false, forceShadowError := false, maxShadowDiffs := 0 }

namespace Run

/-- Two runs that may differ in their shadows alone. Baseline and candidate answer by the request. -/
structure Twin (p : Plan σ) (q : Plan τ) : Prop where
  baseline : Engine.Twins p.engines.baseline q.engines.baseline
  candidate : Engine.Twins p.engines.candidate q.engines.candidate
  now : p.now = q.now
  request : p.request = q.request
  headerKey : p.headerKey = q.headerKey
  canary : p.configs.canary.unshadowed = q.configs.canary.unshadowed
  primary : p.configs.primary = q.configs.primary
  baselineMatcher : p.configs.baselineMatcher = q.configs.baselineMatcher
  candidateMatcher : p.configs.candidateMatcher = q.configs.candidateMatcher

/-- What two decisions have in common that differ in their shadows alone. -/
structure SameDecision (d e : DecisionRecord) : Prop where
  runId : d.runId = e.runId
  canarySelected : d.canarySelected = e.canarySelected
  skippedReason : d.skippedReason = e.skippedReason
  bucketBps : d.bucketBps = e.bucketBps
  inRolloutBucket : d.inRolloutBucket = e.inRolloutBucket
  primaryEngine : d.primaryEngine = e.primaryEngine
  fallbackReasonCode : d.fallbackReasonCode = e.fallbackReasonCode
  error : d.v2.error = e.v2.error
  sample : d.sample = e.sample
  sampleSummary : d.sampleSummary = e.sampleSummary
  rollback : d.rollback = e.rollback

/-- The same for two results. -/
structure SameServed (x y : RunResult) : Prop where
  runId : x.runId = y.runId
  primaryEngine : x.primaryEngine = y.primaryEngine
  proposals : x.proposals = y.proposals
  decision : SameDecision x.decision y.decision

/-- Decisions do not depend on the comparison but for their figures. -/
theorem sameDecision_of_record {d e : DecisionInput} {x y : DecisionRecord} (left : d.record = .ok x)
    (right : e.record = .ok y) (runId : d.runId = e.runId) (routing : d.routing = e.routing)
    (served : d.served = e.served) (fallbackReason : d.fallbackReason = e.fallbackReason)
    (rollback : d.rollback = e.rollback) (error : d.error = e.error) (sample : d.sample = e.sample) :
    SameDecision x y := by
  obtain ⟨_, engine, -, named, rfl⟩ := DecisionInput.record_eq_ok left
  obtain ⟨_, engine', -, named', rfl⟩ := DecisionInput.record_eq_ok right
  have fellBack : d.fellBack = e.fellBack := by
    unfold DecisionInput.fellBack
    rw [routing, served]
  have section_eq : d.rollbackSection = e.rollbackSection := by
    unfold DecisionInput.rollbackSection
    rw [rollback]
  rw [served, named'] at named
  refine ⟨runId, ?_, ?_, ?_, ?_, (Except.ok.inj named).symm, ?_, error, sample, ?_, section_eq⟩
  · exact congrArg RoutingDecision.canarySelected routing
  · exact congrArg RoutingDecision.skippedReason routing
  · exact congrArg RoutingDecision.bucketBps routing
  · exact congrArg RoutingDecision.inRolloutBucket routing
  · dsimp only
    rw [fellBack, fallbackReason]
  · exact congrArg RollbackUpdate.summary rollback

namespace Twin

variable {p : Plan σ} {q : Plan τ} {w w' : World σ} {v v' : World τ}

theorem recordedAt (twin : Twin p q) : p.recordedAt = q.recordedAt := by
  unfold Plan.recordedAt
  rw [twin.request, twin.now]

theorem ask (twin : Twin p q) (config : MatcherConfig) : p.ask config = q.ask config := by
  unfold Plan.ask
  rw [twin.request, twin.recordedAt]

theorem resets (twin : Twin p q) : p.resets = q.resets := by
  unfold Plan.resets
  rw [twin.primary]

/-- Neither the bucket nor the routing depends on what is said about shadows. -/
theorem located (twin : Twin p q) : p.located = q.located := by
  have apart : ∀ canary : CanaryConfig, RoutingDecision.bucketWith Sha256.digest canary
      = RoutingDecision.bucketWith Sha256.digest canary.unshadowed := fun _ => rfl
  unfold Plan.located Plan.origin
  rw [apart p.configs.canary, apart q.configs.canary, twin.canary, twin.primary, twin.request, twin.headerKey,
    twin.recordedAt]

theorem routing (twin : Twin p q) (before : RollbackSnapshot) : p.routing before = q.routing before := by
  have apart : ∀ canary : CanaryConfig, RoutingDecision.placed canary = RoutingDecision.placed canary.unshadowed :=
    fun _ => rfl
  unfold Plan.routing
  rw [apart p.configs.canary, apart q.configs.canary, twin.located, twin.canary, twin.primary]

theorem scene (twin : Twin p q) (runId : String) (baseline : Json) : p.scene runId baseline = q.scene runId baseline := by
  unfold Plan.scene
  rw [twin.recordedAt, twin.baselineMatcher, twin.candidateMatcher, twin.request]

theorem alike_selecting (twin : Twin p q) (baseline : Json) (before : RollbackSnapshot) :
    Alike (p.selecting baseline before) (q.selecting baseline before) := by
  have chosen := Selection.alike_select twin.candidate (q.routing before) q.configs.canary.unshadowed
    q.configs.primary baseline (q.ask q.configs.candidateMatcher)
  have left : p.selecting baseline before = Attempt.lift q.located >>= fun _ =>
      Selection.select (q.routing before) q.configs.canary.unshadowed q.configs.primary baseline p.engines.candidate
        (q.ask q.configs.candidateMatcher) := by
    rw [← twin.canary, ← twin.routing, ← twin.primary, ← twin.candidateMatcher, ← twin.ask, ← twin.located]
    rfl
  rw [left]
  exact .bind (.lift _) fun _ => chosen

/-- The window and its limits are not said about shadows either. -/
theorem report (twin : Twin p q) (state : RollbackState) (runId recordedAt : String) (sample : Option RunSample) :
    Rollback.report state p.configs.canary runId recordedAt sample
      = Rollback.report state q.configs.canary runId recordedAt sample := by
  have apart : ∀ canary : CanaryConfig, Rollback.report state canary runId recordedAt sample
      = Rollback.report state canary.unshadowed runId recordedAt sample := fun _ => rfl
  rw [apart p.configs.canary, apart q.configs.canary, twin.canary]

theorem step (twin : Twin p q) (state : RollbackState) (runId recordedAt : String) (sample : Option RunSample) :
    Rollback.step state p.configs.canary runId recordedAt sample
      = Rollback.step state q.configs.canary runId recordedAt sample := by
  have apart : ∀ canary : CanaryConfig, Rollback.step state canary runId recordedAt sample
      = Rollback.step state canary.unshadowed runId recordedAt sample := fun _ => rfl
  rw [apart p.configs.canary, apart q.configs.canary, twin.canary]

end Twin

theorem counted_of_nextId {w w' : World σ} {id : String} (h : nextId.outcome w = (.ok id, w')) :
    ∃ n, (Namespaces.advance w.store.namespaces counter).1 = .ok n ∧ id = idOf n
      ∧ w'.store.namespaces = (Namespaces.advance w.store.namespaces counter).2 := by
  obtain ⟨n, t, stored, named⟩ := bind_eq_ok.mp h
  obtain ⟨given, put⟩ := Prod.mk.inj stored
  obtain ⟨found, left⟩ := Prod.mk.inj named
  have ran : (Store.nextSequence counter).outcome w.store
      = (.ok n, ((Store.nextSequence counter).outcome w.store).2) := Prod.ext given rfl
  obtain ⟨_, body⟩ := Store.body_of_transaction ran
  have after : t.store.namespaces = (Namespaces.advance w.store.namespaces counter).2 := by
    have kept : t.store = ((Store.nextSequence counter).outcome w.store).2 := congrArg World.store put.symm
    rw [kept]
    exact Store.namespaces_onNamespaces _ w.store
  refine ⟨n, congrArg Prod.fst body, ?_, left ▸ after⟩
  by_cases written : Json.writable n = true
  · rw [if_pos written] at found
    exact (Except.ok.inj found).symm
  · rw [if_neg written] at found
    contradiction

theorem agree_nextId {w w' : World σ} {v v' : World τ} (agree : Agree w v) {id id' : String}
    (left : nextId.outcome w = (.ok id, w')) (right : nextId.outcome v = (.ok id', v')) : id = id' ∧ Agree w' v' := by
  obtain ⟨n, counted, rfl, leftAfter⟩ := counted_of_nextId left
  obtain ⟨m, counted', rfl, rightAfter⟩ := counted_of_nextId right
  have ⟨same, shown⟩ := Namespaces.advance_congr agree.numbers counter
  have number : n = m := Except.ok.inj (counted.symm.trans (same.trans counted'))
  refine ⟨congrArg idOf number, ?_, ?_⟩
  · have latch : w'.shows Rollback.space = w.shows Rollback.space := (leaves_nextId (by decide)).of_eq left
    have latch' : v'.shows Rollback.space = v.shows Rollback.space := (leaves_nextId (by decide)).of_eq right
    exact latch.trans (agree.latch.trans latch'.symm)
  · show Fields.get? w'.store.namespaces _ = Fields.get? v'.store.namespaces _
    rw [leftAfter, rightAfter]
    exact shown

/-- What a run does once it is numbered, until it goes on to the candidate. -/
def Plan.answering (p : Plan σ) (id : String) : Attempt (World σ) (String × Json) :=
  baselineResult p.engines.baseline (p.ask p.configs.baselineMatcher) >>= fun baseline => pure (id, baseline)

theorem Plan.leaves_answering (p : Plan σ) {space : String} (id : String) :
    Leaves (World.shows space) (p.answering id) :=
  World.leaves_of_store ((leaves_baselineResult _ _).bind fun _ => .pure _)

namespace Twin

variable {p : Plan σ} {q : Plan τ} {w w' : World σ} {v v' : World τ}

theorem alike_answering (twin : Twin p q) (id : String) : Alike (p.answering id) (q.answering id) := by
  unfold Plan.answering
  rw [twin.ask, twin.baselineMatcher]
  exact (alike_baselineResult twin.baseline _).bind fun _ => .pure _

/-- Two runs that were numbered open alike, whether the baseline answers or fails. -/
theorem opening (twin : Twin p q) (agree : Agree w v) {id id' : String} (left : nextId.outcome w = (.ok id, w'))
    (right : nextId.outcome v = (.ok id', v')) :
    (p.opening.outcome w).1 = (q.opening.outcome v).1
      ∧ Agree (p.opening.outcome w).2 (q.opening.outcome v).2 := by
  obtain ⟨rfl, numbered⟩ := agree_nextId agree left right
  have leftOpen : p.opening.outcome w = (p.answering id).outcome w' := outcome_bind_of_ok left
  have rightOpen : q.opening.outcome v = (q.answering id).outcome v' := outcome_bind_of_ok right
  rw [leftOpen, rightOpen]
  have leftAfter : Agree ((p.answering id).outcome w').2 w' :=
    .of_leaves (p.leaves_answering id) (p.leaves_answering id) rfl
  have rightAfter : Agree ((q.answering id).outcome v').2 v' :=
    .of_leaves (q.leaves_answering id) (q.leaves_answering id) rfl
  exact ⟨twin.alike_answering id w' v', leftAfter.trans (numbered.trans rightAfter.symm)⟩

theorem shows_resetting (p : Plan σ) (w : World σ) : (p.resetting.outcome w).2.shows Rollback.space
    = if p.resets then Rollback.changed (w.shows Rollback.space) fun _ => .clear else w.shows Rollback.space := by
  unfold Plan.resetting
  split
  · exact (Leaves.bind_after (fun _ => .pure _) w).trans (Rollback.shows_reset w)
  · rfl

theorem resetting (twin : Twin p q) (agree : Agree w v) :
    Agree (p.resetting.outcome w).2 (q.resetting.outcome v).2 where
  latch := by rw [shows_resetting, shows_resetting, twin.resets, agree.latch]
  numbers := by
    have left : (p.resetting.outcome w).2.shows Namespaces.sequences = w.shows Namespaces.sequences :=
      p.leaves_resetting (by decide) w
    have right : (q.resetting.outcome v).2.shows Namespaces.sequences = v.shows Namespaces.sequences :=
      q.leaves_resetting (by decide) v
    exact left.trans (agree.numbers.trans right.symm)

end Twin

/-- Trying the candidate and the shadows is not seen, once the latch is reset. -/
theorem Tried.agree {p : Plan σ} {runId : String} {baseline : Json} {w w' : World σ} {t : Trial}
    (tried : Tried p runId baseline w t w') : Agree w' tried.settled := by
  have chosen : Agree tried.chosen tried.settled :=
    .of_leaves (World.leaves_of_store (p.leaves_selecting _ _)) (World.leaves_of_store (p.leaves_selecting _ _))
      tried.selecting
  have shadowed : Agree tried.shadowed tried.chosen :=
    .of_leaves (p.leaves_shadowing (by decide) _ _ _ _) (p.leaves_shadowing (by decide) _ _ _ _) tried.shadowing
  have crossed : Agree w' tried.shadowed :=
    .of_leaves (p.leaves_crossing (by decide) _ _) (p.leaves_crossing (by decide) _ _) tried.crossing
  exact crossed.trans (shadowed.trans chosen)

end Run

end CanaryGate
