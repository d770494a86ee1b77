import CanaryGate.Proofs.Run.Blame
import CanaryGate.Proofs.Run.Candidate
import CanaryGate.Proofs.Run.Twins
import Mathlib.Data.List.Forall2

/-! # Shadowing decides nothing

Two histories make the same runs on the same store, but shadow the candidate in different ways and with
different alternates. What a run serves, how it counts in the window and what the latch makes of it is the
same in both.
-/

namespace CanaryGate

open Attempt

variable {σ τ : Type}

namespace Run

namespace Twin

variable {p : Plan σ} {q : Plan τ} {w w' : World σ} {v v' : World τ}

theorem sampling (twin : Twin p q) {runId : String} {baseline : Json} {t u : Trial} {sample sample' : Option RunSample}
    (left : Tried p runId baseline w t w') (right : Tried q runId baseline v u v') (before : t.before = u.before)
    (selection : t.selection = u.selection) (sampled : p.sampling runId t = .ok sample)
    (sampled' : q.sampling runId u = .ok sample') : sample = sample' := by
  unfold Plan.sampling at sampled sampled'
  rw [← twin.routing, ← twin.recordedAt, ← before, ← selection] at sampled'
  cases selected : (p.routing t.before).canarySelected with
  | false =>
      rw [selected] at sampled sampled'
      exact Except.ok.inj (sampled.symm.trans sampled')
  | true =>
      rw [selected] at sampled sampled'
      have course := Plan.course_of_selecting left.selecting
      cases failed : t.selection.error? with
      | some error =>
          rw [failed] at sampled sampled'
          exact (RunSample.ofRun_of_error sampled).trans (RunSample.ofRun_of_error sampled').symm
      | none =>
          obtain ⟨result, served⟩ := course.candidateResult?_of_unfailed selected failed
          have safe := course.weighed_candidateResult?
          rw [served] at safe
          obtain ⟨safety, diff, compared, found⟩ := Shadow.compared_of_run served safe left.shadowing
          have served' : u.selection.candidateResult? = some result := by rw [← selection, served]
          have safe' : SafetyTriggers.ofResult result q.configs.primary = .ok u.selection.safety := by
            rw [← selection, ← twin.primary]
            exact safe
          obtain ⟨safety', diff', compared', found'⟩ := Shadow.compared_of_run served' safe' right.shadowing
          rw [← selection, ← twin.scene] at compared'
          obtain rfl : diff = diff' := Except.ok.inj (compared.symm.trans compared')
          rw [safety, found] at sampled
          rw [safety', ← selection, found'] at sampled'
          exact Except.ok.inj (sampled.symm.trans sampled')

theorem latching (twin : Twin p q) (agree : Agree w v) {runId : String} {before : RollbackSnapshot}
    {sample : Option RunSample} {u u' : RollbackUpdate} (left : (p.latching runId before sample).outcome w = (.ok u, w'))
    (right : (q.latching runId before sample).outcome v = (.ok u', v')) : u = u' ∧ Agree w' v' := by
  have numbers : w'.shows Namespaces.sequences = v'.shows Namespaces.sequences := by
    have kept : w'.shows Namespaces.sequences = w.shows Namespaces.sequences :=
      (p.leaves_latching (by decide) runId before sample).of_eq left
    have kept' : v'.shows Namespaces.sequences = v.shows Namespaces.sequences :=
      (q.leaves_latching (by decide) runId before sample).of_eq right
    exact kept.trans (agree.numbers.trans kept'.symm)
  have held : w.latch = v.latch := congrArg Rollback.stateIn agree.latch
  unfold Plan.latching at left right
  rw [← twin.routing] at right
  split at left
  · rename_i tracked
    rw [if_pos tracked] at right
    obtain ⟨state, found, rfl⟩ := Rollback.report_of_update left
    obtain ⟨state', found', rfl⟩ := Rollback.report_of_update right
    obtain rfl : state = state' := Except.ok.inj (found.symm.trans (held.trans found'))
    refine ⟨?_, ?_, numbers⟩
    · rw [twin.report, twin.recordedAt]
    · have shown := Rollback.shows_update p.configs.canary runId p.recordedAt sample w
      have shown' := Rollback.shows_update q.configs.canary runId q.recordedAt sample v
      rw [left] at shown
      rw [right] at shown'
      have judged : (fun state => (Rollback.step state p.configs.canary runId p.recordedAt sample).1)
          = fun state => (Rollback.step state q.configs.canary runId q.recordedAt sample).1 := by
        funext state
        rw [twin.step, twin.recordedAt]
      rw [shown, shown', judged, agree.latch]
  · rename_i untracked
    rw [if_neg untracked] at right
    obtain ⟨state, t, found, returned⟩ := bind_eq_ok.mp left
    obtain ⟨state', t', found', returned'⟩ := bind_eq_ok.mp right
    rw [Rollback.outcome_load] at found found'
    obtain ⟨seen, rfl⟩ := Prod.mk.inj found
    obtain ⟨seen', rfl⟩ := Prod.mk.inj found'
    obtain rfl : state = state' := Except.ok.inj (seen.symm.trans (held.trans seen'))
    cases returned
    cases returned'
    have limits : p.configs.canary.thresholds = q.configs.canary.thresholds := by
      show p.configs.canary.unshadowed.thresholds = q.configs.canary.unshadowed.thresholds
      rw [twin.canary]
    exact ⟨by rw [limits], agree⟩

theorem tried (twin : Twin p q) (agree : Agree w v) {runId : String} {baseline : Json} {t u : Trial}
    (left : Tried p runId baseline w t w') (right : Tried q runId baseline v u v') :
    t.before = u.before ∧ t.selection = u.selection ∧ Agree w' v' := by
  have settled : Agree left.settled right.settled := by
    have reset := twin.resetting agree
    rwa [left.resetting, right.resetting] at reset
  have before : t.before = u.before := by
    have held : left.settled.latch = right.settled.latch := congrArg Rollback.stateIn settled.latch
    have seen := left.before
    rw [held, right.before] at seen
    exact (Except.ok.inj seen).symm
  have chosen := right.selecting
  rw [← before] at chosen
  exact ⟨before, (twin.alike_selecting baseline t.before).eq_of_ok left.selecting chosen,
    left.agree.trans (settled.trans right.agree.symm)⟩

/-- Two runs that returned served the same, and left worlds that agree. -/
theorem returned (twin : Twin p q) (agree : Agree w v) {x y : RunResult} (left : Returned p w x w')
    (right : Returned q v y v') : SameServed x y ∧ Agree w' v' := by
  obtain ⟨id, t, numbered, -⟩ := bind_eq_ok.mp left.opening
  obtain ⟨id', t', numbered', -⟩ := bind_eq_ok.mp right.opening
  have ⟨opened, openedAgree⟩ := twin.opening agree numbered numbered'
  rw [left.opening, right.opening] at opened openedAgree
  obtain ⟨runId, baseline⟩ := Prod.mk.inj (Except.ok.inj opened)
  have trying : Tried q left.runId left.baseline right.opened right.trial right.tried := by
    rw [runId, baseline]
    exact right.trying
  have ⟨before, selection, tried⟩ := twin.tried openedAgree left.trying trying
  have sampled : q.sampling left.runId right.trial = .ok right.sample := by
    rw [runId]
    exact right.sampling
  have sample := twin.sampling left.trying trying before selection left.sampling sampled
  have latching := right.latching
  rw [← runId, ← before, ← sample] at latching
  have ⟨rollback, latched⟩ := twin.latching tried left.latching latching
  have decision : SameDecision x.decision y.decision := by
    refine sameDecision_of_record left.deciding right.deciding runId ?_ ?_ ?_ rollback ?_ sample
    · show p.routing left.trial.before = q.routing right.trial.before
      rw [twin.routing, before]
    · exact congrArg (·.engine.text) selection
    · exact congrArg Selection.fallbackReason selection
    · exact congrArg Selection.error? selection
  have proposals : x.proposals = y.proposals := by
    have proposing := right.proposing
    rw [← selection, ← twin.request, left.proposing] at proposing
    exact Except.ok.inj proposing
  have recorded : Agree left.recorded right.recorded := by
    have kept : Agree left.recorded left.latched :=
      .of_leaves (p.leaves_recording (by decide) _ _ _) (p.leaves_recording (by decide) _ _ _) left.recording
    have kept' : Agree right.recorded right.latched :=
      .of_leaves (q.leaves_recording (by decide) _ _ _) (q.leaves_recording (by decide) _ _ _) right.recording
    exact kept.trans (latched.trans kept'.symm)
  refine ⟨?_, ?_⟩
  · exact {
      runId := left.runId_eq.trans (runId.trans right.runId_eq.symm)
      primaryEngine := left.engine_eq.trans (decision.primaryEngine.trans right.engine_eq.symm)
      proposals
      decision }
  · rw [left.left, right.left]
    exact ⟨recorded.latch, recorded.numbers⟩

end Twin

/-- The run returned, or blames its baseline. -/
def Blaming {α : Type} (r : Except Fault α) : Prop :=
  ∀ fault, r = .error fault → ∃ name message, fault = .baselineFailed name message

theorem blaming_of_isOk {α : Type} {r : Except Fault α} (h : r.isOk = true) : Blaming r := by
  rintro fault rfl
  contradiction

theorem numbered_of_blaming {p : Plan σ} {w : World σ} (h : Blaming (p.attempt.outcome w).1) :
    ∃ id t, nextId.outcome w = (.ok id, t) := by
  cases ran : (nextId : Attempt (World σ) String).outcome w with
  | mk r t =>
      cases r with
      | ok id => exact ⟨id, t, rfl⟩
      | error fault =>
          have unopened : p.opening.outcome w = (.error fault, t) := outcome_bind_of_error ran
          have stopped : p.attempt.outcome w = (.error fault, t) := by
            rw [p.attempt_eq, outcome_bind_of_error unopened]
          obtain ⟨name, message, rfl⟩ := h fault (congrArg Prod.fst stopped)
          exact absurd rfl (stopsElsewhere_nextId w _ (congrArg Prod.fst ran) name message)

/-- What two outcomes have in common that differ in their shadows alone: both runs served the same, or both
failed in the same way, and the worlds that they left agree. -/
inductive SameOutcome : Except Fault RunResult × World σ → Except Fault RunResult × World τ → Prop where
  | returned {x y : RunResult} {w : World σ} {v : World τ} (same : SameServed x y) (agree : Agree w v) :
      SameOutcome (.ok x, w) (.ok y, v)
  | failed {fault : Fault} {w : World σ} {v : World τ} (agree : Agree w v) :
      SameOutcome (.error fault, w) (.error fault, v)

theorem SameOutcome.agree {a : Except Fault RunResult × World σ} {b : Except Fault RunResult × World τ}
    (h : SameOutcome a b) : Agree a.2 b.2 := by
  cases h with
  | returned same agree => exact agree
  | failed agree => exact agree

theorem Twin.outcome {p : Plan σ} {q : Plan τ} (twin : Twin p q) {w : World σ} {v : World τ} (agree : Agree w v)
    (left : Blaming (p.attempt.outcome w).1) (right : Blaming (q.attempt.outcome v).1) :
    SameOutcome (p.attempt.outcome w) (q.attempt.outcome v) := by
  obtain ⟨id, t, numbered⟩ := numbered_of_blaming left
  obtain ⟨id', t', numbered'⟩ := numbered_of_blaming right
  have ⟨opened, openedAgree⟩ := twin.opening agree numbered numbered'
  cases ran : p.attempt.outcome w with
  | mk r w' =>
      cases ran' : q.attempt.outcome v with
      | mk r' v' =>
          rw [ran] at left
          rw [ran'] at right
          cases r with
          | ok x =>
              obtain ⟨leftReturned⟩ := Plan.returned_of_eq ran
              cases r' with
              | ok y =>
                  obtain ⟨rightReturned⟩ := Plan.returned_of_eq ran'
                  have ⟨same, agree'⟩ := twin.returned agree leftReturned rightReturned
                  exact .returned same agree'
              | error fault =>
                  obtain ⟨name, message, rfl⟩ := right fault rfl
                  rw [leftReturned.opening, q.outcome_of_baselineFailed ran'] at opened
                  contradiction
          | error fault =>
              obtain ⟨name, message, rfl⟩ := left fault rfl
              have blamed := p.outcome_of_baselineFailed ran
              cases r' with
              | ok y =>
                  obtain ⟨rightReturned⟩ := Plan.returned_of_eq ran'
                  rw [blamed, rightReturned.opening] at opened
                  contradiction
              | error fault' =>
                  obtain ⟨name', message', rfl⟩ := right fault' rfl
                  rw [blamed, q.outcome_of_baselineFailed ran'] at opened openedAgree
                  rw [Except.error.inj opened]
                  exact .failed openedAgree

end Run

namespace World

open Run

/-- The outcomes of runs that are made one after the other, each with the world that it left. -/
def outcomes (w : World σ) : List (Plan σ) → List (Except Fault RunResult × World σ)
  | [] => []
  | p :: rest => p.attempt.outcome w :: outcomes (p.attempt.outcome w).2 rest

/-- Two histories of runs that differ in their shadows alone, and in which no run fails for another cause than
its baseline, serve the same step by step, and leave the same latch and the same counters. -/
theorem shadows_decide_nothing {w : World σ} {v : World τ} (stores : w.store = v.store) {left : List (Plan σ)}
    {right : List (Plan τ)} (twins : List.Forall₂ Twin left right)
    (leftBlaming : ∀ o ∈ w.outcomes left, Blaming o.1) (rightBlaming : ∀ o ∈ v.outcomes right, Blaming o.1) :
    List.Forall₂ SameOutcome (w.outcomes left) (v.outcomes right) := by
  have agree : Agree w v := ⟨congrArg (Store.shows _) stores, congrArg (Store.shows _) stores⟩
  clear stores
  induction twins generalizing w v with
  | nil => exact .nil
  | cons twin rest ih =>
      have first := twin.outcome agree (leftBlaming _ (.head _)) (rightBlaming _ (.head _))
      refine .cons first (ih ?_ ?_ first.agree)
      · exact fun o member => leftBlaming o (.tail _ member)
      · exact fun o member => rightBlaming o (.tail _ member)

/-- A candidate that is down closes the latch in the first of two runs, whether its shadow and an alternate are
run beside it or not. -/
theorem shadows_decide_nothing_of_failed_candidate :
    let w : World Unit := ⟨.inMemory [], .zero, [], ()⟩
    let result : Json := .obj [("matching", .obj [])]
    let answering (name : String) : Engine Unit := ⟨name, fun _ s => (.ok result, s)⟩
    let failing : Engine Unit := ⟨"v2", fun _ s => (.error ⟨"ConnectError", "candidate is down", none⟩, s)⟩
    let plan (shadowed : Bool) : Plan Unit := ⟨⟨some (answering "v1"), some failing, some (answering "alt")⟩,
      ⟨2026, 3, 1, 13, 0, 0, 0⟩, ⟨.unknown, none, some "2026-03-01T13:00:00.000Z", [], [], [], 50, none⟩,
      ⟨{ CanaryConfig.default with shadowEnabled := shadowed }, { PrimaryConfig.default with enabled := true },
        { AltShadowConfig.default with enabled := shadowed }, .default, .default⟩, none⟩
    let left := [plan false, plan false]
    let right := [plan true, plan true]
    List.Forall₂ Twin left right ∧ (∀ o ∈ w.outcomes left, Blaming o.1) ∧ (∀ o ∈ w.outcomes right, Blaming o.1)
      ∧ List.Forall₂ SameOutcome (w.outcomes left) (w.outcomes right) := by
  intro w result answering failing plan left right
  have twin : Twin (plan false) (plan true) := {
    baseline := .fixed (fun _ => .ok result) (fun _ _ => rfl) fun _ _ => rfl
    candidate := .fixed (fun _ => .error ⟨"ConnectError", "candidate is down", none⟩) (fun _ _ => rfl) fun _ _ => rfl
    now := rfl
    request := rfl
    headerKey := rfl
    canary := rfl
    primary := rfl
    baselineMatcher := rfl
    candidateMatcher := rfl }
  have twins : List.Forall₂ Twin left right := .cons twin (.cons twin .nil)
  have leftReturned : (w.outcomes left).all (·.1.isOk) = true := by decide +kernel
  have rightReturned : (w.outcomes right).all (·.1.isOk) = true := by decide +kernel
  have leftBlaming : ∀ o ∈ w.outcomes left, Blaming o.1 :=
    fun o member => blaming_of_isOk (List.all_eq_true.mp leftReturned o member)
  have rightBlaming : ∀ o ∈ w.outcomes right, Blaming o.1 :=
    fun o member => blaming_of_isOk (List.all_eq_true.mp rightReturned o member)
  exact ⟨twins, leftBlaming, rightBlaming, shadows_decide_nothing rfl twins leftBlaming rightBlaming⟩

end World

end CanaryGate
