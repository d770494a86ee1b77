import CanaryGate.Proofs.Run.Stages

/-! # Engines that answer by the request alone

An engine may keep a state, and engines may be told apart by what they do to it. Where the answers of two
engines depend on the request alone, and in the same way, whatever is made of the answers is the same in
any two worlds.
-/

namespace CanaryGate

open Attempt

variable {σ τ α β : Type}

/-- Whatever states they start from, the two attempts give the same result. -/
def Attempt.Alike (a : Attempt σ α) (b : Attempt τ α) : Prop := ∀ s t, (a.outcome s).1 = (b.outcome t).1

namespace Attempt.Alike

theorem pure (x : α) : Alike (Pure.pure x : Attempt σ α) (Pure.pure x : Attempt τ α) := fun _ _ => rfl

theorem lift (r : Except Fault α) : Alike (Attempt.lift r : Attempt σ α) (Attempt.lift r : Attempt τ α) :=
  fun _ _ => rfl

theorem stop (fault : Fault) : Alike (Attempt.stop fault : Attempt σ α) (Attempt.stop fault : Attempt τ α) :=
  fun _ _ => rfl

theorem bind {a : Attempt σ α} {b : Attempt τ α} {f : α → Attempt σ β} {g : α → Attempt τ β} (first : Alike a b)
    (second : ∀ x, Alike (f x) (g x)) : Alike (a >>= f) (b >>= g) := by
  intro s t
  have same := first s t
  rw [outcome_bind, outcome_bind]
  cases left : a.outcome s with
  | mk r s' =>
      cases right : b.outcome t with
      | mk r' t' =>
          rw [left, right] at same
          subst same
          cases r with
          | error fault => rfl
          | ok x => exact second x s' t'

theorem ite {c : Prop} [Decidable c] {a a' : Attempt σ α} {b b' : Attempt τ α} (yes : Alike a b) (no : Alike a' b') :
    Alike (if c then a else a') (if c then b else b') := by
  split
  · exact yes
  · exact no

theorem eq_of_ok {a : Attempt σ α} {b : Attempt τ α} (h : Alike a b) {s s' : σ} {t t' : τ} {x y : α}
    (left : a.outcome s = (.ok x, s')) (right : b.outcome t = (.ok y, t')) : x = y := by
  have same := h s t
  rw [left, right] at same
  exact Except.ok.inj same

end Attempt.Alike

namespace Engine

/-- The engine answers every request as the function does, whatever its state. -/
def Fixed (answers : EngineRequest → Except EngineFailure Json) (engine : Engine σ) : Prop :=
  ∀ request s, (engine.respond request s).1 = answers request

/-- Two places for an engine: both empty, or taken by engines that answer by the same function of the request. -/
inductive Twins : Option (Engine σ) → Option (Engine τ) → Prop where
  | missing : Twins none none
  | fixed {a : Engine σ} {b : Engine τ} (answers : EngineRequest → Except EngineFailure Json)
      (left : a.Fixed answers) (right : b.Fixed answers) : Twins (some a) (some b)

variable {answers : EngineRequest → Except EngineFailure Json} {a : Engine σ} {b : Engine τ}

theorem alike_ask (left : a.Fixed answers) (right : b.Fixed answers) (request : EngineRequest) :
    Alike (a.ask request) (b.ask request) := by
  intro w v
  have same : (a.respond request w.engines).1 = (b.respond request v.engines).1 :=
    (left request w.engines).trans (right request v.engines).symm
  unfold ask
  simp only [outcome_ofOutcome, same]

theorem alike_execute (left : a.Fixed answers) (right : b.Fixed answers) (request : EngineRequest) (code : String)
    (force : Option String) : Alike (a.execute request code force) (b.execute request code force) := by
  rw [execute_eq, execute_eq]
  refine .bind ?_ fun answer => .bind (fun _ _ => rfl) fun _ => .lift _
  unfold answering
  split
  · exact .pure _
  · exact alike_ask left right request

theorem alike_executeIfConfigured {a : Option (Engine σ)} {b : Option (Engine τ)} (twins : Twins a b) (label : String)
    (request : EngineRequest) (code : String) (force : Option String) :
    Alike (executeIfConfigured a label request code force) (executeIfConfigured b label request code force) := by
  cases twins with
  | missing => exact .pure _
  | fixed answers left right => exact alike_execute left right request code force

end Engine

theorem Selection.alike_select {a : Option (Engine σ)} {b : Option (Engine τ)} (twins : Engine.Twins a b)
    (routing : RoutingDecision) (canary : CanaryConfig) (primary : PrimaryConfig) (baseline : Json)
    (request : EngineRequest) :
    Alike (select routing canary primary baseline a request) (select routing canary primary baseline b request) :=
  .ite (.pure _) ((Engine.alike_executeIfConfigured twins _ _ _ _).bind fun _ => .lift _)

theorem Run.alike_baselineResult {a : Option (Engine σ)} {b : Option (Engine τ)} (twins : Engine.Twins a b)
    (request : EngineRequest) : Alike (baselineResult a request) (baselineResult b request) := by
  cases twins with
  | missing => exact .stop _
  | fixed answers left right =>
      refine (Engine.alike_execute left right request _ _).bind fun outcome => ?_
      cases outcome with
      | ok result => exact .pure _
      | err code failure => exact .stop _

end CanaryGate
