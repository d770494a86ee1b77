import CanaryGate.Fault

/-!
# Attempts

Computations on a state that may stop with a fault. Stopping does not undo anything: the state left
behind counts whether the attempt finished or not.
-/

namespace CanaryGate

/-- A computation on a state that may stop with a fault. -/
abbrev Attempt (σ : Type) (α : Type) := ExceptT Fault (StateM σ) α

/-- A part of a larger state. -/
structure Part (whole : Type) (part : Type) where
  view : whole → part
  put : whole → part → whole

namespace Part

/-- The whole as a part of itself. -/
def self : Part σ σ := ⟨id, fun _ s => s⟩

end Part

namespace Attempt

/-- The outcome and the state left behind. -/
def outcome (a : Attempt σ α) (s : σ) : Except Fault α × σ := (ExceptT.run a).run s

def ofOutcome (f : σ → Except Fault α × σ) : Attempt σ α := ExceptT.mk fun s => f s

def stop (fault : Fault) : Attempt σ α := ofOutcome fun s => (.error fault, s)

/-- A result that needs no state. -/
def lift (r : Except Fault α) : Attempt σ α := ofOutcome fun s => (r, s)

def change (f : σ → σ) : Attempt σ Unit := ofOutcome fun s => (.ok (), f s)

def look (f : σ → α) : Attempt σ α := ofOutcome fun s => (.ok (f s), s)

def on (p : Part whole part) (a : Attempt part α) : Attempt whole α := ofOutcome fun w =>
  let (r, s) := a.outcome (p.view w)
  (r, p.put w s)

/-- The outcome as a value; the attempt itself always finishes. -/
def settled (a : Attempt σ α) : Attempt σ (Except Fault α) := ofOutcome fun s =>
  let (r, s') := a.outcome s
  (.ok r, s')

@[simp] theorem outcome_ofOutcome (f : σ → Except Fault α × σ) (s : σ) : (ofOutcome f).outcome s = f s := rfl

@[simp] theorem outcome_pure (a : α) (s : σ) : (pure a : Attempt σ α).outcome s = (.ok a, s) := rfl

@[simp] theorem outcome_stop (fault : Fault) (s : σ) : (stop fault : Attempt σ α).outcome s = (.error fault, s) := rfl

@[simp] theorem outcome_change (f : σ → σ) (s : σ) : (change f).outcome s = (.ok (), f s) := rfl

@[simp] theorem outcome_look (f : σ → α) (s : σ) : (look f).outcome s = (.ok (f s), s) := rfl

@[simp] theorem outcome_lift (r : Except Fault α) (s : σ) : (lift r).outcome s = (r, s) := rfl

@[simp] theorem outcome_on (p : Part whole part) (a : Attempt part α) (w : whole) :
    (a.on p).outcome w = ((a.outcome (p.view w)).1, p.put w (a.outcome (p.view w)).2) := rfl

@[simp] theorem outcome_settled (a : Attempt σ α) (s : σ) :
    a.settled.outcome s = (.ok (a.outcome s).1, (a.outcome s).2) := rfl

/-- A sequence goes on with the second attempt only if the first one finished. -/
theorem outcome_bind (a : Attempt σ α) (f : α → Attempt σ β) (s : σ) :
    (a >>= f).outcome s =
      match a.outcome s with
      | (.ok x, s') => (f x).outcome s'
      | (.error fault, s') => (.error fault, s') := by
  show (ExceptT.run (a >>= f)).run s = _
  simp only [ExceptT.run_bind, outcome, StateT.run_bind]
  rcases h : (ExceptT.run a).run s with ⟨r, s'⟩
  cases r with
  | error fault => rfl
  | ok x => rfl

end Attempt

end CanaryGate
