import CanaryGate.Proofs.Engine.Boundary

/-! # Engines that write down what they are asked

An engine can be made to write down each request in a list that stands beside the state of the engines. `Notes` says
that an attempt on such engines does what the attempt on the plain ones does, and adds some notes; which ones is read
off the plain attempt. It goes through sequences: the notes of what comes second are those that it makes where the
first has finished.
-/

namespace CanaryGate

open Attempt

variable {σ α β : Type}

/-- The place of an engine in a run. -/
inductive Seat where
  | baseline
  | candidate
  | alternate
  deriving DecidableEq

/-- One request to one of the engines. -/
structure Invocation where
  seat : Seat
  request : EngineRequest

/-- The requests to one of the engines. -/
def Seat.heard (seat : Seat) (notes : List Invocation) : List EngineRequest :=
  (notes.filter fun i => i.seat = seat).map Invocation.request

@[simp] theorem Seat.heard_nil (seat : Seat) : seat.heard [] = [] := rfl

@[simp] theorem Seat.heard_singleton (seat : Seat) (request : EngineRequest) :
    seat.heard [⟨seat, request⟩] = [request] := by
  simp [heard]

@[simp] theorem Seat.heard_append (seat : Seat) (notes more : List Invocation) :
    seat.heard (notes ++ more) = seat.heard notes ++ seat.heard more := by
  unfold heard
  rw [List.filter_append, List.map_append]

namespace Engine

/-- The engine, made to write down what it is asked. -/
def noting (seat : Seat) (engine : Engine σ) : Engine (σ × List Invocation) where
  name := engine.name
  respond := fun request s =>
    ((engine.respond request s.1).1, (engine.respond request s.1).2, s.2 ++ [⟨seat, request⟩])

/-- What an execution writes down: its request, unless there is no engine or the failure is asked for by name. -/
def due (seat : Seat) (engine : Option (Engine σ)) (request : EngineRequest) (force : Option String) :
    List Invocation :=
  if engine.isSome && (force.filter (· != "")).isNone then [⟨seat, request⟩] else []

theorem heard_due_of_ne {seat place : Seat} (other : seat ≠ place) (engine : Option (Engine σ))
    (request : EngineRequest) (force : Option String) : seat.heard (due place engine request force) = [] := by
  unfold due
  split
  · simp [Seat.heard, other.symm]
  · rfl

/-- An execution writes down its request once at most. -/
inductive Due (seat : Seat) (engine : Option (Engine σ)) (request : EngineRequest) (force : Option String) :
    List Invocation → Prop where
  | nothing : Due seat engine request force []
  | once {e : Engine σ} (configured : engine = some e) (unforced : force.filter (· != "") = none) :
      Due seat engine request force [⟨seat, request⟩]

theorem due_cases (seat : Seat) (engine : Option (Engine σ)) (request : EngineRequest) (force : Option String) :
    Due seat engine request force (due seat engine request force) := by
  unfold due
  split
  · rename_i asks
    obtain ⟨configured, unforced⟩ := Bool.and_eq_true_iff.mp asks
    obtain ⟨e, here⟩ := Option.isSome_iff_exists.mp configured
    exact .once here (Option.isNone_iff_eq_none.mp unforced)
  · exact .nothing

end Engine

/-- The world, with some notes beside the state of the engines. -/
def World.noted (w : World σ) (notes : List Invocation) : World (σ × List Invocation) :=
  ⟨w.store, w.metrics, w.calls, (w.engines, notes)⟩

namespace Attempt

/-- What is written down after an attempt that has finished; nothing is after another one. -/
def afterwards (more : α → World σ → List Invocation) : Except Fault α × World σ → List Invocation
  | (.ok x, v) => more x v
  | (.error _, _) => []

theorem afterwards_nil (o : Except Fault α × World σ) : afterwards (fun _ _ => []) o = [] := by
  obtain ⟨r, v⟩ := o
  cases r with
  | error fault => rfl
  | ok x => rfl

/-- The second attempt does what the first one does, and writes down the load. -/
def Notes (a : Attempt (World σ) α) (b : Attempt (World (σ × List Invocation)) α) (load : World σ → List Invocation) :
    Prop := ∀ w notes, b.outcome (w.noted notes) = ((a.outcome w).1, (a.outcome w).2.noted (notes ++ load w))

/-- Nothing is written down. -/
abbrev Quiet (a : Attempt (World σ) α) (b : Attempt (World (σ × List Invocation)) α) : Prop := Notes a b fun _ => []

namespace Notes

variable {a : Attempt (World σ) α} {b : Attempt (World (σ × List Invocation)) α} {f : α → Attempt (World σ) β}
  {g : α → Attempt (World (σ × List Invocation)) β} {load : World σ → List Invocation}
  {more : α → World σ → List Invocation}

theorem bind (first : Notes a b load) (second : ∀ x, Notes (f x) (g x) (more x)) :
    Notes (a >>= f) (b >>= g) fun w => load w ++ afterwards more (a.outcome w) := by
  intro w notes
  rw [outcome_bind, outcome_bind, first w notes]
  dsimp only
  rcases a.outcome w with ⟨r, v⟩
  cases r with
  | error fault =>
      dsimp only [afterwards]
      rw [List.append_nil]
  | ok x =>
      dsimp only [afterwards]
      rw [second x v, List.append_assoc]

theorem ite {c : Prop} [Decidable c] {a' : Attempt (World σ) α} {b' : Attempt (World (σ × List Invocation)) α}
    {other : World σ → List Invocation} (yes : Notes a b load) (no : Notes a' b' other) :
    Notes (if c then a else a') (if c then b else b') fun w => if c then load w else other w := by
  split
  · exact yes
  · exact no

theorem congr {load' : World σ → List Invocation} (h : Notes a b load) (same : ∀ w, load w = load' w) :
    Notes a b load' := by
  obtain rfl : load = load' := funext same
  exact h

/-- An attempt that writes nothing down leaves it to the one after it. -/
theorem after_quiet (first : Quiet a b) (second : ∀ x, Notes (f x) (g x) (more x)) :
    Notes (a >>= f) (b >>= g) fun w => afterwards more (a.outcome w) := first.bind second

theorem then_quiet (first : Notes a b load) (second : ∀ x, Quiet (f x) (g x)) : Notes (a >>= f) (b >>= g) load := by
  refine (first.bind second).congr fun w => ?_
  rw [afterwards_nil, List.append_nil]

end Notes

namespace Quiet

variable {a : Attempt (World σ) α} {b : Attempt (World (σ × List Invocation)) α} {f : α → Attempt (World σ) β}
  {g : α → Attempt (World (σ × List Invocation)) β}

theorem of_eq (h : ∀ w notes, b.outcome (w.noted notes) = ((a.outcome w).1, (a.outcome w).2.noted notes)) :
    Quiet a b := by
  intro w notes
  rw [List.append_nil]
  exact h w notes

theorem pure (x : α) : Quiet (Pure.pure x : Attempt (World σ) α) (Pure.pure x) := .of_eq fun _ _ => rfl

theorem lift (r : Except Fault α) : Quiet (Attempt.lift r : Attempt (World σ) α) (Attempt.lift r) :=
  .of_eq fun _ _ => rfl

theorem stop (fault : Fault) : Quiet (Attempt.stop fault : Attempt (World σ) α) (Attempt.stop fault) :=
  .of_eq fun _ _ => rfl

theorem observe (f : Metrics → Metrics) : Quiet (World.observe f : Attempt (World σ) Unit) (World.observe f) :=
  .of_eq fun _ _ => rfl

theorem onStore (a : Attempt Store α) : Quiet (World.onStore a : Attempt (World σ) α) (World.onStore a) :=
  .of_eq fun _ _ => rfl

theorem bind (first : Quiet a b) (second : ∀ x, Quiet (f x) (g x)) : Quiet (a >>= f) (b >>= g) :=
  first.then_quiet second

theorem ite {c : Prop} [Decidable c] {a' : Attempt (World σ) α} {b' : Attempt (World (σ × List Invocation)) α}
    (yes : Quiet a b) (no : Quiet a' b') : Quiet (if c then a else a') (if c then b else b') := by
  split
  · exact yes
  · exact no

/-- A transaction goes by its body. -/
theorem transaction (body : Quiet a b) :
    Quiet (Store.transaction World.storePart a) (Store.transaction World.storePart b) := by
  refine .of_eq fun w notes => ?_
  have noted := body (World.storePart.put w w.store.enter) notes
  rw [List.append_nil] at noted
  have entered : World.storePart.put (w.noted notes) (World.storePart.view (w.noted notes)).enter
      = (World.storePart.put w w.store.enter).noted notes := rfl
  unfold Store.transaction
  rw [outcome_ofOutcome, outcome_ofOutcome, entered, noted]
  have same : World.storePart.put w (World.storePart.view w).enter = World.storePart.put w w.store.enter := rfl
  rw [same]
  rcases a.outcome (World.storePart.put w w.store.enter) with ⟨r, v⟩
  cases r with
  | error fault => rfl
  | ok x => rfl

end Quiet

end Attempt

namespace Engine

variable {seat : Seat} {engine : Engine σ} {request : EngineRequest} {code label : String} {force : Option String}

/-- What an execution has to settle does not depend on the notes, and the notes grow if the engine is asked. -/
theorem asked_noting (w : World σ) (notes : List Invocation) :
    (engine.noting seat).asked request force (w.noted notes)
      = (engine.asked request force w).noted (notes ++ due seat (some engine) request force) := by
  unfold asked due
  cases force.filter (· != "") with
  | some message => exact congrArg w.noted (List.append_nil notes).symm
  | none => rfl

theorem notes_execute (seat : Seat) (engine : Engine σ) (request : EngineRequest) (code : String)
    (force : Option String) :
    Notes (engine.execute request code force) ((engine.noting seat).execute request code force)
      fun _ => due seat (some engine) request force := by
  intro w notes
  rw [outcome_execute, outcome_execute, asked_noting]
  rfl

theorem notes_executeIfConfigured (seat : Seat) (engine : Option (Engine σ)) (label : String) (request : EngineRequest)
    (code : String) (force : Option String) :
    Notes (executeIfConfigured engine label request code force)
      (executeIfConfigured (engine.map (noting seat)) label request code force)
      fun _ => due seat engine request force := by
  cases engine with
  | none => exact Quiet.pure _
  | some engine => exact notes_execute seat engine request code force

end Engine

namespace Rollback

theorem quiet_load : Quiet (load : Attempt (World σ) RollbackState) load := (Quiet.onStore _).bind fun _ => .lift _

theorem quiet_snapshot : Quiet (snapshot : Attempt (World σ) RollbackSnapshot) snapshot :=
  quiet_load.bind fun _ => .pure _

theorem quiet_save (state : RollbackState) : Quiet (save state : Attempt (World σ) Unit) (save state) :=
  (Quiet.onStore _).bind fun _ => .observe _

theorem quiet_reset : Quiet (reset : Attempt (World σ) RollbackState) reset :=
  (quiet_load.bind fun _ => quiet_save .clear).transaction.bind fun _ => .pure _

theorem quiet_update (config : CanaryConfig) (runId recordedAt : String) (sample : Option RunSample) :
    Quiet (update config runId recordedAt sample : Attempt (World σ) RollbackUpdate)
      (update config runId recordedAt sample) := by
  rw [update_eq, update_eq]
  refine (quiet_load.bind fun state => ?_).transaction.bind fun found => ?_
  · exact (quiet_save _).bind fun _ => .pure _
  · exact .of_eq fun w notes => by
      obtain ⟨before, after, summary, triggered⟩ := found
      cases triggered with
      | false => rfl
      | true => rfl

end Rollback

end CanaryGate
