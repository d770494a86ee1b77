import CanaryGate.Proofs.Store.Distinct
import CanaryGate.Proofs.Store.StateFile

/-! # Programs of store operations

A program puts operations and transactions in sequence. What comes next is a function of how the last one ended,
so a fault may be caught, or raised again, at any level. Inside a transaction the file is never touched, and that
is all the invariant says: so an outermost step either writes everything when it is left, or nothing at all. What
a step that failed has put in memory stays there, for the next step to write.
-/

namespace CanaryGate

open Attempt

variable {α β : Type}

namespace Store

/-- The operations that change a store. -/
inductive Operation where
  | set (space key : String) (value : Json) (proper : value.Distinct)
  | delete (space key : String)
  | prune (space : String) (limit : Int)
  | putAndPrune (space key : String) (value : Json) (limit : Int) (proper : value.Distinct)
  | nextSequence (name : String)

namespace Operation

/-- The operation with what it gives as a value. -/
def attempt : Operation → Attempt Store Json
  | set space key value _ => do
    Store.set space key value
    return .null
  | delete space key => do
    Store.delete space key
    return .null
  | prune space limit => do
    let evicted ← Store.prune space limit
    return .arr evicted
  | putAndPrune space key value limit _ => do
    let evicted ← Store.putAndPrune space key value limit
    return .arr evicted
  | nextSequence name => do
    let count ← Store.nextSequence name
    return .int count

/-- What the operation does inside of its transaction. -/
def body : Operation → Attempt Store Json
  | set space key value _ => do
    onNamespaces fun all => all.set space key value
    return .null
  | delete space key => do
    onNamespaces fun all => all.delete space key
    return .null
  | prune space limit => do
    let evicted ← onNamespaces fun all => all.prune space limit
    return .arr evicted
  | putAndPrune space key value limit _ => do
    Store.set space key value
    let evicted ← Store.prune space limit
    return .arr evicted
  | nextSequence name => do
    let count ← onNamespaces fun all => all.advance name
    return .int count

/-- The store while the transaction of the operation is open. -/
def moments (operation : Operation) (s : Store) : List Store :=
  let between := match operation with
    | putAndPrune space key value _ _ => [((Store.set space key value).outcome s.enter).2]
    | _ => []
  s.enter :: (between ++ [(operation.body.outcome s.enter).2])

end Operation

/-- Operations and transactions in sequence. -/
inductive Program where
  | finish (answer : Json)
  | raise (fault : Fault)
  | operate (operation : Operation) (next : Except Fault Json → Program)
  | transact (body : Program) (next : Except Fault Json → Program)
  | look (next : Namespaces → Program)

namespace Program

def run : Program → Attempt Store Json
  | finish answer => return answer
  | raise fault => stop fault
  | operate operation next => do
    let result ← operation.attempt.settled
    (next result).run
  | transact body next => do
    let result ← (transaction .self body.run).settled
    (next result).run
  | look next => do
    let namespaces ← Attempt.look (·.namespaces)
    (next namespaces).run

/-- The store before and after each step of the program, and inside of its transactions. -/
def moments : Program → Store → List Store
  | finish _, s | raise _, s => [s]
  | operate operation next, s =>
    let (result, t) := operation.attempt.outcome s
    s :: (operation.moments s ++ (next result).moments t)
  | transact body next, s =>
    let (result, t) := (transaction .self body.run).outcome s
    s :: (body.moments s.enter ++ (next result).moments t)
  | look next, s => (next s.namespaces).moments s

end Program

/-- A step that is not inside of a transaction. -/
inductive Step where
  | operate (operation : Operation)
  | transact (body : Program)

namespace Step

def attempt : Step → Attempt Store Json
  | operate operation => operation.attempt
  | transact body => transaction .self body.run

/-- What the step does inside of its transaction. -/
def body : Step → Attempt Store Json
  | operate operation => operation.body
  | transact body => body.run

/-- The store while the transaction of the step is open. -/
def moments : Step → Store → List Store
  | operate operation, s => operation.moments s
  | transact body, s => body.moments s.enter

/-- The store after the step, however it ended. -/
def after (step : Step) (s : Store) : Store := (step.attempt.outcome s).2

end Step

/-! Inside of a transaction. -/

/-- So many transactions are open beyond the first one, and the file is as it was. -/
structure Inside (disk : Option Disk) (depth : Nat) (s : Store) : Prop where
  opened : s.depth = depth + 1
  file : s.disk = disk
  distinct : (Json.obj s.namespaces).Distinct

variable {disk : Option Disk} {depth : Nat}

theorem inside_transaction {body : Attempt Store α} (inner : Keeps (Inside disk (depth + 1)) body) :
    Keeps (Inside disk depth) (transaction .self body) := by
  intro s before
  have entered : Inside disk (depth + 1) s.enter := ⟨congrArg (· + 1) before.opened, before.file, before.distinct⟩
  have inside := inner s.enter entered
  rcases ran : body.outcome s.enter with ⟨r, t⟩
  rw [ran] at inside
  have left : Inside disk depth t.leave := ⟨by rw [leave, inside.opened]; rfl, inside.file, inside.distinct⟩
  cases r with
  | error fault =>
      rw [transaction_of_error (p := .self) ran]
      exact left
  | ok a =>
      have still : t.leave.depth ≠ 0 := by simp [left.opened]
      rw [transaction_of_ok (p := .self) ran rfl]
      show Inside disk depth t.leave.commit.2
      rw [commit_of_open still]
      exact left

theorem inside_onNamespaces {f : Namespaces → Except Fault α × Namespaces}
    (distinct : ∀ all, (Json.obj all).Distinct → (Json.obj (f all).2).Distinct) :
    Keeps (Inside disk depth) (onNamespaces f) :=
  fun s before => ⟨before.opened, before.file, distinct s.namespaces before.distinct⟩

theorem inside_set (space key : String) {value : Json} (proper : value.Distinct) :
    Keeps (Inside disk depth) (set space key value) :=
  inside_transaction (inside_onNamespaces fun _ h => Namespaces.distinct_namespaces_set h space key proper)

theorem inside_prune (space : String) (limit : Int) : Keeps (Inside disk depth) (prune space limit) :=
  inside_transaction (inside_onNamespaces fun _ h => Namespaces.distinct_prune h space limit)

/-- Ending with a value made of what the body gives is no part of the transaction. -/
theorem transaction_map (body : Attempt Store α) (f : α → β) :
    (do let a ← transaction .self body; return f a) = transaction .self (do let a ← body; return f a) := by
  funext s
  have both : ∀ s, outcome (do let a ← transaction .self body; return f a) s
      = outcome (transaction .self (do let a ← body; return f a)) s := by
    intro s
    rw [outcome_bind]
    unfold transaction
    simp only [outcome_ofOutcome, outcome_bind, Part.self, id]
    rcases body.outcome s.enter with ⟨r, t⟩
    cases r with
    | error fault => rfl
    | ok a =>
        simp only [outcome_pure]
        rcases t.leave.commit with ⟨c, u⟩
        cases c <;> rfl
  exact both s

namespace Operation

theorem attempt_eq (operation : Operation) : operation.attempt = transaction .self operation.body := by
  cases operation with
  | set space key value proper => exact transaction_map _ fun _ => Json.null
  | delete space key => exact transaction_map _ fun _ => Json.null
  | prune space limit => exact transaction_map _ Json.arr
  | putAndPrune space key value limit proper =>
      have same := transaction_map (do Store.set space key value; Store.prune space limit) Json.arr
      simp only [bind_assoc] at same
      exact same
  | nextSequence name => exact transaction_map _ Json.int

theorem inside_body (operation : Operation) : Keeps (Inside disk depth) operation.body := by
  cases operation with
  | set space key value proper =>
      exact (inside_onNamespaces fun _ h => Namespaces.distinct_namespaces_set h space key proper).bind fun _ => .pure _
  | delete space key =>
      exact (inside_onNamespaces fun _ h => Namespaces.distinct_delete h space key).bind fun _ => .pure _
  | prune space limit =>
      exact (inside_onNamespaces fun _ h => Namespaces.distinct_prune h space limit).bind fun _ => .pure _
  | putAndPrune space key value limit proper =>
      exact (inside_set space key proper).bind fun _ => (inside_prune space limit).bind fun _ => .pure _
  | nextSequence name =>
      exact (inside_onNamespaces fun _ h => Namespaces.distinct_advance h name).bind fun _ => .pure _

theorem inside_attempt (operation : Operation) : Keeps (Inside disk depth) operation.attempt := by
  rw [attempt_eq]
  exact inside_transaction operation.inside_body

theorem inside_moments (operation : Operation) {s : Store} (entered : Inside disk depth s.enter) :
    ∀ m ∈ operation.moments s, Inside disk depth m := by
  have last := operation.inside_body s.enter entered
  intro m member
  rcases List.mem_cons.mp member with rfl | member
  · exact entered
  rcases List.mem_append.mp member with between | member
  · cases operation with
    | putAndPrune space key value limit proper =>
        rw [List.mem_singleton.mp between]
        exact inside_set space key proper s.enter entered
    | set => cases between
    | delete => cases between
    | prune => cases between
    | nextSequence => cases between
  · rw [List.mem_singleton.mp member]
    exact last

end Operation

namespace Program

theorem inside_run (p : Program) : Keeps (Inside disk depth) p.run := by
  induction p generalizing depth with
  | finish answer => exact .pure answer
  | raise fault => exact .stop fault
  | operate operation next rest =>
      exact Keeps.bind (operation.inside_attempt.settled) fun result => rest result
  | transact body next inner rest =>
      exact Keeps.bind (inside_transaction inner).settled fun result => rest result
  | look next rest =>
      intro s before
      exact rest s.namespaces s before

/-- At every moment of a program some transaction is open, and the file is as it was. -/
theorem inside_moments (p : Program) {s : Store} (entered : Inside disk depth s) :
    ∀ m ∈ p.moments s, ∃ deeper, Inside disk deeper m := by
  induction p generalizing depth s with
  | finish answer =>
      intro m member
      rw [List.mem_singleton.mp member]
      exact ⟨depth, entered⟩
  | raise fault =>
      intro m member
      rw [List.mem_singleton.mp member]
      exact ⟨depth, entered⟩
  | operate operation next rest =>
      intro m member
      have opened : Inside disk (depth + 1) s.enter := ⟨congrArg (· + 1) entered.opened, entered.file, entered.distinct⟩
      rcases List.mem_cons.mp member with rfl | member
      · exact ⟨depth, entered⟩
      rcases List.mem_append.mp member with here | later
      · exact ⟨depth + 1, operation.inside_moments opened m here⟩
      · exact rest _ (operation.inside_attempt s entered) m later
  | transact body next inner rest =>
      intro m member
      have opened : Inside disk (depth + 1) s.enter := ⟨congrArg (· + 1) entered.opened, entered.file, entered.distinct⟩
      rcases List.mem_cons.mp member with rfl | member
      · exact ⟨depth, entered⟩
      rcases List.mem_append.mp member with here | later
      · exact inner opened m here
      · exact rest _ (inside_transaction body.inside_run s entered) m later
  | look next rest => exact rest s.namespaces entered

end Program

/-! Outermost steps. -/

/-- No transaction is open, and no name is repeated. -/
structure Outermost (s : Store) : Prop where
  closed : s.depth = 0
  distinct : (Json.obj s.namespaces).Distinct

theorem Outermost.entered {s : Store} (h : s.Outermost) : Inside s.disk 0 s.enter :=
  ⟨congrArg (· + 1) h.closed, rfl, h.distinct⟩

/-- The store with other namespaces, before they are written. -/
def holding (s : Store) (namespaces : Namespaces) : Store := { s with namespaces }

/-- Leaving an outermost transaction changes the namespaces alone. -/
theorem leave_of_inside {s t : Store} (h : s.Outermost) (inside : Inside s.disk 0 t) :
    t.leave = s.holding t.namespaces := by
  unfold leave holding
  rw [inside.opened, inside.file, h.closed]

/-- An outermost transaction gives up as its body does, or commits what the body has left. -/
theorem outcome_outermost {s : Store} (h : s.Outermost) {body : Attempt Store α} (inner : Keeps (Inside s.disk 0) body) :
    (transaction .self body).outcome s = match body.outcome s.enter with
      | (.error fault, t) => (.error fault, s.holding t.namespaces)
      | (.ok a, t) => ((s.holding t.namespaces).commit.1.map fun _ => a, (s.holding t.namespaces).commit.2) := by
  have inside := inner s.enter h.entered
  rcases ran : body.outcome s.enter with ⟨r, t⟩
  rw [ran] at inside
  have left := leave_of_inside h inside
  cases r with
  | error fault =>
      rw [transaction_of_error (p := .self) ran]
      exact congrArg (Except.error fault, ·) left
  | ok a => exact transaction_of_ok (p := .self) ran left

namespace Step

theorem attempt_eq (step : Step) : step.attempt = Store.transaction .self step.body := by
  cases step with
  | operate operation => exact operation.attempt_eq
  | transact body => rfl

theorem inside_body (step : Step) : Keeps (Inside disk depth) step.body := by
  cases step with
  | operate operation => exact operation.inside_body
  | transact body => exact body.inside_run

theorem inside_moments (step : Step) {s : Store} (h : s.Outermost) :
    ∀ m ∈ step.moments s, ∃ deeper, Inside s.disk deeper m := by
  cases step with
  | operate operation => exact fun m member => ⟨0, operation.inside_moments h.entered m member⟩
  | transact body => exact body.inside_moments h.entered

end Step

end Store

end CanaryGate
