import CanaryGate.Gateway.Service
import CanaryGate.Proofs.Run.Blame
import CanaryGate.Proofs.Run.Retention

/-! # Calls and the store

A call of the gateway has nothing to do with the store, looks at it, makes a run, or resets the latch. `Answered`
says which, with what is left of the store and what the reply can be; all that is said about calls is read off it.
-/

namespace CanaryGate

open Attempt

variable {σ : Type}

/-- A call, what it meets, and the network that it is answered on. -/
structure Exchange (σ : Type) where
  conditions : Conditions
  network : Http.Network σ
  call : Call

/-- The world of a run that the gateway makes. -/
def Gateway.world (g : Gateway σ) (s : Store) : World σ := ⟨s, g.metrics, [], g.network⟩

/-- The gateway with a world that is left. -/
def Gateway.taking (g : Gateway σ) (w : World σ) : Gateway σ :=
  { g with store := some w.store, metrics := w.metrics, network := w.engines }

/-- The reply of a call that was answered with the store. -/
def Reply.ofResult : Except Fault Reply → Reply
  | .ok reply => reply
  | .error _ => .broken

def RunResult.response (r : RunResult) : RunResponse :=
  ⟨r.runId, r.recordedAt, r.primaryEngine, r.proposals, r.decision⟩

/-- The reply to a run. -/
def Reply.ofRun : Except Fault RunResult → Reply
  | .ok r => if r.response.sendable then .ok (.obj r.response.toFields) else .broken
  | .error (.baselineFailed ..) => .refused 502 "matching baseline engine failed"
  | .error _ => .broken

theorem Reply.ofRun_cases (r : Except Fault RunResult) :
    (∃ result, r = .ok result ∧ ofRun r = .ok (.obj result.response.toFields)) ∨ (ofRun r).status = 500
      ∨ ((ofRun r).status = 502 ∧ ∃ name message, r = .error (.baselineFailed name message)) := by
  cases r with
  | ok result =>
      by_cases sendable : result.response.sendable = true
      · exact .inl ⟨result, rfl, if_pos sendable⟩
      · have broken : ofRun (.ok result) = .broken := if_neg sendable
        rw [broken]
        exact .inr (.inl rfl)
  | error fault =>
      cases fault with
      | baselineFailed name message => exact .inr (.inr ⟨rfl, name, message, rfl⟩)
      | _ => exact .inr (.inl rfl)

namespace Exchange

variable (x : Exchange σ)

def answer (g : Gateway σ) : Reply × Gateway σ := Gateway.answer x.conditions x.network x.call g

def environment : Environment := x.conditions.environment

/-- The call asks for a run. -/
def Posts : Prop := Endpoint.find? x.call.path = some .runs ∧ x.call.method = "POST"

instance : Decidable x.Posts := inferInstanceAs (Decidable (_ ∧ _))

/-- The run that a body asks for, if it can be made. -/
def planOf (body : CallBody) : Option (Run.Plan σ) :=
  match x.environment.runEngines x.network (x.call.correlationId x.conditions.freshId), body.runRequest with
  | .ok (some engines), .ok request =>
    some ⟨engines, x.conditions.now, request, x.environment.runConfigs, x.call.idempotencyKey⟩
  | _, _ => none

/-- The run that is made, and the world that it is made in. -/
def run? (g : Gateway σ) : Option (Run.Plan σ × World σ) :=
  if x.Posts then
    match x.call.readBody, g.opened x.environment with
    | .ok body, .ok s => (x.planOf body).map fun p => (p, g.world s)
    | _, _ => none
  else none

/-- What a call comes to. -/
inductive Answered (g : Gateway σ) (reply : Reply) (g' : Gateway σ) : Prop where
  | apart (idle : x.run? g = none) (store : g'.store = g.store) (files : g'.files = g.files)
      (unfailed : reply.status ≠ 502) (unserved : x.Posts → reply.status ≠ 200)
  | looked {s : Store} (idle : x.run? g = none) (opened : g.opened x.environment = .ok s) (store : g'.store = some s)
      (files : g'.files = g.files) (unfailed : reply.status ≠ 502) (unserved : x.Posts → reply.status ≠ 200)
  | ran {s : Store} {p : Run.Plan σ} (made : x.run? g = some (p, g.world s)) (opened : g.opened x.environment = .ok s)
      (told : reply = Reply.ofRun (p.attempt.outcome (g.world s)).1)
      (left : g' = g.taking (p.attempt.outcome (g.world s)).2)
  | reset {s : Store} (idle : x.run? g = none) (posted : x.call.method = "POST")
      (opened : g.opened x.environment = .ok s) (told : reply.status = 200 ∨ reply.status = 500)
      (unserved : x.Posts → reply.status ≠ 200) (left : g' = g.taking (Rollback.Call.reset.leave (g.world s)))

end Exchange

namespace Gateway

variable {g : Gateway σ} {env : Environment}

theorem withStore_of_error {fault : Fault} (closed : g.opened env = .error fault) (answer : Attempt (World σ) Reply) :
    g.withStore env answer = (.broken, g) := by
  unfold withStore
  rw [closed]

theorem withStore_of_ok {s : Store} (opened : g.opened env = .ok s) (answer : Attempt (World σ) Reply) :
    g.withStore env answer
      = (Reply.ofResult (answer.outcome (g.world s)).1, g.taking (answer.outcome (g.world s)).2) := by
  unfold withStore
  rw [opened]
  dsimp only
  have world : (⟨s, g.metrics, [], g.network⟩ : World σ) = g.world s := rfl
  rw [world]
  cases (answer.outcome (g.world s)).1 with
  | error fault => rfl
  | ok reply => rfl

end Gateway

theorem CallBody.status_of_runRequest {body : CallBody} {reply : Reply} (refused : body.runRequest = .error reply) :
    reply.status = 422 ∨ reply.status = 500 := by
  cases body with
  | absent | bytes =>
      cases refused
      exact .inl rfl
  | document value =>
      simp only [runRequest] at refused
      split at refused
      · contradiction
      · cases refused
        unfold refuse
        split
        · exact .inr rfl
        · exact .inl rfl

namespace Exchange

variable (x : Exchange σ) (w : World σ) {body : CallBody}

theorem makeRun_of_plan {p : Run.Plan σ} (planned : x.planOf body = some p) :
    Reply.ofResult ((Gateway.makeRun x.conditions x.network x.call body).outcome w).1
        = Reply.ofRun (p.attempt.outcome w).1
      ∧ ((Gateway.makeRun x.conditions x.network x.call body).outcome w).2 = (p.attempt.outcome w).2 := by
  unfold planOf at planned
  split at planned
  · rename_i engines request configured read
    cases planned
    have given : (Attempt.lift (x.conditions.environment.runEngines x.network (x.call.correlationId x.conditions.freshId)) :
        Attempt (World σ) _).outcome w = (.ok (some engines), w) := Prod.ext configured rfl
    unfold Gateway.makeRun
    rw [outcome_bind_of_ok given]
    simp only [read, outcome_bind, outcome_settled, Run.Plan.attempt, environment]
    rcases (Run.make engines x.conditions.now request x.conditions.environment.runConfigs
      x.call.idempotencyKey).outcome w with ⟨r, v⟩
    cases r with
    | ok result => exact ⟨rfl, rfl⟩
    | error fault =>
        cases fault with
        | baselineFailed name message => exact ⟨rfl, rfl⟩
        | _ => exact ⟨rfl, rfl⟩
  · contradiction

/-- A run that is not made is refused, or breaks down, before anything is changed. -/
theorem makeRun_of_unplanned (unplanned : x.planOf body = none) :
    (Reply.ofResult ((Gateway.makeRun x.conditions x.network x.call body).outcome w).1).status ∈ [422, 500, 503]
      ∧ ((Gateway.makeRun x.conditions x.network x.call body).outcome w).2 = w := by
  unfold Gateway.makeRun
  rw [outcome_bind, outcome_lift]
  cases configured : x.conditions.environment.runEngines x.network (x.call.correlationId x.conditions.freshId) with
  | error fault => exact ⟨show 500 ∈ [422, 500, 503] by decide, rfl⟩
  | ok engines =>
      cases engines with
      | none => exact ⟨show 503 ∈ [422, 500, 503] by decide, rfl⟩
      | some engines =>
          cases read : body.runRequest with
          | ok request => simp [planOf, environment, configured, read] at unplanned
          | error refused =>
              have told : refused.status ∈ [422, 500, 503] := by
                rcases CallBody.status_of_runRequest read with status | status
                · simp [status]
                · simp [status]
              exact ⟨told, rfl⟩

end Exchange

namespace Gateway

/-- What a record is asked for by its id gives. -/
theorem outcome_storedRecord {space : String} {w : World σ} {entries : Fields}
    (here : w.store.namespaces.entriesOf space = .obj entries) (runId kind : String) :
    (storedRecord space runId kind).outcome w = ((match (Fields.get? entries runId).getD .null with
      | .null => .ok (.refused 404 ("no " ++ kind ++ " for run " ++ runId))
      | .obj fields => .ok (.ok (.obj fields))
      | _ => .error .unsuitable), w) := by
  unfold storedRecord
  rw [outcome_bind, World.outcome_get]
  unfold Namespaces.find?
  rw [here]
  dsimp only [Except.map, Option.map]
  cases (Fields.get? entries runId).getD .null with
  | null | obj | bool | int | float | str | arr => rfl

theorem storedRecord_looks (space runId kind : String) (w : World σ) :
    (∀ reply, ((storedRecord space runId kind).outcome w).1 = .ok reply → reply.status = 404 ∨ reply.status = 200)
      ∧ ((storedRecord space runId kind).outcome w).2 = w := by
  unfold storedRecord
  rw [outcome_bind, World.outcome_get]
  cases w.store.namespaces.find? space runId with
  | error fault => exact ⟨nofun, rfl⟩
  | ok found =>
      dsimp only [Except.map]
      cases found.getD .null with
      | null =>
          refine ⟨?_, rfl⟩
          rintro reply ⟨⟩
          exact .inl rfl
      | obj fields =>
          refine ⟨?_, rfl⟩
          rintro reply ⟨⟩
          exact .inr rfl
      | bool | int | float | str | arr => exact ⟨nofun, rfl⟩

end Gateway

theorem Call.status_of_readBody {call : Call} {reply : Reply} (refused : call.readBody = .error reply) :
    reply.status = 422 ∨ reply.status = 400 := by
  unfold readBody at refused
  split at refused
  · contradiction
  · split at refused
    · contradiction
    · split at refused
      · contradiction
      · cases refused
        exact .inl rfl
      · cases refused
        exact .inr rfl

namespace Exchange

variable {x : Exchange σ} {g : Gateway σ}

theorem idle_of_unposted (unposted : ¬ x.Posts) : x.run? g = none := if_neg unposted

theorem posts_of_run {p : Run.Plan σ} {w : World σ} (made : x.run? g = some (p, w)) : x.Posts := by
  by_contra unposted
  rw [idle_of_unposted unposted] at made
  contradiction

/-- The run that an accepted body makes, once there are engines for it and a store. -/
theorem run?_of_accepted {body : CallBody} {request : RunRequest} (posts : x.Posts)
    (read : x.call.readBody = .ok body) (accepted : body.runRequest = .ok request) :
    x.run? g = match x.environment.runEngines x.network (x.call.correlationId x.conditions.freshId),
        g.opened x.environment with
      | .ok (some engines), .ok s => some (⟨engines, x.conditions.now, request, x.environment.runConfigs,
          x.call.idempotencyKey⟩, g.world s)
      | _, _ => none := by
  unfold run?
  rw [if_pos posts, read]
  cases g.opened x.environment with
  | error fault =>
      rcases x.environment.runEngines x.network (x.call.correlationId x.conditions.freshId) with fault | (_ | engines)
      · rfl
      · rfl
      · rfl
  | ok s =>
      dsimp only
      rw [planOf, accepted]
      rcases x.environment.runEngines x.network (x.call.correlationId x.conditions.freshId) with fault | (_ | engines)
      · rfl
      · rfl
      · rfl

theorem unposted_of_found {endpoint : Endpoint} (found : Endpoint.find? x.call.path = some endpoint)
    (other : endpoint ≠ .runs) : ¬ x.Posts := fun posts => other (Option.some.inj (found.symm.trans posts.1))

namespace Answered

theorem aside {reply : Reply} {g' : Gateway σ} (unposted : ¬ x.Posts) (store : g'.store = g.store)
    (files : g'.files = g.files) (status : Nat) (told : reply.status = status) (unfailed : status ≠ 502) :
    x.Answered g reply g' :=
  .apart (idle_of_unposted unposted) store files (told ▸ unfailed) fun posts => absurd posts unposted

/-- An answer that does nothing but look at the store. -/
theorem of_looking {answer : Attempt (World σ) Reply} (unposted : ¬ x.Posts)
    (looks : ∀ w, (∀ reply, (answer.outcome w).1 = .ok reply → reply.status ≠ 502) ∧ (answer.outcome w).2 = w) :
    x.Answered g (g.withStore x.environment answer).1 (g.withStore x.environment answer).2 := by
  cases opened : g.opened x.environment with
  | error fault =>
      rw [Gateway.withStore_of_error opened]
      exact .aside unposted rfl rfl 500 rfl (by decide)
  | ok s =>
      obtain ⟨told, same⟩ := looks (g.world s)
      rw [Gateway.withStore_of_ok opened, same]
      refine .looked (idle_of_unposted unposted) opened rfl rfl ?_ fun posts => absurd posts unposted
      cases given : (answer.outcome (g.world s)).1 with
      | error fault => exact (show 500 ≠ 502 by decide)
      | ok reply => exact told reply given

theorem of_record (unposted : ¬ x.Posts) (space runId kind : String) :
    x.Answered g (g.withStore x.environment (Gateway.storedRecord space runId kind)).1
      (g.withStore x.environment (Gateway.storedRecord space runId kind)).2 := by
  refine of_looking unposted fun w => ?_
  obtain ⟨told, same⟩ := Gateway.storedRecord_looks space runId kind w
  refine ⟨fun reply given => ?_, same⟩
  rcases told reply given with status | status
  · rw [status]
    decide
  · rw [status]
    decide

theorem of_run (posts : x.Posts) {body : CallBody} (read : x.call.readBody = .ok body) :
    x.Answered g (g.withStore x.environment (Gateway.makeRun x.conditions x.network x.call body)).1
      (g.withStore x.environment (Gateway.makeRun x.conditions x.network x.call body)).2 := by
  cases opened : g.opened x.environment with
  | error fault =>
      rw [Gateway.withStore_of_error opened]
      refine .apart ?_ rfl rfl (show 500 ≠ 502 by decide) fun _ => show 500 ≠ 200 by decide
      simp only [run?, if_pos posts, read, opened]
  | ok s =>
      have made : x.run? g = (x.planOf body).map fun p => (p, g.world s) := by
        simp only [run?, if_pos posts, read, opened]
      rw [Gateway.withStore_of_ok opened]
      cases planned : x.planOf body with
      | some p =>
          rw [planned] at made
          obtain ⟨told, left⟩ := x.makeRun_of_plan (g.world s) planned
          exact .ran made opened told (congrArg g.taking left)
      | none =>
          rw [planned] at made
          obtain ⟨told, same⟩ := x.makeRun_of_unplanned (g.world s) planned
          rw [same]
          refine .looked made opened rfl rfl (fun failed => ?_) fun _ served => ?_
          · rw [failed] at told
            exact absurd told (by decide)
          · rw [served] at told
            exact absurd told (by decide)

theorem of_reset (unposted : ¬ x.Posts) (posted : x.call.method = "POST") :
    x.Answered g (Gateway.answerAt x.conditions x.network x.call g .rollbackReset).1
      (Gateway.answerAt x.conditions x.network x.call g .rollbackReset).2 := by
  have split : Gateway.answerAt x.conditions x.network x.call g .rollbackReset = g.withStore x.environment
    (Rollback.reset >>= fun state => pure (.ok (.obj [("reset", .bool true), ("state", .obj state.toFields)]))) := rfl
  rw [split]
  cases opened : g.opened x.environment with
  | error fault =>
      rw [Gateway.withStore_of_error opened]
      exact .aside unposted rfl rfl 500 rfl (by decide)
  | ok s =>
      rw [Gateway.withStore_of_ok opened]
      refine .reset (idle_of_unposted unposted) posted opened ?_ (fun posts => absurd posts unposted) ?_
      · rw [outcome_bind]
        rcases (Rollback.reset : Attempt (World σ) _).outcome (g.world s) with ⟨r, v⟩
        cases r with
        | error fault => exact .inr rfl
        | ok state => exact .inl rfl
      · refine congrArg g.taking ?_
        have replies : ∀ state : RollbackState, Leaves (id : World σ → World σ)
            (pure (Reply.ok (.obj [("reset", .bool true), ("state", .obj state.toFields)]))) := fun _ => .pure _
        exact Leaves.bind_after replies (g.world s)

theorem of_readiness (unposted : ¬ x.Posts) : x.Answered g (Gateway.readiness x.conditions x.network x.call g).1
    (Gateway.readiness x.conditions x.network x.call g).2 := by
  unfold Gateway.readiness
  cases x.conditions.environment.engineUrl "v1" with
  | none => exact .aside unposted rfl rfl 503 rfl (by decide)
  | some url =>
      dsimp only
      cases ((RemoteEngine.ofAddress "v1" url (some (x.call.correlationId x.conditions.freshId))).ping x.network
        g.network).1 with
      | ok _ => exact .aside unposted rfl rfl 200 rfl (by decide)
      | error _ => exact .aside unposted rfl rfl 503 rfl (by decide)

theorem of_logLevel (unposted : ¬ x.Posts) :
    x.Answered g (Gateway.changeLogLevel x.call g).1 (Gateway.changeLogLevel x.call g).2 := by
  unfold Gateway.changeLogLevel
  cases x.call.query.last? "level" with
  | none => exact .aside unposted rfl rfl 422 rfl (by decide)
  | some word =>
      dsimp only
      cases LogLevel.read word with
      | none => exact .aside unposted rfl rfl 400 rfl (by decide)
      | some level => exact .aside unposted rfl rfl 200 rfl (by decide)

/-- What a call of an endpoint comes to. -/
theorem at_endpoint {endpoint : Endpoint} (found : Endpoint.find? x.call.path = some endpoint)
    (allowed : endpoint.methods.contains x.call.method = true) :
    x.Answered g (Gateway.answerAt x.conditions x.network x.call g endpoint).1
      (Gateway.answerAt x.conditions x.network x.call g endpoint).2 := by
  have unposted := unposted_of_found found
  cases endpoint with
  | runs =>
      have posts : x.Posts := ⟨found, by simpa [Endpoint.methods] using allowed⟩
      unfold Gateway.answerAt
      cases read : x.call.readBody with
      | ok body => exact of_run posts read
      | error reply =>
          refine .apart ?_ rfl rfl ?_ fun _ => ?_
          · simp only [run?, if_pos posts, read]
          · rcases Call.status_of_readBody read with status | status <;> rw [status] <;> decide
          · rcases Call.status_of_readBody read with status | status <;> rw [status] <;> decide
  | decision id => exact of_record (unposted nofun) _ _ _
  | shadowDiff id => exact of_record (unposted nofun) _ _ _
  | altShadowDiff id => exact of_record (unposted nofun) _ _ _
  | canaryState =>
      refine of_looking (unposted nofun) fun w => ?_
      rw [outcome_bind, Rollback.outcome_load]
      cases w.latch with
      | error fault => exact ⟨nofun, rfl⟩
      | ok state =>
          refine ⟨?_, rfl⟩
          rintro reply ⟨⟩
          exact (show 200 ≠ 502 by decide)
  | rollbackReset => exact of_reset (unposted nofun) (by simpa [Endpoint.methods] using allowed)
  | readiness => exact of_readiness (unposted nofun)
  | logLevel => exact of_logLevel (unposted nofun)
  | health | metrics | observability | configuration => exact .aside (unposted nofun) rfl rfl 200 rfl (by decide)
  | page page => cases page <;> exact .aside (unposted nofun) rfl rfl 200 rfl (by decide)

/-- Nothing but what a reply holds is left out for a client that asks for its head. -/
theorem bare {reply : Reply} {g' : Gateway σ} (h : x.Answered g reply g') (head : x.call.method = "HEAD") :
    x.Answered g reply.bare g' := by
  have unposted : x.call.method ≠ "POST" := by
    rw [head]
    decide
  cases h with
  | apart idle store files unfailed unserved => exact .apart idle store files unfailed unserved
  | looked idle opened store files unfailed unserved => exact .looked idle opened store files unfailed unserved
  | ran made => exact absurd (posts_of_run made).2 unposted
  | reset _ posted => exact absurd posted unposted

end Answered

/-- What any call comes to. -/
theorem answered (x : Exchange σ) (g : Gateway σ) : x.Answered g (x.answer g).1 (x.answer g).2 := by
  have fully : x.Answered g (Gateway.answerFully x.conditions x.network x.call g).1
      (Gateway.answerFully x.conditions x.network x.call g).2 := by
    unfold Gateway.answerFully
    cases found : Endpoint.find? x.call.path with
    | none =>
        have unposted : ¬ x.Posts := fun posts => by
          rw [posts.1] at found
          contradiction
        exact .aside unposted rfl rfl 404 rfl (by decide)
    | some endpoint =>
        dsimp only
        split
        · rename_i allowed
          exact .at_endpoint found allowed
        · rename_i refused
          have unposted : ¬ x.Posts := by
            rintro ⟨leads, posted⟩
            rw [found] at leads
            cases leads
            exact refused (by simp [Endpoint.methods, posted])
          exact .aside unposted rfl rfl 405 rfl (by decide)
  unfold answer Gateway.answer
  dsimp only
  split
  · rename_i head
    exact fully.bare head
  · exact fully

end Exchange

/-- The store is as it was, or as it was opened for this call. -/
structure Gateway.Untouched (g : Gateway σ) (env : Environment) (g' : Gateway σ) : Prop where
  files : g'.files = g.files
  store : g'.store = g.store ∨ ∃ s, g.opened env = .ok s ∧ g'.store = some s

/-- One more run is numbered, and nothing else was changed. -/
structure Store.CountsOn (s t : Store) : Prop where
  counted : ∃ count, s.namespaces.Counts count ∧ t.namespaces.Counts (count + 1)
  elsewhere : ∀ space, space ≠ Namespaces.sequences → t.shows space = s.shows space
  others : ∀ name, name ≠ Run.counter →
    t.namespaces.find? Namespaces.sequences name = s.namespaces.find? Namespaces.sequences name
  file : ∀ disk, t.disk = some disk → disk.read = .ok (some t.namespaces)

/-- One more run is numbered in the store that is open, or was opened for this call. -/
def Gateway.Counted (g : Gateway σ) (env : Environment) (g' : Gateway σ) : Prop :=
  ∃ s t, g.opened env = .ok s ∧ g'.store = some t ∧ g'.files = g.files ∧ s.CountsOn t

theorem Namespaces.find?_advance_of_ne {all : Namespaces} {count : Int} (counts : all.Counts count) {name : String}
    (other : name ≠ Run.counter) :
    (all.advance Run.counter).2.find? sequences name = all.find? sequences name := by
  obtain ⟨counters, here, counted⟩ := counts
  have ensured : entriesOf (ensure all sequences) sequences = .obj counters := entriesOf_ensure.trans here
  unfold advance
  simp only [ensured, counted, Json.toInteger]
  unfold find?
  rw [entriesOf_set, here]
  simp only [Fields.get?_set, if_neg other]

/-- A run that only took its number. -/
theorem Store.countsOn_of_baselineFailed {p : Run.Plan σ} {w w' : World σ} {name message : String} {count : Int}
    (outermost : w.store.Outermost) (counts : w.store.namespaces.Counts count)
    (failed : p.attempt.outcome w = (.error (.baselineFailed name message), w')) : w.store.CountsOn w'.store := by
  obtain ⟨engine, runId, v, -, numbered, answered⟩ := p.stages_of_baselineFailed failed
  obtain ⟨n, u, counting, lifted⟩ := bind_eq_ok.mp numbered
  obtain rfl : u = v := (congrArg Prod.snd lifted)
  have same : w'.store = u.store := (Run.leaves_baselineResult (some engine) _).of_eq answered
  have taken : (Change.number.attempt : Attempt (World σ) Int).outcome w = (.ok n, u) := counting
  have left : (Moment.after ⟨w, .number⟩ : World σ) = u := congrArg Prod.snd taken
  have filed := Change.files_attempt (c := .number) (fun q put => nomatch put) w outermost
  rw [taken] at filed
  rw [same, ← left]
  refine ⟨⟨count, counts, Moment.counts_number counts⟩, ?_, ?_, ?_⟩
  · exact fun space apart => Moment.shows_after (⟨w, .number⟩ : Moment σ) apart
  · intro name other
    rw [Moment.namespaces_of_number]
    exact Namespaces.find?_advance_of_ne counts other
  · intro disk here
    cases file : w.store.disk with
    | none =>
        rw [left, filed.unfiled file] at here
        contradiction
    | some before =>
        obtain ⟨after, there, -, written⟩ := filed.file before file
        rw [left, there] at here
        cases here
        rw [left]
        exact written n rfl

namespace Exchange

variable {x : Exchange σ} {g : Gateway σ} {p : Run.Plan σ} {w : World σ}

theorem untouched (rejected : x.call.method = "GET" ∨ (x.answer g).1.status ∈ [404, 422, 503]) :
    g.Untouched x.environment (x.answer g).2 := by
  have unposted : x.call.method = "POST" → (x.answer g).1.status ∈ [404, 422, 503] := by
    intro posted
    rw [posted] at rejected
    exact rejected.resolve_left (by decide)
  cases x.answered g with
  | apart _ store files => exact ⟨files, .inl store⟩
  | looked _ opened store files => exact ⟨files, .inr ⟨_, opened, store⟩⟩
  | @ran s p made opened told =>
      have status := unposted (posts_of_run made).2
      rw [told] at status
      rcases Reply.ofRun_cases (p.attempt.outcome (g.world s)).1 with ⟨result, -, same⟩ | broken | ⟨failed, -⟩
      · rw [same] at status
        exact absurd status (show 200 ∉ [404, 422, 503] by decide)
      · rw [broken] at status
        exact absurd status (by decide)
      · rw [failed] at status
        exact absurd status (by decide)
  | reset _ posted _ told =>
      have status := unposted posted
      rcases told with told | told
      · rw [told] at status
        exact absurd status (by decide)
      · rw [told] at status
        exact absurd status (by decide)

theorem answer_of_run (made : x.run? g = some (p, w)) :
    x.answer g = (Reply.ofRun (p.attempt.outcome w).1, g.taking (p.attempt.outcome w).2) := by
  cases x.answered g with
  | apart idle | looked idle | reset idle => cases idle.symm.trans made
  | ran made' _ told left =>
      cases made.symm.trans made'
      exact Prod.ext told left

theorem opened_of_run (made : x.run? g = some (p, w)) : ∃ s, g.opened x.environment = .ok s ∧ w = g.world s := by
  cases x.answered g with
  | apart idle | looked idle | reset idle => cases idle.symm.trans made
  | ran made' opened =>
      cases made.symm.trans made'
      exact ⟨_, opened, rfl⟩

/-- A call is told of a failed baseline exactly if its run blames the baseline. -/
theorem status_eq_iff : (x.answer g).1.status = 502 ↔ ∃ p w, x.run? g = some (p, w)
    ∧ ∃ name message, (p.attempt.outcome w).1 = .error (.baselineFailed name message) := by
  constructor
  · intro failed
    cases x.answered g with
    | apart _ _ _ unfailed => exact absurd failed unfailed
    | looked _ _ _ _ unfailed => exact absurd failed unfailed
    | reset _ _ _ told =>
        rcases told with told | told
        · rw [told] at failed
          exact absurd failed (by decide)
        · rw [told] at failed
          exact absurd failed (by decide)
    | @ran s p made _ told =>
        rw [told] at failed
        rcases Reply.ofRun_cases (p.attempt.outcome (g.world s)).1 with ⟨result, -, same⟩ | broken | ⟨-, blamed⟩
        · rw [same] at failed
          exact absurd failed (show 200 ≠ 502 by decide)
        · rw [broken] at failed
          exact absurd failed (by decide)
        · exact ⟨p, _, made, blamed⟩
  · rintro ⟨p, w, made, name, message, blamed⟩
    rw [answer_of_run made, blamed]
    rfl

/-- A call that is told of a failed baseline has made a run that only took its number. -/
theorem counted (tidy : ∀ s, g.opened x.environment = .ok s →
      s.Outermost ∧ ∃ count low, s.namespaces.Numbered count low) (failed : (x.answer g).1.status = 502) :
    g.Counted x.environment (x.answer g).2 := by
  obtain ⟨p, w, made, name, message, blamed⟩ := status_eq_iff.mp failed
  obtain ⟨s, opened, rfl⟩ := opened_of_run made
  obtain ⟨outermost, count, low, numbered⟩ := tidy s opened
  rw [answer_of_run made]
  refine ⟨s, _, opened, rfl, rfl, ?_⟩
  exact Store.countsOn_of_baselineFailed (w := g.world s) outermost numbered.counts (Prod.ext blamed rfl)

end Exchange

end CanaryGate
