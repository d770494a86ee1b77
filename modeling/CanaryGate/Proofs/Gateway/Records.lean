import CanaryGate.Proofs.Gateway.Exchanges

/-! # Decisions that calls look up

Whatever calls are answered, one that is refused or only looks leaves the store alone, and the decision that the reply
to a run has shown is found under its id until a limit had no room for all decisions since. The store is one that a
process gets to, and each call keeps it so; what a call puts on the shelf is counted along.
-/

namespace CanaryGate

open Attempt

variable {σ : Type}

namespace Endpoint

/-- Where the decision of a run is looked up. -/
def decisionPath (id : String) : List Char := ("/matching/runs/" ++ id ++ "/decision").toList

theorem ofPath_of_ofParts {rest : List Char} {endpoint : Endpoint}
    (leads : ofParts ((pieces '/' rest).map String.ofList) = some endpoint) : ofPath ('/' :: rest) = some endpoint := by
  show (ofParts ((pieces '/' rest).map String.ofList)).or _ = _
  rw [leads, Option.some_or]

theorem find?_decisionPath {id : String} (named : id ≠ "") (whole : '/' ∉ id.toList) :
    find? (decisionPath id) = some (.decision id) := by
  have path : decisionPath id
      = '/' :: ("matching".toList ++ '/' :: ("runs".toList ++ '/' :: (id.toList ++ '/' :: "decision".toList))) := by
    unfold decisionPath
    rw [String.toList_append, String.toList_append, List.append_assoc]
    rfl
  refine find?_of_ofPath ?_
  rw [path]
  refine ofPath_of_ofParts ?_
  rw [pieces_append_mark (by decide), pieces_append_mark (by decide), pieces_append_mark whole,
    pieces_of_notMem (by decide)]
  simp only [List.map_cons, List.map_nil, String.ofList_toList]
  exact if_neg named

end Endpoint

/-- A part of what a reply holds. -/
def Reply.part? (reply : Reply) (name : String) : Option Json :=
  match reply.content with
  | .document value => value.part? [.field name]
  | _ => none

theorem Fields.get?_finiteOrNull (fields : Fields) (name : String) :
    Fields.get? (Json.fieldsFiniteOrNull fields) name = (Fields.get? fields name).map Json.finiteOrNull := by
  induction fields with
  | nil => rfl
  | cons entry rest ih =>
      obtain ⟨other, value⟩ := entry
      simp only [Json.fieldsFiniteOrNull, Fields.get?_cons]
      split
      · rfl
      · exact ih

theorem Reply.part?_ok (fields : Fields) (name : String) :
    (Reply.ok (.obj fields)).part? name = (Fields.get? fields name).map Json.finiteOrNull := by
  simp only [part?, ok, Json.finiteOrNull, Json.part?, Fields.get?_finiteOrNull]
  cases Fields.get? fields name <;> rfl

theorem FileTree.entryOf_of_bare {files : FileTree} (bare : ∀ place text, files.entryAt place ≠ .document text)
    (path : List Char) (text : String) : files.entryOf path ≠ .document text := by
  unfold entryOf
  cases files.find? path with
  | none =>
      dsimp only [Option.map]
      split <;> nofun
  | some place =>
      dsimp only [Option.map]
      split
      · rename_i there
        exact absurd (Option.some.inj there) (bare place _)
      · nofun
      · split <;> nofun

theorem Store.empty_of_openFile {disk : Disk} {s : Store} (opened : openFile disk = .ok s)
    (bare : ∀ text, disk.entry ≠ .document text) : s.namespaces = [] := by
  obtain ⟨stored, read, given⟩ := except_bind_eq_ok.mp opened
  cases given
  unfold Disk.read at read
  split at read
  · cases read
    rfl
  · cases read
    rfl
  · contradiction
  · rename_i there
    exact absurd there (bare _)

/-! The store of a gateway, call after call. -/

namespace Gateway

/-- The gateway after some calls. -/
def after (g : Gateway σ) (calls : List (Exchange σ)) : Gateway σ := calls.foldl (fun g x => (x.answer g).2) g

/-- Whatever store a call opens is one that a process gets to. -/
def Grounded (g : Gateway σ) : Prop := ∀ env s, g.opened env = .ok s → Store.Reached σ s

variable {g h : Gateway σ}

theorem opened_congr (store : h.store = g.store) (files : h.files = g.files) (env : Environment) :
    h.opened env = g.opened env := by
  unfold opened
  rw [store, files]

theorem opened_of_store {s : Store} (here : g.store = some s) (env : Environment) : g.opened env = .ok s := by
  unfold opened
  rw [here]

theorem grounded_of_store {s : Store} (here : g.store = some s) (reached : Store.Reached σ s) : g.Grounded := by
  intro env t opened
  cases (opened_of_store here env).symm.trans opened
  exact reached

theorem Grounded.tidy (grounded : g.Grounded) {env : Environment} {s : Store} (opened : g.opened env = .ok s) :
    s.Outermost ∧ ∃ count low, s.namespaces.Numbered count low :=
  have throughout := (grounded env s opened).throughout lasting_numbered
  ⟨throughout.outermost, throughout.memory⟩

/-- A service starts well where no document stands, since no store finds anything then. -/
theorem grounded_start {files : FileTree} (bare : ∀ place text, files.entryAt place ≠ .document text) (network : σ) :
    (start files network).Grounded := by
  intro env s opened
  unfold Gateway.opened start at opened
  dsimp only at opened
  cases placed : env.statePath with
  | none =>
      rw [placed] at opened
      cases opened
      exact .start .memory
  | some path =>
      rw [placed] at opened
      exact .start (.file opened (Store.empty_of_openFile opened (FileTree.entryOf_of_bare bare path.toList)))

end Gateway

namespace Exchange

variable {g : Gateway σ}

theorem grounded (grounded : g.Grounded) (x : Exchange σ) : (x.answer g).2.Grounded := by
  cases x.answered g with
  | apart _ store files =>
      intro env s opened
      rw [Gateway.opened_congr store files] at opened
      exact grounded env s opened
  | looked _ opened store => exact Gateway.grounded_of_store store (grounded _ _ opened)
  | @ran s p _ opened _ left =>
      rw [left]
      have before : Store.Reached σ (g.world s).store := grounded _ _ opened
      exact Gateway.grounded_of_store rfl (before.event (.run p))
  | @reset s _ _ opened _ _ left =>
      rw [left]
      have before : Store.Reached σ (g.world s).store := grounded _ _ opened
      exact Gateway.grounded_of_store rfl (before.event (.call .reset))

/-- Runs put their decisions on the shelf, in the environment of the call. -/
def tracked (x : Exchange σ) : Bool :=
  x.environment.runConfigs.canary.enabled || x.environment.runConfigs.primary.enabled

/-- The decisions that a call puts on the shelf. -/
def decisions (x : Exchange σ) (g : Gateway σ) : List Put :=
  match x.run? g with
  | some (p, w) => Shelf.decisions.puts (p.steps.journal w)
  | none => []

theorem decisions_of_idle {x : Exchange σ} (idle : x.run? g = none) : x.decisions g = [] := by
  unfold decisions
  rw [idle]

theorem decisions_of_run {x : Exchange σ} {p : Run.Plan σ} {w : World σ} (made : x.run? g = some (p, w)) :
    x.decisions g = Shelf.decisions.puts (p.steps.journal w) := by
  unfold decisions
  rw [made]

theorem configs_of_planOf {x : Exchange σ} {body : CallBody} {p : Run.Plan σ} (planned : x.planOf body = some p) :
    p.configs = x.environment.runConfigs := by
  unfold planOf at planned
  split at planned
  · cases planned
    rfl
  · contradiction

theorem configs_of_run {x : Exchange σ} {p : Run.Plan σ} {w : World σ} (made : x.run? g = some (p, w)) :
    p.configs = x.environment.runConfigs := by
  unfold run? at made
  split at made
  · split at made
    · obtain ⟨q, planned, same⟩ := Option.map_eq_some_iff.mp made
      cases same
      exact configs_of_planOf planned
    · contradiction
  · contradiction

theorem tracked_of_run {x : Exchange σ} {p : Run.Plan σ} {w : World σ} (made : x.run? g = some (p, w)) :
    p.tracked = x.tracked := by
  unfold Run.Plan.tracked tracked
  rw [configs_of_run made]

/-- One decision at most, put there under the limit that the environment sets at the time. -/
theorem decisions_cases (x : Exchange σ) (g : Gateway σ) : x.decisions g = []
    ∨ ∃ q, x.decisions g = [q] ∧ q.limit = x.environment.runConfigs.canary.maxDecisions := by
  cases made : x.run? g with
  | none => exact .inl (decisions_of_idle made)
  | some run =>
      obtain ⟨p, w⟩ := run
      rw [decisions_of_run made, ← configs_of_run made]
      rcases p.puts_cases w .decisions with none | ⟨q, once, here, runId, -, own⟩
      · exact .inl none
      · have limited := own.limited
        rw [here] at limited
        exact .inr ⟨q, once, limited⟩

end Exchange

namespace Gateway

variable {g : Gateway σ}

theorem Grounded.after (grounded : g.Grounded) (calls : List (Exchange σ)) : (g.after calls).Grounded := by
  induction calls generalizing g with
  | nil => exact grounded
  | cons x rest ih => exact ih (x.grounded grounded)

/-- The decisions that calls put on the shelf, one after the other. -/
def decisions (g : Gateway σ) : List (Exchange σ) → List Put
  | [] => []
  | x :: rest => x.decisions g ++ (x.answer g).2.decisions rest

/-- At each call that stores a decision, the limit set for it has room for all decisions stored by then. -/
def HasRoom (g : Gateway σ) (calls : List (Exchange σ)) : Prop :=
  ∀ before x later, calls = before ++ x :: later → x.decisions (g.after before) ≠ [] →
    ((g.decisions (before ++ [x])).length : Int) ≤ x.environment.runConfigs.canary.maxDecisions

theorem decisions_append (g : Gateway σ) (calls more : List (Exchange σ)) :
    g.decisions (calls ++ more) = g.decisions calls ++ (g.after calls).decisions more := by
  induction calls generalizing g with
  | nil => rfl
  | cons x rest ih =>
      have tail := ih (x.answer g).2
      exact (congrArg (x.decisions g ++ ·) tail).trans (List.append_assoc ..).symm

theorem decisions_snoc (g : Gateway σ) (calls : List (Exchange σ)) (x : Exchange σ) :
    g.decisions (calls ++ [x]) = g.decisions calls ++ x.decisions (g.after calls) := by
  rw [decisions_append]
  exact congrArg _ (List.append_nil _)

theorem hasRoom_nil (g : Gateway σ) : g.HasRoom [] := fun before x later split => absurd split (by simp)

theorem hasRoom_snoc {calls : List (Exchange σ)} {x : Exchange σ} : g.HasRoom (calls ++ [x]) ↔
    g.HasRoom calls ∧ (x.decisions (g.after calls) ≠ [] →
      ((g.decisions (calls ++ [x])).length : Int) ≤ x.environment.runConfigs.canary.maxDecisions) := by
  constructor
  · intro room
    refine ⟨fun before y later split => room before y (later ++ [x]) ?_, room calls x [] rfl⟩
    rw [split, List.append_assoc, List.cons_append]
  · rintro ⟨room, fits⟩ before y later split
    rcases Rollback.split_snoc split with ⟨rfl, rfl, -⟩ | ⟨rest, -, inside⟩
    · exact fits
    · exact room before y rest inside

theorem hasRoom_iff_room (g : Gateway σ) (calls : List (Exchange σ)) :
    g.HasRoom calls ↔ Room (g.decisions calls) := by
  induction calls using List.reverseRecOn with
  | nil =>
      exact iff_of_true g.hasRoom_nil fun earlier last later split => absurd split (by simp [decisions])
  | append_singleton calls x ih =>
      rw [hasRoom_snoc, ih, decisions_snoc]
      rcases x.decisions_cases (g.after calls) with none | ⟨q, once, limited⟩
      · rw [none, List.append_nil]
        exact and_iff_left fun stores => absurd rfl stores
      · rw [once, room_snoc, ← limited, List.length_append, List.length_singleton, Nat.cast_add, Nat.cast_one]
        refine and_congr_right fun _ => ?_
        exact ⟨fun fits => fits (List.cons_ne_nil _ _), fun fits _ => fits⟩

end Gateway

/-! What a shelf shows of a record, call after call. -/

section Follows

variable {g : Gateway σ} {n : Int} {S : List Put → Fields → Prop} {puts : List Put}

/-- The store is open, and the decisions on its shelf follow those that were put there. -/
def Gateway.Follows (g : Gateway σ) (n : Int) (S : List Put → Fields → Prop) (puts : List Put) : Prop :=
  ∃ s, g.store = some s ∧ Shelf.decisions.Follows n S puts s.namespaces

theorem Exchange.follows (carried : Carried (Run.idOf n) S) (x : Exchange σ) (h : g.Follows n S puts) :
    (x.answer g).2.Follows n S (puts ++ x.decisions g) := by
  obtain ⟨s, here, follows⟩ := h
  have same : ∀ {t}, g.opened x.environment = .ok t → t = s := by
    intro t opened
    cases (Gateway.opened_of_store here x.environment).symm.trans opened
    rfl
  cases x.answered g with
  | apart idle store =>
      rw [Exchange.decisions_of_idle idle, List.append_nil]
      exact ⟨s, store.trans here, follows⟩
  | looked idle opened store =>
      cases same opened
      rw [Exchange.decisions_of_idle idle, List.append_nil]
      exact ⟨s, store, follows⟩
  | @ran _ p made opened _ left =>
      cases same opened
      rw [Exchange.decisions_of_run made, left]
      have before : Shelf.decisions.Follows n S puts (g.world s).store.namespaces := follows
      exact ⟨_, rfl, before.run carried p⟩
  | reset idle _ opened _ _ left =>
      cases same opened
      rw [Exchange.decisions_of_idle idle, List.append_nil, left]
      have before : Shelf.decisions.Follows n S puts (g.world s).store.namespaces := follows
      exact ⟨_, rfl, before.call .reset⟩

theorem Gateway.Follows.after (carried : Carried (Run.idOf n) S) (h : g.Follows n S puts) (calls : List (Exchange σ)) :
    (g.after calls).Follows n S (puts ++ g.decisions calls) := by
  induction calls generalizing g puts with
  | nil =>
      rw [show g.decisions [] = [] from rfl, List.append_nil]
      exact h
  | cons x rest ih =>
      have next := ih (x.follows carried h)
      rw [List.append_assoc] at next
      exact next

end Follows

namespace Exchange

/-- The call looks up the decision of a run. -/
def Reads (y : Exchange σ) (id : String) : Prop := y.call.method = "GET" ∧ y.call.path = Endpoint.decisionPath id

/-- The reply to a lookup is made of what the shelf holds under the id. -/
theorem answer_of_reads {y : Exchange σ} {g : Gateway σ} {n : Int} {S : List Put → Fields → Prop} {puts : List Put}
    (follows : g.Follows n S puts) (reads : y.Reads (Run.idOf n)) : ∃ entries, S puts entries
      ∧ (y.answer g).1 = Reply.ofResult (match (Fields.get? entries (Run.idOf n)).getD .null with
        | .null => .ok (.refused 404 ("no " ++ "canary decision" ++ " for run " ++ Run.idOf n))
        | .obj fields => .ok (.ok (.obj fields))
        | _ => .error .unsuitable) := by
  obtain ⟨s, here, _, _, entries, -, -, there, shown⟩ := follows
  refine ⟨entries, shown, ?_⟩
  have named : Run.idOf n ≠ "" := by
    intro empty
    have texts := congrArg String.length empty
    simp [Run.idOf] at texts
  have found := Endpoint.find?_decisionPath named (Run.slash_notMem_idOf n)
  have allowed : (Endpoint.decision (Run.idOf n)).methods.contains "GET" = true := rfl
  have held : (g.world s).store.namespaces.entriesOf Run.decisionSpace = .obj entries := there
  unfold answer Gateway.answer Gateway.answerFully
  rw [reads.2, found, reads.1]
  dsimp only
  rw [if_neg (by decide), if_pos allowed]
  unfold Gateway.answerAt
  dsimp only
  rw [Gateway.withStore_of_ok (Gateway.opened_of_store here _)]
  exact congrArg (fun given => Reply.ofResult given.1) (Gateway.outcome_storedRecord held _ _)

/-- What a lookup of a run's decision is answered after the run and any calls since. -/
structure Retrievable (x : Exchange σ) (g : Gateway σ) (id : String) (record : Json) : Prop where
  kept : x.tracked = true → ∀ (later : List (Exchange σ)) (y : Exchange σ), y.Reads id → g.HasRoom (x :: later) →
    (y.answer (g.after (x :: later))).1 = ⟨200, .document, .document record⟩
  gone : x.tracked = true → ∀ (later : List (Exchange σ)) (y : Exchange σ), y.Reads id → ¬ g.HasRoom (x :: later) →
    (y.answer (g.after (x :: later))).1.status = 404
  untracked : x.tracked = false → ∀ (later : List (Exchange σ)) (y : Exchange σ), y.Reads id →
    (y.answer (g.after (x :: later))).1.status = 404

/-- What a call is answered and what it leaves agree. -/
structure Consistent (x : Exchange σ) (g : Gateway σ) : Prop where
  untouched : x.call.method = "GET" ∨ (x.answer g).1.status ∈ [404, 422, 503] →
    g.Untouched x.environment (x.answer g).2
  counted : (x.answer g).1.status = 502 → g.Counted x.environment (x.answer g).2
  posted : x.Posts → (x.answer g).1.status = 200 → ∃ id record, (x.answer g).1.part? "run_id" = some (.str id)
    ∧ (x.answer g).1.part? "decision_record" = some record ∧ x.Retrievable g id record

variable {x : Exchange σ} {g : Gateway σ} {s : Store} {p : Run.Plan σ} {w' : World σ} {result : RunResult}

theorem status_of_absent {y : Exchange σ} {n : Int} {S : List Put → Fields → Prop} {puts : List Put}
    (follows : g.Follows n S puts) (absent : ∀ entries, S puts entries → Fields.get? entries (Run.idOf n) = none)
    (reads : y.Reads (Run.idOf n)) : (y.answer g).1.status = 404 := by
  obtain ⟨entries, shown, told⟩ := answer_of_reads follows reads
  rw [told, absent entries shown]
  rfl

/-- The decision of a run that returned is looked up as the reply to the run has shown it. -/
theorem retrievable_of_returned (grounded : g.Grounded) (opened : g.opened x.environment = .ok s)
    (made : x.run? g = some (p, g.world s)) (ran : p.attempt.outcome (g.world s) = (.ok result, w'))
    (left : (x.answer g).2 = g.taking w') :
    x.Retrievable g result.runId (Json.obj result.decision.toFields).finiteOrNull := by
  obtain ⟨-, count, low, numbered⟩ := grounded.tidy opened
  have before : (g.world s).store.namespaces.Numbered count low := numbered
  have named := Run.runId_of_returned before.counts ran
  have stored : (x.answer g).2.store = some w'.store := by
    rw [left]
    rfl
  have stands : p.tracked = true → ∀ later, (g.after (x :: later)).Follows (count + 1)
      (Stand result.runId (.obj result.decision.toFields)) (g.decisions (x :: later)) := by
    intro tracked later
    have first := Run.stands_of_returned before ran tracked
    rw [← decisions_of_run made] at first
    exact Gateway.Follows.after (named ▸ Stand.carried _ _) ⟨_, stored, first⟩ later
  refine ⟨?_, ?_, ?_⟩
  · intro tracked later y reads room
    have follows := stands ((tracked_of_run made).trans tracked) later
    obtain ⟨entries, stand, told⟩ := answer_of_reads follows (named ▸ reads)
    rw [told, ← named, stand.get?_of_room ((g.hasRoom_iff_room _).mp room)]
    rfl
  · intro tracked later y reads crowded
    have follows := stands ((tracked_of_run made).trans tracked) later
    refine status_of_absent follows (fun entries stand => ?_) (named ▸ reads)
    rw [← named]
    exact stand.get?_of_crowded fun room => crowded ((g.hasRoom_iff_room _).mpr room)
  · intro untracked later y reads
    have first := Run.absent_of_returned before ran ((tracked_of_run made).trans untracked)
    have follows := Gateway.Follows.after (g := (x.answer g).2) (named ▸ carried_absent _) ⟨_, stored, first⟩ later
    refine status_of_absent follows (fun entries absent => ?_) (named ▸ reads)
    rwa [← named, ← Option.not_isSome_iff_eq_none, Fields.get?_isSome_iff]

end Exchange

/-- Replies agree with what calls leave, and with what later calls are told. -/
theorem Gateway.calls_consistent {g : Gateway σ} (grounded : g.Grounded) (past : List (Exchange σ)) (x : Exchange σ) :
    x.Consistent (g.after past) := by
  have grounded := grounded.after past
  refine ⟨Exchange.untouched, Exchange.counted fun s opened => grounded.tidy opened, ?_⟩
  intro posts served
  cases x.answered (g.after past) with
  | apart _ _ _ _ unserved => exact absurd served (unserved posts)
  | looked _ _ _ _ _ unserved => exact absurd served (unserved posts)
  | reset _ _ _ _ unserved => exact absurd served (unserved posts)
  | @ran s p made opened told left =>
      cases ran : p.attempt.outcome ((g.after past).world s) with
      | mk outcome w' =>
        rw [ran] at told left
        rw [told] at served
        rcases Reply.ofRun_cases outcome with ⟨result, rfl, shown⟩ | broken | ⟨failed, -⟩
        · rw [told, shown]
          exact ⟨_, _, Reply.part?_ok _ _, Reply.part?_ok _ _, Exchange.retrievable_of_returned grounded opened made ran left⟩
        · rw [broken] at served
          exact absurd served (by decide)
        · rw [failed] at served
          exact absurd served (by decide)

/-! A run whose decision is found, until the next one takes its place. -/

section Lone

open Http

def engineAddress : Address := ⟨"http".toList, [], "v1".toList, none, "/match".toList, none, none⟩

theorem read_engineAddress : Address.read "http://v1/match".toList = .ok engineAddress := by
  have host : Host.read "v1".toList = .ok "v1".toList := by
    have undotted : Host.looksDotted 4 "v1".toList = false := Host.looksDotted_of_letter (by decide) 2 _
    unfold Host.read
    rw [undotted]
    rfl
  have parts : Address.Parts.ofText "http://v1/match".toList
      = ⟨"http".toList, "v1".toList, "/match".toList, none, none⟩ := by decide +kernel
  have authority : Address.authorityParts "v1".toList = ([], "v1".toList, []) := by decide
  have plain : Address.firstControl? "http://v1/match".toList = none := by decide
  unfold Address.read
  rw [if_neg (by decide), plain, parts]
  dsimp only
  unfold Address.ofParts
  rw [authority]
  dsimp only
  rw [Option.getD_none, host]
  rfl

/-- A network on which every request is answered with an empty match. -/
def quiet : Network Unit := ⟨fun _ s => (.ok ⟨200, [], "\x7b\"matching\":\x7b\x7d\x7d".toUTF8.toList⟩, s)⟩

/-- The engine at that address, with its address read. -/
def quietEngine : Engine Unit := ⟨"v1", fun request s =>
  let (answer, s) := RemoteEngine.send quiet ⟨.post, engineAddress, some (RemoteEngine.body request), some "c"⟩ s
  (answer.bind fun response => (Json.ofBytes response.content).mapError RemoteEngine.unreadable, s)⟩

theorem place_quiet : (RemoteEngine.ofAddress "v1" "http://v1" (some "c")).place "/match" = .ok engineAddress := by
  have text : (RemoteEngine.withoutSlashes "http://v1" ++ "/match").toList = "http://v1/match".toList := by
    decide +kernel
  unfold RemoteEngine.place RemoteEngine.ofAddress
  dsimp only
  rw [text, read_engineAddress]
  rfl

theorem toEngine_quiet : (RemoteEngine.ofAddress "v1" "http://v1" (some "c")).toEngine quiet = quietEngine := by
  unfold RemoteEngine.toEngine RemoteEngine.respond RemoteEngine.reach
  rw [place_quiet]
  rfl

/-- A tracked run, with room for one decision. -/
def lone : Exchange Unit where
  conditions := ⟨[("MATCHING_V1_URL", "http://v1"), ("MATCHING_V2_CANARY_ENABLED", "true"),
    ("MATCHING_V2_CANARY_MAX_DECISIONS", "1")], ⟨2026, 3, 1, 12, 0, 0, 0⟩, "c", .ok ()⟩
  network := quiet
  call := ⟨"POST", "/matching/runs".toList, [], [("content-type", "application/json")], "\x7b\x7d".toUTF8.toList⟩

def lonePlan : Run.Plan Unit :=
  ⟨⟨some quietEngine, none, none⟩, lone.conditions.now, ⟨.unknown, none, none, [], [], [], 50, none⟩,
    lone.environment.runConfigs, none⟩

def CallBody.isBare : CallBody → Bool
  | .document (.obj []) => true
  | _ => false

theorem CallBody.eq_of_isBare {body : CallBody} (bare : body.isBare = true) : body = .document (.obj []) := by
  unfold isBare at bare
  split at bare
  · rfl
  · contradiction

theorem posts_lone : lone.Posts := by decide +kernel

theorem runEngines_lone : lone.environment.runEngines lone.network (lone.call.correlationId lone.conditions.freshId)
    = .ok (some ⟨some quietEngine, none, none⟩) := by
  rw [← toEngine_quiet]
  rfl

theorem run?_lone {g : Gateway Unit} {s : Store} (opened : g.opened lone.environment = .ok s) :
    lone.run? g = some (lonePlan, g.world s) := by
  have read : lone.call.readBody = .ok (.document (.obj [])) := by
    have told : lone.call.readBody.toOption.any CallBody.isBare = true := by decide +kernel
    cases given : lone.call.readBody with
    | error reply =>
        rw [given] at told
        contradiction
    | ok body =>
        rw [given] at told
        exact congrArg _ (CallBody.eq_of_isBare told)
  rw [Exchange.run?_of_accepted posts_lone read rfl, runEngines_lone, opened]
  rfl

/-- The service just started, with nothing on the disk. -/
def fresh : Gateway Unit := .start ⟨[]⟩ ()

theorem grounded_fresh : fresh.Grounded := by
  refine Gateway.grounded_start (fun place text => ?_) ()
  unfold FileTree.entryAt
  split <;> nofun

theorem length_decisions_lone {g : Gateway Unit} {s : Store} (opened : g.opened lone.environment = .ok s)
    (finishes : Finishes lonePlan.attempt (g.world s)) : (lone.decisions g).length = 1 := by
  obtain ⟨result, w', ran⟩ := finishes.eq
  have tracked : lonePlan.tracked = true := (Exchange.tracked_of_run (run?_lone opened)).trans (by decide)
  rw [Exchange.decisions_of_run (run?_lone opened), ((lonePlan.keeping _).returned result w' ran).2.1 tracked]
  rfl

/-- The decision of such a run is found as it was shown, and is gone after another run. -/
theorem decision_found_until_next : fresh.Grounded ∧ ∃ id record,
    (lone.answer fresh).1.part? "run_id" = some (.str id) ∧ (lone.answer fresh).1.part? "decision_record" = some record
      ∧ ∀ y : Exchange Unit, y.Reads id → (y.answer (fresh.after [lone])).1 = ⟨200, .document, .document record⟩
        ∧ (y.answer (fresh.after [lone, lone])).1.status = 404 := by
  have opened : fresh.opened lone.environment = .ok (.inMemory []) := rfl
  have answered := Exchange.answer_of_run (run?_lone opened)
  have served : (lone.answer fresh).1.status = 200 := by
    rw [answered]
    decide +kernel
  have once := length_decisions_lone opened (finishes_iff_isOk.mpr (by decide +kernel))
  have again : (lone.decisions (fresh.after [lone])).length = 1 := by
    have left : fresh.after [lone] = fresh.taking (lonePlan.attempt.outcome (fresh.world (.inMemory []))).2 :=
      congrArg Prod.snd answered
    rw [left]
    exact length_decisions_lone rfl (finishes_iff_isOk.mpr (by decide +kernel))
  have limit : lone.environment.runConfigs.canary.maxDecisions = 1 := by decide +kernel
  have first : (fresh.decisions [lone]).length = 1 := by
    rw [← List.nil_append [lone], Gateway.decisions_snoc]
    exact once
  have roomy : fresh.HasRoom [lone] := by
    rw [← List.nil_append [lone], Gateway.hasRoom_snoc]
    refine ⟨Gateway.hasRoom_nil fresh, fun _ => ?_⟩
    rw [List.nil_append, first, limit]
    rfl
  have crowded : ¬ fresh.HasRoom [lone, lone] := by
    intro room
    have fits := room [lone] lone [] rfl (List.ne_nil_of_length_pos (by omega))
    rw [Gateway.decisions_snoc, List.length_append, first, again, limit] at fits
    contradiction
  obtain ⟨id, record, named, shown, found⟩ := (Gateway.calls_consistent grounded_fresh [] lone).posted posts_lone served
  have tracked : lone.tracked = true := by decide
  exact ⟨grounded_fresh, id, record, named, shown, fun y reads =>
    ⟨found.kept tracked [] y reads roomy, found.gone tracked [lone] y reads crowded⟩⟩

end Lone

end CanaryGate
