import CanaryGate.Proofs.Engine.Remote
import CanaryGate.Proofs.Gateway.Records
import CanaryGate.Proofs.Run.Accusation
import CanaryGate.Proofs.Run.PassedOn

/-! # Calls that reach the baseline

A call with an accepted body makes a run, and the run asks the baseline once. Whether the question becomes a message
is a matter of the numbers and the texts in the body and of the address that is configured; only if it does is a refusal
in the baseline's name about the baseline.
-/

namespace CanaryGate

open Attempt

variable {σ : Type}

theorem Call.wideOfBytes_of_readBody {call : Call} {wide : Json} (read : call.readBody = .ok (.document wide)) :
    Json.wideOfBytes call.body = .ok wide := by
  unfold readBody at read
  split at read
  · cases read
  · split at read
    · cases read
    · split at read
      · rename_i found
        cases read
        exact found
      · cases read
      · cases read

namespace Exchange

/-- The baseline at an address, as the call asks it. -/
def baseline (x : Exchange σ) (url : String) : RemoteEngine :=
  .ofAddress "v1" url (some (x.call.correlationId x.conditions.freshId))

/-- What the baseline is asked for a request. -/
def question (x : Exchange σ) (request : RunRequest) : EngineRequest :=
  Run.engineRequest request ((Run.firstText request.recordedAt none).getD x.conditions.now.text)
    x.environment.runConfigs.baselineMatcher

/-- A run is made, and gets its number. -/
def Numbered (x : Exchange σ) (g : Gateway σ) : Prop := ∃ p w, x.run? g = some (p, w) ∧ Finishes Run.nextId w

variable {x : Exchange σ} {g : Gateway σ} {p : Run.Plan σ} {w : World σ} {wide : Json} {request : RunRequest}
  {url : String}

/-- The run that an accepted body makes, if the baseline has an address. -/
structure Made (x : Exchange σ) (g : Gateway σ) (url : String) (request : RunRequest) (p : Run.Plan σ)
    (w : World σ) : Prop where
  engine : p.engines.baseline = some ((x.baseline url).toEngine x.network)
  asks : p.ask p.configs.baselineMatcher = x.question request
  network : w.engines = g.network

theorem made_of_run (read : x.call.readBody = .ok (.document wide))
    (accepted : RunRequest.readWide wide = .accepted request) (configured : x.environment.engineUrl "v1" = some url)
    (made : x.run? g = some (p, w)) : x.Made g url request p w := by
  have address : x.environment.remoteEngine x.network (x.call.correlationId x.conditions.freshId) "v1"
      = some ((x.baseline url).toEngine x.network) := by
    rw [Environment.remoteEngine, configured]
    rfl
  have asked : (CallBody.document wide).runRequest = .ok request := by
    simp only [CallBody.runRequest, accepted]
  rw [run?_of_accepted (posts_of_run made) read asked] at made
  split at made
  · rename_i engines s ready opened
    cases made
    unfold Environment.runEngines at ready
    obtain ⟨_, -, given⟩ := except_bind_eq_ok.mp ready
    rw [address] at given
    cases given
    exact ⟨rfl, rfl, rfl⟩
  · contradiction

section

variable (made : ∀ p w, x.run? g = some (p, w) → x.Made g url request p w)

include made

/-- Such a call is told so if its run has a number, and the baseline fails in words that the log takes. -/
theorem status_eq_iff_fails : (x.answer g).1.status = 502 ↔ x.Numbered g ∧ ∃ failure,
    ((x.baseline url).toEngine x.network).Fails (x.question request) none g.network failure
      ∧ ∀ error, ¬ LogText.Oversized failure.message error := by
  rw [status_eq_iff]
  constructor
  · rintro ⟨p, w, run, blamed⟩
    obtain ⟨numbered, engine, failure, configured, fails, fits⟩ := Run.blames_iff.mp blamed
    obtain ⟨here, asks, network⟩ := made p w run
    cases here.symm.trans configured
    rw [asks, network] at fails
    exact ⟨⟨p, w, run, numbered⟩, failure, fails, fits⟩
  · rintro ⟨⟨p, w, run, numbered⟩, failure, fails, fits⟩
    obtain ⟨here, asks, network⟩ := made p w run
    rw [← asks, ← network] at fails
    exact ⟨p, w, run, Run.blames_iff.mpr ⟨numbered, _, failure, here, fails, fits⟩⟩

/-- A run whose baseline fails leaves the network as the baseline does. -/
theorem network_of_failing (numbered : x.Numbered g) {failure : EngineFailure}
    (fails : ((x.baseline url).toEngine x.network).Fails (x.question request) none g.network failure) :
    (x.answer g).2.network = ((x.baseline url).respond x.network (x.question request) g.network).2 := by
  obtain ⟨p, w, run, numbered⟩ := numbered
  obtain ⟨here, asks, network⟩ := made p w run
  rw [← asks, ← network] at fails
  obtain ⟨fault, -, -, left⟩ := Run.attempt_of_failing numbered here fails
  rw [answer_of_run run, ← asks, ← network]
  exact left

theorem asked_of_numbered (run : x.run? g = some (p, w)) (numbered : Finishes Run.nextId w) :
    p.asked w .baseline = [x.question request] := by
  obtain ⟨here, asks, -⟩ := made p w run
  rcases Run.Plan.baseline_hears (p.asks_invocations w) with ⟨refused, -⟩ | ⟨-, once⟩
  · exact absurd numbered refused
  · rw [Run.Plan.asked, once, here, asks]
    rfl

end

/-- What a call with an accepted body has to do with the baseline at its address. -/
structure Contacts (x : Exchange σ) (g : Gateway σ) (url : String) (wide : Json) (request : RunRequest) : Prop where
  /-- A run that gets its number asks the baseline once. -/
  asked : ∀ p w, x.run? g = some (p, w) → Finishes Run.nextId w →
    p.engines.baseline = some ((x.baseline url).toEngine x.network) ∧ p.asked w .baseline = [x.question request]
  /-- The question can be sent as a document exactly if the numbers that are passed on are finite, and no half of a
  surrogate pair stands in the texts. -/
  document : RemoteEngine.unfit? (RemoteEngine.body (x.question request)) = none ↔ request.Encodable
  /-- A number that is not finite is met first. -/
  infinite : ¬ request.Finite →
    RemoteEngine.unfit? (RemoteEngine.body (x.question request)) = some (RemoteEngine.unsendable .notFinite)
  torn : request.Finite → ∀ halves, request.halves = some halves →
    RemoteEngine.unfit? (RemoteEngine.body (x.question request)) = some (RemoteEngine.unencodable halves)
  /-- The numbers are finite if those of the body are, unless an asset value is spelled as a text. -/
  plain : wide.shown.Finite → (∀ values, wide.shown.field? "asset_values_usd" = some (.obj values) →
    ∀ entry ∈ values, ∀ s, entry.2 ≠ .str s) → request.Finite
  /-- No half is passed on unless one stands in an intent, an edge intent, the name of an asset or the time; so there is
  none if the body holds none. -/
  halves : request.halves = none ↔ RunRequest.tellsHalves wide = false
  whole : wide.torn = false → request.halves = none
  /-- Then a baseline that can be reached is sent one message, and is blamed if what comes back is no matching
  result, in words that the log takes. -/
  reached : request.Encodable → (x.baseline url).Reachable → ∃ m, (x.baseline url).message (x.question request) = .ok m
    ∧ (∀ s, (x.baseline url).sent x.network (x.question request) s = [m])
    ∧ ((x.answer g).1.status = 502 ↔ x.Numbered g
      ∧ ∃ failure, RemoteEngine.Lost m (x.network.exchange m g.network).1 failure
        ∧ ∀ error, ¬ LogText.Oversized failure.message error)
    ∧ ((x.answer g).1.status = 502 → (x.answer g).2.network = (x.network.exchange m g.network).2)
  /-- Else nothing is sent, and a run that gets its number leaves the network as it was. -/
  unreached : ¬ (request.Encodable ∧ (x.baseline url).Reachable) →
    (∀ s, (x.baseline url).sent x.network (x.question request) s = [])
      ∧ (x.Numbered g → (x.answer g).2.network = g.network)
  /-- The baseline is blamed for a question that has no bytes, which it never sees. -/
  blamed : ¬ request.Encodable → (∃ address, (x.baseline url).place "/match" = .ok address) → x.Numbered g →
    (x.answer g).1.status = 502

end Exchange

/-- With an address of the baseline configured, an accepted body of finite numbers and whole texts reaches it if
anything can; one with another number, or with half of a surrogate pair, is answered as if the baseline had failed. -/
theorem Exchange.contacts_of_accepted (x : Exchange σ) (g : Gateway σ) {wide : Json} {request : RunRequest}
    {url : String} (read : x.call.readBody = .ok (.document wide))
    (accepted : RunRequest.readWide wide = .accepted request)
    (configured : x.environment.engineUrl "v1" = some url) : x.Contacts g url wide request := by
  have made : ∀ p w, x.run? g = some (p, w) → x.Made g url request p w :=
    fun p w => made_of_run read accepted configured
  have short : (Json.obj (x.question request).payload).Short :=
    RunRequest.short_payload_of_readWide
      (Json.spelled_short.of_wideOfBytes (Call.wideOfBytes_of_readBody read)) accepted _
  have finite : (Json.obj (x.question request).payload).Finite ↔ request.Finite := RunRequest.finite_payload_iff ..
  have document : RemoteEngine.unfit? (RemoteEngine.body (x.question request)) = none ↔ request.Encodable := by
    refine RemoteEngine.unfit?_eq_none_iff.trans ((and_congr_left' (short.obstacle?_eq_none_iff.trans finite)).trans ?_)
    exact ⟨fun ⟨finite, whole⟩ => ⟨finite, whole⟩, fun h => ⟨h.finite, h.whole⟩⟩
  have infinite : ¬ request.Finite →
      RemoteEngine.unfit? (RemoteEngine.body (x.question request)) = some (RemoteEngine.unsendable .notFinite) :=
    fun unfinite => RemoteEngine.unfit?_of_obstacle (short.judged.held (finite.not.mpr unfinite))
  have torn : request.Finite → ∀ halves, request.halves = some halves →
      RemoteEngine.unfit? (RemoteEngine.body (x.question request)) = some (RemoteEngine.unencodable halves) :=
    fun free halves held => RemoteEngine.unfit?_of_halves (short.judged.sent (finite.mpr free)) held
  have halves := RunRequest.halves_eq_none_iff accepted
  refine ⟨?asked, document, infinite, torn, ?plain, halves, ?whole, ?reached, ?unreached, ?blamed⟩
  case asked => exact fun p w run numbered => ⟨(made p w run).engine, asked_of_numbered made run numbered⟩
  case plain =>
    intro plain unspelled
    obtain ⟨r, shown, rfl⟩ := RunRequest.eq_of_readWide accepted
    exact RunRequest.finite_ofWide (RunRequest.finite_of_read plain shown unspelled)
  case whole => exact fun untorn => halves.mpr (RunRequest.tellsHalves_of_untorn untorn)
  case reached =>
    intro encodable reachable
    obtain ⟨m, sent⟩ := RemoteEngine.sent_iff.mpr ⟨document.mpr encodable, reachable⟩
    have failed := status_eq_iff_fails made
    refine ⟨m, sent, fun s => ?_, ?_, fun told => ?_⟩
    · rw [RemoteEngine.sent_eq, sent]
      rfl
    · simp only [failed, RemoteEngine.fails_iff_of_sent sent]
    · obtain ⟨numbered, failure, fails, -⟩ := failed.mp told
      rw [network_of_failing made numbered fails, RemoteEngine.respond_of_sent sent]
  case unreached =>
    intro kept
    cases asked : (x.baseline url).message (x.question request) with
    | ok m =>
        obtain ⟨free, reachable⟩ := RemoteEngine.sent_iff.mp ⟨m, asked⟩
        exact absurd ⟨document.mp free, reachable⟩ kept
    | error failure =>
        refine ⟨fun s => ?_, fun numbered => ?_⟩
        · rw [RemoteEngine.sent_eq, asked]
          rfl
        · rw [network_of_failing made numbered ((RemoteEngine.fails_iff_of_unsent asked).mpr rfl),
            RemoteEngine.respond_of_unsent asked]
  case blamed =>
    rintro unencodable ⟨address, placed⟩ numbered
    obtain ⟨failure, unfit, fits⟩ : ∃ failure,
        RemoteEngine.unfit? (RemoteEngine.body (x.question request)) = some failure
          ∧ ∀ error, ¬ LogText.Oversized failure.message error := by
      by_cases free : request.Finite
      · cases held : request.halves with
        | none => exact absurd ⟨free, held⟩ unencodable
        | some halves => exact ⟨_, torn free halves held, RemoteEngine.fits_unencodable halves⟩
      · exact ⟨_, infinite free, fun error oversized => absurd oversized.1 (by decide)⟩
    have unsent := RemoteEngine.message_of_unfit placed unfit
    exact (status_eq_iff_fails made).mpr ⟨numbered, _, (RemoteEngine.fails_iff_of_unsent unsent).mpr rfl, fits⟩

/-! Bodies that are posted to a service that was just started. -/

section Posted

open RemoteEngine

/-- A run that is asked for with a body. The network answers every message with an empty match. -/
def posted (text : String) : Exchange Unit where
  conditions := lone.conditions
  network := quiet
  call := { lone.call with body := text.toUTF8.toList }

theorem reachable_posted (text : String) : ((posted text).baseline "http://v1").Reachable := by
  refine ⟨engineAddress, place_quiet, by decide, fun id same => ?_⟩
  obtain rfl : "c" = id := Option.some.inj same
  decide

section

variable {text : String} {wide : Json} {request : RunRequest}

theorem run?_posted (read : (posted text).call.readBody = .ok (.document wide))
    (accepted : RunRequest.readWide wide = .accepted request) : (posted text).run? fresh
      = some (⟨⟨some quietEngine, none, none⟩, lone.conditions.now, request, lone.environment.runConfigs,
        (posted text).call.idempotencyKey⟩, fresh.world (.inMemory [])) := by
  have engines : (posted text).environment.runEngines (posted text).network
      ((posted text).call.correlationId (posted text).conditions.freshId)
        = .ok (some ⟨some quietEngine, none, none⟩) := runEngines_lone
  have opened : fresh.opened (posted text).environment = .ok (.inMemory []) := rfl
  have posts : (posted text).Posts := posts_lone
  have asked : (CallBody.document wide).runRequest = .ok request := by
    simp only [CallBody.runRequest, accepted]
  rw [Exchange.run?_of_accepted posts read asked, engines, opened]
  rfl

theorem unsent_posted {failure : EngineFailure} (unfit : unfit? (body ((posted text).question request)) = some failure)
    (s : Unit) : ((posted text).baseline "http://v1").sent (posted text).network ((posted text).question request) s
      = [] := by
  have placed : ((posted text).baseline "http://v1").place "/match" = .ok engineAddress := place_quiet
  rw [sent_eq, message_of_unfit placed unfit]
  rfl

end

/-- A body in which something is found was read. -/
theorem readBody_of_found {call : Call} {α : Type} {look : CallBody → Option α} {a : α}
    (found : call.readBody.toOption.bind look = some a) :
    ∃ body, call.readBody = .ok body ∧ look body = some a := by
  cases read : call.readBody with
  | error reply =>
      rw [read] at found
      contradiction
  | ok body =>
      rw [read] at found
      exact ⟨body, rfl, found⟩

/-! Bodies with one asset value. -/

/-- A body in which an asset has a value. -/
def prices (x : Binary64) : Json := .obj [("asset_values_usd", .obj [("a", .float x)])]

def priced (numeral : String) : Exchange Unit := posted ("\x7b\"asset_values_usd\":\x7b\"a\":" ++ numeral ++ "\x7d\x7d")

def pricedRequest (x : Binary64) : RunRequest := ⟨.unknown, none, none, [], [("a", x)], [], 50, none⟩

theorem readWide_prices (x : Binary64) : RunRequest.readWide (prices x) = .accepted (pricedRequest x) := by
  have names : Json.shownText "asset_values_usd" = "asset_values_usd" ∧ Json.shownText "a" = "a" := by decide +kernel
  have shown : (prices x).shown = prices x := by
    simp only [prices, Json.shown, Json.fieldsShown, names]
  have whole : RunRequest.halvesOf (prices x) [x] = none := by
    have untorn : (prices x).torn = false := by
      have plain : Json.tornText "asset_values_usd" = false ∧ Json.tornText "a" = false := by decide +kernel
      simp only [prices, Json.torn, Json.fieldsTorn, plain, Bool.or_self]
    rw [RunRequest.halvesOf, RunRequest.tellsHalves_of_untorn untorn, if_neg Bool.false_ne_true]
  have completed : RunRequest.ofWide (prices x) (pricedRequest x) = pricedRequest x := by
    show { pricedRequest x with halves := RunRequest.halvesOf (prices x) [x] } = _
    rw [whole]
    rfl
  have read : RunRequest.read (prices x).shown = .accepted (pricedRequest x) := by
    rw [shown]
    rfl
  rw [RunRequest.readWide_of_read read rfl, completed]

def CallBody.price? : CallBody → Option Binary64
  | .document (.obj [("asset_values_usd", .obj [("a", .float x)])]) => some x
  | _ => none

theorem CallBody.eq_of_price? {body : CallBody} {x : Binary64} (found : body.price? = some x) :
    body = .document (prices x) := by
  unfold price? at found
  split at found
  · cases found
    rfl
  · contradiction

theorem readBody_priced {numeral : String} {x : Binary64}
    (found : (priced numeral).call.readBody.toOption.bind CallBody.price? = some x) :
    (priced numeral).call.readBody = .ok (.document (prices x)) := by
  obtain ⟨body, read, price⟩ := readBody_of_found found
  rw [read, CallBody.eq_of_price? price]

/-- A finite asset value is sent to the baseline. -/
theorem contacts_of_price :
    let x := priced "1.5"
    let price := Binary64.ofDecimal false 15 (-1)
    x.call.readBody = .ok (.document (prices price)) ∧ RunRequest.readWide (prices price) = .accepted (pricedRequest price)
      ∧ x.environment.engineUrl "v1" = some "http://v1"
      ∧ ∃ m, ∀ s, (x.baseline "http://v1").sent x.network (x.question (pricedRequest price)) s = [m] := by
  intro x price
  have read : x.call.readBody = .ok (.document (prices price)) := readBody_priced (by decide +kernel)
  have contacts := x.contacts_of_accepted fresh read (readWide_prices price) rfl
  have encodable : (pricedRequest price).Encodable := by
    refine ⟨⟨nofun, ?_, nofun⟩, rfl⟩
    intro entry member
    cases List.mem_singleton.mp member
    decide +kernel
  obtain ⟨m, -, once, -⟩ := contacts.reached encodable (reachable_posted _)
  exact ⟨read, readWide_prices price, rfl, m, once⟩

/-- An asset value beyond the doubles is accepted as an infinity, and nothing is sent: the baseline is blamed, though
the network would have answered with a match. -/
theorem blamed_for_infinity :
    let x := priced "1e999"
    let infinity := Binary64.infinite false
    x.Posts ∧ x.call.readBody = .ok (.document (prices infinity))
      ∧ RunRequest.readWide (prices infinity) = .accepted (pricedRequest infinity)
      ∧ x.environment.engineUrl "v1" = some "http://v1"
      ∧ unfit? (body (x.question (pricedRequest infinity))) = some (unsendable .notFinite)
      ∧ (∀ s, (x.baseline "http://v1").sent x.network (x.question (pricedRequest infinity)) s = [])
      ∧ (x.answer fresh).1.status = 502 := by
  intro x infinity
  have read : x.call.readBody = .ok (.document (prices infinity)) := readBody_priced (by decide +kernel)
  have accepted := readWide_prices infinity
  have made : x.run? fresh = some _ := run?_posted read accepted
  refine ⟨posts_lone, read, accepted, rfl, rfl, unsent_posted rfl, ?_⟩
  rw [Exchange.answer_of_run made]
  decide +kernel

/-! Bodies with one text. -/

/-- A wide body in which an intent has a text. -/
def intends (s : List Point) : Json := .obj [("intents", .arr [.obj [("a", .str (String.ofList (Point.pack s)))]])]

def intended (spelling : String) : Exchange Unit :=
  posted ("\x7b\"intents\":[\x7b\"a\":\"" ++ spelling ++ "\"\x7d]\x7d")

def intendedRequest (s : List Point) : RunRequest :=
  .ofWide (intends s) ⟨.unknown, none, none, [[("a", .str (Point.toText s))]], [], [], 50, none⟩

theorem readWide_intends (s : List Point) : RunRequest.readWide (intends s) = .accepted (intendedRequest s) := by
  have names : Json.shownText "intents" = "intents" ∧ Json.shownText "a" = "a" := by decide +kernel
  have text : Json.shownText (String.ofList (Point.pack s)) = Point.toText s := by
    rw [Json.shownText, String.toList_ofList, Point.unpack_pack]
  refine RunRequest.readWide_of_read ?_ rfl
  simp only [intends, Json.shown, Json.fieldsShown, Json.itemsShown, names, text]
  rfl

def CallBody.intent? : CallBody → Option String
  | .document (.obj [("intents", .arr [.obj [("a", .str s)]])]) => some s
  | _ => none

theorem CallBody.eq_of_intent? {body : CallBody} {s : List Point}
    (found : body.intent? = some (String.ofList (Point.pack s))) : body = .document (intends s) := by
  unfold intent? at found
  split at found
  · cases found
    rfl
  · contradiction

theorem readBody_intended {spelling : String} {s : List Point}
    (found : (intended spelling).call.readBody.toOption.bind CallBody.intent? = some (String.ofList (Point.pack s))) :
    (intended spelling).call.readBody = .ok (.document (intends s)) := by
  obtain ⟨body, read, text⟩ := readBody_of_found found
  rw [read, CallBody.eq_of_intent? text]

/-- The escape of half of a surrogate pair is accepted as well, and nothing is sent either. -/
theorem blamed_for_half :
    let x := intended "\\ud800"
    let request := intendedRequest [.half 0]
    x.call.readBody = .ok (.document (intends [.half 0]))
      ∧ RunRequest.readWide (intends [.half 0]) = .accepted request ∧ request.halves = some ⟨18, 1, 0xD800⟩
      ∧ (∀ s, (x.baseline "http://v1").sent x.network (x.question request) s = [])
      ∧ (x.answer fresh).1.status = 502 := by
  intro x request
  have read : x.call.readBody = .ok (.document (intends [.half 0])) := readBody_intended (by decide +kernel)
  have accepted := readWide_intends [.half 0]
  have halves : request.halves = some ⟨18, 1, 0xD800⟩ := by decide +kernel
  have unfit : unfit? (body (x.question request)) = some (unencodable ⟨18, 1, 0xD800⟩) := by
    refine unfit?_of_halves ?_ halves
    decide +kernel
  have made : x.run? fresh = some _ := run?_posted read accepted
  refine ⟨read, accepted, halves, unsent_posted unfit, ?_⟩
  rw [Exchange.answer_of_run made]
  decide +kernel

end Posted

end CanaryGate
