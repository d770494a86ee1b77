import CanaryGate.Engine.Remote
import CanaryGate.Proofs.Attempt.Success
import CanaryGate.Proofs.Engine.Boundary

/-! # Asking an engine behind an address

A question becomes one message. Either something keeps the message from being sent, and the failure is there before
the network hears of anything; or the message is sent once, and what comes back decides.
-/

namespace CanaryGate

variable {σ : Type}

namespace Http.Network

/-- The network, made to write down what is sent on it. -/
def noting (network : Network σ) : Network (σ × List Request) where
  exchange := fun m s => ((network.exchange m s.1).1, (network.exchange m s.1).2, s.2 ++ [m])

end Http.Network

namespace RemoteEngine

open Http

variable {e : RemoteEngine} {network : Network σ} {question : EngineRequest} {s : σ} {m : Request}
  {failure : EngineFailure}

/-- The message that puts a question to the engine, or what keeps it from being sent. -/
def message (e : RemoteEngine) (question : EngineRequest) : Except EngineFailure Request :=
  match e.place "/match" with
  | .error failure => .error failure
  | .ok address =>
    match hindrance? ⟨.post, address, some (body question), e.correlationId⟩ with
    | some failure => .error failure
    | none => .ok ⟨.post, address, some (body question), e.correlationId⟩

/-- What is read out of the answer to a message. -/
def reading (m : Request) (answer : Except EngineFailure Response) : Except EngineFailure Json :=
  (answer.bind fun response => response.accepted m.address).bind fun response =>
    (Json.ofBytes response.content).mapError unreadable

theorem respond_of_unsent (unsent : e.message question = .error failure) (network : Network σ) (s : σ) :
    e.respond network question s = (.error failure, s) := by
  unfold message at unsent
  unfold respond reach
  cases placed : e.place "/match" with
  | error other =>
      rw [placed] at unsent
      cases unsent
      rfl
  | ok address =>
      rw [placed] at unsent
      dsimp only at unsent
      split at unsent
      · rename_i hindered
        cases unsent
        dsimp only
        rw [send, hindered]
        rfl
      · contradiction

theorem respond_of_sent (sent : e.message question = .ok m) (network : Network σ) (s : σ) :
    e.respond network question s = (reading m (network.exchange m s).1, (network.exchange m s).2) := by
  unfold message at sent
  unfold respond reach
  cases placed : e.place "/match" with
  | error other =>
      rw [placed] at sent
      contradiction
  | ok address =>
      rw [placed] at sent
      dsimp only at sent
      split at sent
      · contradiction
      · rename_i free
        cases sent
        dsimp only
        rw [send, free]
        rfl

/-- Asking sends the message once, or nothing; and a network that writes it down answers the same. -/
theorem respond_noting (e : RemoteEngine) (network : Network σ) (question : EngineRequest) (s : σ)
    (past : List Request) : e.respond network.noting question (s, past) = ((e.respond network question s).1,
      (e.respond network question s).2, past ++ (e.message question).toOption.toList) := by
  cases asked : e.message question with
  | error failure =>
      rw [respond_of_unsent asked, respond_of_unsent asked]
      simp [Except.toOption]
  | ok m =>
      rw [respond_of_sent asked, respond_of_sent asked]
      rfl

/-- The messages that the engine sends when it is asked. -/
def sent (e : RemoteEngine) (network : Network σ) (question : EngineRequest) (s : σ) : List Request :=
  (e.respond network.noting question (s, [])).2.2

theorem sent_eq (e : RemoteEngine) (network : Network σ) (question : EngineRequest) (s : σ) :
    e.sent network question s = (e.message question).toOption.toList := by
  rw [sent, respond_noting, List.nil_append]

/-! What keeps a message from being sent. -/

/-- There is a place for messages to the engine, and headers can carry the texts that go with one. -/
def Reachable (e : RemoteEngine) : Prop :=
  ∃ address, e.place "/match" = .ok address ∧ carriable address.server = true
    ∧ ∀ id, e.correlationId = some id → carriable id.toList = true

theorem unfit?_eq_none_iff {b : Body} : unfit? b = none ↔ b.value.obstacle? = none ∧ b.halves = none := by
  unfold unfit?
  cases b.value.obstacle? with
  | some obstacle => simp
  | none => simp

/-- An obstacle among the values is met before one among the texts. -/
theorem unfit?_of_obstacle {b : Body} {obstacle : Json.Obstacle} (held : b.value.obstacle? = some obstacle) :
    unfit? b = some (unsendable obstacle) := by
  rw [unfit?, held]

theorem unfit?_of_halves {b : Body} {halves : Unencodable} (free : b.value.obstacle? = none)
    (torn : b.halves = some halves) : unfit? b = some (unencodable halves) := by
  rw [unfit?, free, torn]
  rfl

/-- The words for texts without bytes fit into the log. -/
theorem fits_unencodable (halves : Unencodable) (error : Json.ReadError) :
    ¬ LogText.Oversized (unencodable halves).message error := by
  rintro ⟨looks, -⟩
  have front : ∀ rest : String, "'" ++ rest = String.ofList ('\'' :: rest.toList) := by
    intro rest
    apply String.toList_injective
    simp
  have words : ∃ rest : String, (unencodable halves).message = "'" ++ ("utf-8" ++ rest) := by
    simp only [unencodable, Unencodable.message, Unencodable.words, String.append_assoc]
    exact ⟨_, rfl⟩
  obtain ⟨rest, words⟩ := words
  rw [words, front, LogText.looksLikeDocument_cons (by decide) (by simp)] at looks
  exact absurd looks (by decide)

theorem hindrance?_of_unfit (unfit : m.body.bind unfit? = some failure) : hindrance? m = some failure := by
  rw [hindrance?, unfit]

theorem hindrance?_eq_none_iff : hindrance? m = none ↔ m.body.bind unfit? = none
    ∧ carriable m.address.server = true ∧ ∀ id, m.correlationId = some id → carriable id.toList = true := by
  cases unfit : m.body.bind unfit? with
  | some failure => simp [hindrance?_of_unfit unfit]
  | none =>
      rw [hindrance?, unfit]
      cases m.correlationId with
      | none => simp
      | some id => simp

theorem message_of_placed {address : Address} (placed : e.place "/match" = .ok address) : e.message question
    = match hindrance? ⟨.post, address, some (body question), e.correlationId⟩ with
      | some failure => .error failure
      | none => .ok ⟨.post, address, some (body question), e.correlationId⟩ := by
  rw [message, placed]

/-- The message is sent if the question can be sent as a document and the engine can be reached. -/
theorem sent_iff : (∃ m, e.message question = .ok m) ↔ unfit? (body question) = none ∧ e.Reachable := by
  cases placed : e.place "/match" with
  | error failure =>
      have unsent : e.message question = .error failure := by rw [message, placed]
      simp [unsent, Reachable, placed]
  | ok address =>
      have free := hindrance?_eq_none_iff
        (m := ⟨.post, address, some (body question), e.correlationId⟩)
      rw [message_of_placed placed]
      cases hindered : hindrance? ⟨.post, address, some (body question), e.correlationId⟩ with
      | some failure =>
          rw [hindered] at free
          refine iff_of_false nofun ?_
          rintro ⟨document, other, same, carried⟩
          cases placed.symm.trans same
          exact nomatch free.mpr ⟨document, carried⟩
      | none =>
          obtain ⟨document, carried⟩ := free.mp hindered
          exact iff_of_true ⟨_, rfl⟩ ⟨document, address, placed, carried⟩

/-- Where a message has a place, an unfit question is what keeps it from being sent. -/
theorem message_of_unfit {address : Address} (placed : e.place "/match" = .ok address)
    (unfit : unfit? (body question) = some failure) : e.message question = .error failure := by
  have hindered := hindrance?_of_unfit
    (m := ⟨.post, address, some (body question), e.correlationId⟩) unfit
  rw [message_of_placed placed, hindered]

/-! How an engine fails that a message was sent to. -/

/-- The ways in which what comes back is no matching result. -/
inductive Lost (m : Request) (answer : Except EngineFailure Response) : EngineFailure → Prop where
  | unanswered {failure : EngineFailure} (failed : answer = .error failure) : Lost m answer failure
  | refused {response : Response} {failure : EngineFailure} (answered : answer = .ok response)
      (refused : response.accepted m.address = .error failure) : Lost m answer failure
  | unread {response accepted : Response} {error : Json.BytesError} (answered : answer = .ok response)
      (success : response.accepted m.address = .ok accepted) (flawed : Json.ofBytes accepted.content = .error error) :
      Lost m answer (unreadable error)
  | unmatched {response accepted : Response} {result : Json} (answered : answer = .ok response)
      (success : response.accepted m.address = .ok accepted) (read : Json.ofBytes accepted.content = .ok result)
      (other : isMatchingResult result = false) : Lost m answer .noResult

/-- What is read out of an answer is a matching result, or the answer is lost. -/
theorem lost_iff {answer : Except EngineFailure Response} : Lost m answer failure ↔
    reading m answer = .error failure
      ∨ failure = .noResult ∧ ∃ result, reading m answer = .ok result ∧ isMatchingResult result = false := by
  constructor
  · rintro (⟨rfl⟩ | ⟨rfl, refused⟩ | ⟨rfl, success, flawed⟩ | ⟨rfl, success, read, other⟩)
    · exact .inl rfl
    · refine .inl ?_
      simp only [reading, Except.bind, refused]
    · refine .inl ?_
      simp only [reading, Except.bind, success, flawed, Except.mapError]
    · refine .inr ⟨rfl, _, ?_, other⟩
      simp only [reading, Except.bind, success, read, Except.mapError]
  · intro h
    cases answer with
    | error other =>
        rcases h with same | ⟨-, result, nothing, -⟩
        · cases same
          exact .unanswered rfl
        · cases nothing
    | ok response =>
        cases accepted : response.accepted m.address with
        | error other =>
            simp only [reading, Except.bind, accepted] at h
            rcases h with same | ⟨-, result, nothing, -⟩
            · cases same
              exact .refused rfl accepted
            · cases nothing
        | ok document =>
            simp only [reading, Except.bind, accepted] at h
            cases read : Json.ofBytes document.content with
            | error error =>
                rw [read] at h
                rcases h with same | ⟨-, result, nothing, -⟩
                · cases same
                  exact .unread rfl accepted read
                · cases nothing
            | ok value =>
                rw [read] at h
                rcases h with nothing | ⟨rfl, result, same, other⟩
                · cases nothing
                · cases same
                  exact .unmatched rfl accepted read other

theorem fails_iff_of_unsent (unsent : e.message question = .error failure) {other : EngineFailure} :
    (e.toEngine network).Fails question none s other ↔ other = failure := by
  have answered : ((e.toEngine network).respond question s).1 = .error failure :=
    congrArg Prod.fst (respond_of_unsent unsent network s)
  constructor
  · rintro (⟨⟨⟩⟩ | ⟨-, raised⟩ | ⟨-, given⟩)
    · exact Except.error.inj (raised.symm.trans answered)
    · cases given.symm.trans answered
  · rintro rfl
    exact .raised rfl answered

theorem fails_iff_of_sent (sent : e.message question = .ok m) :
    (e.toEngine network).Fails question none s failure ↔ Lost m (network.exchange m s).1 failure := by
  have answered : ((e.toEngine network).respond question s).1 = reading m (network.exchange m s).1 :=
    congrArg Prod.fst (respond_of_sent sent network s)
  rw [lost_iff, ← answered]
  constructor
  · rintro (⟨⟨⟩⟩ | ⟨-, raised⟩ | ⟨-, given, other⟩)
    · exact .inl raised
    · exact .inr ⟨rfl, _, given, Bool.eq_false_iff.mpr fun fits => other (isMatchingResult_iff.mp fits)⟩
  · rintro (raised | ⟨rfl, result, given, other⟩)
    · exact .raised rfl raised
    · refine .unfit rfl given fun fits => ?_
      rw [isMatchingResult_iff.mpr fits] at other
      contradiction

end RemoteEngine

end CanaryGate
