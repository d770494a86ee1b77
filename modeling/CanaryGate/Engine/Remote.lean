import CanaryGate.Http.Message

/-!
# Remote engines

An engine behind an address: it is asked by posting the request to `/match`, and answers with a matching
result in the body of the response.
-/

namespace CanaryGate

/-- An engine behind an address. -/
structure RemoteEngine where
  name : String
  /-- The address, without slashes at its end. -/
  address : String
  /-- The id that its requests carry. -/
  correlationId : Option String
  deriving DecidableEq, Repr

namespace RemoteEngine

open Http

def withoutSlashes (s : String) : String := String.ofList ((s.toList.reverse.dropWhile (· = '/')).reverse)

def ofAddress (name address : String) (correlationId : Option String) : RemoteEngine :=
  ⟨name, withoutSlashes address, correlationId⟩

/-- A value that cannot be the body of a request. -/
def unsendable : Json.Obstacle → EngineFailure
  | .notFinite => ⟨"ValueError", "Out of range float values are not JSON compliant", none⟩
  | .longInteger => ⟨"ValueError", Fault.integerTooLong.message, none⟩

/-- A body that has no bytes. -/
def unencodable (error : Unencodable) : EngineFailure := ⟨"UnicodeEncodeError", error.message, none⟩

/-- What keeps a body from being sent. -/
def unfit? (body : Body) : Option EngineFailure :=
  match body.value.obstacle? with
  | some obstacle => some (unsendable obstacle)
  | none => body.halves.map unencodable

/-- A text with characters that a header cannot carry: the first run of them is named. -/
def uncarriable (s : List Char) : EngineFailure :=
  let place := (s.takeWhile fun c => c.toNat < 128).length
  let run := (s.drop place).takeWhile fun c => 128 ≤ c.toNat
  let shown := (run.head?.map Quoted.escapeCode).getD []
  ⟨"UnicodeEncodeError", Unencodable.words "ascii" place run.length shown "ordinal not in range(128)", none⟩

/-- A header can carry a text of plain characters. -/
def carriable (s : List Char) : Bool := s.all fun c => c.toNat < 128

def unreadable : Json.BytesError → EngineFailure
  | .encoding error => ⟨"UnicodeDecodeError", error.message, none⟩
  | .document (.flawed flaw line column place) =>
    ⟨"JSONDecodeError", (Json.ReadError.flawed flaw line column place).message, none⟩
  | .document (.tooManyDigits count) => ⟨"ValueError", (Json.ReadError.tooManyDigits count).message, none⟩
  | .document (.tooDeep kind) => ⟨"RecursionError", (Json.ReadError.tooDeep kind).message, none⟩

/-- What keeps a request from being sent. -/
def hindrance? (request : Request) : Option EngineFailure :=
  match request.body.bind unfit? with
  | some failure => some failure
  | none =>
    let texts := request.address.server :: (request.correlationId.map String.toList).toList
    (texts.find? fun s => !carriable s).map uncarriable

def send (network : Network σ) (request : Request) (s : σ) : Except EngineFailure Response × σ :=
  match hindrance? request with
  | some failure => (.error failure, s)
  | none =>
    let (answer, s) := network.exchange request s
    (answer.bind fun response => response.accepted request.address, s)

def place (e : RemoteEngine) (service : String) : Except EngineFailure Address :=
  match (Address.read (e.address ++ service).toList).bind Address.sendable with
  | .ok address => .ok address
  | .error error => .error ⟨"InvalidURL", error.message, none⟩

def reach (e : RemoteEngine) (network : Network σ) (method : Method) (service : String) (body : Option Body) (s : σ) :
    Except EngineFailure Response × σ :=
  match e.place service with
  | .error failure => (.error failure, s)
  | .ok address => send network ⟨method, address, body, e.correlationId⟩ s

/-- A question as it is sent. -/
def body (question : EngineRequest) : Body := ⟨.obj question.payload, question.halves⟩

def respond (e : RemoteEngine) (network : Network σ) (request : EngineRequest) (s : σ) :
    Except EngineFailure Json × σ :=
  let (answer, s) := e.reach network .post "/match" (some (body request)) s
  (answer.bind fun response => (Json.ofBytes response.content).mapError unreadable, s)

/-- Looks whether the engine is there. -/
def ping (e : RemoteEngine) (network : Network σ) (s : σ) : Except EngineFailure Unit × σ :=
  let (answer, s) := e.reach network .get "/ping" none s
  (answer.map fun _ => (), s)

def toEngine (e : RemoteEngine) (network : Network σ) : Engine σ := ⟨e.name, e.respond network⟩

end RemoteEngine

end CanaryGate
