import CanaryGate.Gateway.Endpoint
import CanaryGate.Http.Query
import CanaryGate.Run.Records
import CanaryGate.Text.Uppercase

/-!
# Calls and replies

What a client sends to the gateway, how a request for a run is read from it, and what the client gets
back.
-/

namespace CanaryGate

/-- What a client sends. -/
structure Call where
  method : String
  path : List Char
  query : Http.Query
  headers : List (String × String)
  body : List UInt8

/-- What a reply holds. -/
inductive Content where
  | document (value : Json)
  | text (words : String)
  | lines (texts : List String)

/-- How a reply says to read its content. -/
inductive MediaType where
  | document
  | plain
  | page
  deriving DecidableEq, Repr

def MediaType.text : MediaType → String
  | document => "application/json"
  | plain => "text/plain"
  | page => "text/html"

/-- What a client gets back. -/
structure Reply where
  status : Nat
  type : MediaType
  content : Content

namespace Reply

/-- A result. Not-a-number and the infinities have no numeral, and are written as null. -/
def ok (value : Json) : Reply := ⟨200, .document, .document value.finiteOrNull⟩

/-- A refusal in words. -/
def refused (status : Nat) (detail : String) : Reply :=
  ⟨status, .document, .document (.obj [("detail", .str detail)])⟩

/-- The gateway broke down over the call. -/
def broken : Reply := ⟨500, .plain, .text "Internal Server Error"⟩

/-- A page. Its content is not held here. -/
def page : Page → Reply
  | .description => ⟨200, .document, .text ""⟩
  | .workbench | .signInReturn | .handbook => ⟨200, .page, .text ""⟩

def bare (reply : Reply) : Reply := { reply with content := .text "" }

/-- An issue as the client sees it. -/
def issueToJson (issue : Issue) : Json :=
  .obj [("loc", .arr (issue.place.map fun
    | .field name => .str name
    | .item index => .int index)), ("type", .str issue.trouble.code)]

def issues (found : List Issue) : Reply :=
  ⟨422, .document, .document (.obj [("detail", .arr (found.map issueToJson))])⟩

end Reply

namespace Json

/-- The part of a value at a place. -/
def part? : List Step → Json → Option Json
  | [], value => some value
  | .field name :: rest, .obj fields => (Fields.get? fields name).bind (part? rest)
  | .item index :: rest, .arr items => items[index]?.bind (part? rest)
  | _ :: _, _ => none

end Json

inductive CallBody where
  | absent
  /-- A wide document. -/
  | document (wide : Json)
  /-- Bytes that are not said to be a document. -/
  | bytes

namespace CallBody

def inCall (issue : Issue) : Issue :=
  Issue.under (.field "body") { issue with
    trouble := if issue.trouble = .notRecord then .notRecordInBody else issue.trouble }

/-- A step in a wide document, by what is shown of it. -/
def inWide : Step → Step
  | .field name => .field (Json.packedText name)
  | .item index => .item index

/-- A reply cannot quote a value. -/
def unquotable (value : Json) : Bool := value.torn || value.obstacle?.isSome

/-- The reply to issues of a wide document: it quotes what was refused, and breaks down over what cannot be
quoted. -/
def refuse (wide : Json) (issues : List Issue) : Reply :=
  if issues.any fun issue => (wide.part? (issue.place.map inWide)).any unquotable then .broken
  else .issues (issues.map inCall)

def runRequest : CallBody → Except Reply RunRequest
  | absent => .error (.issues [⟨[.field "body"], .missing⟩])
  | bytes => .error (.issues [⟨[.field "body"], .notRecordInBody⟩])
  | document wide =>
    match RunRequest.readWide wide with
    | .accepted request => .ok request
    | .refused issues => .error (refuse wide issues)

end CallBody

namespace Call

def home : Http.Address := ⟨"http".toList, [], "gateway".toList, none, ['/'], none, none⟩

/-- The call that goes to a target. Parameters that are given beside the target take the place of its query.
Escapes of the path are undone twice: the client undoes them as it takes the address apart, and the server
as it receives the path. -/
def toTarget (method target : String) (parameters : Option Fields) (headers : List (String × String))
    (body : List UInt8) : Except Http.AddressError Call := do
  let address ← home.under (← Http.Address.read target.toList)
  let query := match parameters with
    | some fields => Http.Query.ofFields fields
    | none => Http.Query.read (address.query.getD [])
  return ⟨upperCase method, Percent.unescape (Percent.unescape address.path), query, headers, body⟩

/-- The headers of a name in lower case, in order. -/
def headersNamed (call : Call) (name : String) : List String :=
  (call.headers.filter fun h => h.1.toList.map lowerCharacter = name.toList).map (·.2)

/-- The id that ties the call to others: the last one given, unless it is empty, else a fresh one. -/
def correlationId (call : Call) (freshId : String) : String :=
  ((call.headersNamed "x-correlation-id").getLast?.filter (· != "")).getD freshId

/-- The idempotency key beside the request. Its bytes are taken for one character each. -/
def idempotencyKey (call : Call) : Option String :=
  (call.headersNamed "idempotency-key").head?.map fun s =>
    String.ofList (s.toUTF8.toList.map fun b => Char.ofNat b.toNat)

/-- Says that a body is a document. -/
def namesDocument (contentType : String) : Bool :=
  let type := (trimBoth isBlank (contentType.toList.takeWhile (· != ';'))).map lowerCharacter
  let main := type.takeWhile (· != '/')
  let sub := (type.dropWhile (· != '/')).drop 1
  main = "application".toList && !sub.contains '/'
    && (sub = "json".toList || "nosj+".toList.isPrefixOf sub.reverse)

/-- The body; bytes that are said to be a document have to be one. -/
def readBody (call : Call) : Except Reply CallBody :=
  if call.body.isEmpty then .ok .absent
  else if !(call.headersNamed "content-type").head?.any namesDocument then .ok .bytes
  else match Json.wideOfBytes call.body with
    | .ok wide => .ok (.document wide)
    | .error (.document (.flawed _ _ _ place)) =>
      .error (.issues [⟨[.field "body", .item place], .unreadableDocument⟩])
    | .error _ => .error (.refused 400 "There was an error parsing the body")

end Call

end CanaryGate
