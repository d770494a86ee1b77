import CanaryGate.Compression.Container
import CanaryGate.Engine.Boundary
import CanaryGate.Json.Bytes
import CanaryGate.Http.Redirect

/-!
# Messages

Requests, responses, and networks that answer the ones with the others. A network may keep a state of
its own.
-/

namespace CanaryGate

namespace Http

inductive Method where
  | get
  | post
  deriving DecidableEq, Repr

def Method.text : Method → String
  | get => "GET"
  | post => "POST"

/-- What is to be sent as a document: a value, and the first halves of surrogate pairs in its texts, of which it shows
as much as it can. -/
structure Body where
  value : Json
  halves : Option Unencodable

structure Request where
  method : Method
  address : Address
  body : Option Body
  /-- The id under which the request belongs to another one. -/
  correlationId : Option String

structure Response where
  status : Int
  headers : List (String × String)
  content : List UInt8

/-- A network with a state of type `σ`: each request gets a response or fails on the way. -/
structure Network (σ : Type) where
  exchange : Request → σ → Except EngineFailure Response × σ

/-- The headers of a name in lower case, in order. -/
def headersNamed (headers : List (String × String)) (name : String) : List String :=
  (headers.filter fun h => h.1.toList.map lowerCharacter = name.toList).map (·.2)

/-- A header by its name in lower case. What is said in several headers counts as a list. -/
def header? (headers : List (String × String)) (name : String) : Option String :=
  match headersNamed headers name with
  | [] => none
  | values => some (", ".intercalate values)

/-- The phrases of the status codes that say that something is missing, moved or wrong. -/
def phrases : List (Int × String) := [
  (100, "Continue"), (101, "Switching Protocols"), (102, "Processing"), (103, "Early Hints"),
  (300, "Multiple Choices"), (301, "Moved Permanently"), (302, "Found"), (303, "See Other"),
  (304, "Not Modified"), (305, "Use Proxy"), (307, "Temporary Redirect"), (308, "Permanent Redirect"),
  (400, "Bad Request"), (401, "Unauthorized"), (402, "Payment Required"), (403, "Forbidden"),
  (404, "Not Found"), (405, "Method Not Allowed"), (406, "Not Acceptable"),
  (407, "Proxy Authentication Required"), (408, "Request Timeout"), (409, "Conflict"), (410, "Gone"),
  (411, "Length Required"), (412, "Precondition Failed"), (413, "Request Entity Too Large"),
  (414, "Request-URI Too Long"), (415, "Unsupported Media Type"), (416, "Requested Range Not Satisfiable"),
  (417, "Expectation Failed"), (418, "I'm a teapot"), (421, "Misdirected Request"),
  (422, "Unprocessable Entity"), (423, "Locked"), (424, "Failed Dependency"), (425, "Too Early"),
  (426, "Upgrade Required"), (428, "Precondition Required"), (429, "Too Many Requests"),
  (431, "Request Header Fields Too Large"), (451, "Unavailable For Legal Reasons"),
  (500, "Internal Server Error"), (501, "Not Implemented"), (502, "Bad Gateway"), (503, "Service Unavailable"),
  (504, "Gateway Timeout"), (505, "HTTP Version Not Supported"), (506, "Variant Also Negotiates"),
  (507, "Insufficient Storage"), (508, "Loop Detected"), (510, "Not Extended"),
  (511, "Network Authentication Required")]

/-- The phrase of a status code; a code without one has an empty phrase. -/
def phrase (status : Int) : String := (phrases.lookup status).getD ""

/-- What a status code that is no success says about the response. -/
def statusClass (status : Int) : String :=
  match status / 100 with
  | 1 => "Informational response"
  | 3 => "Redirect response"
  | 4 => "Client error"
  | 5 => "Server error"
  | _ => "Invalid status code"

namespace Response

/-- The codes two hundred to two hundred ninety-nine. -/
def isSuccess (r : Response) : Bool := r.status / 100 = 2

/-- Where a redirect leads to. -/
def redirect? (r : Response) : Option String :=
  if [301, 302, 303, 307, 308].contains r.status then header? r.headers "location" else none

/-- The words for a response that is no success. -/
def failureMessage (r : Response) (address : String) : String :=
  statusClass r.status ++ " '" ++ toString r.status ++ " " ++ phrase r.status ++ "' for url '" ++ address ++ "'\n"
    ++ ((r.redirect?.map fun place => "Redirect location: '" ++ place ++ "'\n").getD "")
    ++ "For more information check: https://developer.mozilla.org/en-US/docs/Web/HTTP/Status/" ++ toString r.status

/-- Undoes one way of coding content; unknown ways leave it as it is. -/
def undo (coding : List Char) (content : List UInt8) : Except InflateFlaw (List UInt8) :=
  if coding = "gzip".toList then Inflate.filed content
  else if coding = "deflate".toList then Inflate.summedOrBare content
  else .ok content

/-- The ways in which the content is coded, the last one first. -/
def codings (r : Response) : List (List Char) :=
  let listed := (header? r.headers "content-encoding").getD ""
  ((pieces ',' listed.toList).map fun word => lowerCase (trimBoth isBlank word)).reverse

/-- With the content that its coding stands for. -/
def decoded (r : Response) : Except EngineFailure Response :=
  match r.codings.foldlM (fun content coding => undo coding content) r.content with
  | .ok content => .ok { r with content }
  | .error flaw => .error ⟨"DecodingError", flaw.message, none⟩

/-- A response can only come from an address that names its server. -/
def unreachable (address : Address) : EngineFailure :=
  ⟨"ValueError", "unknown url type: " ++ String.ofList (Quoted.quote address.text), none⟩

/-- Why a location leads nowhere, as a failure. -/
def misled : RedirectError → EngineFailure
  | .location error => ⟨"RemoteProtocolError", "Invalid URL in location header: " ++ error.message ++ ".", none⟩
  | .together error => ⟨"InvalidURL", error.message, none⟩

/-- The response to a request for an address, if it is a success. Before its status counts, its content has
to be readable, the address has to name a server, and a redirect has to lead somewhere. -/
def accepted (r : Response) (address : Address) : Except EngineFailure Response := do
  let r ← r.decoded
  if !address.isAbsolute then throw (unreachable address)
  else
    match r.redirect? with
    | some location =>
      let _ ← (address.redirected location.toList).mapError misled
      throw ⟨"HTTPStatusError", r.failureMessage (String.ofList address.text), some r.status⟩
    | none =>
      if r.isSuccess then return r
      else throw ⟨"HTTPStatusError", r.failureMessage (String.ofList address.text), some r.status⟩

end Response

end Http

end CanaryGate
