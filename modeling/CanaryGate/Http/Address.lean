import CanaryGate.Http.Host

/-!
# Addresses

An address of the web in its usual form: the scheme in lower case, the port left out where it is the
scheme's own, dot segments followed, and characters that a part cannot hold written by their bytes. An
address without scheme or host is relative.
-/

namespace CanaryGate

namespace Http

structure Address where
  scheme : List Char
  /-- Who asks. -/
  user : List Char
  host : List Char
  /-- None for the port of the scheme. -/
  port : Option Int
  path : List Char
  query : Option (List Char)
  fragment : Option (List Char)
  deriving DecidableEq, Repr

/-- The parts of an address that are checked one by one when an address is made of parts. -/
inductive AddressPart where
  | scheme
  | authority
  | path
  | query
  | fragment
  deriving DecidableEq, Repr

def AddressPart.text : AddressPart → String
  | scheme => "scheme"
  | authority => "authority"
  | path => "path"
  | query => "query"
  | fragment => "fragment"

/-- Why a text or some parts are no address. -/
inductive AddressError where
  | tooLong
  /-- A control character at a place. -/
  | control (c : Char) (place : Nat)
  | host (error : HostError)
  | port (text : List Char)
  /-- A host is followed by a path without a slash in front. -/
  | pathWithoutSlash
  /-- A path without a host starts with two slashes. -/
  | pathWithTwoSlashes
  /-- A path without a scheme starts with a colon. -/
  | pathWithColon
  | partTooLong (part : AddressPart)
  /-- A control character at a place of a part. -/
  | partControl (part : AddressPart) (c : Char) (place : Nat)
  deriving DecidableEq, Repr

namespace AddressError

def controlWords (whole : String) (c : Char) (place : Nat) : String :=
  "Invalid non-printable ASCII character in URL" ++ whole ++ ", " ++ String.ofList (Quoted.quote [c])
    ++ " at position " ++ toString place ++ "."

def message : AddressError → String
  | tooLong => "URL too long"
  | control c place => controlWords "" c place
  | host error => error.message
  | port text => "Invalid port: " ++ String.ofList (Quoted.quote text)
  | pathWithoutSlash => "For absolute URLs, path must be empty or begin with '/'"
  | pathWithTwoSlashes => "Relative URLs cannot have a path starting with '//'"
  | pathWithColon => "Relative URLs cannot have a path starting with ':'"
  | partTooLong part => "URL component '" ++ part.text ++ "' too long"
  | partControl part c place => controlWords (" " ++ part.text ++ " component") c place

end AddressError

namespace Address

/-- The most characters of an address, and of each of its parts. -/
def lengthLimit : Nat := 65536

/-- A control character of ASCII. -/
def isControl (c : Char) : Bool := c.toNat < 32 || c.toNat = 127

/-- The first control character of a text with its place. -/
def firstControl? (s : List Char) : Option (Char × Nat) :=
  (s.find? isControl).map fun c => (c, (s.takeWhile fun d => !isControl d).length)

/-- The characters of ASCII that show, without some of them. -/
def showing (refused : List Char) (c : Char) : Bool := decide (32 < c.toNat ∧ c.toNat < 127) && !refused.contains c

/-- The characters that neither path nor query nor fragment can hold. -/
def alwaysRefused : List Char := [doubleQuote, '<', '>']

/-- The characters that no path can hold. -/
def refusedInPath : List Char := alwaysRefused ++ ['#', '?', Char.ofNat 96, '\x7b', '\x7d']

def keptInPath : Char → Bool := showing refusedInPath

def keptInQuery : Char → Bool := showing (alwaysRefused ++ ['#'])

def keptInFragment : Char → Bool := showing (alwaysRefused ++ [Char.ofNat 96])

def keptInUser : Char → Bool := showing (refusedInPath ++ ['/', ';', '=', '@', '[', backslash, ']', '^', '|'])

/-- A text up to a mark, and what stands behind the mark if it is there. -/
def cutAt (mark : Char → Bool) (s : List Char) : List Char × Option (List Char) :=
  (s.takeWhile fun c => !mark c, match s.dropWhile fun c => !mark c with
    | [] => none
    | _ :: rest => some rest)

structure Parts where
  scheme : List Char
  authority : List Char
  path : List Char
  query : Option (List Char)
  fragment : Option (List Char)
  deriving DecidableEq, Repr

def isLetter (c : Char) : Bool := c.isAlpha

/-- A scheme in front of a colon: empty, or a letter followed by letters, digits and three signs. -/
def isScheme (s : List Char) : Bool :=
  s.head?.all isLetter && s.all fun c => c.isAlphanum || c = '+' || c = '.' || c = '-'

def Parts.ofText (s : List Char) : Parts :=
  let (scheme, rest) := match cutAt (· = ':') s with
    | (scheme, some rest) => if isScheme scheme then (scheme, rest) else ([], s)
    | _ => ([], s)
  let (rest, fragment) := cutAt (· = '#') rest
  let (rest, query) := cutAt (· = '?') rest
  match rest with
  | '/' :: '/' :: rest => ⟨scheme, rest.takeWhile (· != '/'), rest.dropWhile (· != '/'), query, fragment⟩
  | path => ⟨scheme, [], path, query, fragment⟩

/-- Who asks, the host, and the port behind it. -/
def authorityParts (s : List Char) : List Char × List Char × List Char :=
  let server := (s.reverse.takeWhile (· != '@')).reverse
  let user := (s.take (s.length - server.length)).dropLast
  let bracketed := (server.reverse.dropWhile (· != ']')).reverse
  let host := if server.head? = some '[' && !bracketed.isEmpty then bracketed else server.takeWhile (· != ':')
  let rest := server.drop host.length
  (user, host, if rest.head? = some ':' then rest.drop 1 else rest)

def ownPort (scheme : List Char) : Option Int :=
  [("ftp", 21), ("http", 80), ("https", 443), ("ws", 80), ("wss", 443)].lookup (String.ofList scheme)

/-- The port in a text. The scheme is taken as it is written. -/
def readPort (scheme s : List Char) : Except AddressError (Option Int) :=
  if s.isEmpty then .ok none
  else match Numeral.integer (String.ofList s) with
    | .ok n => .ok (if ownPort scheme = some n then none else some n)
    | .error _ => .error (.port s)

/-- Takes one segment of a path: a dot stays where it is, two dots go back by one. The segments walked are
kept newest first. -/
def follow (walked : List (List Char)) (segment : List Char) : List (List Char) :=
  if segment = ['.'] then walked
  else if segment = ['.', '.'] then (if walked = [[]] then walked else walked.drop 1)
  else segment :: walked

def followed (path : List Char) : List Char :=
  let segments := pieces '/' path
  if segments.contains ['.'] || segments.contains ['.', '.'] then
    joinPieces '/' (segments.foldl follow []).reverse
  else path

def pathError? (scheme : List Char) (hasServer : Bool) (path : List Char) : Option AddressError :=
  if hasServer then
    if path.isEmpty || path.head? = some '/' then none else some .pathWithoutSlash
  else if !scheme.isEmpty then none
  else if "//".toList.isPrefixOf path then some .pathWithTwoSlashes
  else if path.head? = some ':' then some .pathWithColon
  else none

/-- The address of parts with a host that may be put in the place of their own. -/
def ofParts (p : Parts) (otherHost : Option (List Char)) : Except AddressError Address := do
  let (user, host, port) := authorityParts p.authority
  let user := Percent.escape keptInUser user
  let host ← (Host.read (otherHost.getD host)).mapError .host
  let port ← readPort p.scheme port
  let hasServer := !user.isEmpty || !host.isEmpty || port.isSome
  match pathError? p.scheme hasServer p.path with
  | some error => throw error
  | none =>
    let path := if hasServer || !p.scheme.isEmpty then followed p.path else p.path
    return ⟨p.scheme.map lowerCharacter, user, host, port, Percent.escape keptInPath path,
      p.query.map (Percent.escape keptInQuery), p.fragment.map (Percent.escape keptInFragment)⟩

def read (s : List Char) : Except AddressError Address :=
  if lengthLimit < s.length then .error .tooLong
  else match firstControl? s with
    | some (c, place) => .error (.control c place)
    | none => ofParts (.ofText s) none

/-- Host and port. -/
def server (a : Address) : List Char :=
  (if a.host.contains ':' then '[' :: (a.host ++ [']']) else a.host)
    ++ (a.port.map fun n => ':' :: (toString n).toList).getD []

/-- Who asks, host and port. -/
def authority (a : Address) : List Char := (if a.user.isEmpty then [] else a.user ++ ['@']) ++ a.server

def parts (a : Address) : Parts := ⟨a.scheme, a.authority, a.path, a.query, a.fragment⟩

def Parts.text (p : Parts) : List Char :=
  (if p.scheme.isEmpty then [] else p.scheme ++ [':'])
    ++ (if p.authority.isEmpty then [] else '/' :: '/' :: p.authority) ++ p.path
    ++ (p.query.map ('?' :: ·)).getD [] ++ (p.fragment.map ('#' :: ·)).getD []

def text (a : Address) : List Char := a.parts.text

/-- The scheme and the server, by which a network finds where an address leads. -/
def origin (a : Address) : List Char := a.scheme ++ "://".toList ++ a.server

/-- It says everything that is needed to get there. -/
def isAbsolute (a : Address) : Bool := !a.scheme.isEmpty && !a.host.isEmpty

/-- A part that is too long or holds a control character. -/
def partError? (part : AddressPart) (s : List Char) : Option AddressError :=
  if lengthLimit < s.length then some (.partTooLong part)
  else (firstControl? s).map fun (c, place) => .partControl part c place

/-- The first part that is too long or holds a control character. -/
def Parts.error? (p : Parts) : Option AddressError :=
  [(AddressPart.scheme, some p.scheme), (.authority, some p.authority), (.path, some p.path), (.query, p.query),
    (.fragment, p.fragment)].findSome? fun e => e.2.bind (partError? e.1)

/-- The address made again of checked parts. -/
def remade (p : Parts) (otherHost : Option (List Char)) : Except AddressError Address :=
  match p.error? with
  | some error => .error error
  | none => ofParts p otherHost

/-- An address as it is understood at a base whose path ends with a slash. A relative one keeps its path, under
that of the base, and its query. -/
def under (base a : Address) : Except AddressError Address :=
  if a.isAbsolute then .ok a
  else remade ⟨base.scheme, base.authority, base.path ++ a.path.dropWhile (· = '/'), a.query, none⟩ none

/-- The base that says nothing about the server. -/
def noBase : Address := ⟨[], [], [], none, ['/'], none, none⟩

/-- An address to which a request can be sent. -/
def sendable (a : Address) : Except AddressError Address := noBase.under a

/-- An absolute address is understood in the same way at every base. -/
theorem under_of_isAbsolute (base : Address) {a : Address} (h : a.isAbsolute = true) : base.under a = .ok a := by
  simp [under, h]

end Address

end Http

end CanaryGate
