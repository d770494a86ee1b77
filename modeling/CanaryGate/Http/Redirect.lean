import CanaryGate.Http.Address

/-!
# Redirects

Where a location in a response leads, seen from the address that was asked. A location without a server
is looked at from there.
-/

namespace CanaryGate

namespace Http

/-- Why a location leads nowhere. -/
inductive RedirectError where
  /-- The location itself is no address. -/
  | location (error : AddressError)
  /-- It gives none together with the address that was asked. -/
  | together (error : AddressError)
  deriving DecidableEq, Repr

namespace Address

/-- The schemes with addresses that can be looked at from another one. -/
def hierarchical : List String := [
  "ftp", "http", "gopher", "nntp", "imap", "wais", "file", "https", "shttp", "mms", "prospero", "rtsp", "rtspu",
  "sftp", "svn", "svn+ssh", "ws", "wss"]

/-- A part that says something. -/
def filled (part : Option (List Char)) : Option (List Char) := part.filter fun s => !s.isEmpty

def segmentsFrom (base path : List Char) : List (List Char) :=
  if path.head? = some '/' then pieces '/' path
  else
    let above := pieces '/' base
    let above := if above.getLast? = some [] then above else above.dropLast
    let all := above ++ pieces '/' path
    all.take 1 ++ ((all.drop 1).dropLast.filter fun s => !s.isEmpty) ++ (all.drop 1).getLast?.toList

/-- A path seen from another path, with its dot segments followed. -/
def pathFrom (base path : List Char) : List Char :=
  let segments := segmentsFrom base path
  let walked := segments.foldl (fun walked s =>
    if s = ['.'] then walked else if s = ['.', '.'] then walked.drop 1 else s :: walked) []
  let endsOpen := segments.getLast? = some ['.'] || segments.getLast? = some ['.', '.']
  let path := joinPieces '/' (if endsOpen then [] :: walked else walked).reverse
  if path.isEmpty then ['/'] else path

def Parts.seenFrom (base there : Parts) : Parts :=
  let scheme := if there.scheme.isEmpty then base.scheme else there.scheme
  if scheme ≠ base.scheme || !hierarchical.contains (String.ofList scheme) then there
  else
    let there := { there with scheme, query := filled there.query, fragment := filled there.fragment }
    if !there.authority.isEmpty then there
    else if there.path.isEmpty then
      { there with authority := base.authority, path := base.path, query := there.query.or (filled base.query) }
    else { there with authority := base.authority, path := pathFrom base.path there.path }

/-- Where a location leads. An address with a scheme and no host gets the host that was asked, and one
without a fragment gets the fragment that was asked for. -/
def redirected (asked : Address) (location : List Char) : Except RedirectError Address := do
  let there ← (read location).mapError .location
  let there ←
    if !there.scheme.isEmpty && there.host.isEmpty then (remade there.parts (some asked.host)).mapError .together
    else pure there
  let there ←
    if there.isAbsolute then pure there
    else (read (asked.parts.seenFrom (.ofText there.text)).text).mapError .together
  match filled asked.fragment, filled there.fragment with
  | some fragment, none =>
    (remade { there.parts with fragment := some (Percent.unescape fragment) } none).mapError .together
  | _, _ => return there

end Address

end Http

end CanaryGate
