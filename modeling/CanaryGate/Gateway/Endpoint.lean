import CanaryGate.Http.Message

/-!
# Endpoints

What the gateway answers to, by method and path.
-/

namespace CanaryGate

/-- A page on how to use the gateway. -/
inductive Page where
  /-- The endpoints, to be tried out. -/
  | workbench
  /-- Where a sign-in for the workbench comes back to. -/
  | signInReturn
  /-- The endpoints, to be read. -/
  | handbook
  /-- The endpoints as a document. -/
  | description
  deriving DecidableEq, Repr

inductive Endpoint where
  /-- Whether the gateway runs. -/
  | health
  /-- Whether the baseline engine is there. -/
  | readiness
  | metrics
  /-- Whether logging and tracing work. -/
  | observability
  | configuration
  /-- Changes the log level. -/
  | logLevel
  /-- Makes a run. -/
  | runs
  | decision (runId : String)
  | shadowDiff (runId : String)
  | altShadowDiff (runId : String)
  /-- The rollback latch. -/
  | canaryState
  /-- Opens the latch. -/
  | rollbackReset
  | page (page : Page)
  deriving DecidableEq, Repr

namespace Endpoint

def methods : Endpoint → List String
  | logLevel | runs | rollbackReset => ["POST"]
  | page _ => ["GET", "HEAD"]
  | _ => ["GET"]

def ofParts : List String → Option Endpoint
  | ["healthz"] => some health
  | ["readyz"] => some readiness
  | ["metrics"] => some metrics
  | ["observability", "health"] => some observability
  | ["observability", "config"] => some configuration
  | ["observability", "log-level"] => some logLevel
  | ["matching", "runs"] => some runs
  | ["matching", "runs", id, "decision"] => if id = "" then none else some (decision id)
  | ["matching", "shadow-diffs", id] => if id = "" then none else some (shadowDiff id)
  | ["matching", "alt-shadow-diffs", id] => if id = "" then none else some (altShadowDiff id)
  | ["canary", "state"] => some canaryState
  | ["canary", "rollback", "reset"] => some rollbackReset
  | ["docs"] => some (page .workbench)
  | ["docs", "oauth2-redirect"] => some (page .signInReturn)
  | ["redoc"] => some (page .handbook)
  | ["openapi.json"] => some (page .description)
  | _ => none

/-- A text without the line feed at its end, if it has one. -/
def dropLineFeed (s : List Char) : List Char := if s.getLast? = some '\n' then s.dropLast else s

/-- The endpoint of a path that starts with a slash. A line feed behind the last word does not count, but it
belongs to an id. -/
def ofPath : List Char → Option Endpoint
  | '/' :: rest =>
    let parts (s : List Char) : List String := (pieces '/' s).map String.ofList
    (ofParts (parts rest)).or (ofParts (parts (dropLineFeed rest)))
  | _ => none

def dropSlashes (path : List Char) : List Char := (path.reverse.dropWhile (· = '/')).reverse

/-- How often a path can be changed before it has to lead somewhere. -/
def changeLimit : Nat := 20

/-- The endpoint that a path leads to. A path that leads nowhere with slashes at its end is sent again as an
address without them if that leads somewhere, at most so many times. -/
def findWithin : (changes : Nat) → (path : List Char) → Option Endpoint
  | 0, path => ofPath path
  | changes + 1, path =>
    match ofPath path with
    | some endpoint => some endpoint
    | none =>
      if path.getLast? = some '/' && (ofPath (dropSlashes path)).isSome then
        findWithin changes (Percent.unescape (Http.Address.followed (dropSlashes path)))
      else none

def find? (path : List Char) : Option Endpoint := findWithin changeLimit path

/-- A path that leads somewhere leads there whatever else it could be changed to. -/
theorem find?_of_ofPath {path : List Char} {endpoint : Endpoint} (h : ofPath path = some endpoint) :
    find? path = some endpoint := by
  simp [find?, changeLimit, findWithin, h]

end Endpoint

end CanaryGate
