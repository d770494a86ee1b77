import CanaryGate.Json.Display

/-!
# Spans

What is recorded about an operation while it runs: named attributes, and how it ended.
-/

namespace CanaryGate

/-- How an operation ended. -/
inductive SpanStatus where
  /-- Without a failure. -/
  | unset
  | failed (description : String)
  deriving DecidableEq, Repr

/-- The record of an operation. -/
structure Span where
  name : String
  attributes : List (String × String)
  status : SpanStatus
  /-- The names of what happened. -/
  events : List String
  deriving DecidableEq, Repr

namespace Span

/-- The record of an operation that starts. -/
def start (name : String) : Span := ⟨name, [], .unset, []⟩

def attributeLimit : Nat := 128

/-- Sets an attribute, which then is the newest one; an attribute without a name is dropped. Beyond the limit
the oldest one goes. -/
def setAttribute (s : Span) (name value : String) : Span :=
  if name = "" then s
  else
    let others := s.attributes.filter (·.1 != name)
    { s with attributes := others.drop (others.length + 1 - attributeLimit) ++ [(name, value)] }

theorem length_setAttribute (s : Span) (name value : String) (h : s.attributes.length ≤ attributeLimit) :
    (s.setAttribute name value).attributes.length ≤ attributeLimit := by
  unfold setAttribute
  split
  · exact h
  · simp only [List.length_append, List.length_drop, List.length_singleton, attributeLimit]
    omega

/-- Sets attributes to the texts of values. -/
def annotate (s : Span) (values : Fields) : Span :=
  values.foldl (fun s v => s.setAttribute v.1 v.2.display) s

/-- Ends with a failure, which is recorded by the operation and again at its end. -/
def fail (s : Span) (kind message : String) : Span :=
  { s with status := .failed (kind ++ ": " ++ message), events := s.events ++ ["exception", "exception"] }

end Span

end CanaryGate
