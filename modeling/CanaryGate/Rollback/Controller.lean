import CanaryGate.Engine.Boundary
import CanaryGate.Rollback.Records

/-!
# The rollback latch

The latch closes when the window of samples gives a reason, and only a reset opens it again. While it
is closed no samples are added, so the window stays as it was when the latch closed.
-/

namespace CanaryGate

namespace Rollback

/-- The namespace of the rollback state. -/
def space : String := "marketplace_matching_canary_state"

def key : String := "state"

/-- What is left of a stored value that is no rollback state: the window is lost, the latch is kept. -/
def salvage (raw : Json) : Except Fault RollbackState :=
  let active := (raw.fieldD "rollback_active").truthy
  match ((Reader.optional Reader.text (raw.fieldD "rollback_reason_code")).under (.field "rollback_reason_code")) with
  | .accepted reason => .ok { RollbackState.clear with active := active, reasonCode := reason }
  | .refused issues => .error (.invalid issues)

/-- The state that a stored value stands for. -/
def decode (raw : Json) : Except Fault RollbackState :=
  if !raw.truthy then .ok .clear
  else match RollbackState.read raw with
    | .accepted state => .ok state
    | .refused _ => salvage raw

def load : Attempt (World σ) RollbackState := do
  let raw ← World.onStore (Store.get space key .null)
  Attempt.lift (decode raw)

/-- Stores a state and sets the gauge. -/
def save (state : RollbackState) : Attempt (World σ) Unit := do
  World.onStore (Store.set space key (.obj state.toFields))
  World.observe fun m => { m with rollbackActive := state.active }

/-- The latch as others see it. -/
def snapshot : Attempt (World σ) RollbackSnapshot := do return (← load).snapshot

/-- Opens the latch and empties the window. -/
def reset : Attempt (World σ) RollbackState := do
  Store.transaction World.storePart do
    let _ ← load
    save .clear
  return .clear

/-- The window after a run: with its sample, if it has one, and without what is too old. -/
def windowAfter (window : List RunSample) (size : Int) (sample : Option RunSample) : List RunSample :=
  let grown := window ++ sample.toList
  grown.drop ((grown.length : Int) - size).toNat

/-- The state after a run, the summary of its window, and whether the latch closed. -/
def step (state : RollbackState) (config : CanaryConfig) (runId recordedAt : String)
    (sample : Option RunSample) : RollbackState × WindowSummary × Bool :=
  let window := if state.active then state.recentSamples
    else windowAfter state.recentSamples config.windowRuns sample
  let summary := WindowSummary.ofWindow (window.map RunSample.flags) config.thresholds
  match state.active, summary.reasonCode with
  | false, some reason => (⟨true, some reason, some recordedAt, some runId, window⟩, summary, true)
  | _, _ => ({ state with recentSamples := window }, summary, false)

/-- Takes a run into account. -/
def update (config : CanaryConfig) (runId recordedAt : String) (sample : Option RunSample) :
    Attempt (World σ) RollbackUpdate := do
  let (before, after, summary, triggered) ← Store.transaction World.storePart do
    let state ← load
    let (after, summary, triggered) := step state config runId recordedAt sample
    save after
    return (state.snapshot, after, summary, triggered)
  if triggered then
    World.observe fun m => { m with trips := m.trips.bump (after.reasonCode.getD "") }
  return ⟨before, after.snapshot, summary.toFields, triggered⟩

/-- A window grows by the sample it is given, up to its size. -/
theorem length_windowAfter (window : List RunSample) (size : Int) (sample : Option RunSample) (h : 0 ≤ size) :
    (windowAfter window size sample).length = min (window.length + sample.toList.length) size.toNat := by
  simp only [windowAfter, List.length_drop, List.length_append]
  omega

/-- What is left of a window are its newest samples in their order. -/
theorem windowAfter_suffix (window : List RunSample) (size : Int) (sample : Option RunSample) :
    windowAfter window size sample <:+ window ++ sample.toList :=
  List.drop_suffix _ _

/-- A closed latch keeps its state, and is not closed again. -/
theorem step_of_active {state : RollbackState} (h : state.active = true) (config : CanaryConfig)
    (runId recordedAt : String) (sample : Option RunSample) :
    (step state config runId recordedAt sample).1 = state
      ∧ (step state config runId recordedAt sample).2.2 = false := by
  cases state
  simp_all [step]

end Rollback

end CanaryGate
