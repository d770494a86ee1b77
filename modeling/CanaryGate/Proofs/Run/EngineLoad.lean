import CanaryGate.Proofs.Run.Progress
import CanaryGate.Proofs.Run.Served

/-! # The load of a run on its engines

A run that is numbered asks the baseline once. The candidate may be asked by the attempt and once more by the shadow,
but by the shadow only if there is no result to compare; the alternate is asked once at most. All of them are asked
the same, but for the configuration of the matcher.
-/

namespace CanaryGate

open Attempt

variable {σ : Type}

namespace Store

variable {s : Store} {count n : Int}

theorem nextSequence_of_counts (counts : s.namespaces.Counts count) : ((nextSequence Run.counter).outcome s).1
    = (s.holding (s.namespaces.advance Run.counter).2).commit.1.map fun _ => count + 1 := by
  obtain ⟨advanced, -⟩ := Namespaces.advance_of_counts counts
  unfold nextSequence
  rw [outcome_onNamespaces, advanced]
  rfl

/-- An outermost number is taken exactly when the namespaces that it leaves can be committed. -/
theorem finishes_nextSequence (closed : s.depth = 0) (counts : s.namespaces.Counts count) :
    Finishes (nextSequence Run.counter) s ↔ (s.holding (s.namespaces.advance Run.counter).2).Committable := by
  have left : (s.holding (s.namespaces.advance Run.counter).2).depth = 0 := closed
  unfold Finishes
  rw [nextSequence_of_counts counts, ← succeeds_commit left]
  cases (s.holding (s.namespaces.advance Run.counter).2).commit.1 with
  | error fault => simp [Except.map, not_succeeds_error]
  | ok _ => simp [Except.map, succeeds_ok]

theorem eq_of_nextSequence (counts : s.namespaces.Counts count)
    (taken : ((nextSequence Run.counter).outcome s).1 = .ok n) : n = count + 1 := by
  rw [nextSequence_of_counts counts] at taken
  cases committed : (s.holding (s.namespaces.advance Run.counter).2).commit.1 with
  | error fault =>
      rw [committed] at taken
      contradiction
  | ok _ =>
      rw [committed] at taken
      exact (Except.ok.inj taken).symm

end Store

namespace Run

namespace Plan

variable {p : Plan σ} {w : World σ}

/-- The run is selected for the candidate, if it gets as far as its routing. -/
def Selects (p : Plan σ) (w : World σ) : Prop :=
  ∃ before, p.sight w = .ok before ∧ (p.routing before).canarySelected = true

/-- The comparison of what the baseline answers in the run with a result of the candidate. -/
def Compares (p : Plan σ) (w : World σ) (given : Json) (diff : DiffRecord) : Prop :=
  ∃ runId baseline safety, (nextId.outcome w).1 = .ok runId ∧ p.baselineAnswer? w.engines = some baseline
    ∧ SafetyTriggers.ofResult given p.configs.primary = .ok safety
    ∧ (p.scene runId baseline).compare given safety = .ok diff

/-! What each load is, and when it is nothing. -/

theorem baselineLoad_eq (p : Plan σ) :
    p.baselineLoad = p.engines.baseline.toList.map fun _ => ⟨.baseline, p.ask p.configs.baselineMatcher⟩ := by
  unfold baselineLoad Engine.due
  cases p.engines.baseline with
  | none => rfl
  | some engine => rfl

/-- The attempt asks the candidate once, if the run is selected and the attempt not made to fail. -/
theorem attemptLoad_cases (p : Plan σ) (before : RollbackSnapshot) : p.attemptLoad before = []
    ∨ (p.routing before).canarySelected = true ∧ p.forced = false ∧ (∃ engine, p.engines.candidate = some engine)
      ∧ p.attemptLoad before = [⟨.candidate, p.ask p.configs.candidateMatcher⟩] := by
  unfold attemptLoad
  split
  · exact .inl rfl
  · rename_i selected
    have due := Engine.due_cases .candidate p.engines.candidate (p.ask p.configs.candidateMatcher)
      (Selection.forcedFailure p.configs.canary p.configs.primary)
    generalize Engine.due .candidate p.engines.candidate _ _ = load at due
    cases due with
    | nothing => exact .inl rfl
    | once configured unforced =>
        refine .inr ⟨by simpa using selected, ?_, ⟨_, configured⟩, rfl⟩
        rw [← p.isSome_forcedFailure, unforced]
        rfl

/-- The shadow asks it once, if it makes an attempt of its own. -/
theorem shadowLoad_cases (p : Plan σ) (before : RollbackSnapshot) (selection : Selection) :
    p.shadowLoad before selection = []
      ∨ Shadow.attempts p.configs.canary p.configs.primary (p.routing before) selection = true
        ∧ p.configs.canary.forceShadowError = false ∧ (∃ engine, p.engines.candidate = some engine)
        ∧ p.shadowLoad before selection = [⟨.candidate, p.ask p.configs.candidateMatcher⟩] := by
  unfold shadowLoad
  split
  · rename_i attempts
    have due := Engine.due_cases .candidate p.engines.candidate (p.ask p.configs.candidateMatcher)
      (if p.configs.canary.forceShadowError then some Shadow.forcedMessage else none)
    generalize Engine.due .candidate p.engines.candidate _ _ = load at due
    cases due with
    | nothing => exact .inl rfl
    | once configured unforced =>
        refine .inr ⟨attempts, ?_, ⟨_, configured⟩, rfl⟩
        cases asked : p.configs.canary.forceShadowError with
        | false => rfl
        | true =>
            rw [asked] at unforced
            exact absurd unforced (by decide)
  · exact .inl rfl

theorem crossLoad_cases (p : Plan σ) (selection : Selection) : p.crossLoad selection = []
    ∨ p.crossLoad selection = [⟨.alternate, p.ask (p.servedMatcher selection.engine)⟩] := by
  unfold crossLoad
  split
  · exact .inl rfl
  · have due := Engine.due_cases .alternate p.engines.alternate (p.ask (p.servedMatcher selection.engine))
      (if p.configs.altShadow.forceShadowError then some "forced matching alt shadow error" else none)
    generalize Engine.due .alternate p.engines.alternate _ _ = load at due
    cases due with
    | nothing => exact .inl rfl
    | once configured unforced => exact .inr rfl

/-- A shadow that makes an attempt is on, and has no result to compare. -/
theorem attempts_iff {before : RollbackSnapshot} {selection : Selection} :
    Shadow.attempts p.configs.canary p.configs.primary (p.routing before) selection = true ↔
      p.configs.canary.shadowEnabled = true
        ∧ (p.configs.primary.enabled = true → (p.routing before).skippedReason ≠ some "rollback_active")
        ∧ selection.candidateResult? = none := by
  unfold Shadow.attempts
  cases p.configs.primary.enabled with
  | false => simp
  | true => simp [and_assoc]

/-! What each engine hears. -/

@[simp] theorem heard_baselineLoad (p : Plan σ) {seat : Seat} (other : seat ≠ .baseline) : seat.heard p.baselineLoad = [] :=
  Engine.heard_due_of_ne other _ _ _

@[simp] theorem heard_attemptLoad (p : Plan σ) (before : RollbackSnapshot) {seat : Seat} (other : seat ≠ .candidate) :
    seat.heard (p.attemptLoad before) = [] := by
  unfold attemptLoad
  split
  · rfl
  · exact Engine.heard_due_of_ne other _ _ _

@[simp] theorem heard_shadowLoad (p : Plan σ) (before : RollbackSnapshot) (selection : Selection) {seat : Seat}
    (other : seat ≠ .candidate) : seat.heard (p.shadowLoad before selection) = [] := by
  unfold shadowLoad
  split
  · exact Engine.heard_due_of_ne other _ _ _
  · rfl

@[simp] theorem heard_crossLoad (p : Plan σ) (selection : Selection) {seat : Seat} (other : seat ≠ .alternate) :
    seat.heard (p.crossLoad selection) = [] := by
  unfold crossLoad
  split
  · rfl
  · exact Engine.heard_due_of_ne other _ _ _

theorem baseline_hears {notes : List Invocation} (asks : Asks p w notes) : ¬ Finishes nextId w ∧ notes = []
    ∨ Finishes nextId w
      ∧ Seat.baseline.heard notes = p.engines.baseline.toList.map fun _ => p.ask p.configs.baselineMatcher := by
  have once : Seat.baseline.heard p.baselineLoad
      = p.engines.baseline.toList.map fun _ => p.ask p.configs.baselineMatcher := by
    rw [p.baselineLoad_eq]
    cases p.engines.baseline with
    | none => rfl
    | some engine => rfl
  cases asks with
  | unnumbered refused => exact .inl ⟨refused, rfl⟩
  | opened numbered => exact .inr ⟨numbered, once⟩
  | routed r => exact .inr ⟨⟨_, r.numbered⟩, by simp [once]⟩
  | chosen c | crossed c => exact .inr ⟨⟨_, c.numbered⟩, by simp [once]⟩

/-- What the candidate hears, and from whom. -/
inductive CandidateHears (p : Plan σ) (w : World σ) : List EngineRequest → Prop where
  | nothing : CandidateHears p w []
  | attempt (r : Routed p w) (selected : (p.routing r.before).canarySelected = true) (unforced : p.forced = false)
      (configured : ∃ engine, p.engines.candidate = some engine) :
      CandidateHears p w [p.ask p.configs.candidateMatcher]
  | shadow (c : Chosen p w)
      (attempts : Shadow.attempts p.configs.canary p.configs.primary (p.routing c.before) c.selection = true)
      (free : p.configs.canary.forceShadowError = false) (configured : ∃ engine, p.engines.candidate = some engine) :
      CandidateHears p w [p.ask p.configs.candidateMatcher]
  | both (c : Chosen p w) (selected : (p.routing c.before).canarySelected = true) (unforced : p.forced = false)
      (configured : ∃ engine, p.engines.candidate = some engine)
      (attempts : Shadow.attempts p.configs.canary p.configs.primary (p.routing c.before) c.selection = true)
      (free : p.configs.canary.forceShadowError = false) :
      CandidateHears p w [p.ask p.configs.candidateMatcher, p.ask p.configs.candidateMatcher]

theorem candidate_hears_chosen (c : Chosen p w) : CandidateHears p w
    (Seat.candidate.heard (p.attemptLoad c.before) ++ Seat.candidate.heard (p.shadowLoad c.before c.selection)) := by
  rcases p.attemptLoad_cases c.before with first | ⟨selected, unforced, configured, first⟩
  · rcases p.shadowLoad_cases c.before c.selection with second | ⟨attempts, free, configured, second⟩
    · rw [first, second]
      exact .nothing
    · rw [first, second]
      exact .shadow c attempts free configured
  · rcases p.shadowLoad_cases c.before c.selection with second | ⟨attempts, free, -, second⟩
    · rw [first, second]
      exact .attempt c.toRouted selected unforced configured
    · rw [first, second]
      exact .both c selected unforced configured attempts free

theorem candidate_hears {notes : List Invocation} (asks : Asks p w notes) :
    CandidateHears p w (Seat.candidate.heard notes) := by
  cases asks with
  | unnumbered refused => exact .nothing
  | opened numbered => simpa using CandidateHears.nothing
  | routed r =>
      have attempt : CandidateHears p w (Seat.candidate.heard (p.attemptLoad r.before)) := by
        rcases p.attemptLoad_cases r.before with first | ⟨selected, unforced, configured, first⟩
        · rw [first]
          exact .nothing
        · rw [first]
          exact .attempt r selected unforced configured
      simpa using attempt
  | chosen c | crossed c => simpa using candidate_hears_chosen c

theorem alternate_hears {notes : List Invocation} (asks : Asks p w notes) : Seat.alternate.heard notes = []
    ∨ ∃ c : Chosen p w, Seat.alternate.heard notes = [p.ask (p.servedMatcher c.selection.engine)] := by
  cases asks with
  | unnumbered refused => exact .inl rfl
  | opened numbered => exact .inl (by simp)
  | routed r => exact .inl (by simp)
  | chosen c => exact .inl (by simp)
  | crossed c =>
      rcases p.crossLoad_cases c.selection with nothing | once
      · exact .inl (by simp [nothing])
      · exact .inr ⟨c, by simp [once]⟩

end Plan

variable {p : Plan σ} {w : World σ}

theorem Chosen.selection_unique (c d : Chosen p w) : c.selection = d.selection := by
  obtain ⟨r, selection, chosen, selecting⟩ := c
  obtain ⟨r', selection', chosen', selecting'⟩ := d
  obtain ⟨runId, baseline, opened, opening, settled, resetting, before, looked⟩ := r
  obtain ⟨runId', baseline', opened', opening', settled', resetting', before', looked'⟩ := r'
  cases opening.symm.trans opening'
  cases resetting.symm.trans resetting'
  cases looked.symm.trans looked'
  cases selecting.symm.trans selecting'
  rfl

theorem Routed.selects (r : Routed p w) : p.Selects w ↔ (p.routing r.before).canarySelected = true := by
  unfold Plan.Selects
  rw [r.sight_eq]
  simp

/-- The shadow has a result to compare where a selected run was given one. -/
theorem Chosen.candidateResult?_of_selects (c : Chosen p w) (selects : p.Selects w) :
    c.selection.candidateResult? = p.candidateAnswer? (p.afterBaseline w.engines) := by
  rw [c.course.candidateResult?_eq, if_pos (c.selects.mp selects)]

theorem fails_of_unanswered {engine : Engine σ} {request : EngineRequest} {s : σ}
    (unanswered : engine.answer? request s = none) : ∃ failure, engine.Fails request none s failure := by
  obtain ⟨result, -, gives⟩ | ⟨failure, -, fails⟩ := Engine.gives_or_fails engine request none s
  · unfold Engine.answer? at unanswered
    rw [gives.answered] at unanswered
    exact absurd (isMatchingResult_iff.mpr gives.matching) (Option.filter_some_eq_none.mp unanswered)
  · exact ⟨failure, fails⟩

/-- A run gets a number that can be written from a store that can be written with it. -/
theorem finishes_nextId_iff {count : Int} (closed : w.store.depth = 0) (counts : w.store.namespaces.Counts count) :
    Finishes nextId w ↔ Json.writable (count + 1) = true
      ∧ (w.store.holding (w.store.namespaces.advance counter).2).Committable := by
  have taken : Finishes (World.onStore (Store.nextSequence counter)) w
      ↔ (w.store.holding (w.store.namespaces.advance counter).2).Committable :=
    Store.finishes_nextSequence closed counts
  unfold nextId
  rw [finishes_bind_then, and_comm, taken]
  refine and_congr_left fun can => ?_
  obtain ⟨n, v, stored⟩ := (taken.mpr can).eq
  have number : n = count + 1 := Store.eq_of_nextSequence counts (congrArg Prod.fst stored)
  rw [then_of_eq stored, finishes_lift, number]
  split
  · rename_i short
    exact iff_of_true (succeeds_ok _) short
  · rename_i long
    exact iff_of_false (not_succeeds_error _) long

namespace Plan.CandidateHears

variable {requests : List EngineRequest}

theorem replicate (hears : CandidateHears p w requests) :
    ∃ n, n ≤ 2 ∧ requests = List.replicate n (p.ask p.configs.candidateMatcher) := by
  cases hears with
  | nothing => exact ⟨0, by decide, rfl⟩
  | attempt r selected unforced configured => exact ⟨1, by decide, rfl⟩
  | shadow c attempts free configured => exact ⟨1, by decide, rfl⟩
  | both c selected unforced configured attempts free => exact ⟨2, by decide, rfl⟩

theorem twice (hears : CandidateHears p w requests) (two : requests.length = 2) : p.Selects w
    ∧ p.configs.canary.shadowEnabled = true ∧ p.configs.canary.forceShadowError = false
    ∧ ∃ engine failure, p.engines.candidate = some engine
      ∧ engine.Fails (p.ask p.configs.candidateMatcher) none (p.afterBaseline w.engines) failure := by
  cases hears with
  | nothing | attempt | shadow => simp at two
  | both c selected unforced configured attempts free =>
      obtain ⟨on, -, missing⟩ := attempts_iff.mp attempts
      obtain ⟨engine, here⟩ := configured
      have selects := c.selects.mpr selected
      have unanswered : p.candidateAnswer? (p.afterBaseline w.engines) = none :=
        (c.candidateResult?_of_selects selects).symm.trans missing
      rw [candidateAnswer?, unforced, here] at unanswered
      obtain ⟨failure, fails⟩ := fails_of_unanswered unanswered
      exact ⟨selects, on, free, engine, failure, here, fails⟩

theorem once (hears : CandidateHears p w requests) {given : Json} (selects : p.Selects w)
    (answered : p.candidateAnswer? (p.afterBaseline w.engines) = some given) : requests.length ≤ 1 := by
  cases hears with
  | nothing => exact Nat.zero_le 1
  | attempt | shadow => exact Nat.le_refl 1
  | both c selected unforced configured attempts free =>
      obtain ⟨-, -, missing⟩ := attempts_iff.mp attempts
      rw [c.candidateResult?_of_selects selects, answered] at missing
      contradiction

theorem idle (hears : CandidateHears p w requests) (unselected : ¬ p.Selects w)
    (off : p.configs.canary.shadowEnabled = false) : requests = [] := by
  cases hears with
  | nothing => rfl
  | attempt r selected => exact absurd (r.selects.mpr selected) unselected
  | shadow c attempts | both c _ _ _ attempts =>
      obtain ⟨on, -⟩ := attempts_iff.mp attempts
      rw [off] at on
      contradiction

end Plan.CandidateHears

/-- Where the attempt gave a result, no comparison is put down but the one with it. -/
theorem compares_of_compared {given : Json} (selects : p.Selects w)
    (answered : p.candidateAnswer? (p.afterBaseline w.engines) = some given) {q : Put} (member : q ∈ p.compared w)
    {diff : DiffRecord} (kept : q.record = .comparison (.diff diff)) : p.Compares w given diff := by
  rcases p.compared_cases w with none | ⟨c, same⟩
  · rw [none] at member
    cases member
  · rw [same] at member
    obtain ⟨safety, safe, compared⟩ := Shadow.compared_of_puts (List.mem_filter.mp member).1
      ((c.candidateResult?_of_selects selects).trans answered) kept
    exact ⟨c.runId, c.baseline, safety, c.numbered, c.baseline_eq, safe, compared⟩

theorem Returned.compares {result : RunResult} {w' : World σ} (r : Returned p w result w') {given : Json}
    (selects : p.Selects w) (answered : p.candidateAnswer? (p.afterBaseline w.engines) = some given) :
    ∃ diff, r.trial.shadow.diff = some diff ∧ p.Compares w given diff := by
  have attempted := (r.toward.candidateResult?_of_selects selects).trans answered
  obtain ⟨-, diff, compared, found⟩ := r.compared_of_candidateResult? attempted
  have safe := r.course.weighed_candidateResult?
  rw [show r.trial.selection.candidateResult? = some given from attempted] at safe
  exact ⟨diff, found, r.runId, r.baseline, r.trial.selection.safety, r.toward.numbered, r.baseline_eq, safe, compared⟩

theorem Plan.numbered_of_finishes (finished : Finishes p.attempt w) : Finishes nextId w := by
  obtain ⟨result, w', ran⟩ := finished.eq
  obtain ⟨r⟩ := Plan.returned_of_eq ran
  exact ⟨r.runId, r.toward.numbered⟩

theorem Seat.mem_heard {i : Invocation} {notes : List Invocation} (member : i ∈ notes) :
    i.request ∈ i.seat.heard notes :=
  List.mem_map.mpr ⟨i, List.mem_filter.mpr ⟨member, decide_eq_true rfl⟩, rfl⟩

/-- What one run asks of its engines. -/
structure EngineLoad (p : Plan σ) (w : World σ) : Prop where
  /-- Every run asks the baseline once, -/
  baseline : Finishes nextId w →
    p.asked w .baseline = p.engines.baseline.toList.map fun _ => p.ask p.configs.baselineMatcher
  /-- but for one that is stopped because it gets no number, and asks nothing: -/
  unnumbered : ¬ Finishes nextId w → p.invocations w = [] ∧ ¬ Finishes p.attempt w
  /-- the number is too long to be written, or the store has a file that cannot be written with it. -/
  numbered : w.store.depth = 0 → ∀ count, w.store.namespaces.Counts count → (Finishes nextId w ↔
    Json.writable (count + 1) = true ∧ (w.store.holding (w.store.namespaces.advance counter).2).Committable)
  candidate : ∃ n, n ≤ 2 ∧ p.asked w .candidate = List.replicate n (p.ask p.configs.candidateMatcher)
  /-- The candidate is asked again only where it failed. -/
  twice : (p.asked w .candidate).length = 2 → p.Selects w ∧ p.configs.canary.shadowEnabled = true
    ∧ p.configs.canary.forceShadowError = false ∧ ∃ engine failure, p.engines.candidate = some engine
      ∧ engine.Fails (p.ask p.configs.candidateMatcher) none (p.afterBaseline w.engines) failure
  once : ∀ given, p.Selects w → p.candidateAnswer? (p.afterBaseline w.engines) = some given →
    (p.asked w .candidate).length ≤ 1
  /-- A comparison that is put down is the one with the result that the candidate gave in the attempt. -/
  compared : ∀ given, p.Selects w → p.candidateAnswer? (p.afterBaseline w.engines) = some given →
    ∀ q ∈ p.compared w, ∀ diff, q.record = .comparison (.diff diff) → p.Compares w given diff
  idle : ¬ p.Selects w → p.configs.canary.shadowEnabled = false → p.asked w .candidate = []
  /-- The alternate is asked once at most, by a run that has chosen what to serve. -/
  alternate : p.asked w .alternate = []
    ∨ ∃ c : Chosen p w, p.asked w .alternate = [p.ask (p.servedMatcher c.selection.engine)]
  inputs : ∀ i ∈ p.invocations w, ∃ config, i.request = engineRequest p.request p.recordedAt config

/-- What is seen of it in the result of a run that returned. -/
structure LoadSeen (p : Plan σ) (w : World σ) (result : RunResult) (w' : World σ) : Prop where
  baseline : p.asked w .baseline = [p.ask p.configs.baselineMatcher]
  selected : result.decision.canarySelected = true ↔ p.Selects w
  recordedAt : result.recordedAt = p.recordedAt
  alternate : ∀ request ∈ p.asked w .alternate, request = p.ask (p.servedMatcher result.primaryEngine)
  /-- The result that the candidate gave in the attempt was compared, whether that was put down or not. -/
  compared : ∀ given, p.Selects w → p.candidateAnswer? (p.afterBaseline w.engines) = some given →
    ∃ (r : Returned p w result w') (diff : DiffRecord), r.trial.shadow.diff = some diff ∧ p.Compares w given diff

theorem Plan.inputs_of_asks {notes : List Invocation} (asks : Asks p w notes) {i : Invocation} (member : i ∈ notes) :
    ∃ config, i.request = engineRequest p.request p.recordedAt config := by
  have heard := Seat.mem_heard member
  cases seat : i.seat with
  | baseline =>
      rw [seat] at heard
      rcases baseline_hears asks with ⟨-, nothing⟩ | ⟨-, once⟩
      · rw [nothing] at member
        cases member
      · rw [once] at heard
        obtain ⟨_, -, same⟩ := List.mem_map.mp heard
        exact ⟨_, same.symm⟩
  | candidate =>
      rw [seat] at heard
      obtain ⟨n, -, same⟩ := (candidate_hears asks).replicate
      rw [same] at heard
      exact ⟨_, List.eq_of_mem_replicate heard⟩
  | alternate =>
      rw [seat] at heard
      rcases alternate_hears asks with nothing | ⟨c, once⟩
      · rw [nothing] at heard
        cases heard
      · rw [once] at heard
        exact ⟨_, List.mem_singleton.mp heard⟩

/-- The load of any run on its engines, and what is seen of it if the run returns. -/
theorem engine_load (p : Plan σ) (w : World σ) :
    EngineLoad p w ∧ ∀ result w', p.attempt.outcome w = (.ok result, w') → LoadSeen p w result w' := by
  have asks := p.asks_invocations w
  have hears := Plan.candidate_hears asks
  constructor
  · exact {
      baseline := fun numbered => (Plan.baseline_hears asks).elim (fun given => absurd numbered given.1) And.right
      unnumbered := fun refused => ⟨(Plan.baseline_hears asks).elim And.right fun given => absurd given.1 refused,
        fun finished => refused (Plan.numbered_of_finishes finished)⟩
      numbered := fun closed _ counts => finishes_nextId_iff closed counts
      candidate := hears.replicate
      twice := hears.twice
      once := fun _ => hears.once
      compared := fun _ selects answered _ member _ kept => compares_of_compared selects answered member kept
      idle := hears.idle
      alternate := Plan.alternate_hears asks
      inputs := fun _ => Plan.inputs_of_asks asks }
  · intro result w' ran
    obtain ⟨r⟩ := Plan.returned_of_eq ran
    refine ⟨?baseline, ?selected, r.recordedAt_eq, ?alternate,
      fun given selects answered => ⟨r, r.compares selects answered⟩⟩
    case baseline =>
      obtain ⟨engine, configured, -⟩ := Option.bind_eq_some_iff.mp r.baseline_eq
      rcases Plan.baseline_hears asks with ⟨refused, -⟩ | ⟨-, once⟩
      · exact absurd ⟨_, r.toward.numbered⟩ refused
      · rw [Plan.asked, once, configured]
        rfl
    case selected =>
      rw [r.canarySelected_eq, r.toward.selects]
      rfl
    case alternate =>
      intro request member
      rcases Plan.alternate_hears asks with nothing | ⟨c, once⟩
      · rw [Plan.asked, nothing] at member
        cases member
      · rw [Plan.asked, once] at member
        rw [List.mem_singleton.mp member, r.primaryEngine_eq, c.selection_unique r.toward]
        rfl

/-- The candidate fails in the attempt of a graduated rollout, and the shadow asks it again. -/
theorem asked_twice_of_failing_candidate :
    let failure : EngineFailure := ⟨"ConnectError", "connection refused", none⟩
    let answering : Engine Unit := ⟨"v1", fun _ s => (.ok (.obj [("matching", .obj [])]), s)⟩
    let p : Plan Unit := ⟨⟨some answering, some (Engine.failing failure), none⟩, ⟨2026, 3, 1, 12, 0, 0, 0⟩,
      ⟨.unknown, none, some "2026-03-01T12:00:00.000Z", [], [], [], 50, none⟩,
      ⟨{ CanaryConfig.default with shadowEnabled := true }, { PrimaryConfig.default with enabled := true }, .default,
        .default, .default⟩, none⟩
    (p.asked Engine.idle .candidate).length = 2 ∧ p.Selects Engine.idle
      ∧ p.asked Engine.idle .baseline = [p.ask p.configs.baselineMatcher] := by
  intro failure answering p
  obtain ⟨load, -⟩ := engine_load p Engine.idle
  have two : (p.asked Engine.idle .candidate).length = 2 := by decide +kernel
  exact ⟨two, (load.twice two).1, load.baseline (finishes_iff_isOk.mpr (by decide +kernel))⟩

end Run

end CanaryGate
