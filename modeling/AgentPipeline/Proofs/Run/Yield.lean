import AgentPipeline.Proofs.Run.History
import AgentPipeline.Run.Ending
import AgentPipeline.Run.Worker

/-!
# What nodes hand back

Whatever comes of its attempts, a node that hands back an update hands back one result, which is
that of a success or of a failure.  Both count one step more than the snapshot and leave the status
of the run alone.

## Main definitions

* `Worker.Tells` — what a failed node tells.
* `Update.lasting` — an update with the time that its node took.
* `Update.Reports` — an update holds one result of its own node.
* `Graph.Yields` — what a node may hand back on a snapshot.
* `Graph.MayEnd` — how a run may end at a history.
* `Graph.answer`, `Graph.setback` — completions for scripts.

## Main results

* `Worker.outcome_transcript` — **a node hands back a success or a failure of its own.**
* `Graph.Yields.currentStep`, `Graph.Yields.status` — what every update sets and leaves alone.
* `Graph.Yields.reports` — every update reports on its node.
* `Execution.exists_of_answers` — histories of runs whose nodes all get an answer.
-/

namespace AgentPipeline

/-! ### Attempts -/

namespace Worker

variable {w : Worker} {s : RunState} {u : Update}

/-- What a failed node tells: that its design was refused, or what went wrong in its last attempt. -/
def Tells (w : Worker) (error : String) : Prop :=
  error = rejection.message ∨ ∃ f, error = w.failureText f

theorem outcome_react {attempt : Nat} {outcome : Except Failure Completion}
    (h : w.react s attempt outcome = .finish (.ok u)) :
    (∃ f, u = w.failed s (w.failureText f)) ∨ ∃ c, u = w.succeeded s c := by
  cases outcome with
  | ok c =>
    cases h
    exact Or.inr ⟨c, rfl⟩
  | error f =>
    unfold react at h
    dsimp only at h
    split at h
    · cases h
    · split at h
      · cases h
        exact Or.inl ⟨_, rfl⟩
      · cases h

theorem outcome_attempts {outcomes : Nat → Except Failure Completion} {left attempt : Nat}
    (h : (w.attempts s outcomes left attempt).outcome = .ok u) :
    (∃ f, u = w.failed s (w.failureText f)) ∨ ∃ c, u = w.succeeded s c := by
  induction left generalizing attempt with
  | zero =>
    unfold attempts at h
    dsimp only at h
    split at h
    · next hreact =>
      rw [h] at hreact
      exact outcome_react hreact
    · cases h
  | succ left ih =>
    unfold attempts at h
    split at h
    · next hreact =>
      dsimp only at h
      rw [h] at hreact
      exact outcome_react hreact
    · exact ih h

/-- **A node hands back a success or a failure of its own.** -/
theorem outcome_transcript {outcomes : Nat → Except Failure Completion}
    (h : (w.transcript s outcomes).outcome = .ok u) :
    (∃ error, w.Tells error ∧ u = w.failed s error) ∨ ∃ c, u = w.succeeded s c := by
  unfold transcript at h
  split at h
  · next update hrefusal =>
    cases h
    obtain ⟨_, -, rfl⟩ := Option.map_eq_some_iff.mp hrefusal
    exact Or.inl ⟨_, Or.inl rfl, rfl⟩
  · refine (outcome_attempts h).imp_left ?_
    rintro ⟨f, hf⟩
    exact ⟨_, Or.inr ⟨f, rfl⟩, hf⟩

/-- A node whose design passes screening is done with its first attempt if nothing better is to be
had from another one. -/
theorem outcome_transcript_of_react (hpasses : s.design.injection = none)
    {outcome : Except Failure Completion} (hreact : w.react s 0 outcome = .finish (.ok u)) :
    (w.transcript s fun _ => outcome).outcome = .ok u := by
  have hrefusal : w.refusal s = none := by rw [refusal, hpasses, Option.map_none]
  unfold transcript
  rw [hrefusal]
  cases hleft : w.policy.maxAttempts with
  | zero => simp [attempts, hreact]
  | succ left => simp [attempts, hreact]

/-- A node whose design passes screening is done with its first answer. -/
theorem outcome_transcript_of_answer (hpasses : s.design.injection = none) (c : Completion) :
    (w.transcript s fun _ => .ok c).outcome = .ok (w.succeeded s c) :=
  outcome_transcript_of_react hpasses rfl

/-- A node whose design passes screening is done with its first failure if that is here to stay. -/
theorem outcome_transcript_of_failure (hpasses : s.design.injection = none) {f : Failure}
    (hends : f.kind.endsRun = false) (hstays : f.kind.retryable = false) :
    (w.transcript s fun _ => .error f).outcome = .ok (w.failed s (w.failureText f)) := by
  refine outcome_transcript_of_react hpasses ?_
  simp [react, hends, hstays]

end Worker

/-! ### Nodes of a graph -/

/-- An update whose results tell how long their node took. -/
def Update.lasting (u : Update) (ms : Nat) : Update :=
  { u with agentResults := u.agentResults.map fun r => { r with durationMs := ms } }

/-- An update holds one result, which is that of the node and tells an error exactly if the node
failed; the update passes on that error. -/
structure Update.Reports (u : Update) (n : Node) (r : AgentResult) : Prop where
  results : u.agentResults = [r]
  name : r.agentName = n.id
  role : r.role = n.spec.role
  errors : u.errors = r.error.toList
  failed_iff : r.status = .failed ↔ r.error ≠ none

namespace Graph

variable {g : Graph} {router : Router} {backoffMs node : Nat} {s : RunState} {u : Update}

/-- A node may hand back an update on a snapshot: whatever comes of each of its attempts and
however long they take. -/
def Yields (g : Graph) (router : Router) (backoffMs node : Nat) (s : RunState)
    (u : Update) : Prop :=
  ∃ n, g.nodes[node]? = some n ∧ ∃ outcomes handed ms,
    ((n.worker router backoffMs).transcript s outcomes).outcome = .ok handed ∧ u = handed.lasting ms

theorem Yields.currentStep (h : g.Yields router backoffMs node s u) :
    u.currentStep = some (s.currentStep + 1) := by
  obtain ⟨n, -, outcomes, handed, ms, houtcome, rfl⟩ := h
  rcases Worker.outcome_transcript houtcome with ⟨error, -, rfl⟩ | ⟨c, rfl⟩
  · rfl
  · rfl

theorem Yields.status (h : g.Yields router backoffMs node s u) : u.status = none := by
  obtain ⟨n, -, outcomes, handed, ms, houtcome, rfl⟩ := h
  rcases Worker.outcome_transcript houtcome with ⟨error, -, rfl⟩ | ⟨c, rfl⟩
  · rfl
  · rfl

/-- The errors that a node hands back tell what went wrong, cut down if they are too long. -/
theorem Yields.exists_tells (h : g.Yields router backoffMs node s u) {error : String}
    (herror : error ∈ u.errors) : ∃ n text, g.nodes[node]? = some n ∧
      (n.worker router backoffMs).Tells text ∧
        error = String.ofList (Text.truncateError text.toList) := by
  obtain ⟨n, hn, outcomes, handed, ms, houtcome, rfl⟩ := h
  rcases Worker.outcome_transcript houtcome with ⟨text, htells, rfl⟩ | ⟨c, rfl⟩
  · exact ⟨n, text, hn, htells, List.mem_singleton.mp herror⟩
  · exact absurd herror List.not_mem_nil

/-- What a node hands back reports on it. -/
theorem Yields.reports (h : g.Yields router backoffMs node s u) :
    ∃ n r, g.nodes[node]? = some n ∧ u.Reports n r := by
  obtain ⟨n, hn, outcomes, handed, ms, houtcome, rfl⟩ := h
  rcases Worker.outcome_transcript houtcome with ⟨error, -, rfl⟩ | ⟨c, rfl⟩
  · refine ⟨n, _, hn, rfl, rfl, rfl, rfl, iff_of_true rfl ?_⟩
    exact Option.some_ne_none _
  · refine ⟨n, _, hn, rfl, rfl, rfl, rfl, iff_of_false ?_ ?_⟩
    · exact AgentStatus.noConfusion
    · exact fun hne => hne rfl

/-- How a run may end at a history: when nothing runs any more, with a failure that a running node
passes on whatever came of its attempts, or at its time limit, whenever that is. -/
def MayEnd (g : Graph) (router : Router) (backoffMs : Nat) (h : History) : Ending → Prop
  | .drained => h.run.schedule.running = []
  | .aborted failure => ∃ l ∈ h.launches, l.node ∈ h.run.schedule.running ∧
      ∃ n, g.nodes[l.node]? = some n ∧
        ∃ outcomes, ((n.worker router backoffMs).transcript l.snapshot outcomes).outcome =
          .error failure
  | .timedOut => True

/-- The completion of a node that gets an answer at once. -/
def answer (g : Graph) (router : Router) (backoffMs : Nat) (c : Completion) (node : Nat) :
    Nat × (RunState → Update) :=
  (node, fun s =>
    match g.nodes[node]? with
    | some n => (n.worker router backoffMs).succeeded s c
    | none => {})

theorem yields_answer (hnode : node < g.size) (hpasses : s.design.injection = none)
    (c : Completion) :
    g.Yields router backoffMs node s ((g.answer router backoffMs c node).2 s) := by
  obtain ⟨n, hn⟩ := exists_node hnode
  refine ⟨n, hn, fun _ => .ok c, _, 0, Worker.outcome_transcript_of_answer hpasses c, ?_⟩
  rw [answer, hn]
  rfl

/-- The completion of a node whose first attempt fails for good. -/
def setback (g : Graph) (router : Router) (backoffMs : Nat) (f : Failure) (node : Nat) :
    Nat × (RunState → Update) :=
  (node, fun s =>
    match g.nodes[node]? with
    | some n =>
      let w := n.worker router backoffMs
      w.failed s (w.failureText f)
    | none => {})

theorem yields_setback (hnode : node < g.size) (hpasses : s.design.injection = none) {f : Failure}
    (hends : f.kind.endsRun = false) (hstays : f.kind.retryable = false) :
    g.Yields router backoffMs node s ((g.setback router backoffMs f node).2 s) := by
  obtain ⟨n, hn⟩ := exists_node hnode
  refine ⟨n, hn, fun _ => .error f, _, 0,
    Worker.outcome_transcript_of_failure hpasses hends hstays, ?_⟩
  rw [setback, hn]
  rfl

end Graph

/-- A history in which the given nodes complete in order, each with the same answer. -/
theorem Execution.exists_of_answers {d : Design} {g : Graph} (router : Router) (limits : RunLimits)
    (hpasses : d.injection = none) (c : Completion) (nodes : List Nat) {p : History → Bool}
    (hnodes : ∀ v ∈ nodes, v < g.size)
    (hplay : ((History.begin g (limits.initialState d)).play g
      (nodes.map (g.answer router limits.backoffMs c))).any p = true) :
    ∃ h, Execution g (g.Yields router limits.backoffMs) (limits.initialState d) h ∧ p h = true := by
  refine Execution.exists_of_script ?_ hplay
  intro q hq s hdesign
  obtain ⟨v, hv, rfl⟩ := List.mem_map.mp hq
  have hpasses' : s.design.injection = none := by
    rw [hdesign]
    exact hpasses
  exact Graph.yields_answer (hnodes v hv) hpasses' c

end AgentPipeline
