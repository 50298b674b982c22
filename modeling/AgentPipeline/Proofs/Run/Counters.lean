import AgentPipeline.Proofs.Run.Stopping
import AgentPipeline.Proofs.Run.Termination

/-!
# Steps and errors of a run

Every completion counts one step more than its node saw when it was launched, and by then no more
steps had been counted than there were completions.  So a run has never counted more steps than
completions, and it has recorded one error for every failure.  With at most two failures and a step
for every node the stop condition therefore comes to hold only when every node has completed, and
until then nobody to whom control should pass is held back by it.

## Main definitions

* `RunState.Fresh` — nothing has happened yet.
* `RunState.failures`, `RunState.failureTexts` — the agents that failed and what they tell.

## Main results

* `Execution.currentStep_le` — no more steps than completions are counted.
* `Execution.map_errors`, `Execution.length_errors` — there is an error for every failure.
* `Execution.launched_perm_of_shouldStop` — the stop condition holds when nothing is left to launch.
* `Execution.launched_of_target` — **nobody to whom control should pass is left out.**
-/

namespace AgentPipeline

namespace RunState

/-- Nothing has happened yet. -/
structure Fresh (s : RunState) : Prop where
  currentStep : s.currentStep = 0
  agentResults : s.agentResults = []
  errors : s.errors = []
  going : s.status.isTerminal = false

/-- The number of agents that failed. -/
def failures (s : RunState) : Nat :=
  s.agentResults.countP fun r => r.status = .failed

/-- The errors that the failed agents tell, in order. -/
def failureTexts (s : RunState) : List (Option String) :=
  (s.agentResults.filter fun r => r.status = .failed).map AgentResult.error

theorem failureTexts_apply (s : RunState) (u : Update) : (s.apply u).failureTexts =
    s.failureTexts ++ (u.agentResults.filter fun r => r.status = .failed).map AgentResult.error := by
  rw [failureTexts, apply, List.filter_append, List.map_append]
  rfl

theorem length_failureTexts (s : RunState) : s.failureTexts.length = s.failures := by
  rw [failureTexts, List.length_map, failures, List.countP_eq_length_filter]

end RunState

theorem RunLimits.fresh_initialState (limits : RunLimits) (d : Design) :
    (limits.initialState d).Fresh :=
  ⟨rfl, rfl, rfl, rfl⟩

/-- The error that an update passes on is that of its result if that is a failure. -/
theorem Update.Reports.map_errors {u : Update} {n : Node} {r : AgentResult} (h : u.Reports n r) :
    u.errors.map some = (u.agentResults.filter fun r => r.status = .failed).map AgentResult.error := by
  rw [h.results, h.errors]
  cases herror : r.error with
  | none =>
    have hstatus : r.status ≠ .failed := fun hfailed => h.failed_iff.mp hfailed herror
    simp [hstatus]
  | some error =>
    have hstatus : r.status = .failed := by
      rw [h.failed_iff, herror]
      exact Option.some_ne_none error
    simp [hstatus, herror]

namespace Execution

variable {g : Graph} {hands : Nat → RunState → Update → Prop} {router : Router} {backoffMs : Nat}
  {s : RunState} {h : History}

/-! ### Counting -/

/-- No snapshot is ahead of the state. -/
theorem currentStep_snapshot_le (hrun : Execution g hands s h) {l : Launch} (hl : l ∈ h.launches) :
    l.snapshot.currentStep ≤ h.run.state.currentStep := by
  induction hrun with
  | begin =>
    obtain ⟨v, -, rfl⟩ := List.mem_map.mp hl
    exact Nat.le_refl _
  | @complete h k u _ _ _ _ ih =>
    rcases History.mem_launches_complete.mp hl with hl | ⟨v, -, rfl⟩
    · exact (ih hl).trans (RunState.currentStep_le_apply h.run.state u)
    · exact Nat.le_refl _

/-- No more steps than completions are counted. -/
theorem currentStep_le (hrun : Execution g (g.Yields router backoffMs) s h) (hs : s.Fresh) :
    h.run.state.currentStep ≤ h.merges.length := by
  induction hrun with
  | begin => exact hs.currentStep.le
  | @complete h l u hrun hlaunch _ hhands ih =>
    have hsnapshot := hrun.currentStep_snapshot_le hlaunch
    rw [History.state_complete, RunState.currentStep_apply hhands.currentStep,
      History.merges_complete, List.length_append, List.length_singleton]
    omega

/-- The errors are those that the failed agents tell, in order. -/
theorem map_errors (hrun : Execution g (g.Yields router backoffMs) s h) (hs : s.Fresh) :
    h.run.state.errors.map some = h.run.state.failureTexts := by
  induction hrun with
  | begin =>
    have hnone : s.errors.map some = s.failureTexts := by
      rw [RunState.failureTexts, hs.errors, hs.agentResults]
      rfl
    exact hnone
  | complete _ _ _ hhands ih =>
    obtain ⟨n, r, -, hreports⟩ := hhands.reports
    rw [History.state_complete, RunState.failureTexts_apply, RunState.apply, List.map_append, ih,
      hreports.map_errors]

/-- There is an error for every failure. -/
theorem length_errors (hrun : Execution g (g.Yields router backoffMs) s h) (hs : s.Fresh) :
    h.run.state.errors.length = h.run.state.failures := by
  rw [← RunState.length_failureTexts, ← hrun.map_errors hs, List.length_map]

theorem status_eq (hrun : Execution g (g.Yields router backoffMs) s h) :
    h.run.state.status = s.status := by
  induction hrun with
  | begin => rfl
  | complete _ _ _ hhands ih =>
    rw [History.state_complete, RunState.apply, hhands.status]
    exact ih

/-! ### When everything has been launched -/

/-- Distinct nodes of a graph, as many as it has, are all of them. -/
theorem launched_perm (hg : g.WellFormed) (hrun : Execution g hands s h)
    (hlength : g.size ≤ h.run.schedule.launched.length) :
    h.run.schedule.launched.Perm (List.range g.size) := by
  have hsub : h.run.schedule.launched ⊆ List.range g.size := by
    intro v hv
    exact List.mem_range.mpr (hrun.lt_size hg (Or.inl hv))
  refine (List.subperm_of_subset (hrun.sane hg).nodup_launched hsub).perm_of_length_le ?_
  rw [List.length_range]
  exact hlength

/-- With few failures and enough steps the stop condition holds when nothing is left to launch. -/
theorem launched_perm_of_shouldStop (hg : g.WellFormed)
    (hrun : Execution g (g.Yields router backoffMs) s h) (hs : s.Fresh)
    (hsteps : g.size ≤ s.maxSteps) (hfailures : h.run.state.failures < maxErrors)
    (hstop : h.run.state.shouldStop = true) :
    h.run.schedule.launched.Perm (List.range g.size) := by
  refine hrun.launched_perm hg ?_
  have hmerged := (hrun.merged_perm hg).length_eq
  rw [List.length_append, List.length_map] at hmerged
  rcases RunState.shouldStop_eq_true_iff.mp hstop with herrors | hstep | hover
  · rw [hrun.length_errors hs] at herrors
    omega
  · have hle := hrun.currentStep_le hs
    rw [hrun.maxSteps_state] at hstep
    omega
  · rw [hrun.status_eq, hs.going] at hover
    cases hover

/-- **Nobody to whom control should pass is left out.**  By the end of a run with few failures and
enough steps every target of a node that has completed has been launched. -/
theorem launched_of_target (hg : g.WellFormed)
    (hrun : Execution g (g.Yields router backoffMs) s h) (hs : s.Fresh)
    (hsteps : g.size ≤ s.maxSteps) (hfailures : h.run.state.failures < maxErrors)
    (hdrained : h.run.schedule.running = []) {m : Merge} (hm : m ∈ h.merges) {n : Node}
    (hn : g.nodes[m.node]? = some n) {v : Nat} (hv : v ∈ n.routing.targets m.state) :
    v ∈ h.run.schedule.launched := by
  cases hstop : m.state.shouldStop with
  | true =>
    -- The gate is closed for good, but by now nobody is missing.
    have hperm := hrun.launched_perm_of_shouldStop hg hs hsteps hfailures
      (hrun.shouldStop_of_merge hm hstop)
    have htarget := n.routing.targets_subset m.state hv
    have hjoins := hg.joins_of_target m.node n v hn htarget
    exact hperm.mem_iff.mpr (List.mem_range.mpr (hg.lt_size m.node v hjoins).2)
  | false =>
    have hsuccessor : v ∈ g.successors m.node m.state := by
      rw [Graph.successors, hstop, hn]
      exact hv
    rcases hrun.waiting_of_successor hm hsuccessor with hwaiting | hlaunched
    · exact hrun.launched_of_queued hg hdrained hm hwaiting
    · exact hlaunched

end Execution

end AgentPipeline
