import AgentPipeline.Proofs.Graph.Sequence
import AgentPipeline.Proofs.Run.Accumulation
import Mathlib.Order.Bounds.Basic

/-!
# Agents in turn

The graph of a design without edges is a chain, and its run could be written as a plain loop: one
agent works on the state that the one before it has left behind, its update is merged, and the next
one follows unless the last agent, the limit on steps or the limit on errors has been reached.  The
schedule knows more than such a loop, but on a chain all it ever says is which agent is at work.

## Main definitions

* `Tour`, `Tour.run` — the plain loop and what it has done.
* `Schedule.turn`, `Schedule.spent` — the schedules that come up on a chain.
* `History.AtWork`, `History.Over` — an agent of a chain is at work, or none will be again.
* `History.InTurn` — what holds of every history of a chain.
* `RunLimits.HaltsAfter` — when the loop goes no further.

## Main results

* `Run.schedule_complete_turn` — what one completion does to the schedule.
* `Execution.atWork_or_over` — no other schedules come up.
* `Execution.tour_of_drive` — the loop of a run does what the plain loop does.
* `Execution.runs_in_turn` — **a run without edges is the plain loop.**
-/

namespace AgentPipeline

/-! ### The plain loop -/

/-- What a loop over agents has done. -/
structure Tour where
  /-- The update of every agent that has completed and the state that it has been merged into. -/
  steps : List (Update × RunState)
  state : RunState
  ending : Except Failure Unit

namespace Tour

/-- A tour with other steps before its own. -/
def after (t : Tour) (steps : List (Update × RunState)) : Tour :=
  { t with steps := steps ++ t.steps }

/-- The plain loop over `left` agents from the position `done` on.  The outcome of an agent depends
on the state that it starts from; a failure ends the loop at once. -/
def run (maxSteps : Nat) (outcome : Nat → RunState → Except Failure Update) :
    (left done : Nat) → RunState → Tour
  | 0, _, s => ⟨[], s, .ok ()⟩
  | left + 1, done, s =>
    match outcome done s with
    | .error failure => ⟨[], s, .error failure⟩
    | .ok u =>
      if maxSteps ≤ done + 1 ∨ maxErrors ≤ (s.apply u).failures then
        ⟨[(u, s.apply u)], s.apply u, .ok ()⟩
      else (run maxSteps outcome left (done + 1) (s.apply u)).after [(u, s.apply u)]

theorem after_after (t : Tour) (first second : List (Update × RunState)) :
    (t.after second).after first = t.after (first ++ second) := by
  rw [after, after, after, List.append_assoc]

end Tour

namespace History

/-- Every update that has been merged with the state that it has been merged into. -/
def steps (h : History) : List (Update × RunState) :=
  h.merges.map fun m => (m.update, m.state)

/-- What a history that has come to its end has done. -/
def tour (h : History) (ending : Except Failure Unit) : Tour where
  steps := h.steps
  state := h.run.state
  ending

@[simp] theorem steps_complete {g : Graph} {h : History} {node : Nat} {u : Update} :
    (h.complete g node u).steps = h.steps ++ [(u, h.run.state.apply u)] := by
  rw [steps, merges_complete, List.map_append]
  rfl

end History

/-- What nodes hand back when the outcome of each depends on the snapshot that it has started from. -/
def Hands (outcome : Nat → RunState → Except Failure Update) (node : Nat) (s : RunState)
    (u : Update) : Prop :=
  outcome node s = .ok u

/-- A way to feed the loop of a run: while nodes are running one of them completes, with the outcome
that it has on its snapshot. -/
def Answers (g : Graph) (outcome : Nat → RunState → Except Failure Update) (s : RunState)
    (next : History → Nat × Except Failure Update) : Prop :=
  ∀ h, Execution g (Hands outcome) s h → h.run.schedule.running ≠ [] →
    ∃ l ∈ h.launches, l.node = (next h).1 ∧ l.node ∈ h.run.schedule.running ∧
      (next h).2 = outcome l.node l.snapshot

/-- After so many agents in turn, of which the given results are left, no other agent follows: it was
the last one, as many steps have been taken as there may be, or three of them failed. -/
def RunLimits.HaltsAfter (limits : RunLimits) (count : Nat) (results : List AgentResult)
    (k : Nat) : Prop :=
  k = count ∨ limits.maxSteps ≤ k ∨ 3 ≤ (results.take k).countP fun r => r.status = .failed

/-! ### Schedules of a chain -/

namespace Schedule

/-- The agent at a position is at work, after all those before it. -/
def turn (i : Nat) : Schedule where
  launched := List.range (i + 1)
  running := [i]

/-- The first few agents have been at work, and nothing is left to do. -/
def spent (count : Nat) : Schedule where
  launched := List.range count

end Schedule

namespace Graph

variable {d : Design} {i : Nat}

/-- In a chain control passes to the next agent unless the run has to stop. -/
theorem successors_chain {s : RunState} : (chain d).successors i s =
    if i + 1 < d.agents.length ∧ s.shouldStop = false then [i + 1] else [] := by
  unfold successors
  cases hstop : s.shouldStop with
  | true =>
    rw [if_pos rfl, if_neg]
    exact fun h => Bool.noConfusion h.2
  | false =>
    rw [if_neg Bool.false_ne_true]
    cases hn : (chain d).nodes[i]? with
    | none =>
      have hge : d.agents.length ≤ i := by
        rw [List.getElem?_eq_none_iff] at hn
        exact (size_chain d).symm.trans_le hn
      rw [if_neg]
      omega
    | some n =>
      dsimp only
      rw [d.routing_of_getElem? hn, Routing.inChain]
      by_cases hlt : i + 1 < d.agents.length
      · rw [if_pos hlt, if_pos ⟨hlt, rfl⟩]
        rfl
      · rw [if_neg hlt, if_neg fun h => hlt h.1]
        rfl

/-- In a chain the only predecessor of an agent is the one before it. -/
theorem mem_predecessorsOf_chain {p : Nat} (h : p ∈ (chain d).predecessorsOf (i + 1)) : p = i := by
  have hjoins : (chain d).Joins p (i + 1) := h
  have := (joins_chain.mp hjoins).1
  omega

end Graph

namespace Run

variable {d : Design} {r : Run} {i : Nat} {u : Update}

theorem routed_of_turn (hturn : r.schedule = .turn i) : r.routed (Graph.chain d) i u =
    { Schedule.spent (i + 1) with
      waiting := (Graph.chain d).successors i (r.state.apply u) } := by
  have hfinish : r.schedule.finish i = .spent (i + 1) := by
    rw [hturn, Schedule.finish, Schedule.turn]
    simp [Schedule.spent]
  rw [routed, hfinish, Graph.successors_chain]
  split
  · -- The next agent has not been launched and so waits.
    simp [Schedule.routeAll, Schedule.route, Schedule.spent]
  · rfl

/-- What control passes to is ready, as the only predecessor has completed. -/
theorem ready_of_turn (hturn : r.schedule = .turn i) :
    (r.routed (Graph.chain d) i u).ready (Graph.chain d) =
      (Graph.chain d).successors i (r.state.apply u) := by
  rw [routed_of_turn hturn]
  refine List.filter_eq_self.mpr fun v hv => ?_
  -- The one predecessor has been launched and does not run, so it does not block.
  obtain rfl : v = i + 1 := by
    rw [Graph.successors_chain] at hv
    split at hv
    · exact List.mem_singleton.mp hv
    · exact absurd hv List.not_mem_nil
  rw [List.all_eq_true]
  intro p hp
  obtain rfl := Graph.mem_predecessorsOf_chain hp
  simp [Schedule.blocks, Schedule.spent]

/-- **What one completion does to the schedule**: it is the turn of the next agent, or nothing is
left to do. -/
theorem schedule_complete_turn (hturn : r.schedule = .turn i) :
    (r.complete (Graph.chain d) i u).1.schedule =
      if i + 1 < d.agents.length ∧ (r.state.apply u).shouldStop = false then .turn (i + 1)
      else .spent (i + 1) := by
  rw [schedule_complete, ready_of_turn hturn, routed_of_turn hturn, Graph.successors_chain]
  split
  · simp [Schedule.launchAll, Schedule.launch, Schedule.turn, Schedule.spent,
      List.range_succ (n := i + 1)]
  · rfl

end Run

/-! ### Histories of a chain -/

/-- The agent after all that have completed is at work. -/
structure History.AtWork (count : Nat) (h : History) : Prop where
  schedule : h.run.schedule = .turn h.merges.length
  lt : h.merges.length < count
  going : h.merges ≠ [] → h.run.state.shouldStop = false

/-- No agent is at work or will be again, as all have completed or the run had to stop. -/
structure History.Over (count : Nat) (h : History) : Prop where
  schedule : h.run.schedule = .spent h.merges.length
  pos : 0 < h.merges.length
  reason : h.merges.length = count ∨ h.run.state.shouldStop = true

/-- When the agent at work completes, the next one is at work or none will be again. -/
theorem History.AtWork.complete {d : Design} {h : History} (hwork : h.AtWork d.agents.length)
    (u : Update) :
    (h.complete (Graph.chain d) h.merges.length u).AtWork d.agents.length ∨
      (h.complete (Graph.chain d) h.merges.length u).Over d.agents.length := by
  have hschedule := Run.schedule_complete_turn (d := d) (u := u) hwork.schedule
  rw [← run_complete] at hschedule
  by_cases hnext : h.merges.length + 1 < d.agents.length ∧
      (h.run.state.apply u).shouldStop = false
  · rw [if_pos hnext, ← length_merges_complete] at hschedule
    refine Or.inl ⟨hschedule, ?_, fun _ => hnext.2⟩
    rw [length_merges_complete]
    exact hnext.1
  · rw [if_neg hnext, ← length_merges_complete] at hschedule
    refine Or.inr ⟨hschedule, ?_, ?_⟩
    · rw [length_merges_complete]
      omega
    · rw [length_merges_complete, state_complete]
      have hlt := hwork.lt
      by_cases hstop : (h.run.state.apply u).shouldStop = true
      · exact Or.inr hstop
      · rw [Bool.not_eq_true] at hstop
        -- The run goes on, so there is no agent left.
        have hlast : ¬ h.merges.length + 1 < d.agents.length := fun h => hnext ⟨h, hstop⟩
        exact Or.inl (by omega)

/-- What holds of every history of agents in turn. -/
structure History.InTurn (limits : RunLimits) (count : Nat) (s : RunState) (h : History) :
    Prop where
  /-- No two agents run at once. -/
  alone : h.run.schedule.running.length ≤ 1
  /-- The agents are launched in declaration order, and complete in it. -/
  launched : h.launches.map Launch.node = List.range h.launches.length
  merged : h.merges.map Merge.node = List.range h.merges.length
  /-- The first agent works on the state in which the run begins, every other one on the state that
  the update of the one before it has been merged into. -/
  snapshot : ∀ l ∈ h.launches, l.node = 0 ∧ l.snapshot = s ∨
    ∃ m ∈ h.merges, l.node = m.node + 1 ∧ l.snapshot = m.state
  /-- No agent is launched when the run has to halt. -/
  going : ∀ k, 1 ≤ k → k < h.launches.length →
    ¬ limits.HaltsAfter count h.run.state.agentResults k

namespace Execution

variable {d : Design} {hands : Nat → RunState → Update → Prop} {router : Router} {backoffMs : Nat}
  {s : RunState} {h : History}

section

variable (hne : d.agents ≠ [])
include hne

/-- No other schedules come up. -/
theorem atWork_or_over (hrun : Execution (Graph.chain d) hands s h) :
    h.AtWork d.agents.length ∨ h.Over d.agents.length := by
  induction hrun with
  | begin => exact Or.inl ⟨rfl, List.length_pos_iff.mpr hne, fun h => absurd rfl h⟩
  | @complete h l u _ _ hrunning _ ih =>
    rcases ih with hwork | hover
    · rw [hwork.schedule] at hrunning
      have hnode : l.node = h.merges.length := List.mem_singleton.mp hrunning
      rw [hnode]
      exact hwork.complete u
    · rw [hover.schedule] at hrunning
      exact absurd hrunning List.not_mem_nil

/-- Whoever is running is the agent after all that have completed. -/
theorem atWork_of_running (hrun : Execution (Graph.chain d) hands s h) {v : Nat}
    (hv : v ∈ h.run.schedule.running) : h.AtWork d.agents.length ∧ v = h.merges.length := by
  rcases hrun.atWork_or_over hne with hwork | hover
  · rw [hwork.schedule] at hv
    exact ⟨hwork, List.mem_singleton.mp hv⟩
  · rw [hover.schedule] at hv
    exact absurd hv List.not_mem_nil

theorem nodes_merges (hrun : Execution (Graph.chain d) hands s h) :
    h.merges.map Merge.node = List.range h.merges.length := by
  induction hrun with
  | begin => rfl
  | complete hrun _ hrunning _ ih =>
    obtain ⟨-, hnode⟩ := hrun.atWork_of_running hne hrunning
    rw [History.length_merges_complete, List.range_succ, History.merges_complete, List.map_append,
      ih, ← hnode]
    rfl

theorem nodes_launches_chain (hrun : Execution (Graph.chain d) hands s h) :
    h.launches.map Launch.node = List.range h.launches.length := by
  have hnodes := hrun.nodes_launches
  have hrange : ∃ count, h.run.schedule.launched = List.range count := by
    rcases hrun.atWork_or_over hne with hwork | hover
    · exact ⟨_, by rw [hwork.schedule]; rfl⟩
    · exact ⟨_, by rw [hover.schedule]; rfl⟩
  obtain ⟨count, hcount⟩ := hrange
  have hlength := congrArg List.length (hnodes.trans hcount)
  rw [List.length_map, List.length_range] at hlength
  rw [hnodes, hcount, hlength]

/-- Every agent but the first works on the state that its predecessor has left behind. -/
theorem snapshot_chain (hrun : Execution (Graph.chain d) hands s h)
    {l : Launch} (hl : l ∈ h.launches) : l.node = 0 ∧ l.snapshot = s ∨
      ∃ m ∈ h.merges, l.node = m.node + 1 ∧ l.snapshot = m.state := by
  induction hrun with
  | begin =>
    obtain ⟨v, hv, rfl⟩ := List.mem_map.mp hl
    exact Or.inl ⟨List.mem_singleton.mp hv, rfl⟩
  | @complete h k u hrun _ hrunning _ ih =>
    obtain ⟨hwork, hnode⟩ := hrun.atWork_of_running hne hrunning
    rcases History.mem_launches_complete.mp hl with hl | ⟨v, hv, rfl⟩
    · rcases ih hl with hfirst | ⟨m, hm, hlater⟩
      · exact Or.inl hfirst
      · exact Or.inr ⟨m, History.mem_merges_complete.mpr (Or.inl hm), hlater⟩
    · refine Or.inr ⟨_, History.mem_merges_complete.mpr (Or.inr rfl), ?_, rfl⟩
      rw [Run.ready_of_turn (hwork.schedule.trans (by rw [hnode])), Graph.successors_chain] at hv
      split at hv
      · exact List.mem_singleton.mp hv
      · exact absurd hv List.not_mem_nil

/-- Whoever is at work has started from the state as it is. -/
theorem snapshot_of_running (hrun : Execution (Graph.chain d) hands s h)
    {l : Launch} (hl : l ∈ h.launches) (hrunning : l.node ∈ h.run.schedule.running) :
    l.snapshot = h.run.state := by
  induction hrun with
  | begin =>
    obtain ⟨v, -, rfl⟩ := List.mem_map.mp hl
    rfl
  | @complete h k u hrun hlaunch hbefore hhands ih =>
    obtain ⟨hwork, hnode⟩ := hrun.atWork_of_running hne hbefore
    rcases History.mem_launches_complete.mp hl with hold | ⟨v, -, rfl⟩
    · -- Who was launched before is not at work any more.
      have hlt : l.node < h.merges.length + 1 := by
        have hlaunched := hrun.mem_launched_iff.mpr ⟨l, hold, rfl⟩
        rw [hwork.schedule] at hlaunched
        exact List.mem_range.mp hlaunched
      have hlater := ((hrun.complete hlaunch hbefore hhands).atWork_of_running hne hrunning).2
      rw [History.length_merges_complete] at hlater
      omega
    · rfl

/-- Whoever is at work may complete with what it hands back on the state as it is. -/
theorem complete_of_atWork (hrun : Execution (Graph.chain d) hands s h)
    {count : Nat} (hwork : h.AtWork count) {u : Update}
    (hhands : hands h.merges.length h.run.state u) :
    Execution (Graph.chain d) hands s (h.complete (Graph.chain d) h.merges.length u) := by
  have hlaunched : h.merges.length ∈ h.run.schedule.launched := by
    rw [hwork.schedule]
    exact List.self_mem_range_succ
  have hrunning : h.merges.length ∈ h.run.schedule.running := by
    rw [hwork.schedule]
    exact List.mem_singleton_self _
  obtain ⟨l, hl, hnode⟩ := hrun.mem_launched_iff.mp hlaunched
  rw [← hnode] at hrunning hhands ⊢
  rw [← hrun.snapshot_of_running hne hl hrunning] at hhands
  exact hrun.complete hl hrunning hhands

/-! ### Counting along a chain -/

/-- Agents in turn count one step each. -/
theorem currentStep_chain
    (hrun : Execution (Graph.chain d) ((Graph.chain d).Yields router backoffMs) s h) (hs : s.Fresh) :
    h.run.state.currentStep = h.merges.length := by
  induction hrun with
  | begin => exact hs.currentStep
  | complete hrun hlaunch hrunning hhands ih =>
    -- An agent in turn has seen every step that has been counted.
    rw [History.state_complete, RunState.currentStep_apply hhands.currentStep,
      hrun.snapshot_of_running hne hlaunch hrunning, ih, History.length_merges_complete]
    omega

/-- When agents in turn have to stop. -/
theorem shouldStop_chain
    (hrun : Execution (Graph.chain d) ((Graph.chain d).Yields router backoffMs) s h) (hs : s.Fresh) :
    h.run.state.shouldStop = true ↔
      s.maxSteps ≤ h.merges.length ∨ maxErrors ≤ h.run.state.failures := by
  have hgoing : ¬ h.run.state.status.isTerminal = true := by
    rw [hrun.status_eq, hs.going]
    exact Bool.false_ne_true
  rw [RunState.shouldStop_eq_true_iff, hrun.length_errors hs, hrun.currentStep_chain hne hs,
    hrun.maxSteps_state, or_iff_left hgoing, or_comm]

end

/-- By the time an agent is at work, the results are those of the agents before it. -/
theorem exists_before_of_lt (hd : d.compile = .ok (Graph.chain d))
    (hrun : Execution (Graph.chain d) ((Graph.chain d).Yields router backoffMs) s h) (hs : s.Fresh)
    {k : Nat} (hk : k < h.launches.length) :
    ∃ h', Execution (Graph.chain d) ((Graph.chain d).Yields router backoffMs) s h' ∧
      h'.AtWork d.agents.length ∧ h'.merges.length = k ∧
      h'.run.state.agentResults = h.run.state.agentResults.take k := by
  have hne := Design.agents_ne_nil hd
  rcases Nat.lt_or_ge k h.merges.length with hlt | hge
  · -- The agent has completed since, and the run may be taken apart there.
    have hsplit : h.merges = h.merges.take k ++ h.merges[k] :: h.merges.drop (k + 1) := by
      rw [List.getElem_cons_drop, List.take_append_drop]
    obtain ⟨h', hrun', hmerges, hadmits, hnext⟩ := hrun.exists_before hsplit
    have hlength : h'.merges.length = k := by
      rw [hmerges, List.length_take, Nat.min_eq_left hlt.le]
    obtain ⟨hwork, -⟩ := hrun'.atWork_of_running hne hadmits.running
    have hextends := hnext.state_extends.trans (RunState.extends_apply h'.run.state _)
    have htaken := List.prefix_iff_eq_take.mp hextends.agentResults
    rw [hrun'.length_agentResults hd hs, hlength] at htaken
    exact ⟨h', hrun', hwork, hlength, htaken⟩
  · have hlaunches : h.launches.length = h.run.schedule.launched.length := by
      rw [← hrun.nodes_launches, List.length_map]
    rcases hrun.atWork_or_over hne with hwork | hover
    · rw [hwork.schedule, Schedule.turn, List.length_range] at hlaunches
      obtain rfl : k = h.merges.length := by omega
      refine ⟨h, hrun, hwork, rfl, ?_⟩
      rw [← hrun.length_agentResults hd hs, List.take_length]
    · rw [hover.schedule, Schedule.spent, List.length_range] at hlaunches
      omega

variable {limits : RunLimits}

section

variable (hd : d.compile = .ok (Graph.chain d))
  (hrun : Execution (Graph.chain d) ((Graph.chain d).Yields router limits.backoffMs)
    (limits.initialState d) h)
include hd hrun

/-- No agent is launched when the run has to halt. -/
theorem not_haltsAfter {k : Nat} (hpos : 1 ≤ k) (hk : k < h.launches.length) :
    ¬ limits.HaltsAfter d.agents.length h.run.state.agentResults k := by
  have hne := Design.agents_ne_nil hd
  have hs := limits.fresh_initialState d
  obtain ⟨h', hrun', hwork, hlength, hresults⟩ := hrun.exists_before_of_lt hd hs hk
  have hgoing : ¬ h'.run.state.shouldStop = true := by
    rw [Bool.not_eq_true]
    refine hwork.going fun hnone => ?_
    rw [hnone, List.length_nil] at hlength
    omega
  rw [hrun'.shouldStop_chain hne hs, RunState.failures, hresults, hlength] at hgoing
  rintro (hlast | hhalts)
  · have := hwork.lt
    omega
  · exact hgoing hhalts

/-- When nothing is left to do, the run has to halt after the agents that have completed. -/
theorem haltsAfter_of_over (hover : h.Over d.agents.length) :
    limits.HaltsAfter d.agents.length h.run.state.agentResults h.merges.length := by
  have hne := Design.agents_ne_nil hd
  have hs := limits.fresh_initialState d
  have hresults := hrun.length_agentResults hd hs
  rcases hover.reason with hlast | hstop
  · exact Or.inl hlast
  · rw [hrun.shouldStop_chain hne hs, RunState.failures] at hstop
    rw [RunLimits.HaltsAfter, ← hresults, List.take_length, hresults]
    exact Or.inr hstop

/-- As many agents are launched, and complete, as the least number after which the run has to halt. -/
theorem isLeast_of_over (hover : h.Over d.agents.length) :
    h.merges.length = h.launches.length ∧
      IsLeast {k | 1 ≤ k ∧ limits.HaltsAfter d.agents.length h.run.state.agentResults k}
        h.launches.length := by
  have hlaunches := congrArg List.length hrun.nodes_launches
  rw [hover.schedule, Schedule.spent, List.length_map, List.length_range] at hlaunches
  rw [hlaunches]
  refine ⟨rfl, ⟨hover.pos, hrun.haltsAfter_of_over hd hover⟩, ?_⟩
  rintro k ⟨hpos, hhalts⟩
  by_contra hlt
  exact hrun.not_haltsAfter hd hpos (by omega) hhalts

/-- What holds at every moment of agents in turn. -/
theorem inTurn :
    h.InTurn limits d.agents.length (limits.initialState d) where
  alone := by
    rcases hrun.atWork_or_over (Design.agents_ne_nil hd) with hwork | hover
    · rw [hwork.schedule]
      exact Nat.le_refl 1
    · rw [hover.schedule]
      exact Nat.zero_le 1
  launched := hrun.nodes_launches_chain (Design.agents_ne_nil hd)
  merged := hrun.nodes_merges (Design.agents_ne_nil hd)
  snapshot _ hl := hrun.snapshot_chain (Design.agents_ne_nil hd) hl
  going _ hpos hk := hrun.not_haltsAfter hd hpos hk

end

/-! ### The loop of a run -/

/-- Nodes of a run may hand back what they may hand back as nodes of the graph. -/
theorem mono_of_lt {g : Graph} {hands' : Nat → RunState → Update → Prop} (hg : g.WellFormed)
    (himp : ∀ node < g.size, ∀ s', s'.design = s.design → ∀ u, hands node s' u → hands' node s' u)
    (hrun : Execution g hands s h) : Execution g hands' s h := by
  induction hrun with
  | begin => exact .begin
  | complete hrun hlaunch hrunning hhands ih =>
    have hlt := hrun.lt_size hg (Or.inl (hrun.mem_launched_iff.mpr ⟨_, hlaunch, rfl⟩))
    exact ih.complete hlaunch hrunning
      (himp _ hlt _ (hrun.design_snapshot hlaunch) _ hhands)

variable {outcome : Nat → RunState → Except Failure Update}
  {next : History → Nat × Except Failure Update}

theorem feeds_of_answers {g : Graph} (hnext : Answers g outcome s next) :
    Feeds g (Hands outcome) s next := by
  intro h hrun hne
  obtain ⟨l, hl, hnode, hrunning, houtcome⟩ := hnext h hrun hne
  exact ⟨l, hl, hnode, hrunning, fun u hu => houtcome.symm.trans hu⟩

/-- The loop of a run has ended when nothing runs. -/
theorem drive_of_over {g : Graph} {count left : Nat} (hover : h.Over count) :
    h.drive g next left = some (h, .ok ()) := by
  have hdrained : h.run.schedule.running.isEmpty = true := by
    rw [hover.schedule]
    rfl
  cases left with
  | zero => rw [History.drive, if_pos hdrained]
  | succ left => rw [History.drive, if_pos hdrained]

/-- The next to complete is the agent at work, with its outcome on the state as it is. -/
theorem next_of_atWork (hne : d.agents ≠ [])
    (hrun : Execution (Graph.chain d) (Hands outcome) s h)
    (hnext : Answers (Graph.chain d) outcome s next) {count : Nat} (hwork : h.AtWork count) :
    next h = (h.merges.length, outcome h.merges.length h.run.state) := by
  have hrunning : h.run.schedule.running = [h.merges.length] := by
    rw [hwork.schedule]
    rfl
  have hbusy : h.run.schedule.running ≠ [] := by
    rw [hrunning]
    exact List.cons_ne_nil _ _
  obtain ⟨l, hl, hnode, hl', houtcome⟩ := hnext h hrun hbusy
  rw [hrun.snapshot_of_running hne hl hl'] at houtcome
  rw [hrunning, List.mem_singleton] at hl'
  rw [hl'] at hnode houtcome
  exact Prod.ext hnode.symm houtcome

section

variable (hd : d.compile = .ok (Graph.chain d))
  (hyields : ∀ i < d.agents.length, ∀ s, s.design = d → ∀ u, outcome i s = .ok u →
    (Graph.chain d).Yields router limits.backoffMs i s u)
include hd hyields

theorem yields_of_outcome (hrun : Execution (Graph.chain d) (Hands outcome)
      (limits.initialState d) h) :
    Execution (Graph.chain d) ((Graph.chain d).Yields router limits.backoffMs)
      (limits.initialState d) h := by
  refine hrun.mono_of_lt (d.wellFormed_of_compile hd) fun i hi s' hdesign u hu => ?_
  rw [Graph.size_chain] at hi
  exact hyields i hi s' hdesign u hu

/-- **The loop of a run does what the plain loop does**, from the agent at work on. -/
theorem tour_of_drive (hnext : Answers (Graph.chain d) outcome (limits.initialState d) next)
    (hrun : Execution (Graph.chain d) (Hands outcome)
      (limits.initialState d) h) {left : Nat} (hwork : h.AtWork d.agents.length)
    (hleft : h.merges.length + left = d.agents.length) {h' : History} {ending : Except Failure Unit}
    (hdrive : h.drive (Graph.chain d) next left = some (h', ending)) :
    h'.tour ending =
      (Tour.run limits.maxSteps outcome left h.merges.length h.run.state).after h.steps := by
  have hne := Design.agents_ne_nil hd
  -- Induction on the agents that are left: the next one is at work whenever the loop goes on.
  induction left generalizing h with
  | zero =>
    have := hwork.lt
    omega
  | succ left ih =>
    have hbusy : ¬ h.run.schedule.running.isEmpty = true := by
      rw [hwork.schedule]
      exact Bool.false_ne_true
    have hcompletion := hrun.next_of_atWork hne hnext hwork
    rw [History.drive, if_neg hbusy, hcompletion] at hdrive
    rw [Tour.run]
    cases houtcome : outcome h.merges.length h.run.state with
    | error failure =>
      rw [houtcome] at hdrive
      cases hdrive
      rw [Tour.after, List.append_nil]
      rfl
    | ok u =>
      rw [houtcome] at hdrive
      dsimp only at hdrive ⊢
      have hrun' := hrun.complete_of_atWork hne hwork houtcome
      have hstop : (h.run.state.apply u).shouldStop = true ↔
          limits.maxSteps ≤ h.merges.length + 1 ∨ maxErrors ≤ (h.run.state.apply u).failures := by
        have hchain := (yields_of_outcome hd hyields hrun').shouldStop_chain hne
          (limits.fresh_initialState d)
        rwa [History.length_merges_complete] at hchain
      rcases hwork.complete u with hwork' | hover
      · have hgoing : ¬ (h.run.state.apply u).shouldStop = true := by
          rw [Bool.not_eq_true]
          exact hwork'.going (List.append_ne_nil_of_right_ne_nil _ (List.cons_ne_nil _ _))
        have hleft' : (h.complete (Graph.chain d) h.merges.length u).merges.length + left =
            d.agents.length := by
          rw [History.length_merges_complete]
          omega
        rw [if_neg fun h => hgoing (hstop.mpr h), ih hrun' hwork' hleft' hdrive,
          History.length_merges_complete, Tour.after_after, History.steps_complete,
          History.state_complete]
      · rw [drive_of_over hover] at hdrive
        cases hdrive
        split
        · rw [Tour.after, ← History.steps_complete]
          rfl
        · next hgoing =>
          -- The run has not had to stop, so it was the last agent.
          have hlast : left = 0 := by
            rcases hover.reason with hlast | hstopped
            · rw [History.length_merges_complete] at hlast
              omega
            · exact absurd (hstop.mp hstopped) hgoing
          rw [hlast, Tour.run, Tour.after_after, ← History.steps_complete, Tour.after,
            List.append_nil]
          rfl

end

/-- A failure ends the loop while nodes are running, one of which has handed it back. -/
theorem next_of_drive_error {g : Graph} {left : Nat} {h' : History} {failure : Failure}
    (hdrive : h.drive g next left = some (h', .error failure)) :
    h'.run.schedule.running ≠ [] ∧ (next h').2 = .error failure := by
  induction left generalizing h with
  | zero =>
    rw [History.drive] at hdrive
    split at hdrive
    · cases hdrive
    · cases hdrive
  | succ left ih =>
    rw [History.drive] at hdrive
    split at hdrive
    · cases hdrive
    · next hbusy =>
      rw [List.isEmpty_iff] at hbusy
      cases hcompletion : next h with
      | mk node outcome =>
        rw [hcompletion] at hdrive
        cases outcome with
        | error f =>
          cases hdrive
          exact ⟨hbusy, by rw [hcompletion]⟩
        | ok u => exact ih hdrive

/-- A node whose outcome ends the run has not completed. -/
theorem running_of_failure {g : Graph} (hg : g.WellFormed) (hrun : Execution g (Hands outcome) s h)
    {l : Launch} (hl : l ∈ h.launches) {failure : Failure}
    (hfailure : outcome l.node l.snapshot = .error failure) : l.node ∈ h.run.schedule.running := by
  rcases hrun.running_or_merged (hrun.mem_launched_iff.mpr ⟨l, hl, rfl⟩) with hr | ⟨m, hm, hnode⟩
  · exact hr
  · obtain ⟨k, hk, hknode, hhands⟩ := hrun.launch_of_merge hm
    rw [hrun.launch_eq_of_node_eq hg hk hl (hknode.trans hnode), Hands, hfailure] at hhands
    cases hhands

/-- The results are those of the first few agents. -/
theorem names_chain (hd : d.compile = .ok (Graph.chain d))
    (hrun : Execution (Graph.chain d) ((Graph.chain d).Yields router backoffMs) s h) (hs : s.Fresh) :
    h.run.state.agentResults.map AgentResult.agentName =
      ((Graph.chain d).nodes.take h.merges.length).map Node.id := by
  have hsigned := hrun.forall₂_signed hd hs
  rw [hrun.nodes_merges (Design.agents_ne_nil hd)] at hsigned
  have hresults := hrun.length_agentResults hd hs
  have hle : h.merges.length ≤ (Graph.chain d).nodes.length := by
    have := hrun.completions_le (d.wellFormed_of_compile hd)
    rw [Graph.size] at this
    omega
  refine List.ext_getElem ?_ fun i hi hi' => ?_
  · rw [List.length_map, List.length_map, List.length_take, hresults, Nat.min_eq_left hle]
  · rw [List.length_map] at hi
    obtain ⟨n, spec, hn, -, hname, -⟩ := (List.forall₂_iff_get.mp hsigned).2 i
      (by rwa [List.length_range, ← hresults]) hi
    rw [List.get_eq_getElem, List.getElem_range] at hn
    rw [List.getElem_map, List.getElem_map, List.getElem_take,
      (List.getElem?_eq_some_iff.mp hn).2]
    exact hname

/-- **A run without edges is the plain loop**, whatever the agents hand back on the states that they
start from.  At every moment at most one of them is running, and each starts from the state that the
one before it has left behind.  If none of them hands back a failure that ends the run, then as many
are launched, and complete, as the least number after which the run has to halt.  Otherwise the run
ends with that failure and the results of the agents before. -/
theorem runs_in_turn {g : Graph} (hd : d.compile = .ok g) (hnone : d.explicitEdges = none)
    (hyields : ∀ i < g.size, ∀ s, s.design = d → ∀ u, outcome i s = .ok u →
      g.Yields router limits.backoffMs i s u)
    (hnext : Answers g outcome (limits.initialState d) next) :
    (∀ h, Execution g (Hands outcome) (limits.initialState d) h →
      h.InTurn limits g.size (limits.initialState d)) ∧
    ∃ h ending, (History.begin g (limits.initialState d)).drive g next g.size = some (h, ending) ∧
      Execution g (Hands outcome) (limits.initialState d) h ∧
      h.tour ending = Tour.run limits.maxSteps outcome g.size 0 (limits.initialState d) ∧
      h.run.state.currentStep = h.merges.length ∧
      h.run.state.agentResults.map AgentResult.agentName =
        (g.nodes.take h.merges.length).map Node.id ∧
      (ending = .ok () → h.merges.length = h.launches.length ∧
        IsLeast {k | 1 ≤ k ∧ limits.HaltsAfter g.size h.run.state.agentResults k}
          h.launches.length) ∧
      (∀ failure, ending = .error failure →
        ∃ l ∈ h.launches, outcome l.node l.snapshot = .error failure) ∧
      ∀ l ∈ h.launches, ∀ failure, outcome l.node l.snapshot = .error failure →
        ending = .error failure ∧ h.merges.length = l.node := by
  obtain ⟨hne, ⟨-, rfl⟩ | ⟨edges, -, hsome, -⟩⟩ := Design.eq_chain_or_joined hd
  swap
  · rw [hnone] at hsome
    cases hsome
  have hg := d.wellFormed_of_compile hd
  have hs := limits.fresh_initialState d
  rw [Graph.size_chain] at hyields ⊢
  have hyielding : ∀ h, Execution (Graph.chain d) (Hands outcome)
      (limits.initialState d) h → Execution (Graph.chain d)
        ((Graph.chain d).Yields router limits.backoffMs) (limits.initialState d) h :=
    fun h hrun => yields_of_outcome hd hyields hrun
  refine ⟨fun h hrun => (hyielding h hrun).inTurn hd, ?_⟩
  obtain ⟨h, ending, hdrive, hrun, hdrained, hfailed⟩ := exists_drive hg (feeds_of_answers hnext)
  rw [Graph.size_chain] at hdrive
  have hrun' := hyielding h hrun
  have hbegin : (History.begin (Graph.chain d) (limits.initialState d)).AtWork d.agents.length :=
    ⟨rfl, List.length_pos_iff.mpr hne, fun h => absurd rfl h⟩
  have htour := tour_of_drive hd hyields hnext .begin hbegin (Nat.zero_add _) hdrive
  refine ⟨h, ending, hdrive, hrun, htour, hrun'.currentStep_chain hne hs, hrun'.names_chain hd hs,
    ?_, ?_, ?_⟩
  · intro hok
    rcases hrun.atWork_or_over hne with hwork | hover
    · have hbusy := hdrained hok
      rw [hwork.schedule] at hbusy
      exact absurd hbusy (List.cons_ne_nil _ _)
    · exact hrun'.isLeast_of_over hd hover
  · rintro failure rfl
    obtain ⟨hbusy, herror⟩ := next_of_drive_error hdrive
    obtain ⟨l, hl, -, -, houtcome⟩ := hnext h hrun hbusy
    exact ⟨l, hl, houtcome.symm.trans herror⟩
  · intro l hl failure hfailure
    -- Such an agent has not completed, so it is the one at work.
    have hrunning := hrun.running_of_failure hg hl hfailure
    obtain ⟨hwork, hnode⟩ := hrun.atWork_of_running hne hrunning
    refine ⟨?_, hnode.symm⟩
    cases ending with
    | ok _ =>
      rw [hdrained rfl] at hrunning
      exact absurd hrunning List.not_mem_nil
    | error f =>
      have herror := hfailed f rfl
      rw [hrun.next_of_atWork hne hnext hwork, ← hnode,
        ← hrun.snapshot_of_running hne hl hrunning] at herror
      cases hfailure.symm.trans herror
      rfl

end Execution

/-! ### The relay -/

theorem injection_relay : relay.injection = none := by
  rw [← Option.isNone_iff_eq_none]
  decide +kernel

/-- Every agent of the relay gets the same answer. -/
def relayOutcome (i : Nat) (s : RunState) : Except Failure Update :=
  .ok (((Graph.chain relay).answer bareRouter 1000 brief i).2 s)

theorem yields_relayOutcome : ∀ i < (Graph.chain relay).size, ∀ s, s.design = relay →
    ∀ u, relayOutcome i s = .ok u → (Graph.chain relay).Yields bareRouter 1000 i s u := by
  rintro i hi s hdesign _ ⟨⟩
  have hpasses : s.design.injection = none := by rw [hdesign, injection_relay]
  exact Graph.yields_answer hi hpasses brief

/-- The agent of the relay that is running completes. -/
def relayNext (h : History) : Nat × Except Failure Update :=
  let node := h.run.schedule.running.headD 0
  (node, relayOutcome node h.run.state)

theorem answers_relayNext (s : RunState) :
    Answers (Graph.chain relay) relayOutcome s relayNext := by
  intro h hrun hbusy
  have hne : relay.agents ≠ [] := List.cons_ne_nil _ _
  obtain ⟨v, vs, hcons⟩ := List.exists_cons_of_ne_nil hbusy
  have hv : v ∈ h.run.schedule.running := by
    rw [hcons]
    exact List.mem_cons_self
  have hg := relay.wellFormed_of_compile compile_relay
  obtain ⟨l, hl, rfl⟩ := hrun.mem_launched_iff.mp ((hrun.sane hg).running_subset hv)
  refine ⟨l, hl, ?_, hv, ?_⟩
  · rw [relayNext, hcons]
    rfl
  · rw [relayNext, hcons, hrun.snapshot_of_running hne hl hv]
    rfl

/-- With two steps the last agent of the relay is not launched. -/
theorem Execution.runs_in_turn_relay : relay.compile = .ok (Graph.chain relay) ∧
    ∃ h, (History.begin (Graph.chain relay) (({ maxSteps := 2 } : RunLimits).initialState relay)).drive
        (Graph.chain relay) relayNext (Graph.chain relay).size = some (h, .ok ()) ∧
      h.launches.length = 2 ∧ h.run.state.currentStep = 2 ∧
      h.run.state.agentResults.map AgentResult.agentName = ["a", "b"] ∧
      IsLeast {k | 1 ≤ k ∧ ({ maxSteps := 2 } : RunLimits).HaltsAfter 3 h.run.state.agentResults k}
        h.launches.length := by
  obtain ⟨-, h, ending, hdrive, -, -, hstep, hnames, hok, hfailed, -⟩ :=
    Execution.runs_in_turn compile_relay rfl yields_relayOutcome
      (answers_relayNext (({ maxSteps := 2 } : RunLimits).initialState relay))
  have hcompleted : ((History.begin (Graph.chain relay)
      (({ maxSteps := 2 } : RunLimits).initialState relay)).drive (Graph.chain relay) relayNext
        (Graph.chain relay).size).map (fun result => result.1.merges.length) = some 2 := by
    decide +kernel
  rw [hdrive, Option.map_some, Option.some.injEq] at hcompleted
  have hending : ending = .ok () := by
    cases ending with
    | ok _ => rfl
    | error failure =>
      obtain ⟨l, -, houtcome⟩ := hfailed failure rfl
      cases houtcome
  obtain ⟨hlength, hleast⟩ := hok hending
  rw [hending] at hdrive
  rw [hcompleted] at hlength hstep hnames
  exact ⟨compile_relay, h, hdrive, hlength.symm, hstep, hnames, hleast⟩

end AgentPipeline
