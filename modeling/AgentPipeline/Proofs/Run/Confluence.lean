import AgentPipeline.Graph.Summary
import AgentPipeline.Proofs.Graph.Routing
import AgentPipeline.Proofs.Run.Counters

/-!
# The order of completions does not matter

Nodes that run side by side complete in any order, and a condition reads the latest result of all.
But where control passes from a node is settled at the moment that it completes, when the latest
result is its own.  So if no condition reads the step or the cost of the run so far, then control
passes from a node to the same others in every run in which it has the same result.  With few
failures and enough steps none of them is left out, and the nodes of a run are those that control
gets to when it passes that way from the entries: a set that no order has any part in.

## Main definitions

* `Graph.Assigned` — what a node may hand back when its result is given in advance.
* `Graph.Passes`, `Graph.Visits` — where control gets to with given results.
* `History.Agrees` — two runs have executed the same nodes.

## Main results

* `Execution.targets_of_merge` — a routing decision depends on the result of its own node only.
* `Execution.launched_iff_visits` — the nodes of a run are those that control gets to.
* `Execution.agree_in_any_order` — **which nodes a run executes is up to their results.**
-/

namespace AgentPipeline

open scoped List

namespace Graph

/-- What a node may hand back when its result is given in advance. -/
def Assigned (g : Graph) (router : Router) (backoffMs : Nat) (results : Nat → AgentResult)
    (node : Nat) (s : RunState) (u : Update) : Prop :=
  g.Yields router backoffMs node s u ∧ u.agentResults = [results node]

/-- Control passes from a node to another if the latest result is that of the node. -/
def Passes (g : Graph) (s : RunState) (results : Nat → AgentResult) (u v : Nat) : Prop :=
  ∃ n, g.nodes[u]? = some n ∧ v ∈ n.routing.targets { s with agentResults := [results u] }

/-- Control gets to a node from an entry. -/
def Visits (g : Graph) (s : RunState) (results : Nat → AgentResult) (v : Nat) : Prop :=
  ∃ e ∈ g.entries, Relation.ReflTransGen (g.Passes s results) e v

end Graph

/-- Two runs have executed the same nodes with the same results, in orders of their own. -/
structure History.Agrees (h k : History) : Prop where
  launched : h.run.schedule.launched.Perm k.run.schedule.launched
  completed : (h.merges.map Merge.node).Perm (k.merges.map Merge.node)
  results : h.run.state.agentResults.Perm k.run.state.agentResults

namespace Execution

variable {d : Design} {g : Graph} {hands : Nat → RunState → Update → Prop} {router : Router}
  {backoffMs : Nat} {results : Nat → AgentResult} {s : RunState} {h k : History}

/-! ### Results given in advance -/

theorem yields_of_assigned (hrun : Execution g (g.Assigned router backoffMs results) s h) :
    Execution g (g.Yields router backoffMs) s h :=
  hrun.mono fun _ _ _ hassigned => hassigned.1

/-- The results of a run are those of the nodes that have completed. -/
theorem agentResults_eq (hrun : Execution g (g.Assigned router backoffMs results) s h)
    (hs : s.Fresh) :
    h.run.state.agentResults = (h.merges.map Merge.node).map results := by
  induction hrun with
  | begin => exact hs.agentResults
  | complete _ _ _ hhands ih =>
    rw [History.state_complete, RunState.apply, ih, hhands.2, History.merges_complete,
      List.map_append, List.map_append]
    rfl

/-- No more nodes fail in a run than have a failure for a result. -/
theorem failures_le (hg : g.WellFormed)
    (hrun : Execution g (g.Assigned router backoffMs results) s h) (hs : s.Fresh) :
    h.run.state.failures ≤ (List.range g.size).countP fun v => (results v).status = .failed := by
  have hsub : h.merges.map Merge.node ⊆ List.range g.size := by
    intro v hv
    refine List.mem_range.mpr (hrun.lt_size hg (Or.inl ?_))
    exact (hrun.merged_perm hg).mem_iff.mp (List.mem_append_left _ hv)
  rw [RunState.failures, hrun.agentResults_eq hs, List.countP_map]
  -- Every node has completed once at most, so no failure is counted twice.
  exact (List.subperm_of_subset (hrun.nodup_merged hg) hsub).countP_le _

/-! ### Where control gets to -/

/-- A routing decision depends on the result of its own node only, whatever else has completed. -/
theorem targets_of_merge (hd : d.compile = .ok g) (hstep : ¬ d.Reads "current_step")
    (hcost : ¬ d.Reads "total_cost") (hrun : Execution g hands s h) {m : Merge}
    (hm : m ∈ h.merges) {r : AgentResult} (hresult : m.update.agentResults = [r]) {n : Node}
    (hn : g.nodes[m.node]? = some n) :
    n.routing.targets m.state = n.routing.targets { s with agentResults := [r] } := by
  obtain ⟨before, hstate⟩ := hrun.state_of_merge hm
  refine Routing.targets_congr fun c hc => ?_
  have hreads := Design.reads_of_mem_conditions hd hn hc
  have hnostep : c.field ≠ "current_step" := fun hfield => hstep (hfield ▸ hreads)
  have hnocost : c.field ≠ "total_cost" := fun hfield => hcost (hfield ▸ hreads)
  refine Condition.holds_congr hnostep hnocost ?_ ?_ ?_
  · rw [hstate]
    exact s.maxSteps_replay before
  · rw [hstate]
    exact s.timeoutSeconds_replay before
  · -- The node's own result is the last of all when control passes on.
    rw [hstate, RunState.apply, hresult]
    exact List.getLast?_concat

section

variable (hd : d.compile = .ok g) (hstep : ¬ d.Reads "current_step")
  (hcost : ¬ d.Reads "total_cost")
include hd hstep hcost

theorem passes_iff_of_merge (hrun : Execution g (g.Assigned router backoffMs results) s h)
    {m : Merge} (hm : m ∈ h.merges) {v : Nat} : g.Passes s results m.node v ↔
      ∃ n, g.nodes[m.node]? = some n ∧ v ∈ n.routing.targets m.state := by
  obtain ⟨l, -, hnode, -, hresult⟩ := hrun.launch_of_merge hm
  rw [hnode] at hresult
  refine exists_congr fun n => and_congr_right fun hn => ?_
  rw [hrun.targets_of_merge hd hstep hcost hm hresult hn]

/-- The nodes that have been launched when nothing runs are those that control gets to. -/
theorem launched_iff_visits (hrun : Execution g (g.Assigned router backoffMs results) s h)
    (hs : s.Fresh) (hsteps : g.size ≤ s.maxSteps)
    (hfailures : h.run.state.failures < maxErrors) (hdrained : h.run.schedule.running = [])
    {v : Nat} : v ∈ h.run.schedule.launched ↔ g.Visits s results v := by
  have hg := d.wellFormed_of_compile hd
  constructor
  · intro hv
    refine hrun.forall_of_passed ?_ ?_ (Or.inl hv)
    · intro e he
      exact ⟨e, he, .refl⟩
    · rintro m hm ⟨e, he, hem⟩ v hv
      have hpasses := (passes_iff_of_merge hd hstep hcost hrun hm).mpr
        (Graph.exists_node_of_mem_successors hv)
      exact ⟨e, he, hem.tail hpasses⟩
  · rintro ⟨e, he, hev⟩
    induction hev with
    | refl => exact hrun.entry_launched he
    | tail _ hpasses ih =>
      obtain ⟨m, hm, rfl⟩ := hrun.exists_merge_of_drained hg hdrained ih
      obtain ⟨n, hn, htarget⟩ := (passes_iff_of_merge hd hstep hcost hrun hm).mp hpasses
      exact hrun.yields_of_assigned.launched_of_target hg hs hsteps hfailures hdrained hm hn htarget

/-- Runs with the same results execute the same nodes. -/
theorem agrees_of_drained (hrun : Execution g (g.Assigned router backoffMs results) s h)
    (krun : Execution g (g.Assigned router backoffMs results) s k) (hs : s.Fresh)
    (hsteps : g.size ≤ s.maxSteps)
    (hfailed : (List.range g.size).countP (fun v => (results v).status = .failed) < maxErrors)
    (hdrained : h.run.schedule.running = []) (kdrained : k.run.schedule.running = []) :
    h.Agrees k := by
  have hg := d.wellFormed_of_compile hd
  have hlaunched : h.run.schedule.launched.Perm k.run.schedule.launched := by
    refine (List.perm_ext_iff_of_nodup (hrun.sane hg).nodup_launched
      (krun.sane hg).nodup_launched).mpr fun v => ?_
    have hleft := launched_iff_visits hd hstep hcost hrun hs hsteps
      ((hrun.failures_le hg hs).trans_lt hfailed) hdrained (v := v)
    have hright := launched_iff_visits hd hstep hcost krun hs hsteps
      ((krun.failures_le hg hs).trans_lt hfailed) kdrained (v := v)
    exact hleft.trans hright.symm
  have hcompleted :=
    calc
      h.merges.map Merge.node ~ h.run.schedule.launched := hrun.merged_perm_of_drained hg hdrained
      _ ~ k.run.schedule.launched := hlaunched
      _ ~ k.merges.map Merge.node := (krun.merged_perm_of_drained hg kdrained).symm
  refine ⟨hlaunched, hcompleted, ?_⟩
  rw [hrun.agentResults_eq hs, krun.agentResults_eq hs]
  exact hcompleted.map results

end

/-- **Which nodes a run executes is up to their results** and not to the order in which they
complete, if no condition reads the step or the cost of the run, at most two of the results are
failures and there is a step for every agent.  Any two runs of the loop with these results come to
execute the same nodes. -/
theorem agree_in_any_order {limits : RunLimits} (hd : d.compile = .ok g)
    (hstep : ¬ d.Reads "current_step") (hcost : ¬ d.Reads "total_cost")
    (hsteps : d.agents.length ≤ limits.maxSteps)
    (hfailed : (List.range d.agents.length).countP (fun v => (results v).status = .failed) ≤ 2) :
    (∀ h k, Execution g (g.Assigned router limits.backoffMs results) (limits.initialState d) h →
      Execution g (g.Assigned router limits.backoffMs results) (limits.initialState d) k →
        h.run.schedule.running = [] → k.run.schedule.running = [] → h.Agrees k) ∧
    ∀ first second,
      Feeds g (g.Assigned router limits.backoffMs results) (limits.initialState d) first →
      Feeds g (g.Assigned router limits.backoffMs results) (limits.initialState d) second →
      (∀ h, Execution g (g.Assigned router limits.backoffMs results) (limits.initialState d) h →
        (∃ u, (first h).2 = .ok u) ∧ ∃ u, (second h).2 = .ok u) →
        ∃ h k, (History.begin g (limits.initialState d)).drive g first g.size = some (h, .ok ()) ∧
          (History.begin g (limits.initialState d)).drive g second g.size = some (k, .ok ()) ∧
          h.Agrees k := by
  have hg := d.wellFormed_of_compile hd
  have hsize := Design.size_of_compile hd
  have hs := limits.fresh_initialState d
  have hagrees : ∀ h k,
      Execution g (g.Assigned router limits.backoffMs results) (limits.initialState d) h →
      Execution g (g.Assigned router limits.backoffMs results) (limits.initialState d) k →
        h.run.schedule.running = [] → k.run.schedule.running = [] → h.Agrees k := by
    intro h k hrun krun
    rw [← hsize] at hsteps hfailed
    exact agrees_of_drained hd hstep hcost hrun krun hs hsteps (Nat.lt_succ_of_le hfailed)
  refine ⟨hagrees, ?_⟩
  intro first second hfirst hsecond hok
  obtain ⟨h, hdrive, hrun, hdrained⟩ := exists_drive_ok hg hfirst fun h hrun => (hok h hrun).1
  obtain ⟨k, kdrive, krun, kdrained⟩ := exists_drive_ok hg hsecond fun h hrun => (hok h hrun).2
  exact ⟨h, k, hdrive, kdrive, hagrees h k hrun krun hdrained kdrained⟩

end Execution

/-! ### A fork -/

/-- Control passes from `a` to `b` and `c`, and from each of these on if it took many tokens. -/
def fork : Design where
  name := "fork"
  agents := ["a", "b", "c", "d", "e"].map fun name => { name, role := "analyzer" }
  edges := some [⟨"a", "b", none⟩, ⟨"a", "c", none⟩, ⟨"b", "d", some "tokens_used > 100"⟩,
    ⟨"c", "e", some "tokens_used > 100"⟩]

/-- What the fork compiles to. -/
def forkGraph : Graph :=
  Graph.joined fork [⟨0, 1, none⟩, ⟨0, 2, none⟩, ⟨1, 3, some ⟨"tokens_used", .gt, 100⟩⟩,
    ⟨2, 4, some ⟨"tokens_used", .gt, 100⟩⟩]

/-- The answers in the fork: `c` is the one that takes many tokens. -/
def replies (node : Nat) : Completion :=
  if node = 2 then { brief with completionTokens := 200 } else brief

/-- What the answers make the results of the fork. -/
def reports (node : Nat) : AgentResult where
  agentName := forkGraph.idOf node
  role := "analyzer"
  content := (replies node).content
  tokensUsed := (replies node).totalTokens
  costEstimate := (replies node).costUsd
  durationMs := 0
  status := .success
  error := none

theorem compile_fork : fork.compile = .ok forkGraph := by
  decide +kernel

theorem injection_fork : fork.injection = none := by
  rw [← Option.isNone_iff_eq_none]
  decide +kernel

theorem not_reads_fork {field : String} (hfield : field ≠ "tokens_used") : ¬ fork.Reads field := by
  rintro ⟨_, ⟨⟩, e, he, c, hparsed, rfl⟩
  have hall : ∀ e ∈ fork.edges.getD [], ∀ c ∈ e.parsedCondition.toOption.join,
      c.field = "tokens_used" := by decide +kernel
  refine hfield (hall e he c ?_)
  rw [hparsed]
  rfl

theorem agentResults_answer_fork {node : Nat} (hnode : node < forkGraph.size) (s : RunState) :
    ((forkGraph.answer bareRouter 1000 (replies node) node).2 s).agentResults = [reports node] := by
  obtain ⟨n, hn⟩ := Graph.exists_node hnode
  have hrole : n.spec.role = "analyzer" := by
    have hall : ∀ n ∈ forkGraph.nodes, n.spec.role = "analyzer" := by decide +kernel
    exact hall n (List.mem_of_getElem? hn)
  rw [Graph.answer, reports, Graph.idOf, hn, ← hrole]
  rfl

/-- A run of the fork in which the nodes complete in a given order. -/
theorem exists_run_of_fork (order : List Nat) {p : History → Bool}
    (horder : ∀ v ∈ order, v < forkGraph.size)
    (hplay : ((History.begin forkGraph (({} : RunLimits).initialState fork)).play forkGraph
      (order.map fun v => forkGraph.answer bareRouter 1000 (replies v) v)).any p = true) :
    ∃ h, Execution forkGraph (forkGraph.Assigned bareRouter 1000 reports)
      (({} : RunLimits).initialState fork) h ∧ p h = true := by
  refine Execution.exists_of_script ?_ hplay
  intro q hq s hdesign
  obtain ⟨v, hv, rfl⟩ := List.mem_map.mp hq
  have hpasses : s.design.injection = none := by
    rw [hdesign]
    exact injection_fork
  exact ⟨Graph.yields_answer (horder v hv) hpasses (replies v),
    agentResults_answer_fork (horder v hv) s⟩

/-- Whichever of `b` and `c` completes first, `e` runs and `d` does not. -/
theorem Execution.agree_in_any_order_fork : fork.compile = .ok forkGraph ∧
    ∃ h k, Execution forkGraph (forkGraph.Assigned bareRouter 1000 reports)
        (({} : RunLimits).initialState fork) h ∧
      Execution forkGraph (forkGraph.Assigned bareRouter 1000 reports)
        (({} : RunLimits).initialState fork) k ∧
      h.merges.map Merge.node = [0, 1, 2, 4] ∧ k.merges.map Merge.node = [0, 2, 1, 4] ∧
      h.Agrees k := by
  obtain ⟨h, hrun, hp⟩ := exists_run_of_fork [0, 1, 2, 4]
    (p := fun h => h.run.schedule.running.isEmpty && h.merges.map Merge.node == [0, 1, 2, 4])
    (by decide +kernel) (by decide +kernel)
  obtain ⟨k, krun, kp⟩ := exists_run_of_fork [0, 2, 1, 4]
    (p := fun k => k.run.schedule.running.isEmpty && k.merges.map Merge.node == [0, 2, 1, 4])
    (by decide +kernel) (by decide +kernel)
  rw [Bool.and_eq_true, List.isEmpty_iff, beq_iff_eq] at hp kp
  have hsteps : fork.agents.length ≤ ({} : RunLimits).maxSteps := by decide
  have hfailed : (List.range fork.agents.length).countP
      (fun v => (reports v).status = .failed) ≤ 2 := by decide
  have hagrees := (Execution.agree_in_any_order compile_fork (not_reads_fork (by decide))
    (not_reads_fork (by decide)) hsteps hfailed).1 h k hrun krun hp.1 kp.1
  exact ⟨compile_fork, h, k, hrun, krun, hp.2, kp.2, hagrees⟩

end AgentPipeline
