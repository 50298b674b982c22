import AgentPipeline.Proofs.Graph.Acceptance

/-!
# What decides where control goes

A routing asks its conditions and nothing else.  A condition compares one number, which is one of
the few that a state has itself or else one of the latest result.  Unless it reads the step or the
cost of the run so far, its answer is the same in all states of a run with the same latest result.

## Main definitions

* `Routing.conditions` — the conditions that a routing asks.
* `Design.Reads` — a condition of a design reads a field.
* `Design.Unconditional` — no edge of a design has a condition that is not blank.

## Main results

* `Condition.holds_congr` — what a condition depends on.
* `Routing.targets_congr` — what a routing depends on.
* `Design.reads_of_mem_conditions` — a graph asks the conditions of its design only.
* `Design.mem_targets_of_joins` — **without conditions control passes along every edge.**
-/

namespace AgentPipeline

/-! ### Conditions -/

/-- The numbers of a state other than its step and its cost never change in a run. -/
theorem RunState.numericField_congr {s s' : RunState} {field : String}
    (hstep : field ≠ "current_step") (hcost : field ≠ "total_cost")
    (hmax : s.maxSteps = s'.maxSteps) (htimeout : s.timeoutSeconds = s'.timeoutSeconds) :
    s.numericField field = s'.numericField field := by
  unfold numericField
  split
  · exact absurd rfl hstep
  · rw [hmax]
  · rw [htimeout]
  · exact absurd rfl hcost
  · rfl

/-- A condition that reads neither the step nor the cost depends on the latest result only. -/
theorem Condition.holds_congr {c : Condition} {s s' : RunState} (hstep : c.field ≠ "current_step")
    (hcost : c.field ≠ "total_cost") (hmax : s.maxSteps = s'.maxSteps)
    (htimeout : s.timeoutSeconds = s'.timeoutSeconds)
    (hlast : s.agentResults.getLast? = s'.agentResults.getLast?) : c.holds s = c.holds s' := by
  have hresolve : c.resolve s = c.resolve s' := by
    rw [resolve, resolve, RunState.numericField_congr hstep hcost hmax htimeout, hlast]
  rw [holds, holds, hresolve]

/-! ### Routings -/

namespace Routing

/-- The conditions that a routing asks. -/
def conditions : Routing → List Condition
  | branch branches _ => branches.map (·.1)
  | _ => []

/-- A routing leads to the same nodes in states in which its conditions have the same answers. -/
theorem targets_congr {s s' : RunState} {r : Routing}
    (h : ∀ c ∈ r.conditions, c.holds s = c.holds s') : r.targets s = r.targets s' := by
  cases r with
  | terminal => rfl
  | next target => rfl
  | fanOut targets => rfl
  | branch branches fallback =>
    have hfired : (branches.filter fun b => b.1.holds s) =
        branches.filter fun b => b.1.holds s' := by
      refine List.filter_congr fun b hb => ?_
      exact h b.1 (List.mem_map_of_mem hb)
    unfold targets
    dsimp only
    rw [hfired]

/-- The conditions of a routing are those of the edges that it is read off. -/
theorem exists_edge_of_mem_conditions {edges : List Edge} {c : Condition}
    (h : c ∈ (Routing.ofEdges edges).conditions) : ∃ e ∈ edges, e.condition = some c := by
  unfold Routing.ofEdges at h
  split at h
  · exact absurd h List.not_mem_nil
  · exact absurd h List.not_mem_nil
  · exact absurd h List.not_mem_nil
  · obtain ⟨b, hb, rfl⟩ := List.mem_map.mp h
    obtain ⟨e, he, heb⟩ := List.mem_filterMap.mp hb
    obtain ⟨c, hc, rfl⟩ := Option.map_eq_some_iff.mp heb
    exact ⟨e, he, hc⟩

/-- Without conditions control passes along every edge, however many lead to one node. -/
theorem mem_targets_ofEdges {edges : List Edge} (hnone : ∀ e ∈ edges, e.condition = none)
    {e : Edge} (he : e ∈ edges) (s : RunState) : e.target ∈ (Routing.ofEdges edges).targets s := by
  have hbranches : conditionalBranches edges = [] := by
    rw [conditionalBranches, List.filterMap_eq_nil_iff]
    intro e he
    rw [hnone e he, Option.map_none]
  have htarget : e.target ∈ unconditionalTargets edges := by
    refine mem_distinct.mpr (List.mem_map_of_mem (List.mem_filter.mpr ⟨he, ?_⟩))
    rw [hnone e he]
    rfl
  unfold Routing.ofEdges
  rw [hbranches]
  rcases htargets : unconditionalTargets edges with _ | ⟨t, _ | ⟨t', ts⟩⟩
  · rw [htargets] at htarget
    exact absurd htarget List.not_mem_nil
  · rw [htargets] at htarget
    exact htarget
  · rw [htargets] at htarget
    exact htarget

end Routing

/-! ### Designs -/

/-- A condition that is blank counts as none. -/
theorem EdgeSpec.parsedCondition_of_blank {e : EdgeSpec}
    (h : ∀ text, e.condition = some text → Text.trim text.toList = []) :
    e.parsedCondition = .ok none := by
  unfold parsedCondition
  cases hcondition : e.condition with
  | none => rfl
  | some text =>
    dsimp only
    rw [h text hcondition]

namespace Design

/-- A condition of an edge reads a field. -/
def Reads (d : Design) (field : String) : Prop :=
  ∃ edges, d.edges = some edges ∧
    ∃ e ∈ edges, ∃ c, e.parsedCondition = .ok (some c) ∧ c.field = field

/-- No edge has a condition that is not blank. -/
def Unconditional (d : Design) : Prop :=
  ∀ edges, d.edges = some edges →
    ∀ e ∈ edges, ∀ text, e.condition = some text → Text.trim text.toList = []

variable {d : Design} {g : Graph} {u : Nat} {n : Node}

/-- The condition of a resolved edge is read off a declared one. -/
theorem exists_parsedCondition {edges : List EdgeSpec} {resolved : List Edge}
    (h : edges.mapM d.resolveEdge = .ok resolved) {r : Edge} (hr : r ∈ resolved) :
    ∃ e ∈ edges, e.parsedCondition = .ok r.condition := by
  obtain ⟨e, he, her⟩ := (mem_iff_of_mapM_eq_ok h).mp hr
  exact ⟨e, he, (resolveEdge_eq_ok_iff.mp her).1⟩

theorem condition_eq_none (hd : d.Unconditional) {edges : List EdgeSpec}
    (hedges : d.edges = some edges) {resolved : List Edge}
    (h : edges.mapM d.resolveEdge = .ok resolved) {r : Edge} (hr : r ∈ resolved) :
    r.condition = none := by
  obtain ⟨e, he, hparsed⟩ := exists_parsedCondition h hr
  rw [EdgeSpec.parsedCondition_of_blank (hd edges hedges e he)] at hparsed
  exact (Except.ok.inj hparsed).symm

/-- A graph asks the conditions of its design only. -/
theorem reads_of_mem_conditions (h : d.compile = .ok g) (hn : g.nodes[u]? = some n)
    {c : Condition} (hc : c ∈ n.routing.conditions) : d.Reads c.field := by
  obtain ⟨-, ⟨-, rfl⟩ | ⟨edges, resolved, hsome, hresolved, -, rfl⟩⟩ := eq_chain_or_joined h
  · rw [d.routing_of_getElem? hn, Routing.inChain] at hc
    split at hc
    · exact absurd hc List.not_mem_nil
    · exact absurd hc List.not_mem_nil
  · rw [d.routing_of_getElem? hn] at hc
    obtain ⟨r, hr, hcondition⟩ := Routing.exists_edge_of_mem_conditions hc
    obtain ⟨e, he, hparsed⟩ := exists_parsedCondition hresolved (List.mem_of_mem_filter hr)
    rw [hcondition] at hparsed
    exact ⟨edges, (explicitEdges_eq_some_iff.mp hsome).1, e, he, c, hparsed, rfl⟩

/-- **Without conditions control passes along every edge.** -/
theorem mem_targets_of_joins (h : d.compile = .ok g) (hd : d.Unconditional)
    (hn : g.nodes[u]? = some n) {v : Nat} (huv : g.Joins u v) (s : RunState) :
    v ∈ n.routing.targets s := by
  obtain ⟨-, ⟨-, rfl⟩ | ⟨edges, resolved, hsome, hresolved, -, rfl⟩⟩ := eq_chain_or_joined h
  · obtain ⟨rfl, hlt⟩ := Graph.joins_chain.mp huv
    rw [d.routing_of_getElem? hn, Routing.inChain, if_pos hlt]
    exact List.mem_singleton.mpr rfl
  · obtain ⟨r, hr, rfl, rfl⟩ := (Graph.joins_joined fun r => ends_lt_length hresolved).mp huv
    have hedges := (explicitEdges_eq_some_iff.mp hsome).1
    rw [d.routing_of_getElem? hn]
    refine Routing.mem_targets_ofEdges ?_ ?_ s
    · intro e he
      exact condition_eq_none hd hedges hresolved (List.mem_of_mem_filter he)
    · exact List.mem_filter.mpr ⟨hr, decide_eq_true rfl⟩

end Design

end AgentPipeline
