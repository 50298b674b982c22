import AgentPipeline.Proofs.Graph.Sequence

/-!
# Where control goes, read off the declared edges

Compilation trims and reads the conditions of the edges, puts positions for names, collects the
edges of every node, parts those with a condition from the others, drops repeated targets and keeps
the rest as a routing.  A run then asks the routing.  None of this loses an edge or moves it: what a
node passes control to can be said of the declared edges, without routings.

## Main definitions

* `EdgeSpec.isConditional`, `EdgeSpec.firesIn` — an edge has a condition, and that it is true.
* `Design.agentOf`, `Design.edgesFrom` — the agent of a name, the declared edges out of an agent.
* `Design.plainEdges`, `Design.plainTargets` — the edges out of an agent that have no condition.
* `Design.Directs` — the nodes to which the declared edges pass control.

## Main results

* `Routing.targets_ofEdges` — what a routing leads to, read off the edges that it is made of.
* `Design.eq_map_resolved` — edges are resolved one by one.
* `Design.successors_eq` — where control goes while the run does not stop.
* `Design.directs_successors` — **a graph passes control as the declared edges do.**
-/

namespace AgentPipeline

/-! ### Targets without repetitions -/

theorem eraseDups_concat_of_mem {nodes : List Nat} {a : Nat} (ha : a ∈ nodes) :
    (nodes ++ [a]).eraseDups = nodes.eraseDups := by
  rw [List.eraseDups_append]
  simp [List.removeAll, ha]

theorem eraseDups_concat_of_not_mem {nodes : List Nat} {a : Nat} (ha : a ∉ nodes) :
    (nodes ++ [a]).eraseDups = nodes.eraseDups ++ [a] := by
  rw [List.eraseDups_append]
  simp [List.removeAll, ha, List.eraseDups_cons]

/-- The targets of a list without repetitions are in the order of their first mention. -/
theorem distinct_eq_eraseDups (nodes : List Nat) : distinct nodes = nodes.eraseDups := by
  induction nodes using List.reverseRecOn with
  | nil => rfl
  | append_singleton nodes a ih =>
    have hlast : distinct (nodes ++ [a]) = Paths.addNew (distinct nodes) a := List.foldl_concat ..
    rw [hlast, Paths.addNew]
    split
    · next ha =>
      rw [List.contains_iff_mem, mem_distinct] at ha
      rw [ih, eraseDups_concat_of_mem ha]
    · next ha =>
      rw [List.contains_iff_mem, mem_distinct] at ha
      rw [ih, eraseDups_concat_of_not_mem ha]

/-! ### Routings -/

/-- The targets of the edges whose condition is true, as often as there are such edges. -/
def firedTargets (edges : List Edge) (s : RunState) : List Nat :=
  (edges.filter fun e => e.condition.any fun c => c.holds s).map Edge.target

theorem map_filter_conditionalBranches (edges : List Edge) (s : RunState) :
    ((conditionalBranches edges).filter fun b => b.1.holds s).map (·.2) = firedTargets edges s := by
  induction edges with
  | nil => rfl
  | cons e edges ih =>
    rw [firedTargets, conditionalBranches] at ih ⊢
    cases hcondition : e.condition with
    | none => simp [hcondition, ih]
    | some c =>
      cases hholds : c.holds s with
      | false => simp [hcondition, hholds, ih]
      | true => simp [hcondition, hholds, ih]

/-- What a routing leads to, read off the edges that it is made of. -/
theorem Routing.targets_ofEdges (edges : List Edge) (s : RunState) :
    (Routing.ofEdges edges).targets s =
      if conditionalBranches edges = [] then unconditionalTargets edges
      else if firedTargets edges s = [] then (unconditionalTargets edges).getLast?.toList
      else firedTargets edges s := by
  have hfired := map_filter_conditionalBranches edges s
  unfold Routing.ofEdges
  cases hbranches : conditionalBranches edges with
  | nil =>
    rw [if_pos rfl]
    rcases unconditionalTargets edges with _ | ⟨t, _ | ⟨t', ts⟩⟩
    · rfl
    · rfl
    · rfl
  | cons b branches =>
    rw [hbranches] at hfired
    rw [if_neg (List.cons_ne_nil b branches), ← hfired]
    show Routing.targets s (.branch (b :: branches) (unconditionalTargets edges).getLast?) = _
    rw [Routing.targets]
    split
    · next hnone => rw [if_pos hnone]
    · next hsome => rw [if_neg hsome]

/-! ### Conditions of declared edges -/

namespace EdgeSpec

/-- Whether an edge has a condition, that is a text that is more than blanks. -/
def isConditional (e : EdgeSpec) : Bool :=
  e.condition.any fun text => !(Text.trim text.toList).isEmpty

/-- The condition that the text of an edge spells. -/
def spelledCondition (e : EdgeSpec) : Option Condition :=
  e.condition.bind fun text => (Condition.parse (Text.trim text.toList)).toOption

/-- Whether the condition of an edge is true of a state. -/
def firesIn (e : EdgeSpec) (s : RunState) : Bool :=
  e.spelledCondition.any fun c => c.holds s

variable {e : EdgeSpec} {c : Option Condition}

/-- The condition that is read is the one that the text spells, and there is one exactly if the text
is more than blanks. -/
theorem spelledCondition_of_parsed (h : e.parsedCondition = .ok c) :
    e.spelledCondition = c ∧ e.isConditional = c.isSome := by
  unfold parsedCondition at h
  unfold spelledCondition isConditional
  cases hcondition : e.condition with
  | none =>
    rw [hcondition] at h
    cases h
    exact ⟨rfl, rfl⟩
  | some text =>
    rw [hcondition] at h
    rw [Option.bind_some, Option.any_some]
    dsimp only at h
    cases htrim : Text.trim text.toList with
    | nil =>
      -- Blanks spell no condition.
      rw [htrim] at h
      cases h
      exact ⟨rfl, rfl⟩
    | cons a rest =>
      rw [htrim] at h
      dsimp only at h
      cases hparse : Condition.parse (a :: rest) with
      | error defect =>
        rw [hparse] at h
        cases h
      | ok condition =>
        rw [hparse] at h
        cases h
        exact ⟨rfl, rfl⟩

/-- An edge whose text spells a condition has one. -/
theorem isConditional_of_spelledCondition {spelled : Condition}
    (h : e.spelledCondition = some spelled) : e.isConditional = true := by
  unfold spelledCondition at h
  unfold isConditional
  cases hcondition : e.condition with
  | none =>
    rw [hcondition] at h
    cases h
  | some text =>
    rw [hcondition, Option.bind_some] at h
    rw [Option.any_some]
    cases htrim : Text.trim text.toList with
    | nil =>
      rw [htrim] at h
      cases h
    | cons a rest => rfl

/-- An edge without a condition has none that is true. -/
theorem isConditional_of_firesIn {s : RunState} (h : e.firesIn s = true) :
    e.isConditional = true := by
  unfold firesIn at h
  cases hspelled : e.spelledCondition with
  | none =>
    rw [hspelled] at h
    cases h
  | some spelled => exact isConditional_of_spelledCondition hspelled

end EdgeSpec

/-! ### Declared edges -/

namespace Design

variable {d : Design} {g : Graph} {edges : List EdgeSpec} {u : Nat} {s : RunState}

/-- The agent that a name stands for: the first one that declares it. -/
def agentOf (d : Design) (name : String) : Nat :=
  (d.agents.map AgentSpec.name).idxOf name

/-- The edges out of an agent, in declaration order. -/
def edgesFrom (d : Design) (edges : List EdgeSpec) (u : Nat) : List EdgeSpec :=
  edges.filter fun e => d.agentOf e.source = u

/-- The edges out of an agent that have no condition. -/
def plainEdges (d : Design) (edges : List EdgeSpec) (u : Nat) : List EdgeSpec :=
  (d.edgesFrom edges u).filter fun e => !e.isConditional

/-- The targets of the edges out of an agent that have no condition, as often as they are named. -/
def plainTargets (d : Design) (edges : List EdgeSpec) (u : Nat) : List Nat :=
  (d.plainEdges edges u).map fun e => d.agentOf e.target

/-- The targets of the edges out of an agent whose condition is true. -/
def firingTargets (d : Design) (edges : List EdgeSpec) (u : Nat) (s : RunState) : List Nat :=
  ((d.edgesFrom edges u).filter fun e => e.firesIn s).map fun e => d.agentOf e.target

/-- The nodes to which the declared edges pass control when an agent has completed. -/
structure Directs (d : Design) (edges : List EdgeSpec) (u : Nat) (s : RunState)
    (targets : List Nat) : Prop where
  stopped : s.shouldStop = true → targets = []
  unlinked : d.edgesFrom edges u = [] → targets = []
  /-- Without conditions control goes to all targets, in the order in which they are first named. -/
  everywhere : s.shouldStop = false → (∀ e ∈ d.edgesFrom edges u, e.isConditional = false) →
    targets = ((d.edgesFrom edges u).map fun e => d.agentOf e.target).eraseDups
  /-- With conditions it goes along every edge whose condition is true, in declaration order. -/
  fired : s.shouldStop = false → d.firingTargets edges u s ≠ [] →
    targets = d.firingTargets edges u s
  /-- If none is true it goes along one edge without a condition, and nowhere if there is none. -/
  fallback : s.shouldStop = false → (∃ e ∈ d.edgesFrom edges u, e.isConditional = true) →
    d.firingTargets edges u s = [] →
      (∃ e ∈ d.plainEdges edges u, targets = [d.agentOf e.target]) ∨
        d.plainEdges edges u = [] ∧ targets = []

/-- A declared edge with positions for names and the condition that its text spells. -/
def resolved (d : Design) (e : EdgeSpec) : Edge :=
  ⟨d.agentOf e.source, d.agentOf e.target, e.spelledCondition⟩

theorem agentOf_eq {name : String} {i : Nat} (h : d.Declares name i) : d.agentOf name = i := by
  obtain ⟨a, ha, rfl⟩ := Option.map_eq_some_iff.mp h.1
  exact (declares_idxOf (List.mem_map_of_mem (List.mem_of_getElem? ha))).unique h

theorem resolved_eq {e : EdgeSpec} {r : Edge} (h : d.resolveEdge e = .ok r) : d.resolved e = r := by
  obtain ⟨hcondition, hsource, htarget⟩ := resolveEdge_eq_ok_iff.mp h
  rw [resolved, agentOf_eq hsource, agentOf_eq htarget,
    (EdgeSpec.spelledCondition_of_parsed hcondition).1]

variable {es : List Edge}

/-- Edges are resolved one by one. -/
theorem eq_map_resolved (h : edges.mapM d.resolveEdge = .ok es) : es = edges.map d.resolved := by
  have hforall := mapM_eq_ok_iff.mp h
  clear h
  induction hforall with
  | nil => rfl
  | cons hab _ ih => rw [List.map_cons, resolved_eq hab, ih]

/-- An edge that can be resolved has a condition exactly if its text spells one. -/
theorem isConditional_eq (h : edges.mapM d.resolveEdge = .ok es) {e : EdgeSpec} (he : e ∈ edges) :
    e.isConditional = e.spelledCondition.isSome := by
  obtain ⟨r, hr⟩ := exists_mapM_iff.mp ⟨es, h⟩ e he
  obtain ⟨hspelled, hconditional⟩ :=
    EdgeSpec.spelledCondition_of_parsed (resolveEdge_eq_ok_iff.mp hr).1
  rw [hconditional, hspelled]

/-! ### What becomes of the edges out of an agent -/

theorem outgoing_eq (h : edges.mapM d.resolveEdge = .ok es) (u : Nat) :
    outgoing es u = (d.edgesFrom edges u).map d.resolved := by
  rw [eq_map_resolved h, outgoing, List.filter_map]
  rfl

theorem firedTargets_outgoing (h : edges.mapM d.resolveEdge = .ok es) (u : Nat) (s : RunState) :
    firedTargets (outgoing es u) s = d.firingTargets edges u s := by
  rw [outgoing_eq h, firedTargets, List.filter_map, List.map_map]
  rfl

theorem conditionalBranches_outgoing_eq_nil_iff (h : edges.mapM d.resolveEdge = .ok es) (u : Nat) :
    conditionalBranches (outgoing es u) = [] ↔
      ∀ e ∈ d.edgesFrom edges u, e.isConditional = false := by
  rw [outgoing_eq h, conditionalBranches, List.filterMap_eq_nil_iff, List.forall_mem_map]
  refine forall₂_congr fun e he => ?_
  rw [isConditional_eq h (List.mem_of_mem_filter he), Option.map_eq_none_iff,
    Option.isSome_eq_false_iff, Option.isNone_iff_eq_none]
  rfl

theorem unconditionalTargets_outgoing (h : edges.mapM d.resolveEdge = .ok es) (u : Nat) :
    unconditionalTargets (outgoing es u) = (d.plainTargets edges u).eraseDups := by
  have hplain : ((outgoing es u).filter fun r => r.condition.isNone) =
      (d.plainEdges edges u).map d.resolved := by
    rw [outgoing_eq h, List.filter_map, plainEdges]
    refine congrArg (List.map d.resolved) (List.filter_congr fun e he => ?_)
    rw [isConditional_eq h (List.mem_of_mem_filter he), Option.not_isSome]
    rfl
  rw [unconditionalTargets, hplain, distinct_eq_eraseDups, List.map_map]
  rfl

/-! ### What becomes of a design -/

/-- No declared edge leads away from where there is no agent. -/
theorem edgesFrom_eq_nil (h : edges.mapM d.resolveEdge = .ok es) (hu : d.agents.length ≤ u) :
    d.edgesFrom edges u = [] := by
  refine List.filter_eq_nil_iff.mpr fun e he => ?_
  obtain ⟨r, hr⟩ := exists_mapM_iff.mp ⟨es, h⟩ e he
  obtain ⟨-, hsource, -⟩ := resolveEdge_eq_ok_iff.mp hr
  have hlt := hsource.lt_length
  rw [agentOf_eq hsource, decide_eq_true_eq]
  omega

/-- Where control goes while the run does not stop. -/
theorem successors_eq (hd : d.compile = .ok g) (hedges : d.explicitEdges = some edges) (u : Nat)
    (hgoes : s.shouldStop = false) :
    g.successors u s =
      if ∀ e ∈ d.edgesFrom edges u, e.isConditional = false then (d.plainTargets edges u).eraseDups
      else if d.firingTargets edges u s = [] then (d.plainTargets edges u).eraseDups.getLast?.toList
      else d.firingTargets edges u s := by
  obtain ⟨-, ⟨hnone, -⟩ | ⟨edges', es, hsome, hresolved, -, rfl⟩⟩ := eq_chain_or_joined hd
  · rw [hedges] at hnone
    cases hnone
  · rw [hedges] at hsome
    cases hsome
    rw [Graph.successors, hgoes, if_neg Bool.false_ne_true]
    cases hn : (Graph.joined d es).nodes[u]? with
    | none =>
      have hu : d.agents.length ≤ u := by
        rw [← Graph.size_joined d es]
        exact List.getElem?_eq_none_iff.mp hn
      have hnil := edgesFrom_eq_nil hresolved hu
      rw [if_pos fun e he => absurd he (hnil ▸ List.not_mem_nil), plainTargets, plainEdges, hnil]
      rfl
    | some n =>
      dsimp only
      rw [d.routing_of_getElem? hn, Routing.targets_ofEdges, firedTargets_outgoing hresolved,
        unconditionalTargets_outgoing hresolved]
      exact if_congr (conditionalBranches_outgoing_eq_nil_iff hresolved u) rfl rfl

/-- An agent with a condition that is true has an edge with a condition. -/
theorem exists_isConditional (h : d.firingTargets edges u s ≠ []) :
    ∃ e ∈ d.edgesFrom edges u, e.isConditional = true := by
  obtain ⟨v, hv⟩ := List.exists_mem_of_ne_nil _ h
  obtain ⟨e, hfired, -⟩ := List.mem_map.mp hv
  obtain ⟨he, hfires⟩ := List.mem_filter.mp hfired
  exact ⟨e, he, EdgeSpec.isConditional_of_firesIn hfires⟩

theorem not_forall_plain (h : ∃ e ∈ d.edgesFrom edges u, e.isConditional = true) :
    ¬ ∀ e ∈ d.edgesFrom edges u, e.isConditional = false := by
  obtain ⟨e, he, hconditional⟩ := h
  intro hplain
  rw [hplain e he] at hconditional
  cases hconditional

/-- **A graph passes control as the declared edges do.** -/
theorem directs_successors (hd : d.compile = .ok g) (hedges : d.explicitEdges = some edges)
    (u : Nat) (s : RunState) : d.Directs edges u s (g.successors u s) where
  stopped hstop := by rw [Graph.successors, if_pos hstop]
  unlinked hnil := by
    cases hstop : s.shouldStop with
    | true => rw [Graph.successors, if_pos hstop]
    | false =>
      rw [successors_eq hd hedges u hstop, plainTargets, plainEdges, hnil,
        if_pos fun e he => absurd he List.not_mem_nil]
      rfl
  everywhere hgoes hplain := by
    have hall : d.plainEdges edges u = d.edgesFrom edges u :=
      List.filter_eq_self.mpr fun e he => by rw [hplain e he, Bool.not_false]
    rw [successors_eq hd hedges u hgoes, if_pos hplain, plainTargets, hall]
  fired hgoes hfired := by
    rw [successors_eq hd hedges u hgoes, if_neg (not_forall_plain (exists_isConditional hfired)),
      if_neg hfired]
  fallback hgoes hconditional hnone := by
    rw [successors_eq hd hedges u hgoes, if_neg (not_forall_plain hconditional), if_pos hnone]
    cases hlast : (d.plainTargets edges u).eraseDups.getLast? with
    | none =>
      rw [List.getLast?_eq_none_iff, List.eq_nil_iff_forall_not_mem] at hlast
      refine Or.inr ⟨List.eq_nil_iff_forall_not_mem.mpr fun e he => ?_, rfl⟩
      exact hlast _ (List.mem_eraseDups.mpr (List.mem_map_of_mem he))
    | some v =>
      obtain ⟨e, he, rfl⟩ := List.mem_map.mp (List.mem_eraseDups.mp (List.mem_of_getLast? hlast))
      exact Or.inl ⟨e, he, rfl⟩

end Design

/-! ### A junction -/

/-- Two edges with a condition lead away from the first of two agents named `a`, and one whose
condition is blank; behind it a target is named twice. -/
def junctionEdges : List EdgeSpec :=
  [⟨"a", "b", some "current_step >= 0"⟩, ⟨"a", "c", some " "⟩, ⟨"a", "d", some "total_cost > 1"⟩,
    ⟨"b", "c", none⟩, ⟨"b", "d", none⟩, ⟨"b", "c", none⟩]

/-- The agents at the junction. -/
def junction : Design where
  name := "d"
  agents := ["a", "b", "a", "c", "d"].map fun name =>
    { name, role := "analyzer", model := "gpt-4o" }
  edges := some junctionEdges

/-- What the junction compiles to. -/
def junctionGraph : Graph :=
  Graph.joined junction
    [⟨0, 1, some ⟨"current_step", .ge, 0⟩⟩, ⟨0, 3, none⟩, ⟨0, 4, some ⟨"total_cost", .gt, 1⟩⟩,
      ⟨1, 3, none⟩, ⟨1, 4, none⟩, ⟨1, 3, none⟩]

/-- The graph of the junction passes control as its edges do: from the first agent along the edge
whose condition is true, from the second one to each of its two targets once. -/
theorem Design.directs_successors_junction : junction.compile = .ok junctionGraph ∧
    junction.explicitEdges = some junctionEdges ∧
    junctionGraph.successors 0 (RunState.initial junction 50 300) = [1] ∧
    junctionGraph.successors 1 (RunState.initial junction 50 300) = [3, 4] := by
  have hd : junction.compile = .ok junctionGraph := by decide +kernel
  have hedges : junction.explicitEdges = some junctionEdges := rfl
  have hgoes : (RunState.initial junction 50 300).shouldStop = false := rfl
  refine ⟨hd, hedges, ?_, ?_⟩
  · have hfired : junction.firingTargets junctionEdges 0 (RunState.initial junction 50 300) =
        [1] := by
      decide +kernel
    have hsome : junction.firingTargets junctionEdges 0 (RunState.initial junction 50 300) ≠
        [] := by
      rw [hfired]
      exact List.cons_ne_nil 1 []
    rw [(directs_successors hd hedges 0 _).fired hgoes hsome, hfired]
  · have hplain : ∀ e ∈ junction.edgesFrom junctionEdges 1, e.isConditional = false := by
      decide +kernel
    rw [(directs_successors hd hedges 1 _).everywhere hgoes hplain]
    decide +kernel

end AgentPipeline
