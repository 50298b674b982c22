import AgentPipeline.Design.Format
import AgentPipeline.Proofs.Graph.WellFormed

/-!
# Which designs compile

Compilation looks at the number of agents, at every agent, at the names and conditions of the edges
and at the shape that the edges give.  Of two designs that differ only in what it does not look at,
such as the conditions that are true, it accepts both or neither.

## Main definitions

* `Design.EdgesFit` — declared names, readable conditions and no cycle.
* `Design.Acceptable` — all that compilation asks of a design.

## Main results

* `Design.compile_eq_ok_iff`, `Design.eq_chain_or_joined` — when a design compiles and to what.
* `Design.wellFormed_of_compile` — **what a design compiles to is well-formed.**
* `Design.compile_accepts_acceptable` — **the designs that compile are the acceptable ones**, and
  all others are turned down with a failure to compile.
-/

namespace AgentPipeline.Design

variable {d : Design}

/-- The edges lead between declared names, their conditions can be read, and they form no cycle of
any length. -/
structure EdgesFit (d : Design) (edges : List EdgeSpec) : Prop where
  declared : ∀ e ∈ edges, (∃ a ∈ d.agents, a.name = e.source) ∧ ∃ a ∈ d.agents, a.name = e.target
  readable : ∀ e ∈ edges, e.ConditionReads
  acyclic : ∀ i, ¬ Relation.TransGen (d.Joins edges) i i

/-- All that compilation asks of a design. -/
structure Acceptable (d : Design) : Prop where
  count : 1 ≤ d.agents.length ∧ d.agents.length ≤ 20
  checked : ∀ a ∈ d.agents, a.check = .ok ()
  edges : d.edges = none ∨ d.edges = some [] ∨ ∃ edges, d.edges = some edges ∧ d.EdgesFit edges

/-! ### Checking -/

theorem checkAgents_eq_ok_iff : d.checkAgents = .ok () ↔
    (1 ≤ d.agents.length ∧ d.agents.length ≤ 20) ∧ ∀ a ∈ d.agents, a.check = .ok () := by
  rw [checkAgents]
  split
  · next hempty =>
    rw [List.isEmpty_iff] at hempty
    refine iff_of_false (fun h => nomatch h) fun h => ?_
    rw [hempty] at h
    exact absurd h.1.1 (by decide)
  · next hempty =>
    rw [List.isEmpty_iff, ← List.length_eq_zero_iff] at hempty
    rw [agentLimit]
    split
    · next hmany => exact iff_of_false (fun h => nomatch h) fun h => by omega
    · next hmany =>
      rw [forM_eq_ok_iff]
      exact (and_iff_right ⟨by omega, by omega⟩).symm

theorem explicitEdges_eq_some_iff {edges : List EdgeSpec} :
    d.explicitEdges = some edges ↔ d.edges = some edges ∧ edges ≠ [] := by
  unfold explicitEdges
  split
  · next e es hedges =>
    rw [hedges, Option.some.injEq]
    constructor
    · rintro rfl
      exact ⟨rfl, List.cons_ne_nil e es⟩
    · exact And.left
  · next hnone =>
    refine iff_of_false (fun h => nomatch h) fun h => ?_
    cases edges with
    | nil => exact h.2 rfl
    | cons e es => exact hnone e es h.1

theorem explicitEdges_eq_none_iff :
    d.explicitEdges = none ↔ d.edges = none ∨ d.edges = some [] := by
  unfold explicitEdges
  split
  · next e es hedges => simp [hedges]
  · next hnone =>
    refine iff_of_true rfl ?_
    cases hedges : d.edges with
    | none => exact Or.inl rfl
    | some edges =>
      cases edges with
      | nil => exact Or.inr rfl
      | cons e es => exact absurd hedges (hnone e es)

/-! ### Compiling -/

/-- When a design compiles and to what. -/
theorem compile_eq_ok_iff {g : Graph} : d.compile = .ok g ↔ d.checkAgents = .ok () ∧
    (d.explicitEdges = none ∧ g = Graph.chain d ∨
      ∃ edges resolved, d.explicitEdges = some edges ∧ edges.mapM d.resolveEdge = .ok resolved ∧
        Graph.ofEdges d resolved = .ok g) := by
  unfold compile
  rw [bind_eq_ok_iff]
  constructor
  · rintro ⟨_, hchecked, h⟩
    obtain ⟨edges, hedges, hg⟩ := bind_eq_ok_iff.mp h
    refine ⟨hchecked, ?_⟩
    unfold resolvedEdges at hedges
    split at hedges
    · next hnone =>
      cases hedges
      cases hg
      exact Or.inl ⟨hnone, rfl⟩
    · next declared hsome =>
      cases hresolved : declared.mapM d.resolveEdge with
      | error defect =>
        rw [hresolved] at hedges
        cases hedges
      | ok resolved =>
        rw [hresolved] at hedges
        cases hedges
        exact Or.inr ⟨declared, resolved, hsome, hresolved, hg⟩
  · rintro ⟨hchecked, ⟨hnone, rfl⟩ | ⟨declared, resolved, hsome, hresolved, hg⟩⟩
    · exact ⟨(), hchecked, bind_eq_ok_iff.mpr ⟨none, by rw [resolvedEdges, hnone], rfl⟩⟩
    · refine ⟨(), hchecked, bind_eq_ok_iff.mpr ⟨some resolved, ?_, hg⟩⟩
      rw [resolvedEdges, hsome]
      simp only [hresolved, Except.map]

/-- The edges between positions form a cycle when those between names do. -/
theorem acyclic_childLists_iff {edges : List EdgeSpec} {resolved : List Edge}
    (h : edges.mapM d.resolveEdge = .ok resolved) :
    Paths.Acyclic (childLists d.agents.length resolved) ↔
      ∀ i, ¬ Relation.TransGen (d.Joins edges) i i := by
  have heq : Paths.Child (childLists d.agents.length resolved) = d.Joins edges := by
    funext i j
    rw [Graph.child_childLists fun r hr => (ends_lt_length h hr).1, exists_edge_iff h]
  rw [Paths.Acyclic, heq]

/-- Resolved edges that give a graph fit, and those that fit give one. -/
theorem exists_ofEdges_iff {edges : List EdgeSpec} (hne : d.agents ≠ []) :
    (∃ g resolved, edges.mapM d.resolveEdge = .ok resolved ∧ Graph.ofEdges d resolved = .ok g) ↔
      d.EdgesFit edges := by
  constructor
  · rintro ⟨g, resolved, hresolved, hg⟩
    obtain ⟨hdeclared, hreadable⟩ := exists_resolved_iff.mp ⟨resolved, hresolved⟩
    have hacyclic := ((Graph.ofEdges_eq_ok_iff hne fun r => ends_lt_length hresolved).mp hg).1
    exact ⟨hdeclared, hreadable, (acyclic_childLists_iff hresolved).mp hacyclic⟩
  · rintro ⟨hdeclared, hreadable, hacyclic⟩
    obtain ⟨resolved, hresolved⟩ := exists_resolved_iff.mpr ⟨hdeclared, hreadable⟩
    refine ⟨_, resolved, hresolved,
      (Graph.ofEdges_eq_ok_iff hne fun r => ends_lt_length hresolved).mpr ⟨?_, rfl⟩⟩
    exact (acyclic_childLists_iff hresolved).mpr hacyclic

/-- What a design compiles to: a chain, or what is built from resolved edges without a cycle. -/
theorem eq_chain_or_joined {g : Graph} (h : d.compile = .ok g) : d.agents ≠ [] ∧
    (d.explicitEdges = none ∧ g = Graph.chain d ∨
      ∃ edges resolved, d.explicitEdges = some edges ∧ edges.mapM d.resolveEdge = .ok resolved ∧
        Paths.Acyclic (childLists d.agents.length resolved) ∧ g = Graph.joined d resolved) := by
  obtain ⟨hchecked, hgraph⟩ := compile_eq_ok_iff.mp h
  have hne : d.agents ≠ [] := by
    rw [← List.length_pos_iff]
    exact (checkAgents_eq_ok_iff.mp hchecked).1.1
  refine ⟨hne, ?_⟩
  rcases hgraph with hchain | ⟨edges, resolved, hsome, hresolved, hg⟩
  · exact Or.inl hchain
  · have hjoined := (Graph.ofEdges_eq_ok_iff hne fun r => ends_lt_length hresolved).mp hg
    exact Or.inr ⟨edges, resolved, hsome, hresolved, hjoined⟩

theorem agents_ne_nil {g : Graph} (h : d.compile = .ok g) : d.agents ≠ [] :=
  (eq_chain_or_joined h).1

/-- **What a design compiles to is well-formed.** -/
theorem wellFormed_of_compile {g : Graph} (h : d.compile = .ok g) : g.WellFormed := by
  obtain ⟨hne, ⟨-, rfl⟩ | ⟨edges, resolved, -, hresolved, hacyclic, rfl⟩⟩ := eq_chain_or_joined h
  · exact Graph.chain_wellFormed hne
  · exact Graph.joined_wellFormed (fun r => ends_lt_length hresolved) hacyclic

/-- Without edges a design compiles to a chain. -/
theorem eq_chain_of_compile {g : Graph} (h : d.compile = .ok g) (hnone : d.explicitEdges = none) :
    g = Graph.chain d := by
  obtain ⟨-, ⟨-, hchain⟩ | ⟨edges, -, hsome, -⟩⟩ := eq_chain_or_joined h
  · exact hchain
  · rw [hnone] at hsome
    cases hsome

/-- Whatever its edges, a design compiles to the nodes that are made of its agents. -/
theorem nodes_of_compile {g : Graph} (h : d.compile = .ok g) :
    ∃ routing, g.nodes = d.nodes routing := by
  obtain ⟨-, ⟨-, rfl⟩ | ⟨edges, resolved, -, -, -, rfl⟩⟩ := eq_chain_or_joined h
  · exact ⟨_, rfl⟩
  · exact ⟨_, rfl⟩

/-- There is a node for every agent. -/
theorem size_of_compile {g : Graph} (h : d.compile = .ok g) : g.size = d.agents.length := by
  obtain ⟨routing, hnodes⟩ := nodes_of_compile h
  rw [Graph.size, hnodes, length_nodes]

/-- The edges that are honoured fit when compilation asks it of them. -/
theorem edgesFit_of_explicitEdges (h : d.Acceptable) {edges : List EdgeSpec}
    (hexplicit : d.explicitEdges = some edges) : d.EdgesFit edges := by
  obtain ⟨hsome, hne⟩ := explicitEdges_eq_some_iff.mp hexplicit
  have hedges := h.edges
  rw [hsome] at hedges
  rcases hedges with hnone | hempty | ⟨declared, heq, hfit⟩
  · cases hnone
  · exact absurd (Option.some.inj hempty) hne
  · obtain rfl := Option.some.inj heq
    exact hfit

/-- A design compiles to something when it is acceptable. -/
theorem exists_compile_iff : (∃ g, d.compile = .ok g) ↔ d.Acceptable := by
  constructor
  · rintro ⟨g, hg⟩
    obtain ⟨hchecked, hgraph⟩ := compile_eq_ok_iff.mp hg
    obtain ⟨hcount, hagents⟩ := checkAgents_eq_ok_iff.mp hchecked
    have hne : d.agents ≠ [] := List.length_pos_iff.mp hcount.1
    refine ⟨hcount, hagents, ?_⟩
    rcases hgraph with ⟨hnone, -⟩ | ⟨edges, resolved, hsome, hresolved, hjoined⟩
    · rw [← or_assoc]
      exact Or.inl (explicitEdges_eq_none_iff.mp hnone)
    · have hfit := (exists_ofEdges_iff hne).mp ⟨g, resolved, hresolved, hjoined⟩
      exact Or.inr (Or.inr ⟨edges, (explicitEdges_eq_some_iff.mp hsome).1, hfit⟩)
  · intro h
    have hne : d.agents ≠ [] := List.length_pos_iff.mp h.count.1
    have hchecked := checkAgents_eq_ok_iff.mpr ⟨h.count, h.checked⟩
    cases hexplicit : d.explicitEdges with
    | none => exact ⟨_, compile_eq_ok_iff.mpr ⟨hchecked, Or.inl ⟨hexplicit, rfl⟩⟩⟩
    | some edges =>
      obtain ⟨g, resolved, hresolved, hjoined⟩ :=
        (exists_ofEdges_iff hne).mpr (edgesFit_of_explicitEdges h hexplicit)
      refine ⟨g, compile_eq_ok_iff.mpr ⟨hchecked, Or.inr ?_⟩⟩
      exact ⟨edges, resolved, hexplicit, hresolved, hjoined⟩

/-- **The designs that compile are the acceptable ones**, and all others are turned down with a
failure to compile. -/
theorem compile_accepts_acceptable (d : Design) :
    ((∃ g, d.compile = .ok g) ↔ d.Acceptable) ∧
      (¬ d.Acceptable ↔ ∃ defect, d.compile = .error defect ∧ defect.failure.kind = .compile) := by
  refine ⟨exists_compile_iff, ?_⟩
  rw [← exists_compile_iff]
  cases hcompile : d.compile with
  | error defect =>
    refine iff_of_true ?_ ⟨defect, rfl, rfl⟩
    rintro ⟨g, hg⟩
    cases hg
  | ok g =>
    refine iff_of_false ?_ ?_
    · intro hnone
      exact hnone ⟨g, rfl⟩
    · rintro ⟨defect, hdefect, -⟩
      cases hdefect

end AgentPipeline.Design
