import AgentPipeline.Proofs.Graph.Acceptance

/-!
# Graphs represent designs

The edges of a design are those that it declares, each name standing for the first agent with that
name, or, when it declares none, those from every agent to the next.  A compiled graph keeps them in
four tables, each filled by a loop of its own.  All four tell of the same edges, every position in
them is that of an agent, and no agent is out of reach: whoever leads to an agent has nobody leading
to itself in turn, if one goes back far enough.

## Main definitions

* `Design.Links` — the edges of a design.
* `Graph.Represents` — the tables of a graph tell of the edges of a design.

## Main results

* `Graph.WellFormed.entry_or_reached` — every node is an entry or is reached from one.
* `Design.joins_iff_links` — the edges of a graph are those of its design.
* `Design.represents_of_compile` — **what a design compiles to represents it.**
-/

namespace AgentPipeline

/-- An edge of a design leads from one position to another: one of the edges that it declares or,
when it declares none, the one from an agent to the next. -/
def Design.Links (d : Design) (u v : Nat) : Prop :=
  match d.explicitEdges with
  | none => u + 1 = v ∧ v < d.agents.length
  | some edges => d.Joins edges u v

namespace Graph

/-- The tables of a graph tell of the edges of a design and of nothing else. -/
structure Represents (g : Graph) (d : Design) : Prop where
  size : g.size = d.agents.length
  /-- There is a list of predecessors for every agent. -/
  length_predecessors : g.predecessors.length = d.agents.length
  entries_lt : ∀ v ∈ g.entries, v < d.agents.length
  predecessors_lt : ∀ sources ∈ g.predecessors, ∀ u ∈ sources, u < d.agents.length
  targets_lt : ∀ n ∈ g.nodes, ∀ v ∈ n.routing.allTargets, v < d.agents.length
  nodup_predecessors : ∀ sources ∈ g.predecessors, sources.Nodup
  mem_predecessors_iff : ∀ u v, u ∈ g.predecessorsOf v ↔ d.Links u v
  mem_predecessors_of_target : ∀ u n v, g.nodes[u]? = some n → v ∈ n.routing.allTargets →
    u ∈ g.predecessorsOf v
  mem_entries_iff : ∀ v, v ∈ g.entries ↔ v < d.agents.length ∧ g.predecessorsOf v = []
  nodup_entries : g.entries.Nodup
  reaches_iff : ∀ u v, g.reaches u v = true ↔ Relation.TransGen d.Links u v
  not_reaches_self : ∀ v, g.reaches v v = false
  entry_or_reached : ∀ v < d.agents.length, v ∈ g.entries ∨ ∃ e ∈ g.entries, g.reaches e v = true

variable {g : Graph}

/-- Every node is an entry or is reached from one. -/
theorem WellFormed.entry_or_reached (hg : g.WellFormed) {v : Nat} (hv : v < g.size) :
    v ∈ g.entries ∨ ∃ e ∈ g.entries, g.Leads e v := by
  let back : List Nat := v :: (List.range g.size).filter fun u => g.reaches u v
  have hback : ∀ u, u ∈ back ↔ u = v ∨ u < g.size ∧ g.Leads u v := by
    intro u
    rw [List.mem_cons, List.mem_filter, List.mem_range, hg.reaches_iff]
  -- Among all that leads to the node there is one that none of it leads to.
  obtain ⟨a, ha, hsource⟩ := Paths.exists_source (List.cons_ne_nil v _ : back ≠ [])
    fun b _ => hg.acyclic b
  have hentry : a ∈ g.entries := by
    have hlt : a < g.size := by
      rcases (hback a).mp ha with rfl | ⟨hlt, -⟩
      · exact hv
      · exact hlt
    refine (hg.mem_entries_iff a).mpr ⟨hlt, List.eq_nil_iff_forall_not_mem.mpr ?_⟩
    intro p hp
    have hpa : g.Leads p a := .single hp
    have hpv : g.Leads p v := by
      rcases (hback a).mp ha with rfl | ⟨-, hav⟩
      · exact hpa
      · exact hpa.trans hav
    exact hsource p ((hback p).mpr (Or.inr ⟨(hg.lt_size p a hp).1, hpv⟩)) hpa
  rcases (hback a).mp ha with rfl | ⟨-, hav⟩
  · exact Or.inl hentry
  · exact Or.inr ⟨a, hentry, hav⟩

/-- The lists of a table of predecessors are those of its nodes. -/
theorem exists_predecessorsOf {sources : List Nat} (h : sources ∈ g.predecessors) :
    ∃ v, g.predecessorsOf v = sources := by
  obtain ⟨v, hv, rfl⟩ := List.mem_iff_getElem.mp h
  refine ⟨v, ?_⟩
  rw [predecessorsOf, List.getD_eq_getElem?_getD, List.getElem?_eq_getElem hv, Option.getD_some]

end Graph

namespace Design

variable {d : Design} {g : Graph}

theorem links_of_none (h : d.explicitEdges = none) {u v : Nat} :
    d.Links u v ↔ u + 1 = v ∧ v < d.agents.length := by
  rw [Links, h]

theorem links_of_some {edges : List EdgeSpec} (h : d.explicitEdges = some edges) {u v : Nat} :
    d.Links u v ↔ d.Joins edges u v := by
  rw [Links, h]

/-- The edges of a graph are those of its design. -/
theorem joins_iff_links (h : d.compile = .ok g) {u v : Nat} : g.Joins u v ↔ d.Links u v := by
  obtain ⟨-, ⟨hnone, rfl⟩ | ⟨edges, resolved, hsome, hresolved, -, rfl⟩⟩ := eq_chain_or_joined h
  · rw [links_of_none hnone, Graph.joins_chain]
  · rw [links_of_some hsome, Graph.joins_joined fun r => ends_lt_length hresolved,
      exists_edge_iff hresolved]

theorem length_predecessors_of_compile (h : d.compile = .ok g) :
    g.predecessors.length = d.agents.length := by
  obtain ⟨-, ⟨-, rfl⟩ | ⟨edges, resolved, -, -, -, rfl⟩⟩ := eq_chain_or_joined h
  · rw [Graph.chain, List.length_map, List.length_range]
  · rw [Graph.joined, predecessorLists, List.length_map, List.length_range]

/-- No predecessor is listed twice, however many edges lead from it. -/
theorem nodup_predecessors_of_compile (h : d.compile = .ok g) :
    ∀ sources ∈ g.predecessors, sources.Nodup := by
  intro sources hsources
  obtain ⟨-, ⟨-, rfl⟩ | ⟨edges, resolved, -, -, -, rfl⟩⟩ := eq_chain_or_joined h
  · obtain ⟨i, -, rfl⟩ := List.mem_map.mp hsources
    split
    · exact List.nodup_singleton _
    · exact List.nodup_nil
  · obtain ⟨i, -, rfl⟩ := List.mem_map.mp hsources
    exact Paths.nodup_foldl_addNew List.nodup_nil _

/-- **What a design compiles to represents it.** -/
theorem represents_of_compile (h : d.compile = .ok g) : g.Represents d := by
  have hg := d.wellFormed_of_compile h
  have hsize := size_of_compile h
  have hlinks : g.Joins = d.Links := by
    funext u v
    exact propext (joins_iff_links h)
  have hlt : ∀ u v, g.Joins u v → u < d.agents.length ∧ v < d.agents.length := by
    rw [← hsize]
    exact hg.lt_size
  refine
    { size := hsize
      length_predecessors := length_predecessors_of_compile h
      entries_lt := ?_
      predecessors_lt := ?_
      targets_lt := ?_
      nodup_predecessors := nodup_predecessors_of_compile h
      mem_predecessors_iff := fun u v => joins_iff_links h
      mem_predecessors_of_target := hg.joins_of_target
      mem_entries_iff := ?_
      nodup_entries := hg.nodup_entries
      reaches_iff := ?_
      not_reaches_self := ?_
      entry_or_reached := ?_ }
  · intro v hv
    rw [← hsize]
    exact ((hg.mem_entries_iff v).mp hv).1
  · intro sources hsources u hu
    obtain ⟨v, rfl⟩ := Graph.exists_predecessorsOf hsources
    exact (hlt u v hu).1
  · intro n hn v hv
    obtain ⟨u, hu⟩ := List.mem_iff_getElem?.mp hn
    exact (hlt u v (hg.joins_of_target u n v hu hv)).2
  · rw [← hsize]
    exact hg.mem_entries_iff
  · rw [← hlinks]
    exact hg.reaches_iff
  · intro v
    rw [← Bool.not_eq_true, hg.reaches_iff]
    exact hg.acyclic v
  · -- The table of reachability tells of paths, so that nobody is out of reach in it either.
    intro v hv
    rw [← hsize] at hv
    simp only [hg.reaches_iff]
    exact hg.entry_or_reached hv

end Design

/-! ### Names and edges that are declared twice -/

/-- Two agents share a name, and two edges lead to it: one always, one on a condition. -/
def namesakes : Design where
  name := "namesakes"
  agents := ["a", "b", "b"].map fun name => { name, role := "analyzer" }
  edges := some [⟨"a", "b", none⟩, ⟨"a", "b", some "tokens_used > 100"⟩]

/-- What the namesakes compile to: both edges lead to the first of them. -/
def namesakesGraph : Graph :=
  Graph.joined namesakes [⟨0, 1, none⟩, ⟨0, 1, some ⟨"tokens_used", .gt, 100⟩⟩]

/-- The second of the namesakes is an entry, and the first has one predecessor. -/
theorem Design.represents_namesakes : namesakes.compile = .ok namesakesGraph ∧
    namesakesGraph.Represents namesakes ∧ namesakesGraph.predecessors = [[], [0], []] ∧
    namesakesGraph.entries = [0, 2] := by
  have hcompile : namesakes.compile = .ok namesakesGraph := by decide +kernel
  exact ⟨hcompile, Design.represents_of_compile hcompile, by decide +kernel, by decide +kernel⟩

end AgentPipeline
