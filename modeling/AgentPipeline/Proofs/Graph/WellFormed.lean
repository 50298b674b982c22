import AgentPipeline.Proofs.Graph.Cycle
import AgentPipeline.Proofs.Graph.Edges

/-!
# Well-formed graphs

A compiled graph keeps its edges three times over: as the predecessors of every node, as the table
of what every node reaches, and in the routings of the nodes.  The scheduler relies on all three
telling the same story, and on that story having no cycle.  Whatever is built from a list of
children and is accepted keeps to it, with declared edges and without.

## Main definitions

* `Graph.Joins`, `Graph.Leads` — the edges and the paths of a graph.
* `Graph.WellFormed` — the table, the routings and the entries agree with the edges, which are
  without a cycle.
* `Graph.joined` — what is built from edges.

## Main results

* `Graph.ofEdges_eq_ok_iff` — a design with edges has a graph exactly when they form no cycle.
* `Graph.chain_wellFormed`, `Graph.joined_wellFormed` — what is built is well-formed.
* `Graph.WellFormed.joins_of_mem_successors` — control passes along edges only.
-/

namespace AgentPipeline

namespace Graph

variable {g : Graph} {d : Design}

/-- An edge leads from the first node to the second. -/
def Joins (g : Graph) (u v : Nat) : Prop :=
  u ∈ g.predecessorsOf v

/-- A path of one or more edges leads from the first node to the second. -/
abbrev Leads (g : Graph) : Nat → Nat → Prop :=
  Relation.TransGen g.Joins

/-- The parts of a graph tell the same story. -/
structure WellFormed (g : Graph) : Prop where
  reaches_iff : ∀ u v, g.reaches u v = true ↔ g.Leads u v
  acyclic : ∀ v, ¬ g.Leads v v
  lt_size : ∀ u v, g.Joins u v → u < g.size ∧ v < g.size
  joins_of_target : ∀ u n v, g.nodes[u]? = some n → v ∈ n.routing.allTargets → g.Joins u v
  mem_entries_iff : ∀ v, v ∈ g.entries ↔ v < g.size ∧ g.predecessorsOf v = []
  nodup_entries : g.entries.Nodup

end Graph

/-! ### Routing -/

/-- Control passes to some of the nodes that it may pass to. -/
theorem Routing.targets_subset (s : RunState) (r : Routing) : r.targets s ⊆ r.allTargets := by
  intro v hv
  cases r with
  | terminal => exact hv
  | next target => exact hv
  | fanOut targets => exact hv
  | branch branches fallback =>
    unfold Routing.targets at hv
    unfold Routing.allTargets
    rw [List.mem_append]
    dsimp only at hv
    split at hv
    · exact Or.inr hv
    · obtain ⟨b, hb, rfl⟩ := List.mem_map.mp hv
      exact Or.inl (List.mem_map_of_mem (List.mem_of_mem_filter hb))

theorem mem_conditionalBranches {edges : List Edge} {b : Condition × Nat}
    (h : b ∈ conditionalBranches edges) : ∃ e ∈ edges, e.target = b.2 := by
  obtain ⟨e, he, heb⟩ := List.mem_filterMap.mp h
  obtain ⟨c, -, rfl⟩ := Option.map_eq_some_iff.mp heb
  exact ⟨e, he, rfl⟩

theorem mem_distinct {nodes : List Nat} {x : Nat} : x ∈ distinct nodes ↔ x ∈ nodes := by
  rw [distinct, Paths.mem_foldl_addNew]
  simp

theorem mem_unconditionalTargets {edges : List Edge} {v : Nat}
    (h : v ∈ unconditionalTargets edges) : ∃ e ∈ edges, e.target = v := by
  obtain ⟨e, he, rfl⟩ := List.mem_map.mp (mem_distinct.mp h)
  exact ⟨e, List.mem_of_mem_filter he, rfl⟩

/-- A routing leads along the edges that it is read off. -/
theorem Routing.mem_allTargets_ofEdges {edges : List Edge} {v : Nat}
    (h : v ∈ (Routing.ofEdges edges).allTargets) : ∃ e ∈ edges, e.target = v := by
  unfold Routing.ofEdges at h
  split at h
  · exact absurd h List.not_mem_nil
  · next target _ htarget =>
    refine mem_unconditionalTargets ?_
    rw [htarget]
    exact h
  · exact mem_unconditionalTargets h
  · rcases List.mem_append.mp h with h | h
    · obtain ⟨b, hb, rfl⟩ := List.mem_map.mp h
      exact mem_conditionalBranches hb
    · exact mem_unconditionalTargets
        (List.mem_of_getLast? (Option.mem_toList.mp h))

namespace Graph

variable {g : Graph} {d : Design}

theorem exists_node {v : Nat} (h : v < g.size) : ∃ n, g.nodes[v]? = some n :=
  ⟨_, List.getElem?_eq_getElem h⟩

/-- Where control passes from a node is up to its routing. -/
theorem exists_node_of_mem_successors {u v : Nat} {s : RunState} (h : v ∈ g.successors u s) :
    ∃ n, g.nodes[u]? = some n ∧ v ∈ n.routing.targets s := by
  unfold successors at h
  split at h
  · exact absurd h List.not_mem_nil
  · split at h
    · next n hn => exact ⟨n, hn, h⟩
    · exact absurd h List.not_mem_nil

/-- Control passes along edges only. -/
theorem WellFormed.joins_of_mem_successors (hg : g.WellFormed) {u v : Nat} {s : RunState}
    (h : v ∈ g.successors u s) : g.Joins u v := by
  obtain ⟨n, hn, htarget⟩ := exists_node_of_mem_successors h
  exact hg.joins_of_target u n v hn (n.routing.targets_subset s htarget)

/-- Nothing leads to an entry. -/
theorem WellFormed.not_leads_entry (hg : g.WellFormed) {u v : Nat} (hv : v ∈ g.entries) :
    ¬ g.Leads u v := by
  intro huv
  obtain ⟨p, -, hpv⟩ := Relation.TransGen.tail'_iff.mp huv
  have hnone : g.predecessorsOf v = [] := ((hg.mem_entries_iff v).mp hv).2
  rw [Joins, hnone] at hpv
  exact List.not_mem_nil hpv

/-! ### Tables -/

/-- An entry of a table with one list for every node. -/
theorem mem_getD_map_range {f : Nat → List Nat} {count i x : Nat} :
    x ∈ ((List.range count).map f).getD i [] ↔ i < count ∧ x ∈ f i := by
  rw [List.getD_eq_getElem?_getD, List.getElem?_map]
  rcases Nat.lt_or_ge i count with hi | hi
  · rw [List.getElem?_range hi, Option.map_some, Option.getD_some]
    exact (and_iff_right hi).symm
  · rw [List.getElem?_eq_none (by simpa using hi), Option.map_none, Option.getD_none]
    exact iff_of_false List.not_mem_nil fun h => absurd h.1 (Nat.not_lt.mpr hi)

/-- A graph is well-formed when its parts agree with a list of children without a cycle. -/
theorem wellFormed_of_children {children : List (List Nat)} (hrange : Paths.InRange children)
    (hacyclic : Paths.Acyclic children) (hsize : children.length = g.size)
    (hreachable : g.reachable = reachableLists children)
    (hjoins : ∀ u v, g.Joins u v ↔ Paths.Child children u v)
    (htarget : ∀ u n v, g.nodes[u]? = some n → v ∈ n.routing.allTargets → g.Joins u v)
    (hentries : ∀ v, v ∈ g.entries ↔ v < g.size ∧ g.predecessorsOf v = [])
    (hnodup : g.entries.Nodup) : g.WellFormed := by
  have hjoins' : g.Joins = Paths.Child children := by
    funext u v
    exact propext (hjoins u v)
  have hleads : g.Leads = Relation.TransGen (Paths.Child children) := by
    rw [Leads, hjoins']
  refine ⟨?_, ?_, ?_, htarget, hentries, hnodup⟩
  · intro u v
    rw [reaches, hreachable, reachableLists, List.contains_iff_mem, mem_getD_map_range,
      Paths.mem_reachableFrom_iff hrange, hleads]
    exact and_iff_right_of_imp Paths.lt_length_of_transGen
  · intro v
    rw [hleads]
    exact hacyclic v
  · intro u v huv
    rw [hjoins] at huv
    rw [← hsize]
    exact ⟨huv.lt_length, hrange u v huv⟩

end Graph

/-! ### Nodes -/

theorem length_uniqueNamesFrom (taken seen names : List String) :
    (uniqueNamesFrom taken seen names).length = names.length := by
  induction names generalizing taken seen with
  | nil => rfl
  | cons name names ih =>
    unfold uniqueNamesFrom
    split
    · rw [List.length_cons, ih, List.length_cons]
    · rw [List.length_cons, ih, List.length_cons]

@[simp] theorem Design.length_nodes (d : Design) (routing : Nat → Routing) :
    (d.nodes routing).length = d.agents.length := by
  simp [Design.nodes, uniqueNames, length_uniqueNamesFrom]

theorem Design.routing_of_getElem? {d : Design} {routing : Nat → Routing} {i : Nat} {n : Node}
    (h : (d.nodes routing)[i]? = some n) : n.routing = routing i := by
  rw [Design.nodes, List.getElem?_mapIdx] at h
  obtain ⟨p, -, rfl⟩ := Option.map_eq_some_iff.mp h
  rfl

namespace Graph

variable {d : Design}

/-! ### Chains -/

/-- The children in a chain. -/
def chainChildren (count : Nat) : List (List Nat) :=
  (List.range count).map fun i => if i + 1 < count then [i + 1] else []

theorem child_chain {count u v : Nat} :
    Paths.Child (chainChildren count) u v ↔ u + 1 = v ∧ v < count := by
  rw [Paths.Child, Paths.childrenOf, chainChildren, mem_getD_map_range]
  split
  · rw [List.mem_singleton]
    omega
  · simp only [List.not_mem_nil, and_false, false_iff]
    omega

/-- Positions grow along every path of a chain. -/
theorem lt_of_transGen_child_chain {count u v : Nat}
    (h : Relation.TransGen (Paths.Child (chainChildren count)) u v) : u < v := by
  induction h with
  | single hchild =>
    have := (child_chain.mp hchild).1
    omega
  | tail _ hchild ih =>
    have := (child_chain.mp hchild).1
    omega

@[simp] theorem size_chain (d : Design) : (chain d).size = d.agents.length := by
  simp [chain, size]

theorem joins_chain {u v : Nat} : (chain d).Joins u v ↔ u + 1 = v ∧ v < d.agents.length := by
  rw [Joins, predecessorsOf, chain, mem_getD_map_range]
  split
  · rw [List.mem_singleton]
    omega
  · simp only [List.not_mem_nil, and_false, false_iff]
    omega

/-- **The graph of a design without edges is well-formed.** -/
theorem chain_wellFormed (h : d.agents ≠ []) : (chain d).WellFormed := by
  have hpos : 0 < d.agents.length := List.length_pos_iff.mpr h
  have hjoins : ∀ u v, (chain d).Joins u v ↔
      Paths.Child (chainChildren d.agents.length) u v := by
    intro u v
    exact joins_chain.trans child_chain.symm
  have hreachable : (chain d).reachable = reachableLists (chainChildren d.agents.length) := rfl
  refine wellFormed_of_children ?_ ?_ ?_ hreachable hjoins ?_ ?_ (List.nodup_singleton 0)
  · intro u v huv
    rw [chainChildren, List.length_map, List.length_range]
    exact (child_chain.mp huv).2
  · intro v hvv
    exact Nat.lt_irrefl v (lt_of_transGen_child_chain hvv)
  · rw [chainChildren, List.length_map, List.length_range, size_chain]
  · intro u n v hn hv
    rw [d.routing_of_getElem? hn, Routing.inChain] at hv
    rw [joins_chain]
    split at hv
    · have := List.mem_singleton.mp hv
      omega
    · exact absurd hv List.not_mem_nil
  · intro v
    rw [size_chain, List.eq_nil_iff_forall_not_mem]
    change v ∈ [0] ↔ v < d.agents.length ∧ ∀ u, ¬ (chain d).Joins u v
    simp only [joins_chain, List.mem_singleton]
    constructor
    · rintro rfl
      exact ⟨hpos, fun u hu => by omega⟩
    · rintro ⟨hv, hnone⟩
      by_contra hne
      exact hnone (v - 1) (by omega)

/-! ### Declared edges -/

/-- The children of a node are the targets of the edges out of it. -/
theorem child_childLists {count : Nat} {edges : List Edge} (hlt : ∀ e ∈ edges, e.source < count)
    {u v : Nat} :
    Paths.Child (childLists count edges) u v ↔ ∃ e ∈ edges, e.source = u ∧ e.target = v := by
  rw [Paths.Child, Paths.childrenOf, childLists, mem_getD_map_range, outgoing, List.mem_map]
  simp only [List.mem_filter, decide_eq_true_eq]
  constructor
  · rintro ⟨-, e, ⟨he, hu⟩, hv⟩
    exact ⟨e, he, hu, hv⟩
  · rintro ⟨e, he, rfl, hv⟩
    exact ⟨hlt e he, e, ⟨he, rfl⟩, hv⟩

theorem inRange_childLists {count : Nat} {edges : List Edge}
    (hlt : ∀ e ∈ edges, e.source < count ∧ e.target < count) :
    Paths.InRange (childLists count edges) := by
  intro u v huv
  obtain ⟨e, he, -, rfl⟩ := (child_childLists fun e he => (hlt e he).1).mp huv
  rw [childLists, List.length_map, List.length_range]
  exact (hlt e he).2

/-- The predecessors of a node are the sources of the edges into it. -/
theorem mem_predecessorLists {count : Nat} {edges : List Edge}
    (hlt : ∀ e ∈ edges, e.target < count) {u v : Nat} :
    u ∈ (predecessorLists count edges).getD v [] ↔
      ∃ e ∈ edges, e.source = u ∧ e.target = v := by
  rw [predecessorLists, mem_getD_map_range, mem_distinct, List.mem_map]
  simp only [List.mem_filter, decide_eq_true_eq]
  constructor
  · rintro ⟨-, e, ⟨he, hv⟩, hu⟩
    exact ⟨e, he, hu, hv⟩
  · rintro ⟨e, he, hu, rfl⟩
    exact ⟨hlt e he, e, ⟨he, rfl⟩, hu⟩

/-- The graph of a design with edges that form no cycle. -/
def joined (d : Design) (edges : List Edge) : Graph where
  nodes := d.nodes fun i => Routing.ofEdges (outgoing edges i)
  entries := (List.range d.agents.length).filter fun i =>
    ((predecessorLists d.agents.length edges).getD i []).isEmpty
  explicit := true
  predecessors := predecessorLists d.agents.length edges
  reachable := reachableLists (childLists d.agents.length edges)

@[simp] theorem size_joined (d : Design) (edges : List Edge) :
    (joined d edges).size = d.agents.length := by
  simp [joined, size]

theorem mem_entries_joined {edges : List Edge} {v : Nat} :
    v ∈ (joined d edges).entries ↔
      v < d.agents.length ∧ (joined d edges).predecessorsOf v = [] := by
  rw [joined, List.mem_filter, List.mem_range, List.isEmpty_iff]
  rfl

variable {edges : List Edge}

theorem joins_joined (hlt : ∀ e ∈ edges, e.source < d.agents.length ∧ e.target < d.agents.length)
    {u v : Nat} : (joined d edges).Joins u v ↔ ∃ e ∈ edges, e.source = u ∧ e.target = v :=
  mem_predecessorLists fun e he => (hlt e he).2

/-- Without a cycle some node is an entry. -/
theorem entries_joined_ne_nil (hne : d.agents ≠ [])
    (hlt : ∀ e ∈ edges, e.source < d.agents.length ∧ e.target < d.agents.length)
    (hacyclic : Paths.Acyclic (childLists d.agents.length edges)) :
    (joined d edges).entries ≠ [] := by
  have hrange : List.range d.agents.length ≠ [] := by
    rw [Ne, List.range_eq_nil, List.length_eq_zero_iff]
    exact hne
  obtain ⟨a, ha, hsource⟩ := Paths.exists_source hrange fun b _ => hacyclic b
  refine List.ne_nil_of_mem (mem_entries_joined.mpr ⟨List.mem_range.mp ha, ?_⟩)
  rw [List.eq_nil_iff_forall_not_mem]
  intro u hu
  obtain ⟨e, he, rfl, rfl⟩ := (joins_joined hlt).mp hu
  exact hsource e.source (List.mem_range.mpr (hlt e he).1)
    (.single ((child_childLists fun e he => (hlt e he).1).mpr ⟨e, he, rfl, rfl⟩))

/-- **A design with edges has a graph exactly when they form no cycle.** -/
theorem ofEdges_eq_ok_iff (hne : d.agents ≠ [])
    (hlt : ∀ e ∈ edges, e.source < d.agents.length ∧ e.target < d.agents.length) {g : Graph} :
    ofEdges d edges = .ok g ↔
      Paths.Acyclic (childLists d.agents.length edges) ∧ g = joined d edges := by
  rw [← Paths.findCycle_eq_none_iff (inRange_childLists hlt)]
  constructor
  · intro h
    unfold ofEdges at h
    dsimp only at h
    split at h
    · cases h
    · split at h
      · cases h
      · next hfind =>
        cases h
        exact ⟨hfind, rfl⟩
  · rintro ⟨hfind, rfl⟩
    have hentries : ¬ (joined d edges).entries.isEmpty := by
      rw [List.isEmpty_iff]
      exact entries_joined_ne_nil hne hlt
        ((Paths.findCycle_eq_none_iff (inRange_childLists hlt)).mp hfind)
    unfold ofEdges
    dsimp only
    rw [hfind]
    exact if_neg hentries

/-- **The graph of a design with edges is well-formed.** -/
theorem joined_wellFormed
    (hlt : ∀ e ∈ edges, e.source < d.agents.length ∧ e.target < d.agents.length)
    (hacyclic : Paths.Acyclic (childLists d.agents.length edges)) :
    (joined d edges).WellFormed := by
  have hsource : ∀ e ∈ edges, e.source < d.agents.length := by
    intro e he
    exact (hlt e he).1
  have hjoins : ∀ u v, (joined d edges).Joins u v ↔
      Paths.Child (childLists d.agents.length edges) u v := by
    intro u v
    exact (joins_joined hlt).trans (child_childLists hsource).symm
  refine wellFormed_of_children (inRange_childLists hlt) hacyclic ?_ rfl hjoins ?_ ?_
    (List.nodup_range.filter _)
  · rw [childLists, List.length_map, List.length_range, size_joined]
  · intro u n v hn hv
    rw [d.routing_of_getElem? hn] at hv
    obtain ⟨e, he, rfl⟩ := Routing.mem_allTargets_ofEdges hv
    rw [outgoing, List.mem_filter, decide_eq_true_eq] at he
    exact (joins_joined hlt).mpr ⟨e, he.1, he.2, rfl⟩
  · intro v
    rw [mem_entries_joined, size_joined]

end Graph

end AgentPipeline
