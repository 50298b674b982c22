import AgentPipeline.Proofs.Graph.Routing

/-!
# Agents in sequence

A design that declares no edges runs its agents one after another.  The same can be said with edges,
from every agent to the next: then the edges are resolved and searched for a cycle, and the tables of
the graph are read off them instead of being written down directly.  However the edges are ordered,
every node has one edge to the next node and no other, so every table comes out the same.

## Main definitions

* `Design.successive` — the names of every agent and the next.
* `InSequence` — edges between positions that lead from every position to the next, each once.

## Main results

* `Design.inSequence_of_perm` — edges from every agent to the next resolve to edges in sequence.
* `Graph.joined_eq_chain` — the tables read off edges in sequence are those of the chain.
* `Design.compile_in_sequence` — **a design compiles to the same graph without edges and with the
  edges from every agent to the next**, or is turned down for the same defect.
-/

namespace AgentPipeline

/-- The names of every agent and the next. -/
def Design.successive (d : Design) : List (String × String) :=
  let names := d.agents.map AgentSpec.name
  names.zip names.tail

/-- Edges without conditions from every position to the next, each once and in any order. -/
structure InSequence (count : Nat) (edges : List Edge) : Prop where
  nodup : edges.Nodup
  mem_iff : ∀ e, e ∈ edges ↔ ∃ i, i + 1 < count ∧ e = ⟨i, i + 1, none⟩

/-- Of distinct elements the only one with a property is found alone. -/
theorem filter_eq_singleton {α : Type} {l : List α} {p : α → Bool} {a : α} (hnodup : l.Nodup)
    (h : ∀ b, b ∈ l ∧ p b = true ↔ b = a) : l.filter p = [a] := by
  have hperm : (l.filter p).Perm [a] := by
    refine (List.perm_ext_iff_of_nodup (hnodup.filter p) (List.nodup_singleton a)).mpr fun b => ?_
    rw [List.mem_filter, h, List.mem_singleton]
  exact List.perm_singleton.mp hperm

/-! ### Resolving the edges -/

namespace Design

variable {d : Design}

/-- A declared name stands for the first position at which it is found. -/
theorem declares_idxOf {name : String} (h : name ∈ d.agents.map AgentSpec.name) :
    d.Declares name ((d.agents.map AgentSpec.name).idxOf name) := by
  refine ⟨?_, fun j hj hname => ?_⟩
  · rw [← List.getElem?_map]
    exact List.getElem?_idxOf h
  · rw [← List.getElem?_map] at hname
    obtain ⟨hlt, rfl⟩ := List.getElem?_eq_some_iff.mp hname
    have hne := List.not_of_lt_findIdx hj
    rw [beq_self_eq_true] at hne
    exact Bool.noConfusion hne

/-- The edge between the first positions of two names. -/
def place (d : Design) (ends : String × String) : Edge where
  source := (d.agents.map AgentSpec.name).idxOf ends.1
  target := (d.agents.map AgentSpec.name).idxOf ends.2
  condition := none

/-- Between distinct agents the names of every agent and the next are placed at every position and
the next. -/
theorem map_place_successive (hnames : (d.agents.map AgentSpec.name).Nodup) :
    d.successive.map d.place =
      (List.range (d.agents.length - 1)).map fun i => ⟨i, i + 1, none⟩ := by
  have hlength : d.successive.length = d.agents.length - 1 := by
    simp [successive]
  refine List.ext_getElem (by simp [hlength]) fun i hi _ => ?_
  rw [List.length_map] at hi
  have hlt : i + 1 < (d.agents.map AgentSpec.name).length := by
    rw [List.length_map]
    omega
  have hsuccessive : d.successive[i] =
      ((d.agents.map AgentSpec.name)[i], (d.agents.map AgentSpec.name)[i + 1]) := by
    simp [successive]
  rw [List.getElem_map, List.getElem_map, List.getElem_range, hsuccessive, place,
    hnames.idxOf_getElem, hnames.idxOf_getElem]

/-- **Edges from every agent to the next resolve to edges in sequence**, in whatever order they are
declared. -/
theorem inSequence_of_perm (hnames : (d.agents.map AgentSpec.name).Nodup) {edges : List EdgeSpec}
    (hperm : (edges.map fun e => (e.source, e.target)).Perm d.successive)
    (hblank : ∀ e ∈ edges, ∀ text, e.condition = some text → Text.trim text.toList = []) :
    ∃ resolved, edges.mapM d.resolveEdge = .ok resolved ∧
      InSequence d.agents.length resolved := by
  refine ⟨edges.map fun e => d.place (e.source, e.target), ?_, ?_⟩
  · rw [mapM_eq_ok_iff, List.forall₂_map_right_iff, List.forall₂_same]
    intro e he
    have hmem : (e.source, e.target) ∈ d.successive :=
      hperm.mem_iff.mp (List.mem_map.mpr ⟨e, he, rfl⟩)
    obtain ⟨hsource, htarget⟩ := List.of_mem_zip hmem
    exact resolveEdge_eq_ok_iff.mpr ⟨EdgeSpec.parsedCondition_of_blank (hblank e he),
      declares_idxOf hsource, declares_idxOf (List.mem_of_mem_tail htarget)⟩
  · -- The order is lost with the names, but not which positions are joined.
    have hplaced : (edges.map fun e => d.place (e.source, e.target)).Perm
        ((List.range (d.agents.length - 1)).map fun i => (⟨i, i + 1, none⟩ : Edge)) := by
      rw [← map_place_successive hnames]
      simpa only [List.map_map, Function.comp_def] using hperm.map d.place
    constructor
    · rw [hplaced.nodup_iff]
      refine List.nodup_range.map fun i j hij => ?_
      exact (Edge.mk.inj hij).1
    · intro e
      rw [hplaced.mem_iff, List.mem_map]
      constructor
      · rintro ⟨i, hi, rfl⟩
        rw [List.mem_range] at hi
        exact ⟨i, by omega, rfl⟩
      · rintro ⟨i, hi, rfl⟩
        exact ⟨i, List.mem_range.mpr (by omega), rfl⟩

end Design

/-! ### Reading off the tables -/

namespace InSequence

variable {count i : Nat} {edges : List Edge}

theorem ends_lt (h : InSequence count edges) {e : Edge} (he : e ∈ edges) :
    e.source < count ∧ e.target < count := by
  obtain ⟨i, hi, rfl⟩ := (h.mem_iff e).mp he
  exact ⟨by dsimp only; omega, hi⟩

/-- One edge leads out of every position but the last. -/
theorem outgoing_eq (h : InSequence count edges) :
    outgoing edges i = if i + 1 < count then [⟨i, i + 1, none⟩] else [] := by
  split
  · next hi =>
    refine filter_eq_singleton h.nodup fun e => ?_
    rw [h.mem_iff, decide_eq_true_eq]
    constructor
    · rintro ⟨⟨j, -, rfl⟩, rfl⟩
      rfl
    · rintro rfl
      exact ⟨⟨i, hi, rfl⟩, rfl⟩
  · next hi =>
    refine List.filter_eq_nil_iff.mpr fun e he => ?_
    obtain ⟨j, hj, rfl⟩ := (h.mem_iff e).mp he
    rw [decide_eq_true_eq]
    dsimp only
    omega

/-- One edge leads into every position but the first. -/
theorem incoming_eq (h : InSequence count edges) (hi : i < count) :
    (edges.filter fun e => e.target = i) = if 0 < i then [⟨i - 1, i, none⟩] else [] := by
  split
  · next hpos =>
    refine filter_eq_singleton h.nodup fun e => ?_
    rw [h.mem_iff, decide_eq_true_eq]
    constructor
    · rintro ⟨⟨j, -, rfl⟩, rfl⟩
      rfl
    · rintro rfl
      have hsucc : i - 1 + 1 = i := by omega
      exact ⟨⟨i - 1, by omega, by rw [hsucc]⟩, rfl⟩
  · next hzero =>
    refine List.filter_eq_nil_iff.mpr fun e he => ?_
    obtain ⟨j, -, rfl⟩ := (h.mem_iff e).mp he
    rw [decide_eq_true_eq]
    dsimp only
    omega

theorem routing_eq (h : InSequence count edges) :
    Routing.ofEdges (outgoing edges i) = Routing.inChain count i := by
  rw [h.outgoing_eq, Routing.inChain]
  by_cases hi : i + 1 < count
  · rw [if_pos hi, if_pos hi]
    rfl
  · rw [if_neg hi, if_neg hi]
    rfl

theorem childLists_eq (h : InSequence count edges) :
    childLists count edges = Graph.chainChildren count := by
  refine List.map_congr_left fun i _ => ?_
  rw [h.outgoing_eq]
  by_cases hi : i + 1 < count
  · rw [if_pos hi, if_pos hi]
    rfl
  · rw [if_neg hi, if_neg hi]
    rfl

theorem predecessorLists_eq (h : InSequence count edges) :
    predecessorLists count edges =
      (List.range count).map fun i => if 0 < i then [i - 1] else [] := by
  refine List.map_congr_left fun i hi => ?_
  rw [h.incoming_eq (List.mem_range.mp hi)]
  by_cases hpos : 0 < i
  · rw [if_pos hpos, if_pos hpos]
    rfl
  · rw [if_neg hpos, if_neg hpos]
    rfl

/-- Edges in sequence form no cycle, as those of a chain. -/
theorem acyclic (h : InSequence count edges) : Paths.Acyclic (childLists count edges) := by
  rw [h.childLists_eq]
  intro v hvv
  exact Nat.lt_irrefl v (Graph.lt_of_transGen_child_chain hvv)

end InSequence

/-- Only the first position of a chain has no predecessors. -/
theorem Graph.entries_of_chain {count : Nat} (hpos : 0 < count) :
    ((List.range count).filter fun i =>
      (((List.range count).map fun i => if 0 < i then [i - 1] else []).getD i []).isEmpty) = [0] := by
  refine filter_eq_singleton List.nodup_range fun i => ?_
  rw [List.mem_range, List.isEmpty_iff, List.eq_nil_iff_forall_not_mem]
  simp only [mem_getD_map_range]
  constructor
  · rintro ⟨hi, hnone⟩
    by_contra hne
    have hlt : 0 < i := Nat.pos_of_ne_zero hne
    refine hnone (i - 1) ⟨hi, ?_⟩
    rw [if_pos hlt]
    exact List.mem_singleton_self _
  · rintro rfl
    exact ⟨hpos, fun u hu => absurd hu.2 List.not_mem_nil⟩

/-- **The tables read off edges in sequence are those of the chain.** -/
theorem Graph.joined_eq_chain {d : Design} {edges : List Edge} (hne : d.agents ≠ [])
    (h : InSequence d.agents.length edges) :
    Graph.joined d edges = { Graph.chain d with explicit := true } := by
  have hrouting : (fun i => Routing.ofEdges (outgoing edges i)) =
      Routing.inChain d.agents.length := by
    funext i
    exact h.routing_eq
  unfold joined
  rw [hrouting, h.childLists_eq, h.predecessorLists_eq,
    entries_of_chain (List.length_pos_iff.mpr hne)]
  rfl

/-! ### Compiling -/

/-- **A design compiles to the same graph without edges and with the edges from every agent to the
next**, in whatever order they are declared, but for the flag that tells the two apart; or it is
turned down for the same defect. -/
theorem Design.compile_in_sequence {d : Design} {edges : List EdgeSpec}
    (hnone : d.explicitEdges = none) (hcount : 2 ≤ d.agents.length)
    (hnames : (d.agents.map AgentSpec.name).Nodup)
    (hperm : (edges.map fun e => (e.source, e.target)).Perm d.successive)
    (hplain : ({ d with edges := some edges } : Design).Unconditional) :
    (∃ defect, d.compile = .error defect ∧
      ({ d with edges := some edges } : Design).compile = .error defect) ∨
    ∃ g, d.compile = .ok g ∧ g.explicit = false ∧
      ({ d with edges := some edges } : Design).compile = .ok { g with explicit := true } := by
  cases hchecked : d.checkAgents with
  | error defect =>
    -- The agents are checked before the edges are looked at.
    refine Or.inl ⟨defect, ?_, ?_⟩
    · rw [compile, hchecked]
      rfl
    · have hchecked' : ({ d with edges := some edges } : Design).checkAgents = .error defect :=
        hchecked
      rw [compile, hchecked']
      rfl
  | ok _ =>
    have hne : d.agents ≠ [] := List.length_pos_iff.mp (by omega)
    have hedges : edges ≠ [] := by
      rintro rfl
      have hlength := hperm.length_eq
      simp [successive] at hlength
      omega
    obtain ⟨resolved, hresolved, hsequence⟩ :=
      inSequence_of_perm hnames hperm fun e he => hplain edges rfl e he
    refine Or.inr ⟨Graph.chain d, compile_eq_ok_iff.mpr ⟨hchecked, Or.inl ⟨hnone, rfl⟩⟩, rfl, ?_⟩
    refine compile_eq_ok_iff.mpr ⟨hchecked, Or.inr ⟨edges, resolved, ?_, hresolved, ?_⟩⟩
    · exact explicitEdges_eq_some_iff.mpr ⟨rfl, hedges⟩
    · refine (Graph.ofEdges_eq_ok_iff hne fun e he => hsequence.ends_lt he).mpr
        ⟨hsequence.acyclic, ?_⟩
      exact (Graph.joined_eq_chain hne hsequence).symm

/-- Three agents that hand on to one another. -/
def relay : Design where
  name := "relay"
  agents := ["a", "b", "c"].map fun name => { name, role := "analyzer" }

/-- The edges of the relay, the last one first; the condition of the other is blank. -/
def relayEdges : List EdgeSpec :=
  [⟨"b", "c", none⟩, ⟨"a", "b", some " "⟩]

theorem compile_relay : relay.compile = .ok (Graph.chain relay) := rfl

/-- The relay compiles to the same graph with its edges. -/
theorem Design.compile_in_sequence_relay : relay.compile = .ok (Graph.chain relay) ∧
    ({ relay with edges := some relayEdges } : Design).compile =
      .ok { Graph.chain relay with explicit := true } := by
  have hplain : ({ relay with edges := some relayEdges } : Design).Unconditional := by
    intro edges hedges e he text htext
    cases hedges
    simp only [relayEdges, List.mem_cons, List.not_mem_nil, or_false] at he
    rcases he with rfl | rfl
    · cases htext
    · cases htext
      decide
  have hperm : (relayEdges.map fun e => (e.source, e.target)).Perm relay.successive := by decide
  rcases Design.compile_in_sequence rfl (by decide) (by decide) hperm hplain with
    ⟨defect, herror, -⟩ | ⟨g, hg, -, hedges⟩
  · rw [compile_relay] at herror
    cases herror
  · rw [compile_relay] at hg
    cases hg
    exact ⟨compile_relay, hedges⟩

end AgentPipeline
