import AgentPipeline.Graph.Summary
import AgentPipeline.Proofs.Graph.Names
import AgentPipeline.Proofs.Graph.Representation
import AgentPipeline.Proofs.Graph.Routing
import AgentPipeline.Proofs.Run.Counters

/-!
# Unconditional designs run completely

Without conditions a node that has completed passes control along all its edges, unless the stop
condition holds, and with few failures and a step for every agent that is not before everybody has
been launched.  The entries are launched anyway and lead to all other nodes.  So nobody is missing
when a run has drained, and every node has handed back one result under its own name.

## Main definitions

* `History.Complete` — every agent has run once.

## Main results

* `Design.nodup_ids` — the names of nodes are distinct.
* `Execution.agentNames` — the results bear the names of the nodes that have completed.
* `Execution.complete_of_drained` — nobody is missing at the end of a run.
* `Execution.unconditional_runs_all` — **every agent of an unconditional design is executed once.**
-/

namespace AgentPipeline

/-! ### Names of nodes -/

/-- What is read off the nodes of a design comes from its agents and their names. -/
theorem Design.map_nodes {β : Type} (d : Design) (routing : Nat → Routing) (f : Node → β)
    (f' : AgentSpec × String → β)
    (hf : ∀ i a, f ⟨a.2, a.1, Role.ofSpec a.1, routing i⟩ = f' a) :
    (d.nodes routing).map f =
      (d.agents.zip (uniqueNames (d.agents.map AgentSpec.name))).map f' := by
  refine List.ext_getElem? fun i => ?_
  rw [Design.nodes, List.getElem?_map, List.getElem?_mapIdx, List.getElem?_map, Option.map_map]
  exact congrArg (Option.map · _) (funext (hf i))

theorem Design.length_uniqueNames (d : Design) :
    (uniqueNames (d.agents.map AgentSpec.name)).length = d.agents.length := by
  rw [uniqueNames, length_uniqueNamesFrom, List.length_map]

theorem Design.map_id_nodes (d : Design) (routing : Nat → Routing) :
    (d.nodes routing).map Node.id = uniqueNames (d.agents.map AgentSpec.name) := by
  rw [d.map_nodes routing Node.id Prod.snd fun _ _ => rfl]
  exact List.map_snd_zip d.length_uniqueNames.le

/-- The names of nodes are distinct. -/
theorem Design.nodup_ids {d : Design} {g : Graph} (h : d.compile = .ok g) :
    (g.nodes.map Node.id).Nodup := by
  obtain ⟨routing, hnodes⟩ := nodes_of_compile h
  rw [hnodes, d.map_id_nodes]
  exact nodup_uniqueNames _

theorem Graph.map_idOf_range (g : Graph) :
    (List.range g.size).map g.idOf = g.nodes.map Node.id := by
  refine List.ext_getElem? fun i => ?_
  rcases Nat.lt_or_ge i g.size with hi | hi
  · have hnode : g.nodes[i]? = some g.nodes[i] := List.getElem?_eq_getElem hi
    rw [List.getElem?_map, List.getElem?_range hi, List.getElem?_map, hnode]
    simp [Graph.idOf, hnode]
  · rw [List.getElem?_eq_none (by simpa using hi),
      List.getElem?_eq_none (by simpa [Graph.size] using hi)]

/-- Every agent has been launched once and has completed once, and there is one result under the
name of every node. -/
structure History.Complete (d : Design) (g : Graph) (h : History) : Prop where
  launched : h.run.schedule.launched.Perm (List.range d.agents.length)
  completed : (h.merges.map Merge.node).Perm (List.range d.agents.length)
  results : (h.run.state.agentResults.map AgentResult.agentName).Perm (g.nodes.map Node.id)
  distinct : (g.nodes.map Node.id).Nodup

namespace Execution

variable {d : Design} {g : Graph} {router : Router} {backoffMs : Nat} {s : RunState} {h : History}

/-- The results bear the names of the nodes that have completed. -/
theorem agentNames (hrun : Execution g (g.Yields router backoffMs) s h) (hs : s.Fresh) :
    h.run.state.agentResults.map AgentResult.agentName =
      h.merges.map fun m => g.idOf m.node := by
  induction hrun with
  | begin =>
    have hnone : s.agentResults.map AgentResult.agentName = [] := by
      rw [hs.agentResults, List.map_nil]
    exact hnone
  | @complete h l u _ _ _ hhands ih =>
    obtain ⟨n, r, hn, hreports⟩ := hhands.reports
    have hname : g.idOf l.node = r.agentName := by
      rw [Graph.idOf, hn, hreports.name]
    rw [History.state_complete, RunState.apply, List.map_append, ih, hreports.results,
      History.merges_complete, List.map_append, List.map_singleton, List.map_singleton, hname]

/-- Nobody that an edge leads to is missing at the end of a run without conditions. -/
theorem launched_of_joins (hd : d.compile = .ok g) (hfree : d.Unconditional)
    (hrun : Execution g (g.Yields router backoffMs) s h) (hs : s.Fresh)
    (hsteps : g.size ≤ s.maxSteps) (hfailures : h.run.state.failures < maxErrors)
    (hdrained : h.run.schedule.running = []) {u v : Nat} (hu : u ∈ h.run.schedule.launched)
    (huv : g.Joins u v) : v ∈ h.run.schedule.launched := by
  have hg := d.wellFormed_of_compile hd
  obtain ⟨m, hm, rfl⟩ := hrun.exists_merge_of_drained hg hdrained hu
  obtain ⟨n, hn⟩ := Graph.exists_node (hg.lt_size m.node v huv).1
  exact hrun.launched_of_target hg hs hsteps hfailures hdrained hm hn
    (d.mem_targets_of_joins hd hfree hn huv m.state)

/-- Nobody is missing at the end of a run without conditions. -/
theorem complete_of_drained (hd : d.compile = .ok g) (hfree : d.Unconditional)
    (hrun : Execution g (g.Yields router backoffMs) s h) (hs : s.Fresh)
    (hsteps : g.size ≤ s.maxSteps) (hfailures : h.run.state.failures < maxErrors)
    (hdrained : h.run.schedule.running = []) : h.Complete d g := by
  have hg := d.wellFormed_of_compile hd
  have hsize := Design.size_of_compile hd
  have hall : ∀ v < g.size, v ∈ h.run.schedule.launched := by
    intro v hv
    rcases hg.entry_or_reached hv with hentry | ⟨e, he, hev⟩
    · exact hrun.entry_launched hentry
    · -- From an entry on, everybody along the path is launched.
      induction hev with
      | single huv =>
        exact hrun.launched_of_joins hd hfree hs hsteps hfailures hdrained
          (hrun.entry_launched he) huv
      | @tail b c _ hbc ih =>
        exact hrun.launched_of_joins hd hfree hs hsteps hfailures hdrained
          (ih (hg.lt_size b c hbc).1) hbc
  have hlaunched : h.run.schedule.launched.Perm (List.range g.size) := by
    refine (List.perm_ext_iff_of_nodup (hrun.sane hg).nodup_launched List.nodup_range).mpr ?_
    intro v
    rw [List.mem_range]
    exact ⟨fun hv => hrun.lt_size hg (Or.inl hv), hall v⟩
  have hmerged : (h.merges.map Merge.node).Perm (List.range g.size) :=
    (hrun.merged_perm_of_drained hg hdrained).trans hlaunched
  refine ⟨hsize ▸ hlaunched, hsize ▸ hmerged, ?_, Design.nodup_ids hd⟩
  rw [hrun.agentNames hs, ← g.map_idOf_range]
  have hnames := hmerged.map g.idOf
  rwa [List.map_map] at hnames

/-- **Every agent of an unconditional design is executed once**, in any order of completions, if at
most two fail and there is a step for every agent.  A run has drained exactly when as many nodes
have completed as there are agents, and the loop of a run that no failure ends gets there. -/
theorem unconditional_runs_all {limits : RunLimits} (hd : d.compile = .ok g)
    (hfree : d.Unconditional) (hsteps : d.agents.length ≤ limits.maxSteps) :
    (∀ h, Execution g (g.Yields router limits.backoffMs) (limits.initialState d) h →
      h.run.state.failures ≤ 2 →
        (h.run.schedule.running = [] ↔ h.merges.length = d.agents.length) ∧
        (h.run.schedule.running = [] → h.Complete d g)) ∧
    ∀ next, Feeds g (g.Yields router limits.backoffMs) (limits.initialState d) next →
      (∀ h, Execution g (g.Yields router limits.backoffMs) (limits.initialState d) h →
        ∃ u, (next h).2 = .ok u) →
        ∃ h, (History.begin g (limits.initialState d)).drive g next g.size = some (h, .ok ()) ∧
          (h.run.state.failures ≤ 2 → h.Complete d g) := by
  have hg := d.wellFormed_of_compile hd
  have hsize := Design.size_of_compile hd
  have hs := limits.fresh_initialState d
  have hmax : g.size ≤ (limits.initialState d).maxSteps := hsize.le.trans hsteps
  constructor
  · intro h hrun hfailures
    have hcomplete : h.run.schedule.running = [] → h.Complete d g :=
      hrun.complete_of_drained hd hfree hs hmax (Nat.lt_succ_of_le hfailures)
    refine ⟨⟨fun hdrained => ?_, fun hlength => ?_⟩, hcomplete⟩
    · have hcompleted := (hcomplete hdrained).completed.length_eq
      rwa [List.length_map, List.length_range] at hcompleted
    · have hcompletions := hrun.completions_le hg
      exact List.length_eq_zero_iff.mp (by omega)
  · intro next hnext hok
    obtain ⟨h, hdrive, hrun, hdrained⟩ := exists_drive_ok hg hnext hok
    refine ⟨h, hdrive, fun hfailures => ?_⟩
    exact hrun.complete_of_drained hd hfree hs hmax (Nat.lt_succ_of_le hfailures) hdrained

end Execution

/-! ### A run with two failures -/

/-- A failure that is here to stay. -/
def denied : Failure :=
  .of .authentication "denied"

/-- Two agents of the detour fail, one after the other, and its join gets an answer. -/
def setbacks : List (Nat × (RunState → Update)) :=
  [detourGraph.setback bareRouter 1000 denied 0, detourGraph.setback bareRouter 1000 denied 1,
    detourGraph.answer bareRouter 1000 brief 2]

theorem yields_setbacks : ∀ q ∈ setbacks, ∀ s : RunState, s.design = detour →
    detourGraph.Yields bareRouter 1000 q.1 s (q.2 s) := by
  intro q hq s hdesign
  have hpasses : s.design.injection = none := by
    rw [hdesign]
    exact injection_detour
  rcases List.mem_cons.mp hq with rfl | hq
  · exact Graph.yields_setback (by decide) hpasses rfl rfl
  · rcases List.mem_cons.mp hq with rfl | hq
    · exact Graph.yields_setback (by decide) hpasses rfl rfl
    · cases List.mem_singleton.mp hq
      exact Graph.yields_answer (by decide) hpasses brief

theorem unconditional_detour : detour.Unconditional := by
  rintro _ ⟨⟩ e he text hcondition
  have hnone : e.condition = none := by
    have hall : ∀ e ∈ (detour.edges.getD []), e.condition = none := by decide
    exact hall e he
  rw [hnone] at hcondition
  cases hcondition

/-- After two failures the join of the detour still runs, and all three agents have a result. -/
theorem Execution.unconditional_runs_all_detour : detour.compile = .ok detourGraph ∧
    detour.Unconditional ∧
    ∃ h, Execution detourGraph (detourGraph.Yields bareRouter 1000)
      (({ maxSteps := 3 } : RunLimits).initialState detour) h ∧ h.run.schedule.running = [] ∧
      h.run.state.failures = 2 ∧ h.Complete detour detourGraph := by
  obtain ⟨h, hrun, hp⟩ : ∃ h, Execution detourGraph (detourGraph.Yields bareRouter 1000)
      (({ maxSteps := 3 } : RunLimits).initialState detour) h ∧
      (h.run.schedule.running.isEmpty && h.run.state.failures == 2) = true :=
    Execution.exists_of_script yields_setbacks (by decide +kernel)
  rw [Bool.and_eq_true, List.isEmpty_iff, beq_iff_eq] at hp
  obtain ⟨hdrained, hfailures⟩ := hp
  have hsteps : detour.agents.length ≤ ({ maxSteps := 3 } : RunLimits).maxSteps := by decide
  obtain ⟨-, hcomplete⟩ := (Execution.unconditional_runs_all compile_detour unconditional_detour
    hsteps).1 h hrun hfailures.le
  exact ⟨compile_detour, unconditional_detour, h, hrun, hdrained, hfailures, hcomplete hdrained⟩

end AgentPipeline
