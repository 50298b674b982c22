import AgentPipeline.Proofs.Graph.Acceptance
import AgentPipeline.Proofs.Run.Yield

/-!
# Ancestors first

If one launched node leads to another, even by way of nodes that are never launched, then the first
has completed and been merged before the second is launched.  When a node is launched nothing active
leads to it, so its launched ancestors have completed by then; and no ancestor is launched later,
because it would have been active in between.

## Main results

* `Execution.ancestor_merged` — the invariant of the launches.
* `Execution.ancestors_first` — **ancestors first, in any order of completions.**
-/

namespace AgentPipeline

namespace Execution

variable {g : Graph} {hands : Nat → RunState → Update → Prop} {s : RunState} {h : History}

/-- What a launched node leads to is launched when its completion has been merged. -/
theorem ancestor_merged (hg : g.WellFormed) (hrun : Execution g hands s h) {u v : Launch}
    (hu : u ∈ h.launches) (hv : v ∈ h.launches) (huv : g.Leads u.node v.node) :
    ∃ m ∈ v.merged, m.node = u.node := by
  induction hrun with
  | begin =>
    obtain ⟨w, hw, rfl⟩ := List.mem_map.mp hv
    exact absurd huv (hg.not_leads_entry hw)
  | @complete h l update hrun hlaunch hrunning hhands ih =>
    have hsane : (h.run.routed g l.node update).Sane g :=
      Run.sane_routed (hrun.sane hg) hg hrunning
    have hwaits : ∀ w ∈ (h.run.routed g l.node update).ready g,
        (h.run.routed g l.node update).Active w := by
      intro w hw
      exact Or.inr (Schedule.mem_ready_iff.mp hw).1
    rcases History.mem_launches_complete.mp hv with hv | ⟨w, hw, rfl⟩
    · rcases History.mem_launches_complete.mp hu with hu | ⟨w, hw, rfl⟩
      · exact ih hu hv
      · -- A node that waited until now leads to nothing that had been launched before.
        have hlaunched : v.node ∈ (h.run.routed g l.node update).launched := by
          rw [Run.launched_routed]
          exact hrun.mem_launched_iff.mpr ⟨v, hv, rfl⟩
        exact absurd huv (hsane.forward w (hwaits w hw) v.node hlaunched)
    · rcases History.mem_launches_complete.mp hu with hu | ⟨x, hx, rfl⟩
      · have hlaunched : u.node ∈ (h.complete g l.node update).run.schedule.launched := by
          rw [History.launched_complete, List.mem_append]
          exact Or.inl (hrun.mem_launched_iff.mpr ⟨u, hu, rfl⟩)
        have hnext := hrun.complete hlaunch hrunning hhands
        rcases hnext.running_or_merged hlaunched with hr | hmerged
        · -- Were the ancestor still running, the new launch would not have been ready.
          have hactive : (h.run.routed g l.node update).Active u.node := by
            rcases History.mem_running_complete.mp hr with hr | hr
            · exact Or.inl (Run.mem_running_routed.mpr hr)
            · exact hwaits u.node hr
          exact absurd huv (hsane.not_leads_of_mem_ready hg hw hactive)
        · exact hmerged
      · exact absurd huv (hsane.not_leads_of_mem_ready hg hw (hwaits x hx))

/-- Once a node has been launched, control does not pass to it again. -/
theorem not_routed_again (hg : g.WellFormed) (hrun : Execution g hands s h) {v : Launch}
    (hv : v ∈ h.launches) :
    ∃ later, h.merges = v.merged ++ later ∧ ∀ m ∈ later, v.node ∉ g.successors m.node m.state := by
  induction hrun with
  | begin =>
    obtain ⟨w, -, rfl⟩ := List.mem_map.mp hv
    refine ⟨[], rfl, ?_⟩
    intro m hm
    exact absurd hm List.not_mem_nil
  | @complete h l update hrun _ hrunning _ ih =>
    rcases History.mem_launches_complete.mp hv with hv | ⟨w, -, rfl⟩
    · obtain ⟨later, heq, hlater⟩ := ih hv
      refine ⟨_, by rw [History.merges_complete, heq, List.append_assoc], ?_⟩
      intro m hm hmem
      rcases List.mem_append.mp hm with hm | hm
      · exact hlater m hm hmem
      · -- The node that completes now was running, and so leads to nothing launched.
        rw [List.mem_singleton] at hm
        subst hm
        have hlaunched : v.node ∈ h.run.schedule.launched :=
          hrun.mem_launched_iff.mpr ⟨v, hv, rfl⟩
        have hleads : g.Leads l.node v.node := .single (hg.joins_of_mem_successors hmem)
        exact (hrun.sane hg).forward l.node (Or.inl hrunning) v.node hlaunched hleads
    · refine ⟨[], (List.append_nil _).symm, ?_⟩
      intro m hm
      exact absurd hm List.not_mem_nil

/-- **Ancestors first, in any order of completions.**  If one launched node reaches another, then
the snapshot of the second holds what the first has handed back.  A snapshot is the initial state
with what had been merged by then, and no later completion passes control to its node again. -/
theorem ancestors_first {d : Design} (hd : d.compile = .ok g) (hrun : Execution g hands s h) :
    (∀ u ∈ h.launches, ∀ v ∈ h.launches, g.reaches u.node v.node = true →
      ∃ m ∈ v.merged, m.node = u.node ∧ hands u.node u.snapshot m.update ∧
        m.update.agentResults ⊆ v.snapshot.agentResults) ∧
    ∀ v ∈ h.launches, v.snapshot = s.replay v.merged ∧
      ∃ later, h.merges = v.merged ++ later ∧
        ∀ m ∈ later, v.node ∉ g.successors m.node m.state := by
  have hg := d.wellFormed_of_compile hd
  constructor
  · intro u hu v hv huv
    obtain ⟨m, hm, hnode⟩ := hrun.ancestor_merged hg hu hv ((hg.reaches_iff _ _).mp huv)
    obtain ⟨later, hmerges, -⟩ := hrun.not_routed_again hg hv
    have hmerged : m ∈ h.merges := by
      rw [hmerges]
      exact List.mem_append_left later hm
    -- A node is launched once, so it is this very launch that the completion belongs to.
    obtain ⟨l, hl, hlnode, hhands⟩ := hrun.launch_of_merge hmerged
    obtain rfl := hrun.launch_eq_of_node_eq hg hl hu (hlnode.trans hnode)
    refine ⟨m, hm, hnode, hhands, ?_⟩
    intro result hresult
    rw [hrun.snapshot_eq hv, RunState.agentResults_replay, List.mem_append, List.mem_flatMap]
    exact Or.inr ⟨m, hm, hresult⟩
  · intro v hv
    exact ⟨hrun.snapshot_eq hv, hrun.not_routed_again hg hv⟩

end Execution

/-! ### A branch that is not taken -/

/-- Control passes from `a` to `b` if that took many tokens and else to `c`; both lead to `d`. -/
def diamond : Design where
  name := "diamond"
  agents := ["a", "b", "c", "d"].map fun name => { name, role := "analyzer" }
  edges := some [⟨"a", "b", some "tokens_used > 100"⟩, ⟨"a", "c", none⟩, ⟨"b", "d", none⟩,
    ⟨"c", "d", none⟩]

/-- What the diamond compiles to. -/
def diamondGraph : Graph :=
  Graph.joined diamond [⟨0, 1, some ⟨"tokens_used", .gt, 100⟩⟩, ⟨0, 2, none⟩, ⟨1, 3, none⟩,
    ⟨2, 3, none⟩]

/-- A router without clients. -/
def bareRouter : Router :=
  ⟨.shared, [], []⟩

/-- An answer of two tokens. -/
def brief : Completion :=
  ⟨"ok", .openai, "gpt-4o", .simple, 1, 1, 0⟩

theorem compile_diamond : diamond.compile = .ok diamondGraph := by
  decide +kernel

theorem injection_diamond : diamond.injection = none := by
  rw [← Option.isNone_iff_eq_none]
  decide +kernel

/-- In a run of the diamond without `b` the join is launched after `a` and `c`. -/
theorem Execution.ancestors_first_diamond : diamond.compile = .ok diamondGraph ∧
    ∃ h, Execution diamondGraph (diamondGraph.Yields bareRouter 1000)
      (({} : RunLimits).initialState diamond) h ∧ h.launches.map Launch.node = [0, 2, 3] ∧
      ∃ v ∈ h.launches, v.node = 3 ∧ (∃ m ∈ v.merged, m.node = 0) ∧ ∃ m ∈ v.merged, m.node = 2 := by
  obtain ⟨h, hrun, hp⟩ := Execution.exists_of_answers bareRouter {} injection_diamond brief [0, 2]
    (g := diamondGraph) (p := fun h => h.launches.map Launch.node = [0, 2, 3])
    (by decide +kernel) (by decide +kernel)
  have hnodes : h.launches.map Launch.node = [0, 2, 3] := of_decide_eq_true hp
  have hlaunched : ∀ i ∈ [0, 2, 3], ∃ l ∈ h.launches, l.node = i := by
    intro i hi
    rw [← hnodes] at hi
    exact List.mem_map.mp hi
  obtain ⟨a, ha, hanode⟩ := hlaunched 0 (by decide)
  obtain ⟨c, hc, hcnode⟩ := hlaunched 2 (by decide)
  obtain ⟨v, hv, hvnode⟩ := hlaunched 3 (by decide)
  have hfirst := (Execution.ancestors_first compile_diamond hrun).1
  have hav : diamondGraph.reaches a.node v.node = true := by
    rw [hanode, hvnode]
    decide +kernel
  have hcv : diamondGraph.reaches c.node v.node = true := by
    rw [hcnode, hvnode]
    decide +kernel
  obtain ⟨m, hm, hmnode, -⟩ := hfirst a ha v hv hav
  obtain ⟨m', hm', hmnode', -⟩ := hfirst c hc v hv hcv
  exact ⟨compile_diamond, h, hrun, hnodes, v, hv, hvnode, ⟨m, hm, hmnode.trans hanode⟩,
    m', hm', hmnode'.trans hcnode⟩

end AgentPipeline
