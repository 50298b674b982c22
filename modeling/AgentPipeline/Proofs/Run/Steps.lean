import AgentPipeline.Proofs.Run.Accumulation
import AgentPipeline.Proofs.Run.Confluence
import Mathlib.Algebra.Order.BigOperators.Group.Finset
import Mathlib.Order.Interval.Finset.Nat

/-!
# Steps and results

Nodes that run side by side count the same step, so the limit on steps is not one on results.  All
that count a step are running at one moment, the last at which fewer steps have been counted: they
have been launched by then, because their snapshots count fewer, and none of them has completed,
because its completion would count the step.  So a run has no more results than its limit on steps
allows times the number of nodes that run at once, if those are left out that were launched when the
stop condition held already.

## Main definitions

* `History.timely` — the completions of nodes that were launched before the stop condition held.

## Main results

* `Execution.exists_last_moment` — the last moment at which fewer steps have been counted.
* `Execution.exists_moment_of_step` — whoever counts a step is running at one moment.
* `Execution.timely_le` — **what the limit on steps bounds.**
* `more_results_than_steps` — a run with more results than steps.
-/

namespace AgentPipeline

/-- The completions of nodes that were launched when the stop condition did not hold. -/
def History.timely (h : History) : List Merge :=
  h.merges.filter fun m => h.launches.any fun l => l.node == m.node && !l.snapshot.shouldStop

theorem History.mem_timely_iff {h : History} {m : Merge} : m ∈ h.timely ↔
    m ∈ h.merges ∧ ∃ l ∈ h.launches, l.node = m.node ∧ l.snapshot.shouldStop = false := by
  rw [timely, List.mem_filter, List.any_eq_true]
  refine and_congr_right fun _ => exists_congr fun l => and_congr_right fun _ => ?_
  rw [Bool.and_eq_true, beq_iff_eq, Bool.not_eq_true']

namespace Execution

variable {d : Design} {g : Graph} {hands : Nat → RunState → Update → Prop} {router : Router}
  {backoffMs : Nat} {s : RunState} {h : History}

/-- A completion counts one step more than its node saw when it was launched. -/
theorem currentStep_of_merge (hg : g.WellFormed)
    (hrun : Execution g (g.Yields router backoffMs) s h) {l : Launch} (hl : l ∈ h.launches)
    {m : Merge} (hm : m ∈ h.merges) (hnode : l.node = m.node) :
    m.update.currentStep = some (l.snapshot.currentStep + 1) := by
  obtain ⟨k, hk, hknode, hhands⟩ := hrun.launch_of_merge hm
  rw [hrun.launch_eq_of_node_eq hg hl hk (hnode.trans hknode.symm)]
  exact hhands.currentStep

/-- The state counts every step that has been counted. -/
theorem step_le_currentStep (hrun : Execution g hands s h) {m : Merge} (hm : m ∈ h.merges) {n : Nat}
    (hstep : m.update.currentStep = some n) : n ≤ h.run.state.currentStep := by
  induction hrun with
  | begin => exact absurd hm List.not_mem_nil
  | @complete h l u _ _ _ _ ih =>
    rw [History.state_complete]
    rcases History.mem_merges_complete.mp hm with hm | rfl
    · exact (ih hm).trans (RunState.currentStep_le_apply h.run.state u)
    · rw [RunState.currentStep_apply hstep]
      exact Nat.le_max_right _ _

/-- There is a last moment at which fewer than a number of steps have been counted: whoever sees
fewer has been launched by then. -/
theorem exists_last_moment (hrun : Execution g hands s h) {n : Nat} (hs : s.currentStep < n) :
    ∃ k, Execution g hands s k ∧ Continues g hands k h ∧ k.run.state.currentStep < n ∧
      ∀ l ∈ h.launches, l.snapshot.currentStep < n → l ∈ k.launches := by
  induction hrun with
  | begin => exact ⟨_, .begin, .refl, hs, fun l hl _ => hl⟩
  | @complete h l u hrun hlaunch hrunning hhands ih =>
    rcases Nat.lt_or_ge (h.run.state.apply u).currentStep n with hfew | hmany
    · exact ⟨_, hrun.complete hlaunch hrunning hhands, .refl, hfew, fun l hl _ => hl⟩
    · obtain ⟨k, krun, hnext, hk, hlaunched⟩ := ih
      refine ⟨k, krun, hnext.complete hlaunch hrunning hhands, hk, ?_⟩
      intro j hj hfew
      rcases History.mem_launches_complete.mp hj with hj | ⟨v, -, rfl⟩
      · exact hlaunched j hj hfew
      · exact absurd hmany (Nat.not_le_of_lt hfew)

/-- Whoever counts a step is running at one moment. -/
theorem exists_moment_of_step (hg : g.WellFormed)
    (hrun : Execution g (g.Yields router backoffMs) s h) {n : Nat} (hs : s.currentStep < n) :
    ∃ k, Execution g (g.Yields router backoffMs) s k ∧ Continues g (g.Yields router backoffMs) k h ∧
      ∀ m ∈ h.merges, m.update.currentStep = some n → m.node ∈ k.run.schedule.running := by
  obtain ⟨k, krun, hnext, hk, hlaunched⟩ := hrun.exists_last_moment hs
  refine ⟨k, krun, hnext, ?_⟩
  intro m hm hstep
  obtain ⟨l, hl, hnode, -⟩ := hrun.launch_of_merge hm
  have hsees : l.snapshot.currentStep + 1 = n := by
    rw [hrun.currentStep_of_merge hg hl hm hnode] at hstep
    exact Option.some.inj hstep
  have hl' : l ∈ k.launches := hlaunched l hl (Nat.lt_of_succ_le hsees.le)
  rw [← hnode]
  rcases krun.running_or_merged (krun.mem_launched_iff.mpr ⟨l, hl', rfl⟩) with hrunning | hmerged
  · exact hrunning
  · -- Had it completed by then, the step would have been counted.
    obtain ⟨m', hm', hnode'⟩ := hmerged
    have hcounted := krun.step_le_currentStep hm'
      (krun.currentStep_of_merge hg hl' hm' hnode'.symm)
    omega

/-- A completion of a node that was launched in time counts a step within the limit. -/
theorem step_of_timely (hg : g.WellFormed) (hrun : Execution g (g.Yields router backoffMs) s h)
    {m : Merge} (hm : m ∈ h.timely) :
    ∃ n, m.update.currentStep = some n ∧ 1 ≤ n ∧ n ≤ s.maxSteps := by
  obtain ⟨hm, l, hl, hnode, hgoing⟩ := History.mem_timely_iff.mp hm
  have hbelow := RunState.currentStep_lt_maxSteps hgoing
  rw [hrun.maxSteps_snapshot hl] at hbelow
  exact ⟨_, hrun.currentStep_of_merge hg hl hm hnode, Nat.le_add_left 1 _, hbelow⟩

section

variable {width : Nat} (hwidth : ∀ k, Execution g (g.Yields router backoffMs) s k →
  Continues g (g.Yields router backoffMs) k h → k.run.schedule.running.length ≤ width)
include hwidth

/-- No more completions count the same step than nodes run at once. -/
theorem card_of_step_le (hg : g.WellFormed) (hrun : Execution g (g.Yields router backoffMs) s h)
    {n : Nat} (hs : s.currentStep < n) {merges : Finset Merge}
    (hmerges : ∀ m ∈ merges, m ∈ h.merges ∧ m.update.currentStep = some n) :
    merges.card ≤ width := by
  obtain ⟨k, krun, hnext, hrunning⟩ := hrun.exists_moment_of_step hg hs
  calc
    merges.card ≤ k.run.schedule.running.toFinset.card := by
      refine Finset.card_le_card_of_injOn Merge.node ?_ ?_
      · intro m hm
        obtain ⟨hm, hstep⟩ := hmerges m hm
        exact List.mem_toFinset.mpr (hrunning m hm hstep)
      · intro m hm m' hm' hnode
        exact List.inj_on_of_nodup_map (hrun.nodup_merged hg) (hmerges m hm).1 (hmerges m' hm').1
          hnode
    _ ≤ k.run.schedule.running.length := List.toFinset_card_le _
    _ ≤ width := hwidth k krun hnext

/-- If at most `width` nodes run at once, there are at most that many results in time for every step
that is allowed for. -/
theorem length_timely_le (hg : g.WellFormed) (hrun : Execution g (g.Yields router backoffMs) s h)
    (hs : s.Fresh) : h.timely.length ≤ s.maxSteps * width := by
  classical
  have hnodup : h.timely.Nodup := (List.Nodup.of_map _ (hrun.nodup_merged hg)).filter _
  have hsteps : ∀ m ∈ h.timely.toFinset,
      m.update.currentStep.getD 0 ∈ Finset.Icc 1 s.maxSteps := by
    intro m hm
    obtain ⟨n, hstep, hpos, hle⟩ := hrun.step_of_timely hg (List.mem_toFinset.mp hm)
    rw [hstep, Option.getD_some, Finset.mem_Icc]
    exact ⟨hpos, hle⟩
  have hfiber : ∀ n ∈ Finset.Icc 1 s.maxSteps,
      (h.timely.toFinset.filter fun m => m.update.currentStep.getD 0 = n).card ≤ width := by
    intro n hn
    refine hrun.card_of_step_le hwidth hg (n := n)
      (hs.currentStep.trans_lt (Finset.mem_Icc.mp hn).1) ?_
    intro m hm
    obtain ⟨hm, hstep⟩ := Finset.mem_filter.mp hm
    have hm := List.mem_toFinset.mp hm
    obtain ⟨n', hn', -⟩ := hrun.step_of_timely hg hm
    rw [hn', Option.getD_some] at hstep
    exact ⟨(History.mem_timely_iff.mp hm).1, hstep ▸ hn'⟩
  calc
    h.timely.length = h.timely.toFinset.card := (List.toFinset_card_of_nodup hnodup).symm
    _ ≤ width * (Finset.Icc 1 s.maxSteps).card :=
      Finset.card_le_mul_card_image_of_maps_to hsteps width hfiber
    _ = s.maxSteps * width := by rw [Nat.card_Icc, Nat.add_sub_cancel, Nat.mul_comm]

end

/-- **What the limit on steps bounds**: every result of a node that was launched before the stop
condition held counts a step within the limit, and whoever counts the same step is running at one
moment.  So if at most `width` nodes run at once, there are at most `width` such results for every
step; without nodes side by side there are no more of them than steps. -/
theorem timely_le (limits : RunLimits) (hd : d.compile = .ok g)
    (hrun : Execution g (g.Yields router limits.backoffMs) (limits.initialState d) h) :
    h.run.state.agentResults.length = h.merges.length ∧
    (∀ m ∈ h.timely, ∃ n, m.update.currentStep = some n ∧ 1 ≤ n ∧ n ≤ limits.maxSteps) ∧
    (∀ n, 1 ≤ n → ∃ k, Execution g (g.Yields router limits.backoffMs) (limits.initialState d) k ∧
      Continues g (g.Yields router limits.backoffMs) k h ∧
        ∀ m ∈ h.merges, m.update.currentStep = some n → m.node ∈ k.run.schedule.running) ∧
    ∀ width, (∀ k, Execution g (g.Yields router limits.backoffMs) (limits.initialState d) k →
      Continues g (g.Yields router limits.backoffMs) k h →
        k.run.schedule.running.length ≤ width) → h.timely.length ≤ limits.maxSteps * width := by
  have hg := d.wellFormed_of_compile hd
  have hs := limits.fresh_initialState d
  exact ⟨hrun.length_agentResults hd hs, fun m hm => hrun.step_of_timely hg hm,
    fun n hn => hrun.exists_moment_of_step hg hn,
    fun width hwidth => hrun.length_timely_le hwidth hg hs⟩

end Execution

/-! ### Two agents in one step -/

/-- A run of the fork in two steps: `b` and `c` share the second one. -/
theorem exists_run_of_fork_in_two_steps :
    ∃ h, Execution forkGraph (forkGraph.Yields bareRouter 1000)
      (({ maxSteps := 2 } : RunLimits).initialState fork) h ∧ h.run.schedule.running = [] ∧
      h.launches.length = 3 ∧ h.timely.length = 3 ∧ h.run.state.agentResults.length = 3 := by
  obtain ⟨h, hrun, hp⟩ := Execution.exists_of_answers bareRouter { maxSteps := 2 } injection_fork
    brief [0, 1, 2] (g := forkGraph)
    (p := fun h => h.run.schedule.running.isEmpty && (h.launches.length == 3 &&
      (h.timely.length == 3 && h.run.state.agentResults.length == 3)))
    (by decide +kernel) (by decide +kernel)
  rw [Bool.and_eq_true, List.isEmpty_iff, Bool.and_eq_true, beq_iff_eq, Bool.and_eq_true, beq_iff_eq,
    beq_iff_eq] at hp
  exact ⟨h, hrun, hp⟩

/-- No more than two nodes run at once in that run. -/
theorem width_le_of_fork {h k : History}
    (krun : Execution forkGraph (forkGraph.Yields bareRouter 1000)
      (({ maxSteps := 2 } : RunLimits).initialState fork) k)
    (hnext : Continues forkGraph (forkGraph.Yields bareRouter 1000) k h)
    (hlength : h.launches.length = 3) : k.run.schedule.running.length ≤ 2 := by
  have hg := fork.wellFormed_of_compile compile_fork
  have hlaunches := hnext.launches_prefix.length_le
  have hperm := (krun.merged_perm hg).length_eq
  rw [← krun.nodes_launches, List.length_append, List.length_map, List.length_map] at hperm
  cases krun with
  | begin => decide +kernel
  | complete =>
    rw [History.merges_complete, List.length_append, List.length_singleton] at hperm
    omega

/-- Of the three results of that run there are two at most for each of the two steps. -/
theorem Execution.timely_le_fork : fork.compile = .ok forkGraph ∧
    ∃ h, Execution forkGraph (forkGraph.Yields bareRouter 1000)
      (({ maxSteps := 2 } : RunLimits).initialState fork) h ∧ h.timely.length = 3 ∧
      h.timely.length ≤ 2 * 2 := by
  obtain ⟨h, hrun, -, hlaunches, htimely, -⟩ := exists_run_of_fork_in_two_steps
  obtain ⟨-, -, -, hbound⟩ :=
    Execution.timely_le { maxSteps := 2 } compile_fork hrun
  exact ⟨compile_fork, h, hrun, htimely,
    hbound 2 fun k krun hnext => width_le_of_fork krun hnext hlaunches⟩

/-- With two steps three agents run, all of them in time, as the two that `a` passes control to count
the same step. -/
theorem more_results_than_steps : fork.compile = .ok forkGraph ∧
    ∃ h, Execution forkGraph (forkGraph.Yields bareRouter 1000)
      (({ maxSteps := 2 } : RunLimits).initialState fork) h ∧ h.run.schedule.running = [] ∧
      h.timely.length = h.run.state.agentResults.length ∧
      ({ maxSteps := 2 } : RunLimits).maxSteps < h.run.state.agentResults.length := by
  obtain ⟨h, hrun, hdrained, -, htimely, hresults⟩ := exists_run_of_fork_in_two_steps
  refine ⟨compile_fork, h, hrun, hdrained, htimely.trans hresults.symm, ?_⟩
  rw [hresults]
  decide

end AgentPipeline
