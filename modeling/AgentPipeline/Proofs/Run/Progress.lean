import AgentPipeline.Proofs.Run.Ancestors

/-!
# Nobody is left waiting

Ready nodes are looked for once after every completion.  That misses nobody: if nothing runs after a
completion, then nothing was ready, and without running work something would have been unless nobody
was waiting.

## Main results

* `Execution.waiting_eq_nil` — when nothing runs, nothing waits.
* `Execution.queued_completed` — **whatever was queued has been launched and merged by the end.**
-/

namespace AgentPipeline

namespace Execution

variable {g : Graph} {hands : Nat → RunState → Update → Prop} {s : RunState} {h : History}

/-- When nothing runs, nothing waits. -/
theorem waiting_eq_nil (hg : g.WellFormed) (hrun : Execution g hands s h)
    (hdrained : h.run.schedule.running = []) : h.run.schedule.waiting = [] := by
  cases hrun with
  | begin =>
    rw [List.eq_nil_iff_forall_not_mem]
    intro w hw
    exact absurd (Schedule.mem_waiting_launchAll.mp hw).1 List.not_mem_nil
  | @complete h l u _ _ _ _ =>
    rw [History.run_complete, Run.schedule_complete] at hdrained ⊢
    rw [Schedule.running_launchAll, List.append_eq_nil_iff] at hdrained
    obtain ⟨hrunning, hready⟩ := hdrained
    -- Nothing is launched, so the schedule is the one in which nothing was ready.
    rw [hready]
    by_contra hwaiting
    exact Schedule.ready_ne_nil hg hrunning hwaiting hready

/-- Whatever was queued has been launched when nothing runs. -/
theorem launched_of_queued (hg : g.WellFormed) (hrun : Execution g hands s h)
    (hdrained : h.run.schedule.running = []) {m : Merge} (hm : m ∈ h.merges) {v : Nat}
    (hv : v ∈ m.waiting) : v ∈ h.run.schedule.launched := by
  rcases hrun.launched_or_waiting hm hv with hlaunched | hwaiting
  · exact hlaunched
  · rw [hrun.waiting_eq_nil hg hdrained] at hwaiting
    exact absurd hwaiting List.not_mem_nil

/-- **Whatever was queued has been launched and merged by the end.**  When the last running node has
completed nothing waits, and every node that ever waited has handed back a result, which is in the
final state. -/
theorem queued_completed {d : Design} (hd : d.compile = .ok g) (hrun : Execution g hands s h)
    (hdrained : h.run.schedule.running = []) :
    h.run.schedule.waiting = [] ∧
      ∀ m ∈ h.merges, ∀ v ∈ m.waiting, ∃ l ∈ h.launches, ∃ done ∈ h.merges,
        l.node = v ∧ done.node = v ∧ hands v l.snapshot done.update ∧
          done.update.agentResults ⊆ h.run.state.agentResults := by
  have hg := d.wellFormed_of_compile hd
  refine ⟨hrun.waiting_eq_nil hg hdrained, ?_⟩
  intro m hm v hv
  have hlaunched := hrun.launched_of_queued hg hdrained hm hv
  obtain ⟨done, hdone, rfl⟩ : ∃ m ∈ h.merges, m.node = v := by
    rcases hrun.running_or_merged hlaunched with hrunning | hmerged
    · rw [hdrained] at hrunning
      exact absurd hrunning List.not_mem_nil
    · exact hmerged
  obtain ⟨l, hl, hnode, hhands⟩ := hrun.launch_of_merge hdone
  refine ⟨l, hl, done, hdone, hnode, rfl, hnode ▸ hhands, ?_⟩
  intro result hresult
  rw [hrun.state_eq, RunState.agentResults_replay, List.mem_append, List.mem_flatMap]
  exact Or.inr ⟨done, hdone, hresult⟩

end Execution

/-- By the end of a run of the diamond without `b` the join has been launched and merged. -/
theorem Execution.queued_completed_diamond : diamond.compile = .ok diamondGraph ∧
    ∃ h, Execution diamondGraph (diamondGraph.Yields bareRouter 1000)
      (({} : RunLimits).initialState diamond) h ∧ h.run.schedule.running = [] ∧
      h.run.schedule.waiting = [] ∧ (∃ m ∈ h.merges, 3 ∈ m.waiting) ∧
      ∃ l ∈ h.launches, ∃ done ∈ h.merges, l.node = 3 ∧ done.node = 3 := by
  obtain ⟨h, hrun, hp⟩ := Execution.exists_of_answers bareRouter {} injection_diamond brief
    [0, 2, 3] (g := diamondGraph)
    (p := fun h => h.run.schedule.running.isEmpty && h.merges.any fun m => m.waiting.contains 3)
    (by decide +kernel) (by decide +kernel)
  rw [Bool.and_eq_true, List.isEmpty_iff, List.any_eq_true] at hp
  obtain ⟨hdrained, m, hm, hmem⟩ := hp
  have hmem := List.contains_iff_mem.mp hmem
  obtain ⟨hwaiting, hqueued⟩ := Execution.queued_completed compile_diamond hrun hdrained
  obtain ⟨l, hl, done, hdone, hnode, hdonenode, -⟩ := hqueued m hm 3 hmem
  exact ⟨compile_diamond, h, hrun, hdrained, hwaiting, ⟨m, hm, hmem⟩, l, hl, done, hdone, hnode,
    hdonenode⟩

end AgentPipeline
