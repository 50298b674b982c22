import AgentPipeline.Proofs.Run.Continuation
import AgentPipeline.Proofs.Run.Coverage

/-!
# What a run accumulates

An update is made on a snapshot and merged when the state has moved on, but it can only add to the
accumulators: it brings one result of its node and the error of that if it failed, and the step that
it has counted is taken over if it is ahead.  So at every moment there is a result for every
completion, an error for every failure, and no more steps than results; and whatever has been
accumulated stays.

## Main definitions

* `RunState.Extends` — a state accumulates more than another and agrees with it otherwise.
* `Design.Signed` — a result is that of a node of a design.
* `History.Accounted` — the accumulators account for the completions.

## Main results

* `Continues.state_extends` — whatever has been accumulated stays.
* `Execution.accounted` — **the accumulators of a run are consistent.**
-/

namespace AgentPipeline

/-! ### States that grow -/

/-- A state accumulates what another does and more, counts no fewer steps, and agrees with it in what
a run does not change. -/
structure RunState.Extends (t s : RunState) : Prop where
  agentResults : s.agentResults <+: t.agentResults
  errors : s.errors <+: t.errors
  currentStep : s.currentStep ≤ t.currentStep
  design : t.design = s.design
  maxSteps : t.maxSteps = s.maxSteps
  timeoutSeconds : t.timeoutSeconds = s.timeoutSeconds

namespace RunState

theorem Extends.refl (s : RunState) : s.Extends s :=
  ⟨List.prefix_refl _, List.prefix_refl _, Nat.le_refl _, rfl, rfl, rfl⟩

theorem Extends.trans {s t r : RunState} (hrt : r.Extends t) (hts : t.Extends s) : r.Extends s where
  agentResults := hts.agentResults.trans hrt.agentResults
  errors := hts.errors.trans hrt.errors
  currentStep := hts.currentStep.trans hrt.currentStep
  design := hrt.design.trans hts.design
  maxSteps := hrt.maxSteps.trans hts.maxSteps
  timeoutSeconds := hrt.timeoutSeconds.trans hts.timeoutSeconds

/-- Whatever an update brings, it takes nothing back. -/
theorem extends_apply (s : RunState) (u : Update) : (s.apply u).Extends s :=
  ⟨List.prefix_append _ _, List.prefix_append _ _, currentStep_le_apply s u, rfl, rfl, rfl⟩

end RunState

/-- Whatever has been accumulated stays. -/
theorem Continues.state_extends {g : Graph} {hands : Nat → RunState → Update → Prop} {h k : History}
    (hnext : Continues g hands h k) : k.run.state.Extends h.run.state := by
  induction hnext with
  | refl => exact .refl _
  | complete _ _ _ _ ih =>
    rw [History.state_complete]
    exact (RunState.extends_apply _ _).trans ih

/-! ### Results of nodes -/

/-- The nodes of a design are made of its agents. -/
theorem Design.map_spec_nodes (d : Design) (routing : Nat → Routing) :
    (d.nodes routing).map Node.spec = d.agents := by
  rw [d.map_nodes routing Node.spec Prod.fst fun _ _ => rfl]
  exact List.map_fst_zip d.length_uniqueNames.ge

/-- The nodes of a compiled design are made of its agents. -/
theorem Design.specs_of_compile {d : Design} {g : Graph} (h : d.compile = .ok g) :
    g.nodes.map Node.spec = d.agents := by
  obtain ⟨routing, hnodes⟩ := nodes_of_compile h
  rw [hnodes, d.map_spec_nodes]

/-- A result bears the name of a node of a compiled design and the role that its agent declares. -/
def Design.Signed (d : Design) (g : Graph) (node : Nat) (r : AgentResult) : Prop :=
  ∃ n spec, g.nodes[node]? = some n ∧ d.agents[node]? = some spec ∧ r.agentName = n.id ∧
    r.role = spec.role

theorem Update.Reports.signed {d : Design} {g : Graph} (hd : d.compile = .ok g) {node : Nat}
    {n : Node} (hn : g.nodes[node]? = some n) {u : Update} {r : AgentResult} (h : u.Reports n r) :
    d.Signed g node r := by
  refine ⟨n, n.spec, hn, ?_, h.name, h.role⟩
  rw [← Design.specs_of_compile hd, List.getElem?_map, hn]
  rfl

/-- The accumulators of a run account for its completions. -/
structure History.Accounted (d : Design) (g : Graph) (h : History) : Prop where
  /-- Every completion has its result, in order. -/
  results : List.Forall₂ (d.Signed g) (h.merges.map Merge.node) h.run.state.agentResults
  /-- The nodes that have completed are those that have been launched and do not run. -/
  completed : (h.merges.map Merge.node ++ h.run.schedule.running).Perm h.run.schedule.launched
  distinct : h.run.schedule.launched.Nodup
  errors : h.run.state.errors.map some = h.run.state.failureTexts
  currentStep_le : h.run.state.currentStep ≤ h.run.state.agentResults.length
  currentStep_pos : h.run.state.agentResults ≠ [] → 1 ≤ h.run.state.currentStep

namespace Execution

variable {d : Design} {g : Graph} {router : Router} {backoffMs : Nat} {s : RunState} {h : History}

/-- Every completion has its result, in order. -/
theorem forall₂_signed (hd : d.compile = .ok g)
    (hrun : Execution g (g.Yields router backoffMs) s h) (hs : s.Fresh) :
    List.Forall₂ (d.Signed g) (h.merges.map Merge.node) h.run.state.agentResults := by
  induction hrun with
  | begin =>
    have hnone : List.Forall₂ (d.Signed g) [] s.agentResults := by
      rw [hs.agentResults]
      exact .nil
    exact hnone
  | complete _ _ _ hhands ih =>
    obtain ⟨n, r, hn, hreports⟩ := hhands.reports
    rw [History.merges_complete, List.map_append, History.state_complete, RunState.apply,
      hreports.results]
    exact List.rel_append ih (.cons (hreports.signed hd hn) .nil)

/-- There are as many results as completions. -/
theorem length_agentResults (hd : d.compile = .ok g)
    (hrun : Execution g (g.Yields router backoffMs) s h) (hs : s.Fresh) :
    h.run.state.agentResults.length = h.merges.length := by
  have hlength := (hrun.forall₂_signed hd hs).length_eq
  rw [List.length_map] at hlength
  exact hlength.symm

/-- A completion counts a step. -/
theorem one_le_currentStep (hrun : Execution g (g.Yields router backoffMs) s h)
    (hmerges : h.merges ≠ []) : 1 ≤ h.run.state.currentStep := by
  cases hrun with
  | begin => exact absurd rfl hmerges
  | complete _ _ _ hhands =>
    rw [History.state_complete, RunState.currentStep_apply hhands.currentStep]
    exact (Nat.le_add_left 1 _).trans (Nat.le_max_right _ _)

/-- **The accumulators of a run are consistent** at every moment, whatever comes of the nodes and in
whichever order they complete: there is a signed result for every node that has completed, an error
for every failure, and a step at most for every result.  The lists only grow at their ends, the steps
never go back, and the design and the limits of the run stay what they were. -/
theorem accounted (limits : RunLimits) (hd : d.compile = .ok g)
    (hrun : Execution g (g.Yields router limits.backoffMs) (limits.initialState d) h) :
    h.Accounted d g ∧ h.run.state.Extends (limits.initialState d) ∧
      ∀ k, Continues g (g.Yields router limits.backoffMs) h k →
        k.Accounted d g ∧ k.run.state.Extends h.run.state := by
  have hg := d.wellFormed_of_compile hd
  have hs := limits.fresh_initialState d
  have haccounted : ∀ k,
      Execution g (g.Yields router limits.backoffMs) (limits.initialState d) k →
        k.Accounted d g := by
    intro k krun
    have hresults := krun.forall₂_signed hd hs
    have hlength := hresults.length_eq
    rw [List.length_map] at hlength
    refine ⟨hresults, krun.merged_perm hg, (krun.sane hg).nodup_launched, krun.map_errors hs, ?_, ?_⟩
    · rw [← hlength]
      exact krun.currentStep_le hs
    · intro hne
      refine krun.one_le_currentStep ?_
      rwa [← List.length_pos_iff, hlength, List.length_pos_iff]
  refine ⟨haccounted h hrun, hrun.continues_begin.state_extends, ?_⟩
  intro k hnext
  exact ⟨haccounted k (hnext.execution hrun), hnext.state_extends⟩

end Execution

/-- After two failures and an answer the accumulators of the detour hold three results and two
errors. -/
theorem Execution.accounted_detour : detour.compile = .ok detourGraph ∧
    ∃ h, Execution detourGraph (detourGraph.Yields bareRouter 1000)
      (({ maxSteps := 3 } : RunLimits).initialState detour) h ∧
      h.merges.map Merge.node = [0, 1, 2] ∧ h.run.state.errors.length = 2 ∧
      h.run.state.currentStep = 3 ∧ h.Accounted detour detourGraph ∧
      h.run.state.Extends (({ maxSteps := 3 } : RunLimits).initialState detour) := by
  obtain ⟨h, hrun, hp⟩ : ∃ h, Execution detourGraph (detourGraph.Yields bareRouter 1000)
      (({ maxSteps := 3 } : RunLimits).initialState detour) h ∧
      ((h.merges.map Merge.node == [0, 1, 2]) && (h.run.state.errors.length == 2 &&
        h.run.state.currentStep == 3)) = true :=
    Execution.exists_of_script yields_setbacks (by decide +kernel)
  rw [Bool.and_eq_true, Bool.and_eq_true, beq_iff_eq, beq_iff_eq, beq_iff_eq] at hp
  obtain ⟨hmerges, herrors, hsteps⟩ := hp
  obtain ⟨haccounted, hextends, -⟩ :=
    Execution.accounted { maxSteps := 3 } compile_detour hrun
  exact ⟨compile_detour, h, hrun, hmerges, herrors, hsteps, haccounted, hextends⟩

end AgentPipeline
