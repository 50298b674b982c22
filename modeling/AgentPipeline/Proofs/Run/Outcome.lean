import AgentPipeline.Proofs.Run.Accumulation
import AgentPipeline.Proofs.Run.Simulation

/-!
# What a run tells

While a run is going on it tells of every completion as that is merged, and when it is over the last
event and the report are made from the state that it has come to.  So whichever way it ends, and
whenever, the events and the report tell the same story.

## Main definitions

* `Design.ComesTo` — the outcomes of a design.
* `Event.Closes` — an event tells of a run what its report does.

## Main results

* `Execution.events_eq` — a run tells of every result that it has accumulated, in order.
* `Execution.exists_result_of_drained` — a run that drains has results.
* `Design.comesTo_simulate` — what a simulation comes to is an outcome of its design.
* `Design.ComesTo.tells` — **the events of an outcome agree with its report.**
-/

namespace AgentPipeline

/-- The outcomes of a design: it is turned down, or it is run in any way up to any moment at which
the run may end, however long that takes. -/
inductive Design.ComesTo (router : Router) (limits : RunLimits) (runId : String) (d : Design) :
    Outcome → Prop where
  | rejected {defect : Defect} (hd : d.compile = .error defect) (durationMs : Nat) :
      ComesTo router limits runId d (defect.outcome d durationMs)
  | ended {g : Graph} {h : History} {ending : Ending} (hd : d.compile = .ok g)
      (hrun : Execution g (g.Yields router limits.backoffMs) (limits.initialState d) h)
      (hend : g.MayEnd router limits.backoffMs h ending) (durationMs : Nat) :
      ComesTo router limits runId d
        (ending.outcome limits router.secrets runId g h.run durationMs)

/-- The last event of a run says how it ended as its report does: that it was completed with its
costs, tokens and time, that it failed and why, or that it ran out of time. -/
def Event.Closes (limits : RunLimits) (report : RunReport) : Event → Prop
  | .completed totalCost totalTokens durationMs =>
    report.status = .completed ∧ report.totalCost = totalCost ∧ report.totalTokens = totalTokens ∧
      report.totalDurationMs = durationMs
  | .failed error => report.status = .failed ∧ report.error = some error
  | .timedOut timeoutSecs => report.status = .timeout ∧ timeoutSecs = limits.timeoutMs / 1000
  | .started .. | .agentCompleted .. => False

/-! ### Simulations -/

/-- **What a simulation comes to is an outcome of its design.** -/
theorem Design.comesTo_simulate {σ : Type} (b : Backend σ) (router : Router) (limits : RunLimits)
    (runId : String) (backend : σ) (d : Design) :
    d.ComesTo router limits runId (d.simulate b router limits runId backend).1 := by
  unfold simulate
  cases hd : d.compile with
  | error defect => exact .rejected hd 0
  | ok g =>
    let scene : Scene σ := ⟨b, router, limits, g⟩
    have hg : scene.graph.WellFormed := d.wellFormed_of_compile hd
    obtain ⟨h, hrun, hworld, hend⟩ := World.exists_execution_finish hg (limits.initialState d)
      backend scene.stepLimit
    dsimp only
    rw [← hworld]
    exact .ended hd hrun hend 0

/-! ### Results and events -/

namespace Execution

variable {d : Design} {g : Graph} {router : Router} {backoffMs : Nat} {s : RunState} {h : History}

/-- A run tells of every result that it has accumulated, in order. -/
theorem events_eq (hrun : Execution g (g.Yields router backoffMs) s h) (hs : s.Fresh) :
    h.run.events = h.run.state.agentResults.map Event.ofResult := by
  induction hrun with
  | begin =>
    have hnone : ([] : List Event) = s.agentResults.map Event.ofResult := by
      rw [hs.agentResults]
      rfl
    exact hnone
  | @complete h l u _ _ _ hhands ih =>
    obtain ⟨n, r, -, hreports⟩ := hhands.reports
    have hevents : (h.complete g l.node u).run.events =
        h.run.events ++ (u.agentResults.head?.map Event.ofResult).toList := rfl
    rw [hevents, ih, History.state_complete, RunState.apply, List.map_append, hreports.results]
    rfl

/-- A run has errors when agents have failed. -/
theorem errors_eq_nil_iff (hrun : Execution g (g.Yields router backoffMs) s h) (hs : s.Fresh) :
    h.run.state.errors = [] ↔ ∀ r ∈ h.run.state.agentResults, r.status ≠ .failed := by
  rw [← List.length_eq_zero_iff, hrun.length_errors hs, RunState.failures, List.countP_eq_zero]
  simp only [decide_eq_true_eq, ne_eq]

/-- A run that drains has results, as there is an entry to begin with. -/
theorem exists_result_of_drained (hd : d.compile = .ok g)
    (hrun : Execution g (g.Yields router backoffMs) s h) (hs : s.Fresh)
    (hdrained : h.run.schedule.running = []) : ∃ r, r ∈ h.run.state.agentResults := by
  have hg := d.wellFormed_of_compile hd
  have hpos : 0 < g.size := by
    rw [Design.size_of_compile hd, List.length_pos_iff]
    exact Design.agents_ne_nil hd
  obtain ⟨v, hv⟩ : ∃ v, v ∈ g.entries := by
    rcases hg.entry_or_reached hpos with hentry | ⟨e, hentry, -⟩
    · exact ⟨0, hentry⟩
    · exact ⟨e, hentry⟩
  obtain ⟨m, hm, -⟩ := hrun.exists_merge_of_drained hg hdrained (hrun.entry_launched hv)
  have hlength := hrun.length_agentResults hd hs
  exact List.exists_mem_of_length_pos (hlength ▸ List.length_pos_of_mem hm)

/-- A run that drains without a success has errors. -/
theorem errors_ne_nil (hd : d.compile = .ok g)
    (hrun : Execution g (g.Yields router backoffMs) s h) (hs : s.Fresh)
    (hdrained : h.run.schedule.running = [])
    (hfailed : h.run.state.agentResults.any AgentResult.isSuccess = false) :
    h.run.state.errors ≠ [] := by
  obtain ⟨r, hr⟩ := hrun.exists_result_of_drained hd hs hdrained
  rw [Ne, hrun.errors_eq_nil_iff hs]
  intro hnone
  have hsuccess : r.isSuccess = true := by
    cases hstatus : r.status with
    | success => rw [AgentResult.isSuccess, hstatus]; rfl
    | failed => exact absurd hstatus (hnone r hr)
  rw [List.any_eq_false] at hfailed
  exact hfailed r hr hsuccess

end Execution

/-! ### The last event -/

namespace RunState

variable {s : RunState} (durationMs : Nat)

theorem status_report_of_success (h : s.agentResults.any AgentResult.isSuccess = true) :
    (s.report durationMs).status = .completed := by
  rw [report, h]
  rfl

theorem status_report_of_failed (h : s.agentResults.any AgentResult.isSuccess = false) :
    (s.report durationMs).status = .failed := by
  rw [report, h]
  rfl

/-- The error of a report is made of those of the run, if there are any. -/
theorem error_report_of_cons {e : String} {es : List String} (h : s.errors = e :: es) :
    (s.report durationMs).error = some ("; ".intercalate (e :: es)) := by
  rw [report, h]
  rfl

end RunState

namespace Ending

variable {limits : RunLimits} {secrets : List String} {s : RunState} {durationMs : Nat}

/-- The report of a run is that of its state but for the status and the error, which also tell how the
run ended. -/
theorem report_conclude (limits : RunLimits) (secrets : List String) (s : RunState)
    (durationMs : Nat) (ending : Ending) : ∃ status error,
      (ending.conclude limits secrets s durationMs).2 =
        { s.report durationMs with status, error } := by
  cases ending with
  | drained =>
    refine ⟨(s.report durationMs).status, (s.report durationMs).error, ?_⟩
    unfold conclude
    dsimp only
    split
    · rfl
    · rfl
  | aborted failure => exact ⟨_, _, rfl⟩
  | timedOut => exact ⟨_, _, rfl⟩

theorem agentResults_conclude (ending : Ending) :
    (ending.conclude limits secrets s durationMs).2.agentResults = s.agentResults := by
  obtain ⟨status, error, hreport⟩ := report_conclude limits secrets s durationMs ending
  rw [hreport]
  rfl

/-- The last event of a run closes its report, if a run that drains without a success has errors. -/
theorem closes_conclude {ending : Ending}
    (herrors : ending = .drained → s.agentResults.any AgentResult.isSuccess = false →
      s.errors ≠ []) :
    (ending.conclude limits secrets s durationMs).1.Closes limits
      (ending.conclude limits secrets s durationMs).2 := by
  cases ending with
  | drained =>
    cases hsuccess : s.agentResults.any AgentResult.isSuccess with
    | true =>
      have hstatus := RunState.status_report_of_success durationMs hsuccess
      unfold conclude
      dsimp only
      rw [hstatus]
      exact ⟨hstatus, rfl, rfl, rfl⟩
    | false =>
      have hstatus := RunState.status_report_of_failed durationMs hsuccess
      -- The errors are there, so nothing has to stand in for them.
      obtain ⟨e, es, hcons⟩ := List.exists_cons_of_ne_nil (herrors rfl hsuccess)
      have herror := RunState.error_report_of_cons durationMs hcons
      unfold conclude
      dsimp only
      rw [hstatus, herror]
      exact ⟨hstatus, herror⟩
  | aborted failure => exact ⟨rfl, rfl⟩
  | timedOut => exact ⟨rfl, rfl⟩

end Ending

namespace Execution

variable {d : Design} {g : Graph} {h : History} {router : Router} {limits : RunLimits}
  {ending : Ending}

/-- The events of a run that has come to its end. -/
theorem events_outcome
    (hrun : Execution g (g.Yields router limits.backoffMs) (limits.initialState d) h)
    (runId : String) (ending : Ending) (durationMs : Nat) :
    (ending.outcome limits router.secrets runId g h.run durationMs).events =
      .started runId d.name g.size ::
        (ending.outcome limits router.secrets runId g h.run durationMs).report.agentResults.map
          Event.ofResult ++ [(ending.conclude limits router.secrets h.run.state durationMs).1] := by
  have hname : h.run.state.design.name = d.name := by
    rw [hrun.state_eq, RunState.design_replay]
    rfl
  have hreport : (ending.outcome limits router.secrets runId g h.run durationMs).report =
      (ending.conclude limits router.secrets h.run.state durationMs).2 := rfl
  rw [hreport, Ending.agentResults_conclude, ← hrun.events_eq (limits.fresh_initialState d), ← hname]
  rfl

/-- However a run ends, its last event closes its report. -/
theorem closes_of_mayEnd (hd : d.compile = .ok g)
    (hrun : Execution g (g.Yields router limits.backoffMs) (limits.initialState d) h)
    (hend : g.MayEnd router limits.backoffMs h ending) (durationMs : Nat) :
    (ending.conclude limits router.secrets h.run.state durationMs).1.Closes limits
      (ending.conclude limits router.secrets h.run.state durationMs).2 := by
  refine Ending.closes_conclude ?_
  rintro rfl hfailed
  exact hrun.errors_ne_nil hd (limits.fresh_initialState d) hend hfailed

end Execution

namespace Design.ComesTo

variable {d : Design} {router : Router} {limits : RunLimits} {runId : String} {o : Outcome}

/-- An event that tells of a failure tells what the report does. -/
theorem error_of_failed (h : d.ComesTo router limits runId o) {error : String}
    (hfailed : .failed error ∈ o.events) : o.report.error = some error := by
  cases h with
  | rejected hd durationMs =>
    cases List.mem_singleton.mp hfailed
    rfl
  | ended hd hrun hend durationMs =>
    have hcloses := hrun.closes_of_mayEnd hd hend durationMs
    rw [hrun.events_outcome, List.mem_append, List.mem_cons, List.mem_singleton] at hfailed
    rcases hfailed with (hfirst | hresult) | hlast
    · cases hfirst
    · obtain ⟨r, -, hr⟩ := List.mem_map.mp hresult
      cases hr
    · rw [← hlast] at hcloses
      exact hcloses.2

/-- **The events of an outcome agree with its report.**  A design that is turned down has one event,
which says why.  Any other has the start of the run with the number of its agents; then for every
result in the report, in order, the completion of an agent with its name, its status, its time and
its costs; and one last event, which closes the report. -/
theorem tells (h : d.ComesTo router limits runId o) :
    (∃ defect, d.compile = .error defect ∧ o.events = [.failed defect.failure.message] ∧
      o.report.status = .failed ∧ o.report.error = some defect.failure.message ∧
      o.report.agentResults = []) ∨
    ∃ g completions last, d.compile = .ok g ∧ g.nodes.length = d.agents.length ∧
      o.events = .started runId d.name d.agents.length :: completions ++ [last] ∧
      List.Forall₂ (fun e r => e = .agentCompleted r.agentName r.status r.durationMs r.costEstimate)
        completions o.report.agentResults ∧
      last.Closes limits o.report := by
  cases h with
  | rejected hd durationMs => exact Or.inl ⟨_, hd, rfl, rfl, rfl, rfl⟩
  | @ended g h ending hd hrun hend durationMs =>
    have hsize := Design.size_of_compile hd
    have hevents := hrun.events_outcome runId ending durationMs
    rw [hsize] at hevents
    refine Or.inr ⟨_, _, _, hd, hsize, hevents, ?_, hrun.closes_of_mayEnd hd hend durationMs⟩
    rw [List.forall₂_map_left_iff, List.forall₂_same]
    exact fun _ _ => rfl

end Design.ComesTo

/-- After two answers the time limit cuts a run of the detour off. -/
theorem Design.ComesTo.tells_detour : ∃ o completions last,
    detour.ComesTo bareRouter {} "run" o ∧ o.report.status = .timeout ∧
    o.report.agentResults.length = 2 ∧
    o.events = .started "run" "d" 3 :: completions ++ [last] ∧
    List.Forall₂ (fun e r => e = .agentCompleted r.agentName r.status r.durationMs r.costEstimate)
      completions o.report.agentResults ∧
    last.Closes {} o.report := by
  obtain ⟨h, hrun, hp⟩ := Execution.exists_of_answers bareRouter {} injection_detour brief [0, 1]
    (g := detourGraph) (p := fun h => h.run.state.agentResults.length == 2)
    (by decide +kernel) (by decide +kernel)
  have hend : detourGraph.MayEnd bareRouter ({} : RunLimits).backoffMs h .timedOut := trivial
  have hcomes : detour.ComesTo bareRouter {} "run"
      (Ending.timedOut.outcome {} bareRouter.secrets "run" detourGraph h.run 0) :=
    .ended compile_detour hrun hend 0
  rcases Design.ComesTo.tells hcomes with
    ⟨defect, hd, -⟩ | ⟨g, completions, last, -, -, hevents, hcompletions, hcloses⟩
  · rw [compile_detour] at hd
    cases hd
  · exact ⟨_, completions, last, hcomes, rfl, beq_iff_eq.mp hp, hevents, hcompletions, hcloses⟩

end AgentPipeline
