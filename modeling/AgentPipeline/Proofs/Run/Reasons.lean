import AgentPipeline.Proofs.Run.Outcome
import AgentPipeline.Proofs.Text.Secrecy

/-!
# Why a run did not complete

A report may tell an error in three ways: the errors of the agents that failed, the failure that
ended the run, or that the time was up.  All of them say something.  They begin with words of their
own, or they have been redacted or cut, which leaves a bracket or a dot in them.  So none is empty,
and none could be mistaken for what is said of a run that has nothing to say.

## Main definitions

* `Telling` — a text is no beginning of what is said of a run without a success and without an error.

## Main results

* `Telling.redact`, `Telling.truncateError` — redacting and cutting leave a text telling.
* `Execution.telling_of_mem_errors` — the errors that a run has accumulated are telling.
* `Ending.telling_of_error` — so is the error of a report.
* `Design.ComesTo.says_why` — **a report says why, and only when there is a reason.**
-/

namespace AgentPipeline

/-! ### Telling texts -/

/-- A text is no beginning of what is said of a run without a success and without an error.  In
particular it is not empty. -/
def Telling (text : String) : Prop :=
  ¬ text.toList <+: allAgentsFailed.toList

instance (text : String) : Decidable (Telling text) :=
  inferInstanceAs (Decidable (¬ _))

namespace Telling

variable {t : String}

theorem ne_empty (h : Telling t) : t ≠ "" := by
  rintro rfl
  exact h List.nil_prefix

theorem ne_allAgentsFailed (h : Telling t) : t ≠ allAgentsFailed := by
  rintro rfl
  exact h (List.prefix_refl _)

/-- A text that begins with a telling one is telling. -/
theorem append (h : Telling t) (rest : String) : Telling (t ++ rest) := by
  intro hbegins
  rw [String.toList_append] at hbegins
  exact h ((List.prefix_append _ _).trans hbegins)

/-- A text is telling if it has a character that is not said otherwise. -/
theorem of_mem {c : Char} (hc : c ∉ allAgentsFailed.toList) (h : c ∈ t.toList) : Telling t :=
  fun hbegins => hc (hbegins.subset h)

theorem redact (h : Telling t) (secrets : List String) : Telling (Secrets.redact secrets t) := by
  rcases Secrets.redact_eq_or_mem secrets t with heq | hmem
  · rwa [heq]
  · exact of_mem (by decide) hmem

theorem truncateError (h : Telling t) :
    Telling (String.ofList (Text.truncateError t.toList)) := by
  rcases Text.truncateError_eq_or_mem (s := t.toList) with heq | hmem
  · rwa [heq, String.ofList_toList]
  · refine of_mem (c := '.') (by decide) ?_
    rwa [String.toList_ofList]

/-- Texts that are joined are telling if the first of them is. -/
theorem intercalate (h : Telling t) (separator : String) (texts : List String) :
    Telling (separator.intercalate (t :: texts)) := by
  cases texts with
  | nil => rwa [String.intercalate_singleton]
  | cons t' texts =>
    rw [String.intercalate_cons_cons, String.append_assoc]
    exact h.append _

end Telling

/-! ### What is told -/

/-- Whatever went wrong, its announcement is telling. -/
theorem Failure.telling_message (f : Failure) : Telling f.message := by
  have hlabel : Telling f.kind.label := by
    cases f.kind <;> decide
  exact hlabel.append _

/-- What a failed node tells is telling. -/
theorem Worker.Tells.telling {w : Worker} {text : String} (h : w.Tells text) : Telling text := by
  rcases h with rfl | ⟨f, rfl⟩
  · exact rejection.telling_message
  · refine Telling.redact ?_ w.secrets
    have hagent : Telling "Agent '" := by decide
    change Telling ("Agent '" ++ w.id ++ "' failed: " ++ f.message)
    rw [String.append_assoc, String.append_assoc]
    exact hagent.append _

namespace Execution

variable {g : Graph} {router : Router} {backoffMs : Nat} {s : RunState} {h : History}

/-- The errors that a run has accumulated are telling. -/
theorem telling_of_mem_errors (hrun : Execution g (g.Yields router backoffMs) s h) (hs : s.Fresh)
    {error : String} (herror : error ∈ h.run.state.errors) : Telling error := by
  induction hrun with
  | begin =>
    have hnone : error ∈ s.errors := herror
    rw [hs.errors] at hnone
    exact absurd hnone List.not_mem_nil
  | complete _ _ _ hhands ih =>
    rw [History.state_complete, RunState.apply, List.mem_append] at herror
    rcases herror with herror | herror
    · exact ih herror
    · obtain ⟨n, text, -, htells, rfl⟩ := hhands.exists_tells herror
      exact htells.telling.truncateError

end Execution

namespace Ending

variable {limits : RunLimits} {secrets : List String} {s : RunState} {durationMs : Nat}

/-- The report of a run that drains is that of its state. -/
theorem conclude_drained (limits : RunLimits) (secrets : List String) (s : RunState)
    (durationMs : Nat) : (drained.conclude limits secrets s durationMs).2 = s.report durationMs := by
  unfold conclude
  dsimp only
  split
  · rfl
  · rfl

/-- The error of a report is telling if those that the run has accumulated are. -/
theorem telling_of_error (herrors : ∀ e ∈ s.errors, Telling e) {ending : Ending} {error : String}
    (herror : (ending.conclude limits secrets s durationMs).2.error = some error) :
    Telling error := by
  cases ending with
  | drained =>
    rw [conclude_drained] at herror
    cases hcons : s.errors with
    | nil =>
      rw [RunState.report, hcons] at herror
      cases herror
    | cons e es =>
      rw [RunState.error_report_of_cons durationMs hcons] at herror
      cases herror
      exact (herrors e (hcons ▸ List.mem_cons_self)).intercalate _ _
  | aborted failure =>
    cases herror
    exact failure.telling_message.redact secrets
  | timedOut =>
    cases herror
    have htimedOut : Telling "Pipeline execution timed out after " := by decide
    exact htimedOut.append _

end Ending

/-! ### What a report says -/

/-- A report says why a run did not complete or which agents failed, and says nothing otherwise. -/
structure RunReport.SaysWhy (report : RunReport) : Prop where
  status : report.status = .completed ∨ report.status = .failed ∨ report.status = .timeout
  /-- There is an error with some text when the run did not complete or an agent failed. -/
  error_iff : (∃ error, report.error = some error ∧ error ≠ "") ↔
    report.status ≠ .completed ∨ ∃ r ∈ report.agentResults, r.status = .failed
  /-- A run that completed has a success. -/
  success : report.status = .completed → ∃ r ∈ report.agentResults, r.status = .success

theorem RunReport.SaysWhy.of_telling {report : RunReport}
    (hstatus : report.status = .failed ∨ report.status = .timeout) {error : String}
    (herror : report.error = some error) (htelling : Telling error) : report.SaysWhy := by
  have hne : report.status ≠ .completed := by
    rcases hstatus with hstatus | hstatus
    · rw [hstatus]
      exact RunStatus.noConfusion
    · rw [hstatus]
      exact RunStatus.noConfusion
  refine ⟨Or.inr hstatus, iff_of_true ⟨error, herror, htelling.ne_empty⟩ (Or.inl hne), ?_⟩
  intro hcompleted
  exact absurd hcompleted hne

namespace Execution

variable {d : Design} {g : Graph} {router : Router} {limits : RunLimits} {h : History}

/-- The report of a run that drains says why: an agent has failed, and then there are errors, or all
of them are successes. -/
theorem saysWhy_of_drained (hd : d.compile = .ok g)
    (hrun : Execution g (g.Yields router limits.backoffMs) (limits.initialState d) h)
    (hdrained : h.run.schedule.running = []) (durationMs : Nat) :
    (h.run.state.report durationMs).SaysWhy := by
  have hs := limits.fresh_initialState d
  have hfailed : h.run.state.errors ≠ [] ↔ ∃ r ∈ h.run.state.agentResults, r.status = .failed := by
    rw [Ne, hrun.errors_eq_nil_iff hs]
    simp only [ne_eq, not_forall, not_not, exists_prop]
  have herror : (∃ error, (h.run.state.report durationMs).error = some error ∧ error ≠ "") ↔
      h.run.state.errors ≠ [] := by
    constructor
    · rintro ⟨error, hsome, -⟩ hnone
      rw [RunState.report, hnone] at hsome
      cases hsome
    · intro hne
      obtain ⟨e, es, hcons⟩ := List.exists_cons_of_ne_nil hne
      have htelling := hrun.telling_of_mem_errors hs (hcons ▸ List.mem_cons_self)
      exact ⟨_, RunState.error_report_of_cons durationMs hcons, (htelling.intercalate _ _).ne_empty⟩
  cases hsuccess : h.run.state.agentResults.any AgentResult.isSuccess with
  | true =>
    have hstatus := RunState.status_report_of_success durationMs hsuccess
    refine ⟨Or.inl hstatus, ?_, fun _ => ?_⟩
    · rw [herror, hfailed]
      exact (or_iff_right (not_not_intro hstatus)).symm
    · obtain ⟨r, hr, hsucceeded⟩ := List.any_eq_true.mp hsuccess
      exact ⟨r, hr, beq_iff_eq.mp hsucceeded⟩
  | false =>
    have hstatus := RunState.status_report_of_failed durationMs hsuccess
    have hne : (h.run.state.report durationMs).status ≠ .completed := by
      rw [hstatus]
      exact RunStatus.noConfusion
    have hreason := herror.mpr (hrun.errors_ne_nil hd hs hdrained hsuccess)
    exact ⟨Or.inr (Or.inl hstatus), iff_of_true hreason (Or.inl hne), fun h => absurd h hne⟩

end Execution

namespace Design.ComesTo

variable {d : Design} {router : Router} {limits : RunLimits} {runId : String} {o : Outcome}

/-- Whatever error a report tells is telling. -/
theorem telling_of_error (h : d.ComesTo router limits runId o) {error : String}
    (herror : o.report.error = some error) : Telling error := by
  cases h with
  | @rejected defect hd durationMs =>
    cases herror
    exact defect.failure.telling_message
  | ended hd hrun hend durationMs =>
    exact Ending.telling_of_error
      (fun e he => hrun.telling_of_mem_errors (limits.fresh_initialState d) he) herror

/-- **A report says why, and only when there is a reason**: the run did not complete, or an agent
failed.  No event has to make do with what is said of a run that has nothing to say. -/
theorem says_why (h : d.ComesTo router limits runId o) :
    o.report.SaysWhy ∧ .failed allAgentsFailed ∉ o.events := by
  have htelling : ∀ error, o.report.error = some error → Telling error :=
    fun _ herror => h.telling_of_error herror
  refine ⟨?_, fun hmem => (htelling _ (h.error_of_failed hmem)).ne_allAgentsFailed rfl⟩
  cases h with
  | rejected hd durationMs => exact .of_telling (Or.inl rfl) rfl (htelling _ rfl)
  | @ended g h ending hd hrun hend durationMs =>
    cases ending with
    | drained =>
      have hdrained := hrun.saysWhy_of_drained hd hend durationMs
      rw [← Ending.conclude_drained limits router.secrets] at hdrained
      exact hdrained
    | aborted failure => exact .of_telling (Or.inl rfl) rfl (htelling _ rfl)
    | timedOut => exact .of_telling (Or.inr rfl) rfl (htelling _ rfl)

/-- A run of the detour in which two agents fail completes, and its report tells their errors. -/
theorem says_why_detour : ∃ o, detour.ComesTo bareRouter { maxSteps := 3 } "run" o ∧
    o.report.SaysWhy ∧ o.report.status = .completed ∧
    (∃ error, o.report.error = some error ∧ error ≠ "") ∧ .failed allAgentsFailed ∉ o.events := by
  obtain ⟨h, hrun, hp⟩ : ∃ h, Execution detourGraph (detourGraph.Yields bareRouter 1000)
      (({ maxSteps := 3 } : RunLimits).initialState detour) h ∧
      (h.run.schedule.running.isEmpty && (h.run.state.agentResults.any AgentResult.isSuccess &&
        h.run.state.agentResults.any fun r => r.status == .failed)) = true :=
    Execution.exists_of_script yields_setbacks (by decide +kernel)
  rw [Bool.and_eq_true, List.isEmpty_iff, Bool.and_eq_true] at hp
  obtain ⟨hdrained, hsuccess, hfailed⟩ := hp
  have hend : detourGraph.MayEnd bareRouter 1000 h .drained := hdrained
  have hcomes : detour.ComesTo bareRouter { maxSteps := 3 } "run"
      (Ending.drained.outcome { maxSteps := 3 } bareRouter.secrets "run" detourGraph h.run 0) :=
    .ended compile_detour hrun hend 0
  obtain ⟨hwhy, hnever⟩ := ComesTo.says_why hcomes
  have hreport := Ending.conclude_drained { maxSteps := 3 } bareRouter.secrets h.run.state 0
  obtain ⟨r, hr, hstatus⟩ := List.any_eq_true.mp hfailed
  refine ⟨_, hcomes, hwhy, ?_, hwhy.error_iff.mpr (Or.inr ⟨r, ?_, beq_iff_eq.mp hstatus⟩), hnever⟩
  · exact (congrArg RunReport.status hreport).trans (RunState.status_report_of_success 0 hsuccess)
  · exact (congrArg RunReport.agentResults hreport).symm ▸ hr

end Design.ComesTo

end AgentPipeline
