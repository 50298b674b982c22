import AgentPipeline.Proofs.Decimal.Comparison
import AgentPipeline.State.Basic

/-!
# Merging updates in any order

Nodes that run side by side hand back their updates in the order in which they complete.  Lists are
appended and counters only rise, so the order shows in nothing but the order of what the lists hold
and in the fields that the last update to set them decides.  Costs are compared as doubles, and what
is not a number counts for none; taken as exact numbers they only rise as well.

## Main definitions

* `RunState.mergeAll` — a state after a list of updates.
* `RunState.Matches` — states that differ in order and in the fields last written at most.
* `RunState.Receives` — what a state keeps, and what the last updates of a list set.

## Main results

* `exact_laterCost` — the later cost is the larger number.
* `RunState.merged_in_any_order` — **merging is insensitive to the order of the updates**, apart from
  the fields that the last one decides.
-/

namespace AgentPipeline

open Decimal

/-- The later cost is the larger number; what is not a number is less than any. -/
theorem exact_laterCost (a b : Float) : exact (laterCost a b) = max (exact a) (exact b) := by
  rw [laterCost]
  by_cases ha : a.isNaN = true
  · rw [if_pos ha, exact_eq_bot_iff.mpr ha, max_bot_left]
  · rw [if_neg ha]
    have hnumber : a.isNaN = false := Bool.eq_false_iff.mpr ha
    by_cases hlt : a < b
    · rw [if_pos hlt]
      exact (max_eq_right (lt_iff.mp hlt).2.2.le).symm
    · rw [if_neg hlt]
      refine (max_eq_left ?_).symm
      by_cases hb : b.isNaN = true
      · rw [exact_eq_bot_iff.mpr hb]
        exact bot_le
      · have hle := (le_iff_not_lt (Bool.eq_false_iff.mpr hb) hnumber).mpr hlt
        exact (le_iff.mp hle).2.2

namespace RunState

/-- The state after all the given updates, in their order. -/
def mergeAll (s : RunState) (us : List Update) : RunState :=
  us.foldl apply s

section Fields

variable (s : RunState) (us : List Update)

@[simp] theorem mergeAll_nil : s.mergeAll [] = s := rfl

@[simp] theorem mergeAll_cons (u : Update) : s.mergeAll (u :: us) = (s.apply u).mergeAll us := rfl

/-- Results are appended in the order of the updates. -/
theorem agentResults_mergeAll :
    (s.mergeAll us).agentResults = s.agentResults ++ us.flatMap Update.agentResults := by
  induction us generalizing s with
  | nil => simp
  | cons u us ih => simp [ih, apply]

/-- Errors are appended in the order of the updates. -/
theorem errors_mergeAll : (s.mergeAll us).errors = s.errors ++ us.flatMap Update.errors := by
  induction us generalizing s with
  | nil => simp
  | cons u us ih => simp [ih, apply]

/-- The step is the highest of all. -/
theorem currentStep_mergeAll : (s.mergeAll us).currentStep =
    (us.filterMap Update.currentStep).foldl max s.currentStep := by
  induction us generalizing s with
  | nil => rfl
  | cons u us ih =>
    rw [mergeAll_cons, ih, List.filterMap_cons]
    cases hstep : u.currentStep with
    | none => simp [apply, hstep]
    | some step => simp [apply, hstep]

/-- The cost is the highest of all, as a number. -/
theorem exact_totalCost_mergeAll : exact (s.mergeAll us).totalCost =
    ((us.filterMap Update.totalCost).map exact).foldl max (exact s.totalCost) := by
  induction us generalizing s with
  | nil => rfl
  | cons u us ih =>
    rw [mergeAll_cons, ih, List.filterMap_cons]
    cases hcost : u.totalCost with
    | none => simp [apply, hcost]
    | some cost => simp [apply, hcost, exact_laterCost]

/-- The current agent is that of the last update to set one. -/
theorem currentAgent_mergeAll : (s.mergeAll us).currentAgent =
    (us.filterMap Update.currentAgent).getLast?.or s.currentAgent := by
  induction us generalizing s with
  | nil => rfl
  | cons u us ih =>
    rw [mergeAll_cons, ih, List.filterMap_cons]
    cases hagent : u.currentAgent with
    | none => simp [apply, hagent]
    | some agent => simp [apply, hagent, List.getLast?_cons]

/-- The final output is that of the last update to set one. -/
theorem finalOutput_mergeAll : (s.mergeAll us).finalOutput =
    (us.filterMap Update.finalOutput).getLast?.or s.finalOutput := by
  induction us generalizing s with
  | nil => rfl
  | cons u us ih =>
    rw [mergeAll_cons, ih, List.filterMap_cons]
    cases houtput : u.finalOutput with
    | none => simp [apply, houtput]
    | some output => simp [apply, houtput, List.getLast?_cons]

/-- No update moves the step limit. -/
theorem maxSteps_mergeAll : (s.mergeAll us).maxSteps = s.maxSteps := by
  induction us generalizing s with
  | nil => rfl
  | cons u us ih => exact ih (s.apply u)

/-- A status that no update sets stays as it is. -/
theorem status_mergeAll (hstatus : ∀ u ∈ us, u.status = none) :
    (s.mergeAll us).status = s.status := by
  induction us generalizing s with
  | nil => rfl
  | cons u us ih =>
    rw [mergeAll_cons, ih _ fun v hv => hstatus v (List.mem_cons_of_mem u hv), apply,
      hstatus u List.mem_cons_self]
    rfl

end Fields

/-- Two states differ at most in the order of what they accumulate and in the fields last written. -/
structure Matches (s t : RunState) : Prop where
  currentStep : s.currentStep = t.currentStep
  totalCost : exact s.totalCost = exact t.totalCost
  shouldStop : s.shouldStop = t.shouldStop
  agentResults : s.agentResults.Perm t.agentResults
  errors : s.errors.Perm t.errors

/-- A state that has received updates keeps in front what it held before, and the last update to set
the current agent or the final output has set it. -/
structure Receives (s : RunState) (us : List Update) (t : RunState) : Prop where
  agentResults : s.agentResults <+: t.agentResults
  errors : s.errors <+: t.errors
  currentAgent :
    t.currentAgent = (us.filterMap Update.currentAgent).getLast?.or s.currentAgent
  finalOutput :
    t.finalOutput = (us.filterMap Update.finalOutput).getLast?.or s.finalOutput

theorem receives_mergeAll (s : RunState) (us : List Update) : s.Receives us (s.mergeAll us) where
  agentResults := by
    rw [agentResults_mergeAll]
    exact List.prefix_append _ _
  errors := by
    rw [errors_mergeAll]
    exact List.prefix_append _ _
  currentAgent := currentAgent_mergeAll s us
  finalOutput := finalOutput_mergeAll s us

/-- The highest of some numbers, the numbers of some lists and the status do not show the order. -/
theorem matches_mergeAll {us us' : List Update} (hperm : us.Perm us')
    (hstatus : ∀ u ∈ us, u.status = none) (s : RunState) :
    (s.mergeAll us).Matches (s.mergeAll us') := by
  have hstatus' : ∀ u ∈ us', u.status = none := fun u hu => hstatus u (hperm.mem_iff.mpr hu)
  have hstep : (s.mergeAll us).currentStep = (s.mergeAll us').currentStep := by
    rw [currentStep_mergeAll, currentStep_mergeAll]
    exact (hperm.filterMap _).foldl_eq _
  have hcost : exact (s.mergeAll us).totalCost = exact (s.mergeAll us').totalCost := by
    rw [exact_totalCost_mergeAll, exact_totalCost_mergeAll]
    exact ((hperm.filterMap _).map _).foldl_eq _
  have hresults : (s.mergeAll us).agentResults.Perm (s.mergeAll us').agentResults := by
    rw [agentResults_mergeAll, agentResults_mergeAll]
    exact (hperm.flatMap_right _).append_left _
  have herrors : (s.mergeAll us).errors.Perm (s.mergeAll us').errors := by
    rw [errors_mergeAll, errors_mergeAll]
    exact (hperm.flatMap_right _).append_left _
  refine ⟨hstep, hcost, ?_, hresults, herrors⟩
  -- The stop condition reads the number of errors, the step, its limit and the status alone.
  rw [shouldStop, shouldStop, herrors.length_eq, hstep, maxSteps_mergeAll, maxSteps_mergeAll,
    status_mergeAll s us hstatus, status_mergeAll s us' hstatus']

/-- **Merging is insensitive to the order of the updates** apart from the fields last written: in
any order the step, the cost as a number and the stop condition come out the same, and the lists
hold the same.  In each order the lists keep in front what they held before, and the current agent
and the final output are those of the last update to set them. -/
theorem merged_in_any_order {us us' : List Update} (hperm : us.Perm us')
    (hstatus : ∀ u ∈ us, u.status = none) (s : RunState) :
    (s.mergeAll us).Matches (s.mergeAll us') ∧ s.Receives us (s.mergeAll us) ∧
      s.Receives us' (s.mergeAll us') :=
  ⟨matches_mergeAll hperm hstatus s, receives_mergeAll s us, receives_mergeAll s us'⟩

/-- The updates of two branches, the slower of which worked on an older state. -/
def branchUpdates : List Update :=
  [{ errors := ["timed out"], currentStep := some 3, totalCost := some 0.5,
     currentAgent := some "fast", finalOutput := some "first" },
   { errors := ["refused"], currentStep := some 2, totalCost := some 0.25,
     currentAgent := some "slow", finalOutput := some "second" }]

theorem merged_in_any_order_branches : branchUpdates.Perm branchUpdates.reverse ∧
    (∀ u ∈ branchUpdates, u.status = none) ∧
    let s := initial { name := "d", agents := [] } 50 300
    (s.mergeAll branchUpdates).Matches (s.mergeAll branchUpdates.reverse) ∧
      s.Receives branchUpdates (s.mergeAll branchUpdates) ∧
      s.Receives branchUpdates.reverse (s.mergeAll branchUpdates.reverse) := by
  have hperm : branchUpdates.Perm branchUpdates.reverse := (List.reverse_perm _).symm
  have hstatus : ∀ u ∈ branchUpdates, u.status = none := by simp [branchUpdates]
  exact ⟨hperm, hstatus, merged_in_any_order hperm hstatus _⟩

end RunState

end AgentPipeline
