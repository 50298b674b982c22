import AgentPipeline.Proofs.Run.History

/-!
# What a run goes on to

A history is a moment of a run, and the run goes on from there as completions come in.  What has
been launched by then stays in front of all that follows.  Conversely every completion of a run was
once the next one: it was made in the history of the completions before it.

## Main definitions

* `Continues` — the histories that a run goes on to from a history.
* `History.Admits` — a completion may be the next one.

## Main results

* `Continues.execution`, `Execution.continues_begin` — the histories of a run are what it goes on to.
* `Continues.launches_prefix` — no launch is taken back.
* `Execution.exists_before` — **a run may be taken apart at any of its completions.**
-/

namespace AgentPipeline

/-- The histories that a run goes on to from a given one: any running node completes, time and
again. -/
inductive Continues (g : Graph) (hands : Nat → RunState → Update → Prop) (h : History) :
    History → Prop where
  | refl : Continues g hands h h
  | complete {k : History} {l : Launch} {u : Update} (hnext : Continues g hands h k)
      (hlaunch : l ∈ k.launches) (hrunning : l.node ∈ k.run.schedule.running)
      (hhands : hands l.node l.snapshot u) : Continues g hands h (k.complete g l.node u)

/-- A completion may be the next one of a history. -/
structure History.Admits (g : Graph) (hands : Nat → RunState → Update → Prop) (h : History)
    (m : Merge) : Prop where
  running : m.node ∈ h.run.schedule.running
  hands : ∃ l ∈ h.launches, l.node = m.node ∧ hands m.node l.snapshot m.update
  state : m.state = h.run.state.apply m.update
  waiting : m.waiting = (h.run.routed g m.node m.update).waiting

variable {g : Graph} {hands : Nat → RunState → Update → Prop} {s : RunState} {h k : History}

namespace Continues

/-- What a run goes on to is a history of the run. -/
theorem execution (hnext : Continues g hands h k) (hrun : Execution g hands s h) :
    Execution g hands s k := by
  induction hnext with
  | refl => exact hrun
  | complete _ hlaunch hrunning hhands ih => exact ih.complete hlaunch hrunning hhands

/-- What has been launched stays in front. -/
theorem launches_prefix (hnext : Continues g hands h k) : h.launches <+: k.launches := by
  induction hnext with
  | refl => exact List.prefix_refl _
  | complete _ _ _ _ ih =>
    rw [History.launches_complete]
    exact ih.trans (List.prefix_append _ _)

end Continues

/-- A run goes on from the launch of its entries. -/
theorem Execution.continues_begin (hrun : Execution g hands s h) :
    Continues g hands (.begin g s) h := by
  induction hrun with
  | begin => exact .refl
  | complete _ hlaunch hrunning hhands ih => exact ih.complete hlaunch hrunning hhands

/-- **A run may be taken apart at any of its completions**: that was once the next one of the history
with the completions before it, and the run has gone on from there. -/
theorem Execution.exists_before (hrun : Execution g hands s k) {before after : List Merge} {m : Merge}
    (hmerges : k.merges = before ++ m :: after) :
    ∃ h, Execution g hands s h ∧ h.merges = before ∧ h.Admits g hands m ∧
      Continues g hands (h.complete g m.node m.update) k := by
  induction hrun generalizing after with
  | begin => exact absurd hmerges.symm (List.append_ne_nil_of_right_ne_nil _ (List.cons_ne_nil _ _))
  | @complete h l u hrun hlaunch hrunning hhands ih =>
    rw [History.merges_complete] at hmerges
    rcases List.eq_nil_or_concat after with rfl | ⟨after, last, rfl⟩
    · -- It is the latest completion of all.
      obtain ⟨rfl, hlast⟩ := List.append_inj' hmerges rfl
      obtain rfl := List.singleton_inj.mp hlast
      exact ⟨h, hrun, rfl, ⟨hrunning, ⟨l, hlaunch, rfl, hhands⟩, rfl, rfl⟩, .refl⟩
    · rw [List.concat_eq_append, ← List.cons_append, ← List.append_assoc] at hmerges
      obtain ⟨hbefore, -⟩ := List.append_inj' hmerges rfl
      obtain ⟨h', hrun', hmerges', hadmits, hnext⟩ := ih hbefore
      exact ⟨h', hrun', hmerges', hadmits, hnext.complete hlaunch hrunning hhands⟩

end AgentPipeline
