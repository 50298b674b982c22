import AgentPipeline.Proofs.Run.Continuation
import AgentPipeline.Proofs.Run.Stopping

/-!
# The stop condition freezes routing

Updates leave the status of a run alone, errors only come in and steps are not taken back, so the
stop condition goes on to hold once it does, however old the snapshots are that later updates were
made on.  From that completion on control passes to nobody, whatever the routing of a node; the queue
can only get shorter, and what is launched afterwards waited before.

## Main definitions

* `Merge.Idle` — a completion at which control passes to nobody.
* `History.Frozen` — from a history on nobody is queued.

## Main results

* `History.Frozen.complete` — a completion at which the stop condition holds queues nobody.
* `Execution.frozen_of_shouldStop` — **once the stop condition holds it holds for good and freezes
  routing.**
-/

namespace AgentPipeline

/-- A completion at which the stop condition holds, control passes to nobody, and nobody waits who is
not among the given nodes. -/
structure Merge.Idle (g : Graph) (waiting : List Nat) (m : Merge) : Prop where
  stops : m.state.shouldStop = true
  successors : g.successors m.node m.state = []
  waiting : m.waiting ⊆ waiting

/-- From one history on to another nobody is queued: every completion is idle, and whoever is launched
waited before. -/
structure History.Frozen (g : Graph) (h k : History) : Prop where
  merges : ∃ later, k.merges = h.merges ++ later ∧ ∀ m ∈ later, m.Idle g h.run.schedule.waiting
  launches : ∃ later, k.launches = h.launches ++ later ∧
    ∀ l ∈ later, l.node ∈ h.run.schedule.waiting
  waiting : k.run.schedule.waiting ⊆ h.run.schedule.waiting

/-- Control passes to nobody when the stop condition holds. -/
theorem Graph.successors_of_shouldStop {g : Graph} {s : RunState} (h : s.shouldStop = true)
    (node : Nat) : g.successors node s = [] :=
  if_pos h

/-- Nobody is queued at a completion at which the stop condition holds. -/
theorem Run.waiting_routed_of_shouldStop {g : Graph} {r : Run} {node : Nat} {u : Update}
    (h : (r.state.apply u).shouldStop = true) :
    (r.routed g node u).waiting = r.schedule.waiting := by
  rw [routed, Graph.successors_of_shouldStop h]
  rfl

namespace History.Frozen

variable {g : Graph} {h k : History}

theorem refl (h : History) : h.Frozen g h := by
  refine ⟨⟨[], (List.append_nil _).symm, ?_⟩, ⟨[], (List.append_nil _).symm, ?_⟩, fun _ hv => hv⟩
  · intro m hm
    exact absurd hm List.not_mem_nil
  · intro l hl
    exact absurd hl List.not_mem_nil

/-- A completion at which the stop condition holds queues nobody. -/
theorem complete (hfrozen : h.Frozen g k) {node : Nat} {u : Update}
    (hstop : (k.run.state.apply u).shouldStop = true) : h.Frozen g (k.complete g node u) := by
  have hrouted : (k.run.routed g node u).waiting ⊆ h.run.schedule.waiting := by
    rw [Run.waiting_routed_of_shouldStop hstop]
    exact hfrozen.waiting
  obtain ⟨merges, hmerges, hidle⟩ := hfrozen.merges
  obtain ⟨launches, hlaunches, hwaited⟩ := hfrozen.launches
  refine ⟨⟨_, by rw [History.merges_complete, hmerges, List.append_assoc], ?_⟩,
    ⟨_, by rw [History.launches_complete, hlaunches, List.append_assoc], ?_⟩, ?_⟩
  · intro m hm
    rcases List.mem_append.mp hm with hm | hm
    · exact hidle m hm
    · rw [List.mem_singleton] at hm
      subst hm
      exact ⟨hstop, Graph.successors_of_shouldStop hstop node, hrouted⟩
  · intro l hl
    rcases List.mem_append.mp hl with hl | hl
    · exact hwaited l hl
    · obtain ⟨v, hv, rfl⟩ := List.mem_map.mp hl
      exact hrouted (Schedule.mem_ready_iff.mp hv).1
  · intro v hv
    exact hrouted (History.mem_waiting_complete.mp hv).1

end History.Frozen

section

variable {g : Graph} {router : Router} {backoffMs node : Nat} {u : Update} {s : RunState}
  {h k : History}

/-- After a completion at which the stop condition holds it goes on to hold and nobody is queued. -/
theorem Continues.frozen (hstop : (h.run.state.apply u).shouldStop = true)
    (hnext : Continues g (g.Yields router backoffMs) (h.complete g node u) k) :
    k.run.state.shouldStop = true ∧ h.Frozen g k := by
  induction hnext with
  | refl => exact ⟨hstop, (History.Frozen.refl h).complete hstop⟩
  | complete _ _ _ hhands ih =>
    have hlater := RunState.shouldStop_apply ih.1 hhands.status
    exact ⟨hlater, ih.2.complete hlater⟩

/-- **Once the stop condition holds it holds for good and freezes routing**, whatever comes of the
nodes and in whichever order they complete.  A run with a completion at which it holds was, before
that, in a history from which nobody has been queued: control passes to nobody at this completion and
at all later ones, and every node that has been launched since waited before. -/
theorem Execution.frozen_of_shouldStop (hrun : Execution g (g.Yields router backoffMs) s k)
    {before after : List Merge} {m : Merge} (hmerges : k.merges = before ++ m :: after)
    (hstop : m.state.shouldStop = true) :
    ∃ h, Execution g (g.Yields router backoffMs) s h ∧ h.merges = before ∧
      Continues g (g.Yields router backoffMs) (h.complete g m.node m.update) k ∧
      (∀ m' ∈ m :: after, m'.Idle g h.run.schedule.waiting) ∧ k.run.state.shouldStop = true ∧
      h.Frozen g k := by
  obtain ⟨h, hrun', hbefore, hadmits, hnext⟩ := hrun.exists_before hmerges
  have hstop' : (h.run.state.apply m.update).shouldStop = true := by
    rw [← hadmits.state]
    exact hstop
  obtain ⟨hlater, hfrozen⟩ := hnext.frozen hstop'
  refine ⟨h, hrun', hbefore, hnext, ?_, hlater, hfrozen⟩
  obtain ⟨later, hsplit, hidle⟩ := hfrozen.merges
  rw [hmerges, hbefore] at hsplit
  rw [List.append_cancel_left hsplit]
  exact hidle

end

/-- With two steps the stop condition holds once `b` has completed.  The join of the detour waited
before that: it is still launched, and its completion queues nobody either. -/
theorem Execution.frozen_detour : ∃ k, Execution detourGraph (detourGraph.Yields bareRouter 1000)
      (({ maxSteps := 2 } : RunLimits).initialState detour) k ∧
    ∃ before m after, k.merges = before ++ m :: after ∧ m.node = 1 ∧ m.state.shouldStop = true ∧
      after.map Merge.node = [2] ∧ k.run.state.shouldStop = true ∧
      ∃ h : History, h.merges = before ∧ h.Frozen detourGraph k := by
  obtain ⟨k, hrun, hp⟩ := Execution.exists_of_answers bareRouter { maxSteps := 2 }
    injection_detour brief [0, 1, 2] (g := detourGraph)
    (p := fun k => (k.merges.drop 1).map (fun m => (m.node, m.state.shouldStop)) =
      [(1, true), (2, true)])
    (by decide +kernel) (by decide +kernel)
  obtain ⟨m, after, hdrop, hm, hafter⟩ := List.map_eq_cons_iff.mp (of_decide_eq_true hp)
  obtain ⟨hnode, hstop⟩ := Prod.mk.inj hm
  have hnodes : after.map Merge.node = [2] := by
    have hfst := congrArg (List.map Prod.fst) hafter
    rwa [List.map_map] at hfst
  have hmerges : k.merges = k.merges.take 1 ++ m :: after := by
    rw [← hdrop, List.take_append_drop]
  obtain ⟨h, -, hbefore, -, -, hlater, hfrozen⟩ :=
    Execution.frozen_of_shouldStop hrun hmerges hstop
  exact ⟨k, hrun, k.merges.take 1, m, after, hmerges, hnode, hstop, hnodes, hlater, h, hbefore,
    hfrozen⟩

end AgentPipeline
