import AgentPipeline.Proofs.Run.Ancestors
import AgentPipeline.Proofs.Run.Progress

/-!
# The stop condition

The stop condition is asked for when control is to pass on, and a node may be launched long after
control has passed to it.  Once the condition holds, control passes to nobody any more; but a join
that waits by then is launched all the same as soon as its branches have settled, and counts one
more step than there should be.  So a run halts in time exactly when nobody waits at that moment.

## Main definitions

* `History.Halts` — only entries are launched while the stop condition holds, and the steps stay
  within their limit.

## Main results

* `RunState.shouldStop_apply` — the stop condition goes on to hold.
* `Execution.halts_iff` — **when a run halts in time.**
* `join_launched_after_stop` — a run that does not.
-/

namespace AgentPipeline

/-- Only entries are launched while the stop condition holds, and no state counts more steps than
there should be. -/
structure History.Halts (g : Graph) (h : History) : Prop where
  launches : ∀ l ∈ h.launches, l.node ∉ g.entries → l.snapshot.shouldStop = false
  steps : ∀ m ∈ h.merges, m.state.currentStep ≤ m.state.maxSteps

/-! ### The condition along a run -/

namespace RunState

variable {s : RunState} {u : Update}

theorem shouldStop_eq_true_iff : s.shouldStop = true ↔
    maxErrors ≤ s.errors.length ∨ s.maxSteps ≤ s.currentStep ∨ s.status.isTerminal = true := by
  rw [shouldStop, Bool.or_eq_true, Bool.or_eq_true, decide_eq_true_eq, decide_eq_true_eq, or_assoc]

theorem currentStep_lt_maxSteps (h : s.shouldStop = false) : s.currentStep < s.maxSteps := by
  by_contra hge
  rw [← Bool.not_eq_true, shouldStop_eq_true_iff] at h
  exact h (Or.inr (Or.inl (Nat.le_of_not_lt hge)))

theorem currentStep_apply {n : Nat} (hu : u.currentStep = some n) :
    (s.apply u).currentStep = max s.currentStep n := by
  rw [apply, hu]
  rfl

/-- Steps are never taken back. -/
theorem currentStep_le_apply (s : RunState) (u : Update) :
    s.currentStep ≤ (s.apply u).currentStep := by
  cases hu : u.currentStep with
  | none =>
    rw [apply, hu]
    exact Nat.le_refl _
  | some n =>
    rw [currentStep_apply hu]
    exact Nat.le_max_left _ _

/-- The stop condition goes on to hold when an update leaves the status alone. -/
theorem shouldStop_apply (h : s.shouldStop = true) (hu : u.status = none) :
    (s.apply u).shouldStop = true := by
  rw [shouldStop_eq_true_iff] at h ⊢
  rcases h with herrors | hsteps | hover
  · left
    rw [apply, List.length_append]
    exact Nat.le_add_right_of_le herrors
  · right; left
    exact hsteps.trans (currentStep_le_apply s u)
  · right; right
    rw [apply, hu]
    exact hover

end RunState

namespace Execution

variable {g : Graph} {router : Router} {backoffMs : Nat} {s : RunState} {h : History}

/-- Once the stop condition holds it holds from then on. -/
theorem shouldStop_of_merge (hrun : Execution g (g.Yields router backoffMs) s h) {m : Merge}
    (hm : m ∈ h.merges) (hstop : m.state.shouldStop = true) : h.run.state.shouldStop = true := by
  induction hrun with
  | begin => exact absurd hm List.not_mem_nil
  | complete _ _ _ hhands ih =>
    rw [History.state_complete]
    rcases History.mem_merges_complete.mp hm with hm | rfl
    · exact RunState.shouldStop_apply (ih hm) hhands.status
    · exact hstop

theorem shouldStop_snapshot (hrun : Execution g (g.Yields router backoffMs) s h) {l : Launch}
    (hl : l ∈ h.launches) {m : Merge} (hm : m ∈ l.merged) (hstop : m.state.shouldStop = true) :
    l.snapshot.shouldStop = true := by
  induction hrun with
  | begin =>
    obtain ⟨v, -, rfl⟩ := List.mem_map.mp hl
    exact absurd hm List.not_mem_nil
  | complete hrun hlaunch hrunning hhands ih =>
    rcases History.mem_launches_complete.mp hl with hl | ⟨v, -, rfl⟩
    · exact ih hl
    · exact (hrun.complete hlaunch hrunning hhands).shouldStop_of_merge hm hstop

/-! ### Launches out of the queue -/

variable {hands : Nat → RunState → Update → Prop}

/-- An entry is launched before anything has been merged. -/
theorem merged_eq_nil_of_entry (hg : g.WellFormed) (hrun : Execution g hands s h) {l : Launch}
    (hl : l ∈ h.launches) (hentry : l.node ∈ g.entries) : l.merged = [] := by
  have hfirst : ⟨l.node, [], s⟩ ∈ h.launches := by
    clear hl
    induction hrun with
    | begin => exact List.mem_map.mpr ⟨l.node, hentry, rfl⟩
    | complete _ _ _ _ ih => exact History.mem_launches_complete.mpr (Or.inl ih)
  rw [hrun.launch_eq_of_node_eq hg hl hfirst rfl]

/-- A node that waited at a completion is launched when that has been merged. -/
theorem mem_merged_of_waiting (hg : g.WellFormed) (hrun : Execution g hands s h) {l : Launch}
    (hl : l ∈ h.launches) {m : Merge} (hm : m ∈ h.merges) (hwaiting : l.node ∈ m.waiting) :
    m ∈ l.merged := by
  induction hrun with
  | begin => exact absurd hm List.not_mem_nil
  | @complete h k u hrun _ hrunning _ ih =>
    rcases History.mem_launches_complete.mp hl with hl | ⟨v, -, rfl⟩
    · rcases History.mem_merges_complete.mp hm with hm | rfl
      · exact ih hl hm
      · -- A node that waits now cannot have been launched before.
        have hnot := (Run.sane_routed (hrun.sane hg) hg hrunning).not_launched _ hwaiting
        rw [Run.launched_routed] at hnot
        exact absurd (hrun.mem_launched_iff.mpr ⟨l, hl, rfl⟩) hnot
    · exact hm

/-- Whatever is launched is an entry or waited at the completion that its snapshot is taken from. -/
theorem entry_or_waited (hrun : Execution g hands s h) {l : Launch} (hl : l ∈ h.launches) :
    l.node ∈ g.entries ∨ ∃ m ∈ h.merges, l.node ∈ m.waiting ∧ m.state = l.snapshot := by
  induction hrun with
  | begin =>
    obtain ⟨v, hv, rfl⟩ := List.mem_map.mp hl
    exact Or.inl hv
  | complete _ _ _ _ ih =>
    rcases History.mem_launches_complete.mp hl with hl | ⟨v, hv, rfl⟩
    · rcases ih hl with hentry | ⟨m, hm, hwaiting, hstate⟩
      · exact Or.inl hentry
      · exact Or.inr ⟨m, List.mem_append_left _ hm, hwaiting, hstate⟩
    · have hwaiting := (Schedule.mem_ready_iff.mp hv).1
      exact Or.inr ⟨_, List.mem_append_right _ List.mem_cons_self, hwaiting, rfl⟩

/-! ### When a run halts in time -/

theorem maxSteps_state (hrun : Execution g hands s h) : h.run.state.maxSteps = s.maxSteps := by
  rw [hrun.state_eq, RunState.maxSteps_replay]

theorem maxSteps_merge (hrun : Execution g hands s h) {m : Merge} (hm : m ∈ h.merges) :
    m.state.maxSteps = s.maxSteps := by
  obtain ⟨before, hstate⟩ := hrun.state_of_merge hm
  rw [hstate]
  exact s.maxSteps_replay before

theorem maxSteps_snapshot (hrun : Execution g hands s h) {l : Launch} (hl : l ∈ h.launches) :
    l.snapshot.maxSteps = s.maxSteps := by
  rw [hrun.snapshot_eq hl, RunState.maxSteps_replay]

/-- The steps stay within their limit when nothing but the entries is launched at it. -/
theorem steps_le (hg : g.WellFormed) (hrun : Execution g (g.Yields router backoffMs) s h)
    (hstart : s.currentStep < s.maxSteps)
    (hlaunches : ∀ l ∈ h.launches, l.node ∉ g.entries → l.snapshot.shouldStop = false) :
    h.run.state.currentStep ≤ s.maxSteps ∧ ∀ m ∈ h.merges, m.state.currentStep ≤ s.maxSteps := by
  induction hrun with
  | begin =>
    refine ⟨hstart.le, ?_⟩
    intro m hm
    exact absurd hm List.not_mem_nil
  | @complete h l u hrun hlaunch _ hhands ih =>
    have hbefore : ∀ k ∈ h.launches, k.node ∉ g.entries → k.snapshot.shouldStop = false := by
      intro k hk
      exact hlaunches k (History.mem_launches_complete.mpr (Or.inl hk))
    obtain ⟨hstate, hmerges⟩ := ih hbefore
    -- One step more than the snapshot is within the limit, as the snapshot was below it.
    have hsnapshot : l.snapshot.currentStep < s.maxSteps := by
      by_cases hentry : l.node ∈ g.entries
      · rw [hrun.snapshot_eq hlaunch, hrun.merged_eq_nil_of_entry hg hlaunch hentry]
        exact hstart
      · rw [← hrun.maxSteps_snapshot hlaunch]
        exact RunState.currentStep_lt_maxSteps (hbefore l hlaunch hentry)
    have hnext : (h.run.state.apply u).currentStep ≤ s.maxSteps := by
      rw [RunState.currentStep_apply hhands.currentStep]
      exact Nat.max_le.mpr ⟨hstate, hsnapshot⟩
    refine ⟨hnext, ?_⟩
    intro m hm
    rcases History.mem_merges_complete.mp hm with hm | rfl
    · exact hmerges m hm
    · exact hnext

/-- A run halts in time when nobody who waits while the stop condition holds is launched. -/
theorem halts_iff_not_launched (hg : g.WellFormed)
    (hrun : Execution g (g.Yields router backoffMs) s h) (hstart : s.currentStep < s.maxSteps) :
    h.Halts g ↔ ∀ m ∈ h.merges, m.state.shouldStop = true →
      ∀ v ∈ m.waiting, v ∉ h.run.schedule.launched := by
  constructor
  · intro hhalts m hm hstop v hv hlaunched
    obtain ⟨l, hl, rfl⟩ := hrun.mem_launched_iff.mp hlaunched
    have hmerged := hrun.mem_merged_of_waiting hg hl hm hv
    have hentry : l.node ∉ g.entries := by
      intro hentry
      rw [hrun.merged_eq_nil_of_entry hg hl hentry] at hmerged
      exact List.not_mem_nil hmerged
    have hrunning := hhalts.launches l hl hentry
    rw [hrun.shouldStop_snapshot hl hmerged hstop] at hrunning
    cases hrunning
  · intro hnone
    have hlaunches : ∀ l ∈ h.launches, l.node ∉ g.entries → l.snapshot.shouldStop = false := by
      intro l hl hentry
      obtain ⟨m, hm, hwaiting, hstate⟩ := (hrun.entry_or_waited hl).resolve_left hentry
      rw [← Bool.not_eq_true, ← hstate]
      intro hstop
      exact hnone m hm hstop l.node hwaiting (hrun.mem_launched_iff.mpr ⟨l, hl, rfl⟩)
    refine ⟨hlaunches, ?_⟩
    intro m hm
    rw [hrun.maxSteps_merge hm]
    exact (hrun.steps_le hg hstart hlaunches).2 m hm

/-- **When a run halts in time**: at every moment nobody has been launched who waited while the stop
condition held; and when all has completed nobody waited at any such moment. -/
theorem halts_iff {d : Design} {limits : RunLimits} (hd : d.compile = .ok g)
    (hsteps : 1 ≤ limits.maxSteps)
    (hrun : Execution g (g.Yields router limits.backoffMs) (limits.initialState d) h) :
    (h.Halts g ↔ ∀ m ∈ h.merges, m.state.shouldStop = true →
      ∀ v ∈ m.waiting, v ∉ h.run.schedule.launched) ∧
    (h.run.schedule.running = [] →
      (h.Halts g ↔ ∀ m ∈ h.merges, m.state.shouldStop = true → m.waiting = [])) := by
  have hg := d.wellFormed_of_compile hd
  have hhalts := hrun.halts_iff_not_launched hg hsteps
  refine ⟨hhalts, ?_⟩
  intro hdrained
  rw [hhalts]
  constructor
  · intro hnone m hm hstop
    rw [List.eq_nil_iff_forall_not_mem]
    intro v hv
    -- Whoever has waited has been launched by the end.
    exact hnone m hm hstop v hv (hrun.launched_of_queued hg hdrained hm hv)
  · intro hempty m hm hstop v hv
    rw [hempty m hm hstop] at hv
    exact absurd hv List.not_mem_nil

end Execution

/-! ### A join that waits -/

/-- Control passes from `a` to `b` and to the join `c`, which waits for `b`. -/
def detour : Design where
  name := "d"
  agents := ["a", "b", "c"].map fun name => { name, role := "analyzer", model := "gpt-4o" }
  edges := some [⟨"a", "b", none⟩, ⟨"a", "c", none⟩, ⟨"b", "c", none⟩]

/-- What the detour compiles to. -/
def detourGraph : Graph :=
  Graph.joined detour [⟨0, 1, none⟩, ⟨0, 2, none⟩, ⟨1, 2, none⟩]

theorem compile_detour : detour.compile = .ok detourGraph := by
  decide +kernel

theorem injection_detour : detour.injection = none := by
  rw [← Option.isNone_iff_eq_none]
  decide +kernel

/-- With three steps the detour halts in time: its join does not wait while the stop condition
holds. -/
theorem Execution.halts_detour : detour.compile = .ok detourGraph ∧
    ∃ h, Execution detourGraph (detourGraph.Yields bareRouter 1000)
      (({ maxSteps := 3 } : RunLimits).initialState detour) h ∧ h.run.schedule.running = [] ∧
      h.Halts detourGraph := by
  obtain ⟨h, hrun, hp⟩ := Execution.exists_of_answers bareRouter { maxSteps := 3 }
    injection_detour brief [0, 1, 2] (g := detourGraph)
    (p := fun h => h.run.schedule.running.isEmpty &&
      h.merges.all fun m => !m.state.shouldStop || m.waiting.isEmpty)
    (by decide +kernel) (by decide +kernel)
  rw [Bool.and_eq_true, List.isEmpty_iff, List.all_eq_true] at hp
  obtain ⟨hdrained, hwaiting⟩ := hp
  have hhalts := (Execution.halts_iff compile_detour (by decide) hrun).2 hdrained
  refine ⟨compile_detour, h, hrun, hdrained, hhalts.mpr ?_⟩
  intro m hm hstop
  have hm := hwaiting m hm
  rw [hstop, Bool.not_true, Bool.false_or, List.isEmpty_iff] at hm
  exact hm

/-- With two steps the join of the detour is launched after the last of them, and a third step is
counted. -/
theorem join_launched_after_stop : detour.compile = .ok detourGraph ∧
    ∃ h, Execution detourGraph (detourGraph.Yields bareRouter 1000)
      (({ maxSteps := 2 } : RunLimits).initialState detour) h ∧
      (∃ l ∈ h.launches, l.node ∉ detourGraph.entries ∧ l.snapshot.shouldStop = true) ∧
      h.run.state.maxSteps < h.run.state.currentStep := by
  obtain ⟨h, hrun, hp⟩ := Execution.exists_of_answers bareRouter { maxSteps := 2 }
    injection_detour brief [0, 1, 2] (g := detourGraph)
    (p := fun h =>
      (h.launches.any fun l => !detourGraph.entries.contains l.node && l.snapshot.shouldStop) &&
        decide (h.run.state.maxSteps < h.run.state.currentStep))
    (by decide +kernel) (by decide +kernel)
  rw [Bool.and_eq_true, List.any_eq_true, decide_eq_true_eq] at hp
  obtain ⟨⟨l, hl, hlate⟩, hsteps⟩ := hp
  rw [Bool.and_eq_true, Bool.not_eq_true', ← Bool.not_eq_true, List.contains_iff_mem] at hlate
  exact ⟨compile_detour, h, hrun, ⟨l, hl, hlate⟩, hsteps⟩

end AgentPipeline
