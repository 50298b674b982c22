import AgentPipeline.Proofs.Run.Schedule

/-!
# Histories of runs

A run forgets how it came about.  Its history keeps what it forgets: with which snapshot every node
was launched, what every completion handed back, and which nodes waited once control had passed on.
The histories that can come about are those in which, time and again, any running node completes and
hands back anything that it may hand back on its snapshot.  Nothing is assumed about the order of
the completions; a run that is ended by a failure or cut off by its time limit stops at such a
history.

## Main definitions

* `Merge`, `Launch`, `History` — what is kept.
* `History.begin`, `History.complete` — a history step by step, along with its run.
* `Execution` — the histories that can come about.
* `RunState.replay` — merging completions into a state.
* `History.play` — the history that a script of completions leads to.

## Main results

* `Execution.sane` — the schedule is sane.
* `Execution.state_eq`, `Execution.snapshot_eq` — states and snapshots hold what has been merged.
* `Execution.running_or_merged` — a launched node is running or has been merged.
* `Execution.launch_of_merge` — what has been merged was handed back by a launched node.
* `Execution.launched_or_waiting` — a node that was queued has been launched or still waits.
* `Execution.forall_of_passed` — what holds of the entries and is passed on with control holds of
  all nodes of a run.
-/

namespace AgentPipeline

/-- A completion that has been merged. -/
structure Merge where
  node : Nat
  update : Update
  /-- The state with the update. -/
  state : RunState
  /-- The nodes that waited when control had passed on. -/
  waiting : List Nat

/-- A node that has been launched. -/
structure Launch where
  node : Nat
  /-- The completions that had been merged by then. -/
  merged : List Merge
  /-- The state that the node works on. -/
  snapshot : RunState

/-- A run with all that led to it. -/
structure History where
  run : Run
  launches : List Launch
  merges : List Merge

/-- The state after all the given completions. -/
def RunState.replay (s : RunState) (merges : List Merge) : RunState :=
  merges.foldl (fun s m => s.apply m.update) s

namespace RunState

@[simp] theorem replay_nil (s : RunState) : s.replay [] = s := rfl

@[simp] theorem replay_concat (s : RunState) (merges : List Merge) (m : Merge) :
    s.replay (merges ++ [m]) = (s.replay merges).apply m.update := by
  rw [replay, List.foldl_append]
  rfl

/-- Results are merged in the order of the completions. -/
theorem agentResults_replay (s : RunState) (merges : List Merge) :
    (s.replay merges).agentResults =
      s.agentResults ++ merges.flatMap fun m => m.update.agentResults := by
  induction merges using List.reverseRecOn with
  | nil => simp
  | append_singleton merges m ih =>
    rw [replay_concat, List.flatMap_append, List.flatMap_singleton, ← List.append_assoc, ← ih]
    rfl

/-- What no completion changes stays as it is. -/
theorem replay_unchanged {β : Type} {f : RunState → β} (hf : ∀ s u, f (RunState.apply s u) = f s)
    (s : RunState) (merges : List Merge) : f (s.replay merges) = f s := by
  induction merges using List.reverseRecOn with
  | nil => rfl
  | append_singleton merges m ih => rw [replay_concat, hf, ih]

@[simp] theorem design_replay (s : RunState) (merges : List Merge) :
    (s.replay merges).design = s.design :=
  replay_unchanged (fun _ _ => rfl) s merges

@[simp] theorem maxSteps_replay (s : RunState) (merges : List Merge) :
    (s.replay merges).maxSteps = s.maxSteps :=
  replay_unchanged (fun _ _ => rfl) s merges

@[simp] theorem timeoutSeconds_replay (s : RunState) (merges : List Merge) :
    (s.replay merges).timeoutSeconds = s.timeoutSeconds :=
  replay_unchanged (fun _ _ => rfl) s merges

end RunState

namespace History

/-- The history of a run whose entries have been launched. -/
def begin (g : Graph) (s : RunState) : History where
  run := Run.begin g s
  launches := g.entries.map fun v => ⟨v, [], s⟩
  merges := []

/-- The history after the completion of a node with an update. -/
def complete (g : Graph) (h : History) (node : Nat) (u : Update) : History :=
  let (run, launched) := h.run.complete g node u
  let merges := h.merges ++ [⟨node, u, run.state, (h.run.routed g node u).waiting⟩]
  { run
    launches := h.launches ++ launched.map fun v => ⟨v, merges, run.state⟩
    merges }

variable {g : Graph} {h : History} {node : Nat} {u : Update}

@[simp] theorem run_complete : (h.complete g node u).run = (h.run.complete g node u).1 := rfl

@[simp] theorem state_complete : (h.complete g node u).run.state = h.run.state.apply u := rfl

@[simp] theorem merges_complete : (h.complete g node u).merges =
    h.merges ++ [⟨node, u, h.run.state.apply u, (h.run.routed g node u).waiting⟩] := rfl

@[simp] theorem length_merges_complete :
    (h.complete g node u).merges.length = h.merges.length + 1 := by
  rw [merges_complete, List.length_append, List.length_singleton]

theorem mem_merges_complete {m : Merge} : m ∈ (h.complete g node u).merges ↔
    m ∈ h.merges ∨ m = ⟨node, u, h.run.state.apply u, (h.run.routed g node u).waiting⟩ := by
  rw [merges_complete, List.mem_append, List.mem_singleton]

/-- What a completion launches comes after all that has been launched. -/
theorem launches_complete : (h.complete g node u).launches =
    h.launches ++ ((h.run.routed g node u).ready g).map fun v =>
      ⟨v, (h.complete g node u).merges, h.run.state.apply u⟩ := rfl

theorem mem_launches_complete {l : Launch} : l ∈ (h.complete g node u).launches ↔
    l ∈ h.launches ∨ ∃ v ∈ (h.run.routed g node u).ready g,
      ⟨v, (h.complete g node u).merges, h.run.state.apply u⟩ = l := by
  rw [launches_complete, List.mem_append, List.mem_map]

@[simp] theorem launched_complete : (h.complete g node u).run.schedule.launched =
    h.run.schedule.launched ++ (h.run.routed g node u).ready g := by
  rw [run_complete, Run.schedule_complete, Schedule.launched_launchAll, Run.launched_routed]

theorem mem_running_complete {v : Nat} : v ∈ (h.complete g node u).run.schedule.running ↔
    v ∈ h.run.schedule.running ∧ v ≠ node ∨ v ∈ (h.run.routed g node u).ready g := by
  rw [run_complete, Run.schedule_complete, Schedule.running_launchAll, List.mem_append,
    Run.mem_running_routed]

theorem mem_waiting_complete {v : Nat} : v ∈ (h.complete g node u).run.schedule.waiting ↔
    v ∈ (h.run.routed g node u).waiting ∧ v ∉ (h.run.routed g node u).ready g := by
  rw [run_complete, Run.schedule_complete, Schedule.mem_waiting_launchAll]

end History

/-- The histories that can come about when a run begins in a given state and a node may hand back an
update on a snapshot as `hands` says. -/
inductive Execution (g : Graph) (hands : Nat → RunState → Update → Prop) (s : RunState) :
    History → Prop where
  | begin : Execution g hands s (.begin g s)
  /-- Any running node completes. -/
  | complete {h : History} {l : Launch} {u : Update} (hrun : Execution g hands s h)
      (hlaunch : l ∈ h.launches) (hrunning : l.node ∈ h.run.schedule.running)
      (hhands : hands l.node l.snapshot u) : Execution g hands s (h.complete g l.node u)

namespace Execution

variable {g : Graph} {hands : Nat → RunState → Update → Prop} {s : RunState} {h : History}

/-- The schedule is sane. -/
theorem sane (hg : g.WellFormed) (hrun : Execution g hands s h) : h.run.schedule.Sane g := by
  induction hrun with
  | begin => exact Schedule.sane_launchAll_entries hg (List.Sublist.refl _)
  | complete _ _ hrunning _ ih => exact Run.sane_complete ih hg hrunning

/-- The launches are those that the schedule has on its books. -/
theorem nodes_launches (hrun : Execution g hands s h) :
    h.launches.map Launch.node = h.run.schedule.launched := by
  induction hrun with
  | begin =>
    rw [History.begin, List.map_map]
    simp [Run.begin, Function.comp_def]
  | complete _ _ _ _ ih =>
    rw [History.launches_complete, List.map_append, ih, List.map_map, History.launched_complete]
    simp [Function.comp_def]

theorem mem_launched_iff (hrun : Execution g hands s h) {v : Nat} :
    v ∈ h.run.schedule.launched ↔ ∃ l ∈ h.launches, l.node = v := by
  rw [← hrun.nodes_launches, List.mem_map]

/-- The entries are launched from the start. -/
theorem entry_launched (hrun : Execution g hands s h) {v : Nat} (hv : v ∈ g.entries) :
    v ∈ h.run.schedule.launched := by
  induction hrun with
  | begin =>
    rw [History.begin, Run.begin, Schedule.launched_launchAll]
    exact List.mem_append_right _ hv
  | complete _ _ _ _ ih =>
    rw [History.launched_complete]
    exact List.mem_append_left _ ih

/-- A node is launched once. -/
theorem launch_eq_of_node_eq (hg : g.WellFormed) (hrun : Execution g hands s h) {l k : Launch}
    (hl : l ∈ h.launches) (hk : k ∈ h.launches) (hnode : l.node = k.node) : l = k := by
  have hnodup := (hrun.sane hg).nodup_launched
  rw [← hrun.nodes_launches] at hnodup
  exact List.inj_on_of_nodup_map hnodup hl hk hnode

/-- The state holds all that has been merged. -/
theorem state_eq (hrun : Execution g hands s h) : h.run.state = s.replay h.merges := by
  induction hrun with
  | begin => rfl
  | complete _ _ _ _ ih =>
    rw [History.merges_complete, RunState.replay_concat, ← ih, History.state_complete]

/-- A snapshot holds all that had been merged when its node was launched. -/
theorem snapshot_eq (hrun : Execution g hands s h) {l : Launch} (hl : l ∈ h.launches) :
    l.snapshot = s.replay l.merged := by
  induction hrun with
  | begin =>
    obtain ⟨v, -, rfl⟩ := List.mem_map.mp hl
    rfl
  | complete hrun _ _ _ ih =>
    rcases History.mem_launches_complete.mp hl with hl | ⟨v, -, rfl⟩
    · exact ih hl
    · rw [History.merges_complete, RunState.replay_concat, ← hrun.state_eq]

/-- A launched node is running or has been merged. -/
theorem running_or_merged (hrun : Execution g hands s h) {v : Nat}
    (hv : v ∈ h.run.schedule.launched) :
    v ∈ h.run.schedule.running ∨ ∃ m ∈ h.merges, m.node = v := by
  induction hrun with
  | begin =>
    rw [History.begin, Run.begin, Schedule.launched_launchAll] at hv
    rw [History.begin, Run.begin, Schedule.running_launchAll]
    exact Or.inl hv
  | @complete h l u _ _ _ _ ih =>
    rw [History.launched_complete, List.mem_append] at hv
    rw [History.mem_running_complete, History.merges_complete]
    rcases hv with hv | hv
    · by_cases hnode : v = l.node
      · -- It is the node that has just completed.
        subst hnode
        exact Or.inr ⟨_, List.mem_append_right _ List.mem_cons_self, rfl⟩
      · rcases ih hv with hrunning | ⟨m, hm, hmnode⟩
        · exact Or.inl (Or.inl ⟨hrunning, hnode⟩)
        · exact Or.inr ⟨m, List.mem_append_left _ hm, hmnode⟩
    · exact Or.inl (Or.inr hv)

/-- What has been merged was handed back by a launched node on its snapshot. -/
theorem launch_of_merge (hrun : Execution g hands s h) {m : Merge} (hm : m ∈ h.merges) :
    ∃ l ∈ h.launches, l.node = m.node ∧ hands l.node l.snapshot m.update := by
  induction hrun with
  | begin => exact absurd hm List.not_mem_nil
  | @complete h l u _ hlaunch _ hhands ih =>
    rcases History.mem_merges_complete.mp hm with hm | rfl
    · obtain ⟨k, hk, hnode, hkm⟩ := ih hm
      exact ⟨k, History.mem_launches_complete.mpr (Or.inl hk), hnode, hkm⟩
    · exact ⟨l, History.mem_launches_complete.mpr (Or.inl hlaunch), rfl, hhands⟩

/-- A node that was queued has been launched or still waits. -/
theorem launched_or_waiting (hrun : Execution g hands s h) {m : Merge} (hm : m ∈ h.merges) {v : Nat}
    (hv : v ∈ m.waiting) : v ∈ h.run.schedule.launched ∨ v ∈ h.run.schedule.waiting := by
  induction hrun with
  | begin => exact absurd hm List.not_mem_nil
  | @complete h l u _ _ _ _ ih =>
    have hwaiting : v ∈ h.run.schedule.launched ∨ v ∈ (h.run.routed g l.node u).waiting := by
      rcases History.mem_merges_complete.mp hm with hm | rfl
      · exact (ih hm).imp_right fun hw => Run.mem_waiting_routed.mpr (Or.inl hw)
      · exact Or.inr hv
    rw [History.launched_complete, List.mem_append, History.mem_waiting_complete, or_assoc]
    refine hwaiting.imp_right fun hw => ?_
    by_cases hready : v ∈ (h.run.routed g l.node u).ready g
    · exact Or.inl hready
    · exact Or.inr ⟨hw, hready⟩

/-- What control has passed to has been launched or waited from then on. -/
theorem waiting_of_successor (hrun : Execution g hands s h) {m : Merge} (hm : m ∈ h.merges)
    {v : Nat} (hv : v ∈ g.successors m.node m.state) : v ∈ m.waiting ∨ v ∈ h.run.schedule.launched := by
  induction hrun with
  | begin => exact absurd hm List.not_mem_nil
  | @complete h l u _ _ _ _ ih =>
    rw [History.launched_complete, List.mem_append]
    rcases History.mem_merges_complete.mp hm with hm | rfl
    · exact (ih hm).imp_right Or.inl
    · by_cases hlaunched : v ∈ h.run.schedule.launched
      · exact Or.inr (Or.inl hlaunched)
      · exact Or.inl (Run.mem_waiting_routed.mpr (Or.inr ⟨hv, hlaunched⟩))

/-- What holds of the entries and is passed on with control holds of all that has been launched or
waits. -/
theorem forall_of_passed {P : Nat → Prop} (hrun : Execution g hands s h)
    (hentry : ∀ v ∈ g.entries, P v)
    (hpassed : ∀ m ∈ h.merges, P m.node → ∀ v ∈ g.successors m.node m.state, P v) {v : Nat}
    (hv : v ∈ h.run.schedule.launched ∨ v ∈ h.run.schedule.waiting) : P v := by
  induction hrun generalizing v with
  | begin =>
    rw [History.begin, Run.begin, Schedule.launched_launchAll] at hv
    rcases hv with hv | hv
    · exact hentry v hv
    · exact absurd (Schedule.mem_waiting_launchAll.mp hv).1 List.not_mem_nil
  | @complete h l u hrun hlaunch _ _ ih =>
    have hbefore : ∀ v, v ∈ h.run.schedule.launched ∨ v ∈ h.run.schedule.waiting → P v := by
      intro v hv
      exact ih (fun m hm => hpassed m (List.mem_append_left _ hm)) hv
    have hrouted : ∀ v ∈ (h.run.routed g l.node u).waiting, P v := by
      intro v hv
      rcases Run.mem_waiting_routed.mp hv with hv | ⟨hv, -⟩
      · exact hbefore v (Or.inr hv)
      · have hnode : P l.node := hbefore _ (Or.inl (hrun.mem_launched_iff.mpr ⟨l, hlaunch, rfl⟩))
        exact hpassed _ (List.mem_append_right _ List.mem_cons_self) hnode v hv
    rw [History.launched_complete, List.mem_append, History.mem_waiting_complete] at hv
    rcases hv with (hv | hv) | hv
    · exact hbefore v (Or.inl hv)
    · exact hrouted v (Schedule.mem_ready_iff.mp hv).1
    · exact hrouted v hv.1

/-- The state at a completion is what had been merged before with what the node handed back. -/
theorem state_of_merge (hrun : Execution g hands s h) {m : Merge} (hm : m ∈ h.merges) :
    ∃ before, m.state = (s.replay before).apply m.update := by
  induction hrun with
  | begin => exact absurd hm List.not_mem_nil
  | @complete h l u hrun _ _ _ ih =>
    rcases History.mem_merges_complete.mp hm with hm | rfl
    · exact ih hm
    · exact ⟨h.merges, by rw [hrun.state_eq]⟩

/-- What nodes may hand back may be widened. -/
theorem mono {hands' : Nat → RunState → Update → Prop}
    (himp : ∀ node s u, hands node s u → hands' node s u) (hrun : Execution g hands s h) :
    Execution g hands' s h := by
  induction hrun with
  | begin => exact .begin
  | complete _ hlaunch hrunning hhands ih => exact ih.complete hlaunch hrunning (himp _ _ _ hhands)

/-- What is merged leaves the design alone. -/
theorem design_snapshot (hrun : Execution g hands s h) {l : Launch} (hl : l ∈ h.launches) :
    l.snapshot.design = s.design := by
  rw [hrun.snapshot_eq hl, RunState.design_replay]

end Execution

/-! ### Scripts -/

/-- The history after the completions of a script, each given by a node and by what the node makes
of its snapshot.  There is none if one of the nodes is not running. -/
def History.play (g : Graph) : History → List (Nat × (RunState → Update)) → Option History
  | h, [] => some h
  | h, (node, make) :: script =>
    if h.run.schedule.running.contains node then
      (h.launches.find? fun l => l.node = node).bind fun l =>
        History.play g (h.complete g node (make l.snapshot)) script
    else none

/-- A script can be played when its nodes may hand back what they make of their snapshots. -/
theorem Execution.play {g : Graph} {hands : Nat → RunState → Update → Prop} {s : RunState}
    {script : List (Nat × (RunState → Update))} {h h' : History} (hrun : Execution g hands s h)
    (hscript : ∀ p ∈ script, ∀ s', s'.design = s.design → hands p.1 s' (p.2 s'))
    (hplay : h.play g script = some h') : Execution g hands s h' := by
  induction script generalizing h with
  | nil =>
    cases hplay
    exact hrun
  | cons p script ih =>
    obtain ⟨node, make⟩ := p
    unfold History.play at hplay
    split at hplay
    · next hrunning =>
      obtain ⟨l, hfind, hrest⟩ := Option.bind_eq_some_iff.mp hplay
      have hlaunch := List.mem_of_find?_eq_some hfind
      obtain rfl : l.node = node := by simpa using List.find?_some hfind
      have hhands : hands l.node l.snapshot (make l.snapshot) :=
        hscript _ List.mem_cons_self l.snapshot (hrun.design_snapshot hlaunch)
      have hnext := hrun.complete hlaunch (List.contains_iff_mem.mp hrunning) hhands
      refine ih hnext ?_ hrest
      intro q hq
      exact hscript q (List.mem_cons_of_mem _ hq)
    · cases hplay

/-- What a script that can be played leads to. -/
theorem Execution.exists_of_script {g : Graph} {hands : Nat → RunState → Update → Prop}
    {s : RunState} {script : List (Nat × (RunState → Update))} {p : History → Bool}
    (hscript : ∀ q ∈ script, ∀ s', s'.design = s.design → hands q.1 s' (q.2 s'))
    (hplay : ((History.begin g s).play g script).any p = true) :
    ∃ h, Execution g hands s h ∧ p h = true := by
  obtain ⟨h, hsome, hp⟩ := (Option.any_eq_true _ _).mp hplay
  exact ⟨h, Execution.begin.play hscript hsome, hp⟩

end AgentPipeline
