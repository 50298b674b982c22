import AgentPipeline.Proofs.Run.Ancestors

/-!
# Runs come to an end

Whatever has completed had been launched, and whatever has been launched runs or has completed.  As
no node is launched twice, a graph allows for as many completions as it has nodes.  The loop of a
run handles one completion after another and so comes to an end, whichever running node is the next
to complete and whatever it hands back.

## Main definitions

* `Schedule.Orderly` — no node is launched twice, queued twice, or running and waiting at once.
* `Run.stages` — the schedules that a completion leads through.
* `History.Orderly` — what holds of every history of a run.
* `History.drive` — the loop of a run.

## Main results

* `Execution.merged_perm` — what has been launched is what has completed and what runs.
* `Execution.exists_drive`, `Execution.exists_drive_ok` — the loop ends, whatever it is fed with.
* `Execution.orderly_and_ends` — **nodes are launched once, and a run handles no more completions
  than there are nodes.**
-/

namespace AgentPipeline

open scoped List

/-! ### Schedules -/

/-- No node is launched twice, queued twice, or running and waiting at once. -/
structure Schedule.Orderly (s : Schedule) : Prop where
  nodup_launched : s.launched.Nodup
  nodup_running : s.running.Nodup
  nodup_waiting : s.waiting.Nodup
  disjoint : s.running.Disjoint s.waiting

theorem Schedule.Sane.orderly {g : Graph} {s : Schedule} (h : s.Sane g) : s.Orderly where
  nodup_launched := h.nodup_launched
  nodup_running := h.nodup_running
  nodup_waiting := h.nodup_waiting
  disjoint v hrunning hwaiting := h.not_launched v hwaiting (h.running_subset hrunning)

/-- What a fold goes through are the folds over the first few elements. -/
theorem exists_take_of_mem_scanl {α β : Type} {f : β → α → β} {init x : β} {l : List α}
    (h : x ∈ l.scanl f init) : ∃ i, x = (l.take i).foldl f init := by
  obtain ⟨i, hi, rfl⟩ := List.mem_iff_getElem.mp h
  exact ⟨i, List.getElem_scanl hi⟩

namespace Run

variable {g : Graph} {r : Run} {node : Nat} {u : Update}

/-- The schedules that a completion leads through: the node is taken off the running ones, control
passes on to one node after another, and what is ready is launched one by one. -/
def stages (g : Graph) (r : Run) (node : Nat) (u : Update) : List Schedule :=
  (g.successors node (r.state.apply u)).scanl Schedule.route (r.schedule.finish node) ++
    ((r.routed g node u).ready g).scanl Schedule.launch (r.routed g node u)

theorem sane_of_mem_stages (h : r.schedule.Sane g) (hg : g.WellFormed)
    (hnode : node ∈ r.schedule.running) {stage : Schedule} (hstage : stage ∈ r.stages g node u) :
    stage.Sane g := by
  rcases List.mem_append.mp hstage with hstage | hstage
  · obtain ⟨i, rfl⟩ := exists_take_of_mem_scanl hstage
    exact sane_routeAll h hg hnode (List.take_subset i _)
  · obtain ⟨i, rfl⟩ := exists_take_of_mem_scanl hstage
    exact (sane_routed h hg hnode).launchAll_of_sublist hg (List.take_sublist i _)

end Run

/-! ### Histories -/

/-- What holds of every history of a run. -/
structure History.Orderly (g : Graph) (h : History) : Prop where
  schedule : h.run.schedule.Orderly
  /-- The next completion leads through orderly schedules, too. -/
  stages : ∀ node ∈ h.run.schedule.running, ∀ u, ∀ stage ∈ h.run.stages g node u, stage.Orderly
  nodup_launches : (h.launches.map Launch.node).Nodup
  launched_lt : ∀ v ∈ h.run.schedule.launched, v < g.size
  /-- With what is still running there are no more completions than nodes. -/
  completions : h.merges.length + h.run.schedule.running.length ≤ g.size

namespace Execution

variable {g : Graph} {hands : Nat → RunState → Update → Prop} {s : RunState} {h : History}

/-- What has been launched is what has completed and what runs. -/
theorem merged_perm (hg : g.WellFormed) (hrun : Execution g hands s h) :
    (h.merges.map Merge.node ++ h.run.schedule.running).Perm h.run.schedule.launched := by
  induction hrun with
  | begin =>
    rw [History.begin, Run.begin, Schedule.running_launchAll, Schedule.launched_launchAll]
    exact List.Perm.refl _
  | @complete h l u hrun _ hrunning _ ih =>
    have herase : h.run.schedule.running.Perm
        (l.node :: h.run.schedule.running.filter fun r => r != l.node) := by
      rw [← (hrun.sane hg).nodup_running.erase_eq_filter]
      exact List.perm_cons_erase hrunning
    rw [History.launched_complete, History.run_complete, Run.schedule_complete,
      Schedule.running_launchAll, History.merges_complete, List.map_append, ← List.append_assoc]
    refine List.Perm.append_right _ ?_
    -- The node has only moved from the running ones to those that have completed.
    calc
      h.merges.map Merge.node ++ [l.node] ++ (h.run.routed g l.node u).running
        = h.merges.map Merge.node ++
            l.node :: h.run.schedule.running.filter fun r => r != l.node := by
          rw [Run.routed, Schedule.running_routeAll, Schedule.finish, List.append_assoc,
            List.singleton_append]
      _ ~ h.merges.map Merge.node ++ h.run.schedule.running := herase.symm.append_left _
      _ ~ h.run.schedule.launched := ih

theorem nodup_merged (hg : g.WellFormed) (hrun : Execution g hands s h) :
    (h.merges.map Merge.node).Nodup := by
  have hnodup := (hrun.merged_perm hg).nodup_iff.mpr (hrun.sane hg).nodup_launched
  exact hnodup.of_append_left

/-- When nothing runs, what has been launched has completed. -/
theorem merged_perm_of_drained (hg : g.WellFormed) (hrun : Execution g hands s h)
    (hdrained : h.run.schedule.running = []) :
    (h.merges.map Merge.node).Perm h.run.schedule.launched := by
  have hperm := hrun.merged_perm hg
  rwa [hdrained, List.append_nil] at hperm

theorem exists_merge_of_drained (hg : g.WellFormed) (hrun : Execution g hands s h)
    (hdrained : h.run.schedule.running = []) {v : Nat} (hv : v ∈ h.run.schedule.launched) :
    ∃ m ∈ h.merges, m.node = v :=
  List.mem_map.mp ((hrun.merged_perm_of_drained hg hdrained).mem_iff.mpr hv)

/-- Whatever is launched or waits is a node of the graph. -/
theorem lt_size (hg : g.WellFormed) (hrun : Execution g hands s h) {v : Nat}
    (hv : v ∈ h.run.schedule.launched ∨ v ∈ h.run.schedule.waiting) : v < g.size := by
  refine hrun.forall_of_passed (P := fun v => v < g.size) ?_ ?_ hv
  · intro v hentry
    exact ((hg.mem_entries_iff v).mp hentry).1
  · intro m _ _ v hv
    exact (hg.lt_size _ v (hg.joins_of_mem_successors hv)).2

theorem length_launched_le (hg : g.WellFormed) (hrun : Execution g hands s h) :
    h.run.schedule.launched.length ≤ g.size := by
  refine Paths.length_le_of_nodup_of_lt (hrun.sane hg).nodup_launched ?_
  intro v hv
  exact hrun.lt_size hg (Or.inl hv)

theorem completions_le (hg : g.WellFormed) (hrun : Execution g hands s h) :
    h.merges.length + h.run.schedule.running.length ≤ g.size := by
  have hlength := (hrun.merged_perm hg).length_eq
  rw [List.length_append, List.length_map] at hlength
  rw [hlength]
  exact hrun.length_launched_le hg

theorem orderly (hg : g.WellFormed) (hrun : Execution g hands s h) : h.Orderly g where
  schedule := (hrun.sane hg).orderly
  stages _ hnode _ _ hstage := (Run.sane_of_mem_stages (hrun.sane hg) hg hnode hstage).orderly
  nodup_launches := by
    rw [hrun.nodes_launches]
    exact (hrun.sane hg).nodup_launched
  launched_lt _ hv := hrun.lt_size hg (Or.inl hv)
  completions := hrun.completions_le hg

end Execution

/-! ### The loop -/

/-- The loop of a run: as long as a node is running the next completion is handled, and a failure
ends the loop.  There is no result if more completions come in than are allowed for. -/
def History.drive (g : Graph) (next : History → Nat × Except Failure Update) :
    (allowed : Nat) → History → Option (History × Except Failure Unit)
  | 0, h => if h.run.schedule.running.isEmpty then some (h, .ok ()) else none
  | allowed + 1, h =>
    if h.run.schedule.running.isEmpty then some (h, .ok ())
    else
      match next h with
      | (_, .error failure) => some (h, .error failure)
      | (node, .ok u) => History.drive g next allowed (h.complete g node u)

/-- A way to feed the loop: while nodes are running one of them completes, with a failure that ends
the run or with an update that it may hand back on its snapshot. -/
def Feeds (g : Graph) (hands : Nat → RunState → Update → Prop) (s : RunState)
    (next : History → Nat × Except Failure Update) : Prop :=
  ∀ h, Execution g hands s h → h.run.schedule.running ≠ [] →
    ∃ l ∈ h.launches, l.node = (next h).1 ∧ l.node ∈ h.run.schedule.running ∧
      ∀ u, (next h).2 = .ok u → hands l.node l.snapshot u

namespace Execution

variable {g : Graph} {hands : Nat → RunState → Update → Prop} {s : RunState} {h : History}
  {next : History → Nat × Except Failure Update}

/-- The loop ends from any history on that has room for what is still to complete. -/
theorem exists_drive_from (hg : g.WellFormed) (hnext : Feeds g hands s next) {allowed : Nat}
    (hrun : Execution g hands s h) (hallowed : g.size ≤ h.merges.length + allowed) :
    ∃ h' ending, h.drive g next allowed = some (h', ending) ∧ Execution g hands s h' ∧
      (ending = .ok () → h'.run.schedule.running = []) ∧
      ∀ failure, ending = .error failure → (next h').2 = .error failure := by
  induction allowed generalizing h with
  | zero =>
    have hcompletions := hrun.completions_le hg
    have hdrained : h.run.schedule.running = [] := List.length_eq_zero_iff.mp (by omega)
    refine ⟨h, .ok (), ?_, hrun, fun _ => hdrained, fun _ herror => nomatch herror⟩
    rw [History.drive, hdrained]
    rfl
  | succ allowed ih =>
    by_cases hdrained : h.run.schedule.running = []
    · refine ⟨h, .ok (), ?_, hrun, fun _ => hdrained, fun _ herror => nomatch herror⟩
      rw [History.drive, hdrained]
      rfl
    · obtain ⟨l, hl, hnode, hrunning, hhands⟩ := hnext h hrun hdrained
      rw [History.drive, if_neg (by rwa [List.isEmpty_iff])]
      cases hcompletion : next h with
      | mk node outcome =>
        rw [hcompletion] at hnode hhands
        cases outcome with
        | error failure =>
          refine ⟨h, .error failure, rfl, hrun, (fun hok => nomatch hok), ?_⟩
          rintro _ ⟨⟩
          rw [hcompletion]
        | ok u =>
          obtain rfl : l.node = node := hnode
          have hstep := hrun.complete hl hrunning (hhands u rfl)
          refine ih hstep ?_
          rw [History.merges_complete, List.length_append, List.length_singleton]
          omega

/-- The loop ends, whatever it is fed with. -/
theorem exists_drive (hg : g.WellFormed) (hnext : Feeds g hands s next) :
    ∃ h ending, (History.begin g s).drive g next g.size = some (h, ending) ∧
      Execution g hands s h ∧ (ending = .ok () → h.run.schedule.running = []) ∧
      ∀ failure, ending = .error failure → (next h).2 = .error failure :=
  exists_drive_from hg hnext .begin (Nat.le_add_left _ _)

/-- If no failure ends the loop, it ends when nothing runs. -/
theorem exists_drive_ok (hg : g.WellFormed) (hnext : Feeds g hands s next)
    (hok : ∀ h, Execution g hands s h → ∃ u, (next h).2 = .ok u) :
    ∃ h, (History.begin g s).drive g next g.size = some (h, .ok ()) ∧ Execution g hands s h ∧
      h.run.schedule.running = [] := by
  obtain ⟨h, ending, hdrive, hrun, hdrained, hfailed⟩ := exists_drive hg hnext
  cases ending with
  | error failure =>
    obtain ⟨u, hu⟩ := hok h hrun
    rw [hfailed failure rfl] at hu
    cases hu
  | ok _ => exact ⟨h, hdrive, hrun, hdrained rfl⟩

/-- **Nodes are launched once, and a run handles no more completions than there are nodes**, in any
order and whatever the nodes hand back.  At every moment no node has been launched twice, none is
queued twice, and none is running and waiting. -/
theorem orderly_and_ends {d : Design} (hd : d.compile = .ok g)
    (hands : Nat → RunState → Update → Prop) (s : RunState) :
    (∀ stage ∈ g.entries.scanl Schedule.launch {}, stage.Orderly) ∧
    (∀ h, Execution g hands s h → h.Orderly g) ∧
    ∀ next, Feeds g hands s next →
      ∃ h ending, (History.begin g s).drive g next g.size = some (h, ending) ∧
        Execution g hands s h ∧ (ending = .ok () → h.run.schedule.running = []) ∧
        ∀ failure, ending = .error failure → (next h).2 = .error failure := by
  have hg := d.wellFormed_of_compile hd
  refine ⟨?_, ?_, ?_⟩
  · intro stage hstage
    obtain ⟨i, rfl⟩ := exists_take_of_mem_scanl hstage
    exact (Schedule.sane_launchAll_entries hg (List.take_sublist i _)).orderly
  · intro h hrun
    exact hrun.orderly hg
  · intro next hnext
    exact exists_drive hg hnext

end Execution

/-- The node of the diamond that has been running longest completes, always with the same answer. -/
def oldestFirst (h : History) : Nat × Except Failure Update :=
  let node := h.run.schedule.running.headD 0
  (node, .ok ((diamondGraph.answer bareRouter 1000 brief node).2 h.run.state))

theorem feeds_oldestFirst (s : RunState) :
    Feeds diamondGraph (fun _ _ _ => True) s oldestFirst := by
  intro h hrun hrunning
  obtain ⟨v, vs, hcons⟩ := List.exists_cons_of_ne_nil hrunning
  have hv : v ∈ h.run.schedule.running := by
    rw [hcons]
    exact List.mem_cons_self
  have hg := diamond.wellFormed_of_compile compile_diamond
  obtain ⟨l, hl, rfl⟩ := hrun.mem_launched_iff.mp ((hrun.sane hg).running_subset hv)
  refine ⟨l, hl, ?_, hv, fun _ _ => trivial⟩
  rw [oldestFirst, hcons]
  rfl

/-- The run of the diamond without `b` ends after three completions. -/
theorem Execution.orderly_and_ends_diamond : diamond.compile = .ok diamondGraph ∧
    ∃ h ending, (History.begin diamondGraph (({} : RunLimits).initialState diamond)).drive
      diamondGraph oldestFirst diamondGraph.size = some (h, ending) ∧ h.Orderly diamondGraph ∧
      h.run.schedule.launched = [0, 2, 3] := by
  obtain ⟨-, horderly, hends⟩ := Execution.orderly_and_ends compile_diamond
    (fun _ _ _ => True) (({} : RunLimits).initialState diamond)
  obtain ⟨h, ending, hdrive, hrun, -⟩ := hends oldestFirst (feeds_oldestFirst _)
  refine ⟨compile_diamond, h, ending, hdrive, horderly h hrun, ?_⟩
  have hlaunched : ((History.begin diamondGraph (({} : RunLimits).initialState diamond)).drive
      diamondGraph oldestFirst diamondGraph.size).map
        (fun result => result.1.run.schedule.launched) = some [0, 2, 3] := by decide +kernel
  rw [hdrive] at hlaunched
  exact Option.some.inj hlaunched

end AgentPipeline
