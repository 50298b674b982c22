import AgentPipeline.Proofs.Run.Yield
import AgentPipeline.Simulation.Engine

/-!
# Simulated runs are executions

A world in virtual time carries a run.  Each of its tasks stands for a running node, works on the
snapshot that its node was launched with and has come to its stage by attempts that all called for
another.  So when a task is done, its update is one that its node may hand back, and the history of
the run goes on.

## Main definitions

* `Worker.At` — a worker can have come to a stage.
* `World.Follows` — a world carries the run of a history, and its tasks are those of the history.

## Main results

* `Worker.At.outcome` — what a worker is done with is the outcome of its attempts.
* `World.exists_execution_finish` — **whatever a simulation goes through is an execution.**
-/

namespace AgentPipeline

/-! ### Stages of a worker -/

/-- The attempt that a stage belongs to. -/
def Stage.attempt : Stage → Nat
  | attempting attempt => attempt
  | answered attempt _ => attempt

namespace Worker

variable {σ : Type} {w : Worker} {b : Backend σ} {s : RunState}

/-- A worker can have come to a stage: all attempts before called for another one, and if a call has
been made the design has passed screening. -/
structure At (w : Worker) (s : RunState) (stage : Stage) : Prop where
  retried : ∃ outcomes : Nat → Except Failure Completion,
    ∀ k < stage.attempt, ∃ ms, w.react s k (outcomes k) = .retryAfter ms
  passed : ∀ attempt call, stage = .answered attempt call → w.refusal s = none

/-- An attempt that calls for another one is not the last. -/
theorem lt_maxAttempts_of_react {attempt ms : Nat} {outcome : Except Failure Completion}
    (h : w.react s attempt outcome = .retryAfter ms) : attempt + 1 < w.policy.maxAttempts := by
  cases outcome with
  | ok c => cases h
  | error f =>
    unfold react at h
    dsimp only at h
    split at h
    · cases h
    · split at h
      · cases h
      · next hnext =>
        simp only [Bool.or_eq_true, not_or, Bool.not_eq_true', Bool.not_eq_false] at hnext
        exact of_decide_eq_true hnext.2

/-- Attempts that call for another one lead to the outcome of the first that does not. -/
theorem outcome_attempts_of_retried {outcomes : Nat → Except Failure Completion}
    {start left attempt : Nat} {outcome : Except Failure Update}
    (hretried : ∀ k < attempt, ∃ ms, w.react s k (outcomes k) = .retryAfter ms)
    (hdone : w.react s attempt (outcomes attempt) = .finish outcome) (hstart : start ≤ attempt)
    (hleft : attempt ≤ start + left) : (w.attempts s outcomes left start).outcome = outcome := by
  induction left generalizing start with
  | zero =>
    obtain rfl : start = attempt := by omega
    unfold attempts
    simp only [hdone]
  | succ left ih =>
    unfold attempts
    rcases Nat.lt_or_ge start attempt with hlt | hge
    · obtain ⟨ms, hms⟩ := hretried start hlt
      simp only [hms]
      exact ih (by omega) (by omega)
    · obtain rfl : start = attempt := by omega
      simp only [hdone]

/-- What a worker is done with at a stage is the outcome of all its attempts. -/
theorem At.outcome_of_react {stage : Stage} (h : w.At s stage) (hpassed : w.refusal s = none)
    {last : Except Failure Completion} {outcome : Except Failure Update}
    (hdone : w.react s stage.attempt last = .finish outcome) :
    ∃ outcomes, (w.transcript s outcomes).outcome = outcome := by
  obtain ⟨outcomes, hretried⟩ := h.retried
  refine ⟨Function.update outcomes stage.attempt last, ?_⟩
  unfold transcript
  rw [hpassed]
  have hbefore : ∀ k < stage.attempt, ∃ ms,
      w.react s k (Function.update outcomes stage.attempt last k) = .retryAfter ms := by
    intro k hk
    rw [Function.update_of_ne hk.ne]
    exact hretried k hk
  refine outcome_attempts_of_retried hbefore ?_ (Nat.zero_le _) ?_
  · rw [Function.update_self]
    exact hdone
  · rcases Nat.eq_zero_or_pos stage.attempt with hzero | hpos
    · omega
    · obtain ⟨ms, hms⟩ := hretried (stage.attempt - 1) (by omega)
      have := lt_maxAttempts_of_react hms
      omega

theorem react_of_moveAfter_done {attempt : Nat} {last : Except Failure Completion}
    {outcome : Except Failure Update} (h : w.moveAfter b s attempt last = .done outcome) :
    w.react s attempt last = .finish outcome := by
  unfold moveAfter at h
  split at h
  · next hreact =>
    cases h
    exact hreact
  · split at h
    · cases h
    · cases h

theorem react_of_moveAfter_next {attempt ms : Nat} {last : Except Failure Completion}
    {stage : Stage} (h : w.moveAfter b s attempt last = .next stage ms) :
    stage = .attempting (attempt + 1) ∧ ∃ delay, w.react s attempt last = .retryAfter delay := by
  unfold moveAfter at h
  split at h
  · cases h
  · next delay hreact =>
    split at h
    · cases h
      exact ⟨rfl, delay, hreact⟩
    · cases h

/-- A stage after an attempt that called for another one. -/
theorem At.retry {stage : Stage} (h : w.At s stage) {last : Except Failure Completion} {delay : Nat}
    (hreact : w.react s stage.attempt last = .retryAfter delay) :
    w.At s (.attempting (stage.attempt + 1)) := by
  obtain ⟨outcomes, hretried⟩ := h.retried
  refine ⟨⟨Function.update outcomes stage.attempt last, fun k hk => ?_⟩, fun _ _ h => nomatch h⟩
  rcases Nat.lt_succ_iff_lt_or_eq.mp hk with hlt | rfl
  · rw [Function.update_of_ne hlt.ne]
    exact hretried k hlt
  · rw [Function.update_self]
    exact ⟨delay, hreact⟩

variable {b : Backend σ} {router : Router} {c c' : Clock σ} {stage : Stage}

/-- A worker that is done has the outcome of its attempts. -/
theorem At.outcome (h : w.At s stage) {outcome : Except Failure Update}
    (hmove : w.move b router s c stage = (c', .done outcome)) :
    ∃ outcomes, (w.transcript s outcomes).outcome = outcome := by
  cases stage with
  | attempting attempt =>
    unfold move at hmove
    dsimp only at hmove
    split at hmove
    · next update hrefusal =>
      cases hmove
      refine ⟨fun _ => .error rejection, ?_⟩
      unfold transcript
      rw [hrefusal]
    · next hpassed =>
      split at hmove
      · next f _ =>
        exact h.outcome_of_react hpassed (react_of_moveAfter_done (congrArg Prod.snd hmove))
      · split at hmove
        · cases hmove
        · cases hmove
  | answered attempt call =>
    exact h.outcome_of_react (h.passed attempt call rfl)
      (react_of_moveAfter_done (congrArg Prod.snd hmove))

/-- A worker that moves on can have come to its next stage. -/
theorem At.next (h : w.At s stage) {stage' : Stage} {ms : Nat}
    (hmove : w.move b router s c stage = (c', .next stage' ms)) : w.At s stage' := by
  cases stage with
  | attempting attempt =>
    unfold move at hmove
    dsimp only at hmove
    split at hmove
    · cases hmove
    · next hpassed =>
      split at hmove
      · obtain ⟨rfl, delay, hreact⟩ := react_of_moveAfter_next (congrArg Prod.snd hmove)
        exact h.retry hreact
      · split at hmove
        · cases hmove
        · cases hmove
          exact ⟨h.retried, fun _ _ _ => hpassed⟩
  | answered attempt call =>
    obtain ⟨rfl, delay, hreact⟩ := react_of_moveAfter_next (congrArg Prod.snd hmove)
    exact h.retry hreact

end Worker

/-! ### Tasks of a world -/

variable {σ : Type} {scene : Scene σ} {s : RunState} {h : History}

/-- A task stands for a running node, works on the snapshot of its launch and can have come to its
stage. -/
structure Task.Belongs (scene : Scene σ) (h : History) (t : Task) : Prop where
  worker : ∃ n, scene.graph.nodes[t.node]? = some n ∧
    t.worker = n.worker scene.router scene.limits.backoffMs
  launch : ∃ l ∈ h.launches, l.node = t.node ∧ l.snapshot = t.snapshot
  running : t.node ∈ h.run.schedule.running
  stage : t.worker.At t.snapshot t.stage

/-- Tasks that belong to a history, no two of them for one node. -/
structure Staffed (scene : Scene σ) (h : History) (tasks : List Task) : Prop where
  belongs : ∀ t ∈ tasks, t.Belongs scene h
  distinct : (tasks.map Task.node).Nodup

theorem mem_tasks {nodes : List Nat} {t : Task} : t ∈ scene.tasks s nodes ↔
    ∃ v ∈ nodes, ∃ n, scene.graph.nodes[v]? = some n ∧
      ⟨v, n.worker scene.router scene.limits.backoffMs, s, .attempting 0⟩ = t := by
  rw [Scene.tasks, List.mem_filterMap]
  simp only [Option.map_eq_some_iff]

theorem nodes_tasks_sublist (scene : Scene σ) (s : RunState) (nodes : List Nat) :
    ((scene.tasks s nodes).map Task.node).Sublist nodes := by
  induction nodes with
  | nil => exact List.Sublist.refl _
  | cons v nodes ih =>
    unfold Scene.tasks at ih ⊢
    cases hn : scene.graph.nodes[v]? with
    | none =>
      rw [List.filterMap_cons_none (by rw [hn, Option.map_none])]
      exact ih.cons v
    | some n =>
      rw [List.filterMap_cons_some (by rw [hn, Option.map_some]), List.map_cons]
      exact ih.cons_cons v

/-- What is launched gets a task of its own. -/
theorem Staffed.launch {tasks : List Task} (hstaffed : Staffed scene h tasks) {nodes : List Nat}
    (hnodup : nodes.Nodup) (hnew : ∀ v ∈ nodes, ∀ t ∈ tasks, t.node ≠ v)
    (hlaunch : ∀ v ∈ nodes, ∃ l ∈ h.launches, l.node = v ∧ l.snapshot = s)
    (hrunning : ∀ v ∈ nodes, v ∈ h.run.schedule.running) :
    Staffed scene h (tasks ++ scene.tasks s nodes) where
  belongs t ht := by
    rcases List.mem_append.mp ht with ht | ht
    · exact hstaffed.belongs t ht
    · obtain ⟨v, hv, n, hn, rfl⟩ := mem_tasks.mp ht
      exact ⟨⟨n, hn, rfl⟩, hlaunch v hv, hrunning v hv,
        ⟨⟨fun _ => .error Worker.rejection, fun k hk => absurd hk (Nat.not_lt_zero k)⟩,
          fun _ _ h => nomatch h⟩⟩
  distinct := by
    rw [List.map_append]
    refine hstaffed.distinct.append (hnodup.sublist (nodes_tasks_sublist scene s nodes)) ?_
    intro v hold hv
    obtain ⟨t, ht, rfl⟩ := List.mem_map.mp hold
    exact hnew _ ((nodes_tasks_sublist scene s nodes).subset hv) t ht rfl

theorem Staffed.perm {tasks tasks' : List Task} (hstaffed : Staffed scene h tasks)
    (hperm : tasks.Perm tasks') : Staffed scene h tasks' where
  belongs t ht := hstaffed.belongs t (hperm.mem_iff.mpr ht)
  distinct := (hperm.map Task.node).nodup_iff.mp hstaffed.distinct

theorem Staffed.tail {t : Task} {tasks : List Task} (hstaffed : Staffed scene h (t :: tasks)) :
    Staffed scene h tasks where
  belongs t' ht := hstaffed.belongs t' (List.mem_cons_of_mem _ ht)
  distinct := (List.nodup_cons.mp hstaffed.distinct).2

/-- A task may move to a stage that it can have come to. -/
theorem Staffed.advance {t : Task} {tasks : List Task} (hstaffed : Staffed scene h (t :: tasks))
    {stage : Stage} (hstage : t.worker.At t.snapshot stage) :
    Staffed scene h ({ t with stage } :: tasks) where
  belongs t' ht := by
    rcases List.mem_cons.mp ht with rfl | ht
    · obtain ⟨hworker, hlaunch, hrunning, -⟩ := hstaffed.belongs t List.mem_cons_self
      exact ⟨hworker, hlaunch, hrunning, hstage⟩
    · exact hstaffed.belongs t' (List.mem_cons_of_mem _ ht)
  distinct := hstaffed.distinct

/-- The tasks that are left belong to the history that goes on when one is done. -/
theorem Staffed.others {t : Task} {tasks : List Task} (hstaffed : Staffed scene h (t :: tasks))
    (u : Update) : Staffed scene (h.complete scene.graph t.node u) tasks where
  belongs t' ht := by
    obtain ⟨hworker, ⟨l, hl, hnode⟩, hrunning, hstage⟩ :=
      hstaffed.belongs t' (List.mem_cons_of_mem _ ht)
    refine ⟨hworker, ⟨l, History.mem_launches_complete.mpr (Or.inl hl), hnode⟩, ?_, hstage⟩
    have hne : t'.node ≠ t.node := by
      intro heq
      have hnot := (List.nodup_cons.mp hstaffed.distinct).1
      rw [← heq] at hnot
      exact hnot (List.mem_map_of_mem ht)
    exact History.mem_running_complete.mpr (Or.inl ⟨hrunning, hne⟩)
  distinct := hstaffed.tail.distinct

/-! ### Worlds -/

/-- A worker may hand back its outcome as it is: no time has passed. -/
theorem Graph.yields_outcome {g : Graph} {router : Router} {backoffMs node : Nat} {n : Node}
    (hn : g.nodes[node]? = some n) {outcomes : Nat → Except Failure Completion} {u : Update}
    (houtcome : ((n.worker router backoffMs).transcript s outcomes).outcome = .ok u) :
    g.Yields router backoffMs node s u := by
  refine ⟨n, hn, outcomes, u, 0, houtcome, ?_⟩
  rcases Worker.outcome_transcript houtcome with ⟨error, -, rfl⟩ | ⟨c, rfl⟩
  · rfl
  · rfl

namespace World

/-- The tasks of a world that may still work. -/
def tasks (w : World σ) : List Task :=
  w.ready ++ w.asleep.map (·.2)

/-- A world carries the run of a history that can come about, and its tasks belong to it. -/
def Follows (scene : Scene σ) (s : RunState) (w : World σ) : Prop :=
  ∃ h, Execution scene.graph (scene.graph.Yields scene.router scene.limits.backoffMs) s h ∧
    h.run = w.run ∧ Staffed scene h w.tasks

/-- The entries get the first tasks. -/
theorem staffed_start (hg : scene.graph.WellFormed) (s : RunState) (backend : σ) :
    Staffed scene (History.begin scene.graph s) (start scene s backend).ready := by
  have hnone : Staffed scene (History.begin scene.graph s) [] :=
    ⟨fun t ht => absurd ht List.not_mem_nil, List.nodup_nil⟩
  refine hnone.launch hg.nodup_entries ?_ ?_ ?_
  · intro v _ t ht
    exact absurd ht List.not_mem_nil
  · intro v hv
    exact ⟨⟨v, [], s⟩, List.mem_map.mpr ⟨v, hv, rfl⟩, rfl, rfl⟩
  · intro v hv
    rw [History.begin, Run.begin, Schedule.running_launchAll]
    exact List.mem_append_right _ hv

theorem follows_start (hg : scene.graph.WellFormed) (s : RunState) (backend : σ) :
    (start scene s backend).Follows scene s := by
  refine ⟨History.begin scene.graph s, .begin, rfl, ?_⟩
  have htasks : (start scene s backend).tasks = (start scene s backend).ready :=
    List.append_nil _
  rw [htasks]
  exact staffed_start hg s backend

variable {w w' : World σ} {t : Task} {others : List Task}

/-- The history goes on when a task is done. -/
theorem follows_complete (hg : scene.graph.WellFormed)
    (hrun : Execution scene.graph (scene.graph.Yields scene.router scene.limits.backoffMs) s h)
    {tasks : List Task} (hstaffed : Staffed scene h (t :: tasks)) {clock clock' : Clock σ}
    {u : Update} (hmove : t.worker.move scene.backend scene.router t.snapshot clock t.stage =
      (clock', .done (.ok u))) :
    Execution scene.graph (scene.graph.Yields scene.router scene.limits.backoffMs) s
        (h.complete scene.graph t.node u) ∧
      Staffed scene (h.complete scene.graph t.node u)
        (tasks ++ scene.tasks (h.run.state.apply u) (h.run.complete scene.graph t.node u).2) := by
  obtain ⟨⟨n, hn, hworker⟩, ⟨l, hl, hnode, hsnapshot⟩, hrunning, hstage⟩ :=
    hstaffed.belongs t List.mem_cons_self
  obtain ⟨outcomes, houtcome⟩ := hstage.outcome hmove
  rw [hworker, ← hsnapshot] at houtcome
  rw [← hnode] at hn hrunning ⊢
  have hnext := hrun.complete hl hrunning (Graph.yields_outcome hn houtcome)
  have hsane : (h.run.routed scene.graph l.node u).Sane scene.graph :=
    Run.sane_routed (hrun.sane hg) hg hrunning
  refine ⟨hnext, (hnode ▸ hstaffed.others u).launch ?_ ?_ ?_ ?_⟩
  · exact hsane.nodup_waiting.filter _
  · -- What is launched had not been launched, and every other task belongs to a launched node.
    intro v hv t' ht' heq
    have hrunning' := (hstaffed.belongs t' (List.mem_cons_of_mem _ ht')).running
    have hnot := hsane.not_launched v (Schedule.mem_ready_iff.mp hv).1
    rw [Run.launched_routed, ← heq] at hnot
    exact hnot ((hrun.sane hg).running_subset hrunning')
  · intro v hv
    exact ⟨_, History.mem_launches_complete.mpr (Or.inr ⟨v, hv, rfl⟩), rfl, rfl⟩
  · intro v hv
    exact History.mem_running_complete.mpr (Or.inr hv)

theorem follows_work (hg : scene.graph.WellFormed) (hw : w.Follows scene s)
    (hready : w.ready = t :: others) (hgoing : w.work scene t others = .going w') :
    w'.Follows scene s := by
  obtain ⟨h, hrun, hworld, hstaffed⟩ := hw
  rw [tasks, hready, List.cons_append] at hstaffed
  have hstage := (hstaffed.belongs t List.mem_cons_self).stage
  unfold work at hgoing
  split at hgoing
  · next clock stage hmove =>
    cases hgoing
    exact ⟨h, hrun, hworld, hstaffed.advance (hstage.next hmove)⟩
  · next clock stage ms _ hmove =>
    cases hgoing
    refine ⟨h, hrun, hworld, (hstaffed.advance (hstage.next hmove)).perm ?_⟩
    rw [tasks, List.map_append, ← List.append_assoc]
    exact (List.perm_append_singleton _ _).symm
  · next clock cause hmove =>
    cases hgoing
    exact ⟨h, hrun, hworld, hstaffed.tail⟩
  · cases hgoing
  · next clock u hmove =>
    cases hgoing
    obtain ⟨hnext, hstaffed⟩ := follows_complete hg hrun hstaffed hmove
    refine ⟨_, hnext, ?_, hstaffed.perm ?_⟩
    · rw [History.run_complete, hworld]
      rfl
    · rw [tasks, hworld, List.append_assoc, List.append_assoc]
      exact List.perm_append_comm.append_left others

theorem follows_wake (hw : w.Follows scene s) (hready : w.ready = [])
    (hgoing : w.wake scene = .going w') : w'.Follows scene s := by
  obtain ⟨h, hrun, hworld, hstaffed⟩ := hw
  rw [tasks, hready, List.nil_append] at hstaffed
  unfold wake at hgoing
  split at hgoing
  · split at hgoing
    · cases hgoing
    · cases hgoing
  · next time _ =>
    split at hgoing
    · cases hgoing
    · rw [List.partition_eq_filter_filter] at hgoing
      cases hgoing
      refine ⟨h, hrun, hworld, hstaffed.perm ?_⟩
      rw [tasks, ← List.map_append]
      exact (List.filter_append_perm _ _).symm.map _

/-- A world ends with the run that it carries, in a way in which that may end. -/
theorem mayEnd_of_ended {ending : Ending} (hworld : h.run = w.run)
    (hstaffed : Staffed scene h w.tasks) (hended : w.step scene = .ended w' ending) :
    w'.run = w.run ∧ scene.graph.MayEnd scene.router scene.limits.backoffMs h ending := by
  unfold step at hended
  split at hended
  · unfold wake at hended
    split at hended
    · split at hended
      · next hrunning =>
        cases hended
        rw [← hworld] at hrunning
        exact ⟨rfl, List.isEmpty_iff.mp hrunning⟩
      · cases hended
        exact ⟨rfl, trivial⟩
    · split at hended
      · cases hended
        exact ⟨rfl, trivial⟩
      · cases hended
  · next t others hready =>
    unfold work at hended
    split at hended
    · cases hended
    · cases hended
    · cases hended
    · next clock failure hmove =>
      cases hended
      rw [tasks, hready, List.cons_append] at hstaffed
      obtain ⟨⟨n, hn, hworker⟩, ⟨l, hl, hnode, hsnapshot⟩, hrunning, hstage⟩ :=
        hstaffed.belongs t List.mem_cons_self
      obtain ⟨outcomes, houtcome⟩ := hstage.outcome hmove
      rw [hworker, ← hsnapshot] at houtcome
      rw [← hnode] at hn hrunning
      exact ⟨rfl, l, hl, hrunning, n, hn, outcomes, houtcome⟩
    · cases hended

theorem exists_execution_of_follows (hg : scene.graph.WellFormed) (fuel : Nat)
    (hw : w.Follows scene s) :
    ∃ h, Execution scene.graph (scene.graph.Yields scene.router scene.limits.backoffMs) s h ∧
      h.run = (finish scene fuel w).1.run ∧
      scene.graph.MayEnd scene.router scene.limits.backoffMs h (finish scene fuel w).2 := by
  induction fuel generalizing w with
  | zero =>
    obtain ⟨h, hrun, hworld, -⟩ := hw
    exact ⟨h, hrun, hworld, trivial⟩
  | succ fuel ih =>
    unfold finish
    cases hstep : w.step scene with
    | going w' =>
      refine ih ?_
      unfold step at hstep
      split at hstep
      · next hready => exact follows_wake hw hready hstep
      · next t others hready => exact follows_work hg hw hready hstep
    | ended w' ending =>
      obtain ⟨h, hrun, hworld, hstaffed⟩ := hw
      obtain ⟨hsame, hend⟩ := mayEnd_of_ended hworld hstaffed hstep
      exact ⟨h, hrun, hworld.trans hsame.symm, hend⟩

/-- **Whatever a simulation goes through is an execution**, and it ends in a way in which that may
end. -/
theorem exists_execution_finish (hg : scene.graph.WellFormed) (s : RunState) (backend : σ)
    (fuel : Nat) :
    ∃ h, Execution scene.graph (scene.graph.Yields scene.router scene.limits.backoffMs) s h ∧
      h.run = (finish scene fuel (start scene s backend)).1.run ∧
      scene.graph.MayEnd scene.router scene.limits.backoffMs h
        (finish scene fuel (start scene s backend)).2 :=
  exists_execution_of_follows hg fuel (follows_start hg s backend)

end World

end AgentPipeline
