import AgentPipeline.Proofs.Graph.WellFormed
import AgentPipeline.Run.Basic

/-!
# Sane schedules

A node is launched as soon as none of its direct predecessors can produce output any more.  That
this is late enough rests on what holds of every schedule that comes up: no path leads from anything
that is running or waiting to a node that has been launched.  So a path from such work to a waiting
node enters that node through a predecessor which blocks it.  That it is early enough rests on the
graph having no cycle: when nothing runs, the waiting nodes that no other waiting node leads to are
ready.

## Main definitions

* `Schedule.Active` — running or waiting.
* `Schedule.Sane` — the invariant of all schedules of a run.
* `Run.routed` — the schedule between a completion and the launches that it gives rise to.

## Main results

* `Schedule.Sane.not_leads_of_mem_ready` — **nothing active leads to a node that is ready.**
* `Schedule.ready_ne_nil` — **when nothing runs, some waiting node is ready.**
* `Run.sane_complete` — a completion keeps a schedule sane.
-/

namespace AgentPipeline

namespace Schedule

variable {g : Graph} {s : Schedule}

/-! ### What the operations change -/

@[simp] theorem launched_finish (s : Schedule) (n : Nat) : (s.finish n).launched = s.launched := rfl

@[simp] theorem waiting_finish (s : Schedule) (n : Nat) : (s.finish n).waiting = s.waiting := rfl

@[simp] theorem mem_running_finish {n r : Nat} :
    r ∈ (s.finish n).running ↔ r ∈ s.running ∧ r ≠ n := by
  rw [finish, List.mem_filter, bne_iff_ne]

@[simp] theorem launched_route (s : Schedule) (n : Nat) : (s.route n).launched = s.launched := by
  unfold route
  split
  · rfl
  · rfl

@[simp] theorem running_route (s : Schedule) (n : Nat) : (s.route n).running = s.running := by
  unfold route
  split
  · rfl
  · rfl

@[simp] theorem mem_waiting_route {n w : Nat} :
    w ∈ (s.route n).waiting ↔ w ∈ s.waiting ∨ w = n ∧ n ∉ s.launched := by
  unfold route
  split
  · next h =>
    rw [Bool.or_eq_true, List.contains_iff_mem, List.contains_iff_mem] at h
    constructor
    · exact Or.inl
    · rintro (hw | ⟨rfl, hn⟩)
      · exact hw
      · exact h.resolve_left hn
  · next h =>
    rw [Bool.or_eq_true, List.contains_iff_mem, List.contains_iff_mem, not_or] at h
    rw [List.mem_append, List.mem_singleton]
    exact or_congr_right (and_iff_left h.1).symm

@[simp] theorem launched_routeAll (s : Schedule) (nodes : List Nat) :
    (s.routeAll nodes).launched = s.launched := by
  unfold routeAll
  induction nodes generalizing s with
  | nil => rfl
  | cons n nodes ih => rw [List.foldl_cons, ih, launched_route]

@[simp] theorem running_routeAll (s : Schedule) (nodes : List Nat) :
    (s.routeAll nodes).running = s.running := by
  unfold routeAll
  induction nodes generalizing s with
  | nil => rfl
  | cons n nodes ih => rw [List.foldl_cons, ih, running_route]

@[simp] theorem mem_waiting_routeAll {nodes : List Nat} {w : Nat} :
    w ∈ (s.routeAll nodes).waiting ↔ w ∈ s.waiting ∨ w ∈ nodes ∧ w ∉ s.launched := by
  induction nodes generalizing s with
  | nil => simp [routeAll]
  | cons n nodes ih =>
    have hcons : s.routeAll (n :: nodes) = (s.route n).routeAll nodes := rfl
    rw [hcons, ih, mem_waiting_route, launched_route, List.mem_cons, or_assoc, or_and_right]
    refine or_congr_right (or_congr_left ?_)
    exact and_congr_right fun h => by rw [h]

@[simp] theorem launched_launchAll (s : Schedule) (nodes : List Nat) :
    (s.launchAll nodes).launched = s.launched ++ nodes := by
  unfold launchAll
  induction nodes generalizing s with
  | nil => simp
  | cons n nodes ih => rw [List.foldl_cons, ih, launch, List.append_assoc, List.singleton_append]

@[simp] theorem running_launchAll (s : Schedule) (nodes : List Nat) :
    (s.launchAll nodes).running = s.running ++ nodes := by
  unfold launchAll
  induction nodes generalizing s with
  | nil => simp
  | cons n nodes ih => rw [List.foldl_cons, ih, launch, List.append_assoc, List.singleton_append]

@[simp] theorem mem_waiting_launchAll {nodes : List Nat} {w : Nat} :
    w ∈ (s.launchAll nodes).waiting ↔ w ∈ s.waiting ∧ w ∉ nodes := by
  induction nodes generalizing s with
  | nil => simp [launchAll]
  | cons n nodes ih =>
    have hcons : s.launchAll (n :: nodes) = (s.launch n).launchAll nodes := rfl
    rw [hcons, ih, launch, List.mem_filter, bne_iff_ne, List.mem_cons, not_or, and_assoc]

/-! ### Blocking -/

/-- Running or waiting. -/
def Active (s : Schedule) (node : Nat) : Prop :=
  node ∈ s.running ∨ node ∈ s.waiting

/-- A predecessor blocks a node when it is running, or when it is still to be launched and other
work is, or leads to, the predecessor. -/
theorem blocks_eq_true_iff (hg : g.WellFormed) {p v : Nat} : s.blocks g p v = true ↔
    p ∈ s.running ∨ p ∉ s.launched ∧ ((∃ r ∈ s.running, g.Leads r p) ∨
      ∃ w ∈ s.waiting, w ≠ v ∧ (w = p ∨ g.Leads w p)) := by
  unfold blocks
  split
  · next hrunning =>
    exact iff_of_true rfl (Or.inl (List.contains_iff_mem.mp hrunning))
  · next hrunning =>
    rw [List.contains_iff_mem] at hrunning
    rw [or_iff_right hrunning]
    split
    · next hlaunched =>
      exact iff_of_false Bool.false_ne_true fun h => h.1 (List.contains_iff_mem.mp hlaunched)
    · next hlaunched =>
      rw [List.contains_iff_mem] at hlaunched
      simp [hlaunched, hg.reaches_iff]

theorem mem_ready_iff {v : Nat} : v ∈ s.ready g ↔
    v ∈ s.waiting ∧ ∀ p, g.Joins p v → ¬ s.blocks g p v = true := by
  rw [ready, List.mem_filter, List.all_eq_true]
  simp only [Bool.not_eq_true', Bool.not_eq_true]
  rfl

/-- **When nothing runs, some waiting node is ready**: one that no other waiting node leads to. -/
theorem ready_ne_nil (hg : g.WellFormed) (hrunning : s.running = []) (hwaiting : s.waiting ≠ []) :
    s.ready g ≠ [] := by
  obtain ⟨v, hv, hsource⟩ := Paths.exists_source hwaiting fun a _ => hg.acyclic a
  refine List.ne_nil_of_mem (mem_ready_iff.mpr ⟨hv, fun p hpv hblocks => ?_⟩)
  rw [blocks_eq_true_iff hg, hrunning] at hblocks
  rcases hblocks with hp | ⟨-, ⟨r, hr, -⟩ | ⟨w, hw, -, hwp⟩⟩
  · exact absurd hp List.not_mem_nil
  · exact absurd hr List.not_mem_nil
  · rcases hwp with rfl | hwp
    · exact hsource w hw (.single hpv)
    · exact hsource w hw (hwp.tail hpv)

/-! ### The invariant -/

/-- What holds of every schedule that comes up in a run. -/
structure Sane (g : Graph) (s : Schedule) : Prop where
  nodup_launched : s.launched.Nodup
  nodup_running : s.running.Nodup
  nodup_waiting : s.waiting.Nodup
  running_subset : s.running ⊆ s.launched
  not_launched : ∀ w ∈ s.waiting, w ∉ s.launched
  /-- Nothing active leads to a node that has been launched. -/
  forward : ∀ a, s.Active a → ∀ b ∈ s.launched, ¬ g.Leads a b

/-- **Nothing active leads to a node that is ready.** -/
theorem Sane.not_leads_of_mem_ready (h : s.Sane g) (hg : g.WellFormed) {a v : Nat}
    (hv : v ∈ s.ready g) (ha : s.Active a) : ¬ g.Leads a v := by
  intro hav
  obtain ⟨-, hfree⟩ := mem_ready_iff.mp hv
  -- The path enters the node through a predecessor that should have blocked it.
  obtain ⟨p, hap, hpv⟩ := Relation.TransGen.tail'_iff.mp hav
  have hne : a ≠ v := by
    rintro rfl
    exact hg.acyclic a hav
  refine hfree p hpv ((blocks_eq_true_iff hg).mpr ?_)
  rcases Relation.reflTransGen_iff_eq_or_transGen.mp hap with rfl | hap
  · rcases ha with hrunning | hwaiting
    · exact Or.inl hrunning
    · exact Or.inr ⟨h.not_launched _ hwaiting, Or.inr ⟨_, hwaiting, hne, Or.inl rfl⟩⟩
  · have hp : p ∉ s.launched := by
      intro hp
      exact h.forward a ha p hp hap
    refine Or.inr ⟨hp, ?_⟩
    rcases ha with hrunning | hwaiting
    · exact Or.inl ⟨a, hrunning, hap⟩
    · exact Or.inr ⟨a, hwaiting, hne, Or.inr hap⟩

theorem Sane.finish (h : s.Sane g) (n : Nat) : (s.finish n).Sane g where
  nodup_launched := h.nodup_launched
  nodup_running := h.nodup_running.filter _
  nodup_waiting := h.nodup_waiting
  running_subset _ hr := h.running_subset (mem_running_finish.mp hr).1
  not_launched := h.not_launched
  forward a ha := h.forward a (ha.imp_left fun hr => (mem_running_finish.mp hr).1)

/-- Control may pass to a node that leads to nothing launched. -/
theorem Sane.route (h : s.Sane g) {n : Nat} (hn : ∀ b ∈ s.launched, ¬ g.Leads n b) :
    (s.route n).Sane g where
  nodup_launched := by
    rw [launched_route]
    exact h.nodup_launched
  nodup_running := by
    rw [running_route]
    exact h.nodup_running
  nodup_waiting := by
    unfold Schedule.route
    split
    · exact h.nodup_waiting
    · next hnew =>
      rw [Bool.or_eq_true, List.contains_iff_mem, List.contains_iff_mem, not_or] at hnew
      rw [← List.concat_eq_append]
      exact h.nodup_waiting.concat hnew.2
  running_subset := by
    rw [running_route, launched_route]
    exact h.running_subset
  not_launched w hw := by
    rw [launched_route]
    rcases mem_waiting_route.mp hw with hw | ⟨rfl, hw⟩
    · exact h.not_launched w hw
    · exact hw
  forward a ha b hb := by
    rw [launched_route] at hb
    rw [Active, running_route, mem_waiting_route] at ha
    rcases ha with ha | ha | ⟨rfl, -⟩
    · exact h.forward a (Or.inl ha) b hb
    · exact h.forward a (Or.inr ha) b hb
    · exact hn b hb

theorem Sane.routeAll (h : s.Sane g) {nodes : List Nat}
    (hnodes : ∀ n ∈ nodes, ∀ b ∈ s.launched, ¬ g.Leads n b) : (s.routeAll nodes).Sane g := by
  induction nodes generalizing s with
  | nil => exact h
  | cons n nodes ih =>
    refine ih (h.route (hnodes n List.mem_cons_self)) ?_
    intro m hm b hb
    rw [launched_route] at hb
    exact hnodes m (List.mem_cons_of_mem _ hm) b hb

theorem nodup_waiting_launchAll (h : s.waiting.Nodup) (nodes : List Nat) :
    (s.launchAll nodes).waiting.Nodup := by
  induction nodes generalizing s with
  | nil => exact h
  | cons n nodes ih => exact ih (h.filter _)

/-- Distinct waiting nodes that nothing active leads to may be launched together. -/
theorem Sane.launchAll (h : s.Sane g) {nodes : List Nat} (hnodup : nodes.Nodup)
    (hnew : ∀ v ∈ nodes, v ∉ s.launched)
    (hforward : ∀ v ∈ nodes, ∀ a, s.Active a ∨ a ∈ nodes → ¬ g.Leads a v)
    (hlaunched : ∀ v ∈ nodes, ∀ b ∈ s.launched, ¬ g.Leads v b) : (s.launchAll nodes).Sane g where
  nodup_launched := by
    rw [launched_launchAll]
    exact h.nodup_launched.append hnodup fun v hv hvn => hnew v hvn hv
  nodup_running := by
    rw [running_launchAll]
    exact h.nodup_running.append hnodup fun v hv hvn => hnew v hvn (h.running_subset hv)
  nodup_waiting := nodup_waiting_launchAll h.nodup_waiting nodes
  running_subset := by
    rw [running_launchAll, launched_launchAll]
    intro v hv
    rw [List.mem_append] at hv ⊢
    exact hv.imp_left fun hv => h.running_subset hv
  not_launched w hw := by
    obtain ⟨hw, hwn⟩ := mem_waiting_launchAll.mp hw
    rw [launched_launchAll, List.mem_append, not_or]
    exact ⟨h.not_launched w hw, hwn⟩
  forward a ha b hb := by
    have ha : s.Active a ∨ a ∈ nodes := by
      rw [Active, running_launchAll, List.mem_append, mem_waiting_launchAll] at ha
      rcases ha with (ha | ha) | ⟨ha, -⟩
      · exact Or.inl (Or.inl ha)
      · exact Or.inr ha
      · exact Or.inl (Or.inr ha)
    rw [launched_launchAll, List.mem_append] at hb
    rcases hb with hb | hb
    · rcases ha with ha | ha
      · exact h.forward a ha b hb
      · exact hlaunched a ha b hb
    · exact hforward b hb a ha

/-- What is ready may be launched, all of it or some. -/
theorem Sane.launchAll_of_sublist (h : s.Sane g) (hg : g.WellFormed) {nodes : List Nat}
    (hnodes : nodes.Sublist (s.ready g)) : (s.launchAll nodes).Sane g := by
  have hwaiting : ∀ v ∈ nodes, v ∈ s.waiting := by
    intro v hv
    exact (mem_ready_iff.mp (hnodes.subset hv)).1
  refine h.launchAll ((h.nodup_waiting.filter _).sublist hnodes) ?_ ?_ ?_
  · intro v hv
    exact h.not_launched v (hwaiting v hv)
  · -- What becomes ready together is waiting together, and so not led to either.
    intro v hv a ha
    rcases ha with ha | ha
    · exact h.not_leads_of_mem_ready hg (hnodes.subset hv) ha
    · exact h.not_leads_of_mem_ready hg (hnodes.subset hv) (Or.inr (hwaiting a ha))
  · intro v hv
    exact h.forward v (Or.inr (hwaiting v hv))

/-- The entries may be launched, all of them or some. -/
theorem sane_launchAll_entries (hg : g.WellFormed) {nodes : List Nat}
    (hnodes : nodes.Sublist g.entries) : (Schedule.launchAll {} nodes).Sane g := by
  have hempty : ({} : Schedule).Sane g :=
    ⟨List.nodup_nil, List.nodup_nil, List.nodup_nil, fun _ hv => hv,
      fun _ hv => absurd hv List.not_mem_nil, fun _ _ _ hv => absurd hv List.not_mem_nil⟩
  refine hempty.launchAll (hg.nodup_entries.sublist hnodes) ?_ ?_ ?_
  · intro v _
    exact List.not_mem_nil
  · intro v hv a _
    exact hg.not_leads_entry (hnodes.subset hv)
  · intro v _ b hb
    exact absurd hb List.not_mem_nil

end Schedule

/-! ### Completions -/

namespace Run

variable {g : Graph} {r : Run} {node : Nat} {u : Update}

/-- The schedule when a completion has been merged and control has passed on, but nothing has been
launched in response yet. -/
def routed (g : Graph) (r : Run) (node : Nat) (u : Update) : Schedule :=
  (r.schedule.finish node).routeAll (g.successors node (r.state.apply u))

@[simp] theorem schedule_complete (g : Graph) (r : Run) (node : Nat) (u : Update) :
    (r.complete g node u).1.schedule =
      (r.routed g node u).launchAll ((r.routed g node u).ready g) := rfl

@[simp] theorem launched_routed (g : Graph) (r : Run) (node : Nat) (u : Update) :
    (r.routed g node u).launched = r.schedule.launched := by
  rw [routed, Schedule.launched_routeAll, Schedule.launched_finish]

@[simp] theorem mem_running_routed {v : Nat} :
    v ∈ (r.routed g node u).running ↔ v ∈ r.schedule.running ∧ v ≠ node := by
  rw [routed, Schedule.running_routeAll, Schedule.mem_running_finish]

@[simp] theorem mem_waiting_routed {v : Nat} : v ∈ (r.routed g node u).waiting ↔
    v ∈ r.schedule.waiting ∨
      v ∈ g.successors node (r.state.apply u) ∧ v ∉ r.schedule.launched := by
  rw [routed, Schedule.mem_waiting_routeAll, Schedule.waiting_finish, Schedule.launched_finish]

/-- The schedule stays sane while control passes on from a running node. -/
theorem sane_routeAll (h : r.schedule.Sane g) (hg : g.WellFormed)
    (hnode : node ∈ r.schedule.running) {nodes : List Nat}
    (hnodes : nodes ⊆ g.successors node (r.state.apply u)) :
    ((r.schedule.finish node).routeAll nodes).Sane g := by
  refine (h.finish node).routeAll ?_
  intro n hn b hb hnb
  -- What a successor leads to, the running node leads to.
  have hleads : g.Leads node b := .head (hg.joins_of_mem_successors (hnodes hn)) hnb
  exact h.forward node (Or.inl hnode) b hb hleads

/-- The schedule is sane when control has passed on from a running node. -/
theorem sane_routed (h : r.schedule.Sane g) (hg : g.WellFormed)
    (hnode : node ∈ r.schedule.running) : (r.routed g node u).Sane g :=
  sane_routeAll h hg hnode fun _ hn => hn

/-- A completion keeps a schedule sane. -/
theorem sane_complete (h : r.schedule.Sane g) (hg : g.WellFormed)
    (hnode : node ∈ r.schedule.running) : (r.complete g node u).1.schedule.Sane g :=
  (sane_routed h hg hnode).launchAll_of_sublist hg (List.Sublist.refl _)

end Run

end AgentPipeline
