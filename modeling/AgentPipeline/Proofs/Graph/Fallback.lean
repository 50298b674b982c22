import AgentPipeline.Proofs.Graph.Successors

/-!
# The fallback of a branching node

When none of its conditions is true, a node that has some passes control along one edge that has
none.  The fallback is meant to be the last such edge.  But targets that are named again are dropped
before the last one is taken, so what counts is where a target is named for the first time: control
goes to the target that is new last, and that is the one named last unless another one has come up
between its first mention and its last.

## Main definitions

* `Newest` — the target of a list that is mentioned for the first time after all others.

## Main results

* `getLast?_eraseDups_eq_some_iff` — dropping repeated targets leaves the newest one at the end.
* `Design.successors_eq_singleton_iff` — the fallback is the newest target.
* `Design.fallback_eq_last_iff` — **when the fallback is the last edge without a condition.**
* `fallback_not_last` — a fallback that is not.
-/

namespace AgentPipeline

/-! ### The newest target -/

/-- The target of a list that is mentioned for the first time after all others. -/
def Newest (targets : List Nat) (v : Nat) : Prop :=
  v ∈ targets ∧ ∀ w ∈ targets, targets.idxOf w ≤ targets.idxOf v

/-- Dropping repeated targets leaves the newest one at the end. -/
theorem getLast?_eraseDups_eq_some_iff {targets : List Nat} {v : Nat} :
    targets.eraseDups.getLast? = some v ↔ Newest targets v := by
  induction targets using List.reverseRecOn with
  | nil => simp [Newest]
  | append_singleton targets a ih =>
    by_cases ha : a ∈ targets
    · -- Nothing is mentioned for the first time at the end.
      have hmem : ∀ w, w ∈ targets ++ [a] ↔ w ∈ targets := by
        intro w
        rw [List.mem_append, List.mem_singleton, or_iff_left_iff_imp]
        rintro rfl
        exact ha
      rw [eraseDups_concat_of_mem ha, ih, Newest, Newest, hmem]
      refine and_congr_right fun hv => forall_congr' fun w => ?_
      rw [hmem]
      refine imp_congr_right fun hw => ?_
      rw [List.idxOf_append_of_mem hw, List.idxOf_append_of_mem hv]
    · have hnew : (targets ++ [a]).idxOf a = targets.length := by
        rw [List.idxOf_append_of_notMem ha, List.idxOf_cons_self, Nat.add_zero]
      rw [eraseDups_concat_of_not_mem ha, List.getLast?_concat, Option.some.injEq]
      constructor
      · rintro rfl
        refine ⟨List.mem_append_right _ (List.mem_singleton_self a), fun w hw => ?_⟩
        have hlt := List.idxOf_lt_length_of_mem hw
        rw [List.length_append, List.length_singleton] at hlt
        omega
      · rintro ⟨hv, hnewest⟩
        have hle := hnewest a (List.mem_append_right _ (List.mem_singleton_self a))
        rcases List.mem_append.mp hv with hv | hv
        · have hlt := List.idxOf_lt_length_of_mem hv
          rw [hnew, List.idxOf_append_of_mem hv] at hle
          omega
        · exact (List.mem_singleton.mp hv).symm

/-- A last target that has not been mentioned before is the newest. -/
theorem newest_of_not_mem_dropLast {targets : List Nat} {v : Nat}
    (hlast : targets.getLast? = some v) (hnew : v ∉ targets.dropLast) : Newest targets v := by
  obtain ⟨before, rfl⟩ := List.getLast?_eq_some_iff.mp hlast
  rw [List.dropLast_concat] at hnew
  rw [← getLast?_eraseDups_eq_some_iff, eraseDups_concat_of_not_mem hnew, List.getLast?_concat]

/-! ### Falling back -/

namespace Design

variable {d : Design} {g : Graph} {edges : List EdgeSpec} {u : Nat} {s : RunState}

section

variable (hd : d.compile = .ok g) (hedges : d.explicitEdges = some edges)
  (hgoes : s.shouldStop = false)
  (hconditional : ∃ e ∈ d.edgesFrom edges u, e.isConditional = true)
  (hnone : ∀ e ∈ d.edgesFrom edges u, e.firesIn s = false)
include hd hedges hgoes hconditional hnone

/-- When none of its conditions is true, a node passes control to the newest target of its edges
without a condition. -/
theorem successors_eq_singleton_iff {v : Nat} :
    g.successors u s = [v] ↔ Newest (d.plainTargets edges u) v := by
  have hfired : d.firingTargets edges u s = [] := by
    refine List.map_eq_nil_iff.mpr (List.filter_eq_nil_iff.mpr fun e he => ?_)
    rw [hnone e he]
    exact Bool.false_ne_true
  rw [successors_eq hd hedges u hgoes, if_neg (not_forall_plain hconditional), if_pos hfired,
    ← getLast?_eraseDups_eq_some_iff]
  cases (d.plainTargets edges u).eraseDups.getLast? with
  | none => exact iff_of_false (List.cons_ne_nil _ _).symm (Option.some_ne_none v).symm
  | some w => rw [Option.toList_some, List.singleton_inj, Option.some.injEq]

/-- **When the fallback is the last edge without a condition**: exactly if its target is the newest,
that is if every target of the other ones has been named by the first mention of this one.  So it is
if no other edge without a condition has the same target. -/
theorem fallback_eq_last_iff {last : EdgeSpec}
    (hlast : (d.plainEdges edges u).getLast? = some last) :
    (∃ e ∈ d.plainEdges edges u, g.successors u s = [d.agentOf e.target] ∧
      Newest (d.plainTargets edges u) (d.agentOf e.target)) ∧
    (g.successors u s = [d.agentOf last.target] ↔
      Newest (d.plainTargets edges u) (d.agentOf last.target)) ∧
    (d.agentOf last.target ∉ (d.plainTargets edges u).dropLast →
      g.successors u s = [d.agentOf last.target]) := by
  have hnewest := fun v => successors_eq_singleton_iff (v := v) hd hedges hgoes hconditional hnone
  have hlastTarget : (d.plainTargets edges u).getLast? = some (d.agentOf last.target) := by
    rw [plainTargets, List.getLast?_map, hlast, Option.map_some]
  refine ⟨?_, hnewest _, fun hnew => (hnewest _).mpr (newest_of_not_mem_dropLast hlastTarget hnew)⟩
  -- Some target is at the end when the repeated ones are dropped, as there is a last edge.
  have hne : (d.plainTargets edges u).eraseDups ≠ [] := by
    refine List.ne_nil_of_mem (List.mem_eraseDups.mpr (List.mem_of_getLast? hlastTarget))
  obtain ⟨v, hv⟩ :=
    Option.ne_none_iff_exists'.mp fun hnil => hne (List.getLast?_eq_none_iff.mp hnil)
  obtain ⟨e, he, rfl⟩ := List.mem_map.mp (List.mem_eraseDups.mp (List.mem_of_getLast? hv))
  have hnew := getLast?_eraseDups_eq_some_iff.mp hv
  exact ⟨e, he, (hnewest _).mpr hnew, hnew⟩

end

end Design

/-! ### Edges that name a target again -/

/-- The edges of an agent `a`: one to `b` with a condition, then one to each of the given agents. -/
def offers (targets : List String) : List EdgeSpec :=
  ⟨"a", "b", some "score > 0.5"⟩ :: targets.map fun target => ⟨"a", target, none⟩

/-- An agent `a` that falls back to one of the given agents. -/
def undecided (targets : List String) : Design where
  name := "d"
  agents := ["a", "b", "c", "d"].map fun name => { name, role := "analyzer", model := "gpt-4o" }
  edges := some (offers targets)

/-- What it compiles to. -/
def undecidedGraph (targets : List String) : Graph :=
  Graph.joined (undecided targets) ((offers targets).map (undecided targets).resolved)

/-- Two agents named in turn, each twice. -/
def turns : List String :=
  ["c", "d", "c", "d"]

/-- When two agents are named in turn, the fallback is the last edge. -/
theorem Design.fallback_eq_last_turns : (undecided turns).compile = .ok (undecidedGraph turns) ∧
    ((undecided turns).plainEdges (offers turns) 0).getLast? = some ⟨"a", "d", none⟩ ∧
    (undecidedGraph turns).successors 0 (RunState.initial (undecided turns) 50 300) =
      [(undecided turns).agentOf "d"] := by
  have hd : (undecided turns).compile = .ok (undecidedGraph turns) := by decide +kernel
  have hconditional : ∃ e ∈ (undecided turns).edgesFrom (offers turns) 0,
      e.isConditional = true := by decide +kernel
  have hnone : ∀ e ∈ (undecided turns).edgesFrom (offers turns) 0,
      e.firesIn (RunState.initial (undecided turns) 50 300) = false := by decide +kernel
  have hlast : ((undecided turns).plainEdges (offers turns) 0).getLast? =
      some ⟨"a", "d", none⟩ := by decide +kernel
  -- Both have been mentioned when they are named again.
  have hnewest : Newest ((undecided turns).plainTargets (offers turns) 0)
      ((undecided turns).agentOf "d") := by
    rw [← getLast?_eraseDups_eq_some_iff]
    decide +kernel
  exact ⟨hd, hlast, (fallback_eq_last_iff hd rfl rfl hconditional hnone hlast).2.1.mpr hnewest⟩

/-- Two agents, and the first of them again. -/
def returning : List String :=
  ["c", "d", "c"]

/-- A fallback that is not the last edge: the edges without a condition lead to `c`, to `d` and
again to `c`, and no condition is true, but control goes to `d`. -/
theorem fallback_not_last : (undecided returning).compile = .ok (undecidedGraph returning) ∧
    (undecided returning).explicitEdges = some (offers returning) ∧
    (RunState.initial (undecided returning) 50 300).shouldStop = false ∧
    (∃ e ∈ (undecided returning).edgesFrom (offers returning) 0, e.isConditional = true) ∧
    (∀ e ∈ (undecided returning).edgesFrom (offers returning) 0,
      e.firesIn (RunState.initial (undecided returning) 50 300) = false) ∧
    ((undecided returning).plainEdges (offers returning) 0).getLast? = some ⟨"a", "c", none⟩ ∧
    (undecidedGraph returning).successors 0 (RunState.initial (undecided returning) 50 300) ≠
      [(undecided returning).agentOf "c"] := by
  decide +kernel

end AgentPipeline
