import AgentPipeline.Proofs.Graph.Reach
import Mathlib.Data.List.Chain

/-!
# Depth-first search for cycles

The search keeps the path that it has come along and the nodes that it has entered.  What it has
entered and left again is settled: every child of a settled node is settled too, and no cycle goes
through it.  A node is left when all its children are settled; a cycle through it would stay among
the settled nodes from its first step on, and the node is not one of them yet.

## Main definitions

* `Paths.IsCycle` — a closed path with distinct nodes.
* `Paths.Acyclic` — no path of one or more edges leads from a node to itself.
* `Paths.Settled` — the invariant of the search.

## Main results

* `Paths.exists_source` — finitely many nodes without a cycle have one that none leads to.
* `Paths.isCycle_of_findCycle` — what the search comes upon is a cycle.
* `Paths.findCycle_eq_none_iff` — **the search comes upon nothing exactly when there is no cycle.**
-/

namespace AgentPipeline.Paths

variable {children : List (List Nat)}

/-- A closed path: its first node is repeated at the end, and all others are distinct. -/
structure IsCycle (children : List (List Nat)) (path : List Nat) : Prop where
  long : 2 ≤ path.length
  closed : path.head? = path.getLast?
  distinct : path.dropLast.Nodup
  edges : path.IsChain (Child children)

/-- No path of one or more edges leads from a node to itself. -/
def Acyclic (children : List (List Nat)) : Prop :=
  ∀ a, ¬ Relation.TransGen (Child children) a a

/-- The nodes of a chain of edges reach its last node. -/
theorem transGen_of_isChain {a b : Nat} {l : List Nat}
    (h : (a :: l ++ [b]).IsChain (Child children)) : Relation.TransGen (Child children) a b := by
  induction l generalizing a with
  | nil =>
    rw [List.cons_append, List.nil_append, List.isChain_pair] at h
    exact .single h
  | cons c l ih =>
    rw [List.cons_append, List.cons_append, List.isChain_cons_cons] at h
    exact .head h.1 (ih h.2)

/-- A closed path leads from its first node to itself. -/
theorem IsCycle.not_acyclic {path : List Nat} (h : IsCycle children path) : ¬ Acyclic children := by
  obtain ⟨hlong, hclosed, -, hedges⟩ := h
  rcases List.eq_nil_or_concat path with rfl | ⟨init, last, rfl⟩
  · simp at hlong
  · cases init with
    | nil => simp at hlong
    | cons a l =>
      rw [List.concat_eq_append, List.cons_append, List.head?_cons, ← List.cons_append,
        List.getLast?_concat] at hclosed
      obtain rfl := Option.some.inj hclosed
      exact fun hacyclic => hacyclic a (transGen_of_isChain (by simpa using hedges))

/-- Among finitely many nodes of which none leads to itself there is one that none of the others
leads to. -/
theorem exists_source {r : Nat → Nat → Prop} {nodes : List Nat} (hne : nodes ≠ [])
    (hirrefl : ∀ a ∈ nodes, ¬ Relation.TransGen r a a) :
    ∃ a ∈ nodes, ∀ b ∈ nodes, ¬ Relation.TransGen r b a := by
  induction nodes with
  | nil => exact absurd rfl hne
  | cons a nodes ih =>
    rw [List.forall_mem_cons] at hirrefl
    rcases eq_or_ne nodes [] with rfl | hne
    · refine ⟨a, List.mem_cons_self, fun b hb => ?_⟩
      rw [List.mem_singleton.mp hb]
      exact hirrefl.1
    · obtain ⟨m, hm, hmin⟩ := ih hne hirrefl.2
      by_cases ham : Relation.TransGen r a m
      · -- What leads to the new node would lead to the old source.
        refine ⟨a, List.mem_cons_self, fun b hb hba => ?_⟩
        rcases List.mem_cons.mp hb with rfl | hb
        · exact hirrefl.1 hba
        · exact hmin b hb (hba.trans ham)
      · refine ⟨m, List.mem_cons_of_mem _ hm, fun b hb => ?_⟩
        rcases List.mem_cons.mp hb with rfl | hb
        · exact ham
        · exact hmin b hb

/-! ### Folds that may fail -/

/-- A fold that fails does so at one of its elements. -/
theorem exists_error_of_foldlM {α σ ε : Type} {f : σ → α → Except ε σ} {l : List α} {init : σ}
    {e : ε} (h : l.foldlM f init = .error e) : ∃ a ∈ l, ∃ s, f s a = .error e := by
  induction l generalizing init with
  | nil => cases h
  | cons a l ih =>
    rw [List.foldlM_cons] at h
    cases hfa : f init a with
    | error e' =>
      rw [hfa] at h
      cases h
      exact ⟨a, List.mem_cons_self, init, hfa⟩
    | ok s =>
      rw [hfa] at h
      obtain ⟨b, hb, s', hs'⟩ := ih h
      exact ⟨b, List.mem_cons_of_mem _ hb, s', hs'⟩

/-! ### What the search comes upon -/

/-- The part of a path from a node of it on, closed by that node. -/
theorem isCycle_dropWhile {path : List Nat} {node : Nat} (hnodup : path.Nodup)
    (hmem : node ∈ path) (hedges : (path ++ [node]).IsChain (Child children)) :
    IsCycle children (path.dropWhile (· != node) ++ [node]) := by
  obtain ⟨before, rest, rfl, hbefore⟩ := List.eq_append_cons_of_mem hmem
  have hdrop : (before ++ node :: rest).dropWhile (· != node) = node :: rest := by
    rw [List.dropWhile_append_of_pos]
    · simp
    · intro x hx
      rw [bne_iff_ne]
      exact fun hxn => hbefore (hxn ▸ hx)
  rw [hdrop]
  refine ⟨by simp, by simp [List.getLast?_cons], ?_, ?_⟩
  · rw [List.dropLast_concat]
    exact (List.nodup_append.mp hnodup).2.1
  · rw [List.append_assoc] at hedges
    exact hedges.right_of_append

theorem isCycle_of_visit {depth : Nat} {path visited : List Nat} {node : Nat} {cycle : List Nat}
    (hnodup : path.Nodup) (hedges : (path ++ [node]).IsChain (Child children))
    (h : visit children depth path visited node = .error cycle) : IsCycle children cycle := by
  induction depth generalizing path visited node with
  | zero => cases h
  | succ depth ih =>
    unfold visit at h
    split at h
    · next hmem =>
      cases h
      exact isCycle_dropWhile hnodup (List.contains_iff_mem.mp hmem) hedges
    · next hmem =>
      split at h
      · cases h
      · obtain ⟨child, hchild, visited', hvisit⟩ := exists_error_of_foldlM h
        rw [List.contains_iff_mem] at hmem
        refine ih ?_ ?_ hvisit
        · rw [← List.concat_eq_append]
          exact hnodup.concat hmem
        · rw [List.isChain_append]
          refine ⟨hedges, List.isChain_singleton child, fun x hx y hy => ?_⟩
          rw [List.getLast?_concat, Option.mem_some_iff] at hx
          rw [List.head?_cons, Option.mem_some_iff] at hy
          subst hx hy
          exact hchild

/-- What the search comes upon is a cycle. -/
theorem isCycle_of_findCycle {cycle : List Nat} (h : findCycle children = some cycle) :
    IsCycle children cycle := by
  unfold findCycle at h
  split at h
  · next hfold =>
    cases h
    obtain ⟨start, -, visited, hvisit⟩ := exists_error_of_foldlM hfold
    exact isCycle_of_visit List.nodup_nil (List.isChain_singleton start) hvisit
  · cases h

/-! ### What the search leaves behind -/

/-- The invariant of the search: the path has been entered, and whatever else has been entered has
only such children and lies on no cycle. -/
structure Settled (children : List (List Nat)) (path visited : List Nat) : Prop where
  entered : ∀ v ∈ path, v ∈ visited
  closed : ∀ v ∈ visited, v ∉ path → ∀ w, Child children v w → w ∈ visited ∧ w ∉ path
  acyclic : ∀ v ∈ visited, v ∉ path → ¬ Relation.TransGen (Child children) v v

/-- What is reached from a settled node is settled. -/
theorem Settled.mem_of_transGen {path visited : List Nat} (h : Settled children path visited)
    {v w : Nat} (hv : v ∈ visited) (hvp : v ∉ path)
    (hvw : Relation.TransGen (Child children) v w) : w ∈ visited ∧ w ∉ path := by
  induction hvw with
  | single hchild => exact h.closed v hv hvp _ hchild
  | tail _ hchild ih => exact h.closed _ ih.1 ih.2 _ hchild

/-- A node that has not been entered is entered at the end of the path. -/
theorem Settled.enter {path visited : List Nat} (h : Settled children path visited) {node : Nat}
    (hnode : node ∉ visited) : Settled children (path ++ [node]) (node :: visited) where
  entered v hv := by
    rcases List.mem_append.mp hv with hv | hv
    · exact List.mem_cons_of_mem _ (h.entered v hv)
    · exact List.mem_cons.mpr (Or.inl (List.mem_singleton.mp hv))
  closed v hv hvp w hvw := by
    rw [List.mem_append, List.mem_singleton, not_or] at hvp
    obtain ⟨hw, hwp⟩ := h.closed v ((List.mem_cons.mp hv).resolve_left hvp.2) hvp.1 w hvw
    refine ⟨List.mem_cons_of_mem _ hw, ?_⟩
    rw [List.mem_append, List.mem_singleton, not_or]
    exact ⟨hwp, fun hwn => hnode (hwn ▸ hw)⟩
  acyclic v hv hvp := by
    rw [List.mem_append, List.mem_singleton, not_or] at hvp
    exact h.acyclic v ((List.mem_cons.mp hv).resolve_left hvp.2) hvp.1

/-- The node at the end of the path is settled when its children are. -/
theorem Settled.leave {path visited : List Nat} {node : Nat}
    (h : Settled children (path ++ [node]) visited)
    (hchildren : ∀ w, Child children node w → w ∈ visited ∧ w ∉ path ++ [node]) :
    Settled children path visited := by
  have hmem : ∀ v, v ∉ path → v ≠ node → v ∉ path ++ [node] := by
    intro v hvp hvn
    rw [List.mem_append, List.mem_singleton, not_or]
    exact ⟨hvp, hvn⟩
  refine ⟨fun v hv => h.entered v (List.mem_append_left _ hv), ?_, ?_⟩
  · intro v hv hvp w hvw
    have hw : w ∈ visited ∧ w ∉ path ++ [node] := by
      rcases eq_or_ne v node with rfl | hvn
      · exact hchildren w hvw
      · exact h.closed v hv (hmem v hvp hvn) w hvw
    exact ⟨hw.1, fun hwp => hw.2 (List.mem_append_left _ hwp)⟩
  · intro v hv hvp hcycle
    rcases eq_or_ne v node with rfl | hvn
    · -- The first step of a cycle goes to a settled child, and from there nothing leads back.
      obtain ⟨w, hvw, hwv⟩ := Relation.TransGen.head'_iff.mp hcycle
      have hw := hchildren w hvw
      rcases Relation.reflTransGen_iff_eq_or_transGen.mp hwv with rfl | hwv
      · exact hw.2 (List.mem_append_right _ List.mem_cons_self)
      · exact (h.mem_of_transGen hw.1 hw.2 hwv).2 (List.mem_append_right _ List.mem_cons_self)
    · exact h.acyclic v hv (hmem v hvp hvn) hcycle

/-- Searches from several nodes leave all of them settled if each one does. -/
theorem settled_of_foldlM {path l visited final : List Nat}
    {search : List Nat → Nat → Except (List Nat) (List Nat)}
    (hstep : ∀ c ∈ l, ∀ s s', Settled children path s → search s c = .ok s' →
      Settled children path s' ∧ (c ∈ s' ∧ c ∉ path) ∧ s ⊆ s')
    (hsettled : Settled children path visited) (h : l.foldlM search visited = .ok final) :
    Settled children path final ∧ (∀ c ∈ l, c ∈ final ∧ c ∉ path) ∧ visited ⊆ final := by
  induction l generalizing visited with
  | nil =>
    cases h
    exact ⟨hsettled, fun c hc => absurd hc List.not_mem_nil, fun _ hx => hx⟩
  | cons c l ih =>
    rw [List.foldlM_cons] at h
    cases hc : search visited c with
    | error cycle =>
      rw [hc] at h
      cases h
    | ok s =>
      rw [hc] at h
      obtain ⟨hs, hmem, hsub⟩ := hstep c List.mem_cons_self visited s hsettled hc
      obtain ⟨hfinal, hall, hrest⟩ := ih (fun d hd => hstep d (List.mem_cons_of_mem _ hd)) hs h
      refine ⟨hfinal, fun d hd => ?_, fun x hx => hrest (hsub hx)⟩
      rcases List.mem_cons.mp hd with rfl | hd
      · exact ⟨hrest hmem.1, hmem.2⟩
      · exact hall d hd

/-- A search that comes upon nothing leaves its node settled. -/
theorem settled_of_visit (hrange : InRange children) {depth : Nat} {path visited final : List Nat}
    {node : Nat} (hnodup : path.Nodup) (hlt : ∀ v ∈ path, v < children.length)
    (hnode : node < children.length) (hdepth : children.length < path.length + depth)
    (hsettled : Settled children path visited)
    (h : visit children depth path visited node = .ok final) :
    Settled children path final ∧ (node ∈ final ∧ node ∉ path) ∧ visited ⊆ final := by
  induction depth generalizing path visited node final with
  | zero =>
    -- A path has distinct nodes, so the depth does not run out.
    have := length_le_of_nodup_of_lt hnodup hlt
    omega
  | succ depth ih =>
    unfold visit at h
    split at h
    · cases h
    · next hpath =>
      rw [List.contains_iff_mem] at hpath
      split at h
      · next hvisited =>
        cases h
        exact ⟨hsettled, ⟨List.contains_iff_mem.mp hvisited, hpath⟩, fun _ hx => hx⟩
      · next hvisited =>
        rw [List.contains_iff_mem] at hvisited
        have hnodup' : (path ++ [node]).Nodup := by
          rw [← List.concat_eq_append]
          exact hnodup.concat hpath
        have hlt' : ∀ v ∈ path ++ [node], v < children.length := by
          intro v hv
          rcases List.mem_append.mp hv with hv | hv
          · exact hlt v hv
          · exact List.mem_singleton.mp hv ▸ hnode
        have hdepth' : children.length < (path ++ [node]).length + depth := by
          rw [List.length_append, List.length_singleton]
          omega
        obtain ⟨hfinal, hchildren, hsub⟩ := settled_of_foldlM
          (fun child hchild s s' hs hvisit => ih hnodup' hlt'
            (hrange node child hchild) hdepth' hs hvisit)
          (hsettled.enter hvisited) h
        exact ⟨hfinal.leave hchildren, ⟨hsub List.mem_cons_self, hpath⟩,
          fun x hx => hsub (List.mem_cons_of_mem _ hx)⟩

/-- **The search comes upon nothing exactly when there is no cycle.** -/
theorem findCycle_eq_none_iff (hrange : InRange children) :
    findCycle children = none ↔ Acyclic children := by
  constructor
  · intro h a hcycle
    unfold findCycle at h
    split at h
    · cases h
    · next visited hfold =>
      have hempty : Settled children [] [] :=
        ⟨fun _ hv => hv, fun _ hv => absurd hv List.not_mem_nil,
          fun _ hv => absurd hv List.not_mem_nil⟩
      obtain ⟨hsettled, hall, -⟩ := settled_of_foldlM
        (fun start hstart s s' hs hvisit => settled_of_visit hrange List.nodup_nil
          (fun _ hv => absurd hv List.not_mem_nil) (List.mem_range.mp hstart) (by simp) hs hvisit)
        hempty hfold
      have ha := hall a (List.mem_range.mpr (lt_length_of_transGen hcycle))
      exact hsettled.acyclic a ha.1 ha.2 hcycle
  · intro h
    cases hfind : findCycle children with
    | none => rfl
    | some cycle => exact absurd h (isCycle_of_findCycle hfind).not_acyclic

end AgentPipeline.Paths
