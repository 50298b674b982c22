import AgentPipeline.Graph.Compile
import Mathlib.Data.List.Nodup
import Mathlib.Data.List.Perm.Subperm
import Mathlib.Logic.Relation

/-!
# Reachability by spreading

The nodes that a node reaches are found by adding the children of what has been found, once for
every node of the graph.  Each round that finds something new makes the list longer, and a list of
distinct nodes is never longer than the graph; so after that many rounds nothing new can be found,
and a list to which nothing can be added holds every node that some path leads to.

## Main definitions

* `Paths.Child` — the edges of a list of children.
* `Paths.InRange` — every child is a node itself.
* `Paths.Saturated` — a list of nodes that holds the children of its nodes.

## Main results

* `Paths.mem_reachableFrom_iff` — **spreading finds exactly the nodes that a path of one or more
  edges leads to.**
-/

namespace AgentPipeline.Paths

variable {children : List (List Nat)}

/-- An edge leads from the first node to the second. -/
def Child (children : List (List Nat)) (a b : Nat) : Prop :=
  b ∈ childrenOf children a

/-- Every child is a node itself. -/
def InRange (children : List (List Nat)) : Prop :=
  ∀ a b, Child children a b → b < children.length

/-- A node with a child is a node of the graph. -/
theorem Child.lt_length {a b : Nat} (h : Child children a b) : a < children.length := by
  by_contra hge
  rw [Nat.not_lt] at hge
  rw [Child, childrenOf, List.getD_eq_getElem?_getD, List.getElem?_eq_none hge] at h
  exact List.not_mem_nil h

/-- A path that begins somewhere begins with a child. -/
theorem lt_length_of_transGen {a b : Nat} (h : Relation.TransGen (Child children) a b) :
    a < children.length := by
  obtain ⟨c, hac, -⟩ := Relation.TransGen.head'_iff.mp h
  exact hac.lt_length

/-! ### Lists without repetitions -/

@[simp] theorem mem_addNew {nodes : List Nat} {a x : Nat} :
    x ∈ addNew nodes a ↔ x ∈ nodes ∨ x = a := by
  unfold addNew
  split
  · next h =>
    rw [List.contains_iff_mem] at h
    constructor
    · exact Or.inl
    · rintro (hx | rfl)
      · exact hx
      · exact h
  · next h => rw [List.mem_append, List.mem_singleton]

theorem nodup_addNew {nodes : List Nat} (h : nodes.Nodup) (a : Nat) : (addNew nodes a).Nodup := by
  unfold addNew
  split
  · exact h
  · next hc =>
    rw [List.contains_iff_mem] at hc
    rw [← List.concat_eq_append]
    exact h.concat hc

@[simp] theorem mem_foldl_addNew {l nodes : List Nat} {x : Nat} :
    x ∈ l.foldl addNew nodes ↔ x ∈ nodes ∨ x ∈ l := by
  induction l generalizing nodes with
  | nil => simp
  | cons a l ih => rw [List.foldl_cons, ih, mem_addNew, List.mem_cons, or_assoc]

theorem nodup_foldl_addNew {nodes : List Nat} (h : nodes.Nodup) (l : List Nat) :
    (l.foldl addNew nodes).Nodup := by
  induction l generalizing nodes with
  | nil => exact h
  | cons a l ih => exact ih (nodup_addNew h a)

/-- Adding what is there already changes nothing. -/
theorem foldl_addNew_of_subset {l nodes : List Nat} (h : l ⊆ nodes) :
    l.foldl addNew nodes = nodes := by
  induction l with
  | nil => rfl
  | cons a l ih =>
    have ha : addNew nodes a = nodes := by
      rw [addNew, if_pos (List.contains_iff_mem.mpr (h List.mem_cons_self))]
    rw [List.foldl_cons, ha]
    exact ih fun x hx => h (List.mem_cons_of_mem _ hx)

/-- A list of distinct nodes of a graph is no longer than the graph. -/
theorem length_le_of_nodup_of_lt {nodes : List Nat} {n : Nat} (hnodup : nodes.Nodup)
    (hlt : ∀ x ∈ nodes, x < n) : nodes.length ≤ n := by
  have hsub : nodes ⊆ List.range n := fun x hx => List.mem_range.mpr (hlt x hx)
  simpa using (List.subperm_of_subset hnodup hsub).length_le

/-! ### One round -/

theorem mem_spread {nodes : List Nat} {x : Nat} :
    x ∈ spread children nodes ↔ x ∈ nodes ∨ ∃ a ∈ nodes, Child children a x := by
  rw [spread, mem_foldl_addNew, List.mem_flatMap]
  rfl

theorem nodup_spread {nodes : List Nat} (h : nodes.Nodup) : (spread children nodes).Nodup :=
  nodup_foldl_addNew h _

/-- The children of the nodes of the list are in the list. -/
def Saturated (children : List (List Nat)) (nodes : List Nat) : Prop :=
  ∀ a ∈ nodes, ∀ b, Child children a b → b ∈ nodes

/-- A saturated list holds everything that its nodes reach. -/
theorem Saturated.mem_of_transGen {nodes : List Nat} (h : Saturated children nodes) {a b : Nat}
    (ha : a ∈ nodes) (hab : Relation.TransGen (Child children) a b) : b ∈ nodes := by
  induction hab with
  | single hchild => exact h _ ha _ hchild
  | tail _ hchild ih => exact h _ ih _ hchild

theorem spread_of_saturated {nodes : List Nat} (h : Saturated children nodes) :
    spread children nodes = nodes := by
  refine foldl_addNew_of_subset fun b hb => ?_
  obtain ⟨a, ha, hab⟩ := List.mem_flatMap.mp hb
  exact h a ha b hab

/-- A round over a list that is not saturated finds something new. -/
theorem length_lt_length_spread {nodes : List Nat} (hnodup : nodes.Nodup)
    (h : ¬ Saturated children nodes) : nodes.length < (spread children nodes).length := by
  unfold Saturated at h
  push Not at h
  obtain ⟨a, ha, b, hab, hb⟩ := h
  have hsub : b :: nodes ⊆ spread children nodes := by
    intro x hx
    rcases List.mem_cons.mp hx with rfl | hx
    · exact mem_spread.mpr (Or.inr ⟨a, ha, hab⟩)
    · exact mem_spread.mpr (Or.inl hx)
  exact (List.subperm_of_subset (List.nodup_cons.mpr ⟨hb, hnodup⟩) hsub).length_le

/-! ### All rounds -/

theorem subset_spreadTimes (n : Nat) (nodes : List Nat) :
    nodes ⊆ spreadTimes children n nodes := by
  induction n generalizing nodes with
  | zero => exact fun _ hx => hx
  | succ n ih => exact fun x hx => ih _ (mem_spread.mpr (Or.inl hx))

theorem spreadTimes_of_saturated {nodes : List Nat} (h : Saturated children nodes) (n : Nat) :
    spreadTimes children n nodes = nodes := by
  induction n with
  | zero => rfl
  | succ n ih => rw [spreadTimes, spread_of_saturated h, ih]

/-- Rounds enough for the nodes that are still missing saturate a list. -/
theorem saturated_spreadTimes (hrange : InRange children) (n : Nat) {nodes : List Nat}
    (hnodup : nodes.Nodup) (hlt : ∀ x ∈ nodes, x < children.length)
    (hn : children.length ≤ nodes.length + n) :
    Saturated children (spreadTimes children n nodes) := by
  induction n generalizing nodes with
  | zero =>
    -- The list has as many distinct nodes as the graph, so it has them all.
    rw [spreadTimes]
    intro a ha b hab
    by_contra hb
    have hle := length_le_of_nodup_of_lt (List.nodup_cons.mpr ⟨hb, hnodup⟩) (n := children.length)
      fun x hx => by
        rcases List.mem_cons.mp hx with rfl | hx
        · exact hrange a x hab
        · exact hlt x hx
    rw [List.length_cons] at hle
    omega
  | succ n ih =>
    by_cases hsat : Saturated children nodes
    · rw [spreadTimes_of_saturated hsat]
      exact hsat
    · have hlen := length_lt_length_spread hnodup hsat
      refine ih (nodup_spread hnodup) ?_ (by omega)
      intro x hx
      rcases mem_spread.mp hx with hx | ⟨a, -, hax⟩
      · exact hlt x hx
      · exact hrange a x hax

theorem transGen_of_mem_spreadTimes {start : Nat} (n : Nat) {nodes : List Nat}
    (h : ∀ x ∈ nodes, Relation.TransGen (Child children) start x) :
    ∀ x ∈ spreadTimes children n nodes, Relation.TransGen (Child children) start x := by
  induction n generalizing nodes with
  | zero => exact h
  | succ n ih =>
    refine ih fun x hx => ?_
    rcases mem_spread.mp hx with hx | ⟨a, ha, hax⟩
    · exact h x hx
    · exact (h a ha).tail hax

/-- **Spreading finds exactly the nodes that some path of one or more edges leads to.** -/
theorem mem_reachableFrom_iff (hrange : InRange children) {start x : Nat} :
    x ∈ reachableFrom children start ↔ Relation.TransGen (Child children) start x := by
  have hfirst : ∀ y, y ∈ (childrenOf children start).foldl addNew [] ↔ Child children start y := by
    intro y
    rw [mem_foldl_addNew]
    simp [Child]
  constructor
  · exact transGen_of_mem_spreadTimes _ (fun y hy => .single ((hfirst y).mp hy)) x
  · intro hx
    have hsat : Saturated children (reachableFrom children start) :=
      saturated_spreadTimes hrange _ (nodup_foldl_addNew List.nodup_nil _)
        (fun y hy => hrange start y ((hfirst y).mp hy)) (by omega)
    have hchild : ∀ y, Child children start y → y ∈ reachableFrom children start :=
      fun y hy => subset_spreadTimes _ _ ((hfirst y).mpr hy)
    rcases Relation.TransGen.head'_iff.mp hx with ⟨c, hc, hcx⟩
    rcases Relation.reflTransGen_iff_eq_or_transGen.mp hcx with rfl | hcx
    · exact hchild x hc
    · exact hsat.mem_of_transGen (hchild c hc) hcx

end AgentPipeline.Paths
