import AgentPipeline.Graph.Compile
import Mathlib.Data.List.Forall2

/-!
# Edges between declared names

An edge of a design names its two ends.  A name stands for the first agent that declares it, and an
edge can be resolved when both of its names are declared and its condition, unless it is blank, can
be read.

## Main definitions

* `Design.Declares d name i` — the agent at position `i` is the first one with that name.
* `EdgeSpec.ConditionReads` — a condition that is not blank can be read.
* `Design.Joins d edges i j` — one of the edges leads from position `i` to position `j`.

## Main results

* `Design.position_eq_ok_iff`, `Design.resolveEdge_eq_ok_iff` — what a name and an edge resolve to.
* `Design.exists_resolved_iff` — **when all edges can be resolved.**
* `Design.exists_edge_iff` — the resolved edges lead from and to where the declared ones do.
-/

namespace AgentPipeline

/-! ### Sequences of checks -/

/-- A sequence of checks succeeds when its first check and the rest do. -/
theorem bind_eq_ok_iff {ε α β : Type} {x : Except ε α} {f : α → Except ε β} {b : β} :
    x >>= f = .ok b ↔ ∃ a, x = .ok a ∧ f a = .ok b := by
  cases x with
  | error e => simp [bind, Except.bind]
  | ok a => simp [bind, Except.bind]

/-- Every element of a list is checked, in order. -/
theorem mapM_eq_ok_iff {ε α β : Type} {f : α → Except ε β} {l : List α} {r : List β} :
    l.mapM f = .ok r ↔ List.Forall₂ (fun a b => f a = .ok b) l r := by
  induction l generalizing r with
  | nil => simp [pure, Except.pure, eq_comm]
  | cons a l ih =>
    rw [List.mapM_cons, bind_eq_ok_iff, List.forall₂_cons_left_iff]
    constructor
    · rintro ⟨b, hb, hrest⟩
      obtain ⟨bs, hbs, hr⟩ := bind_eq_ok_iff.mp hrest
      cases hr
      exact ⟨b, bs, hb, ih.mp hbs, rfl⟩
    · rintro ⟨b, bs, hb, hbs, rfl⟩
      exact ⟨b, hb, bind_eq_ok_iff.mpr ⟨bs, ih.mpr hbs, rfl⟩⟩

/-- All elements of a list pass a check that may fail at any of them. -/
theorem exists_mapM_iff {ε α β : Type} {f : α → Except ε β} {l : List α} :
    (∃ r, l.mapM f = .ok r) ↔ ∀ a ∈ l, ∃ b, f a = .ok b := by
  induction l with
  | nil => simp [pure, Except.pure]
  | cons a l ih =>
    rw [List.forall_mem_cons, ← ih]
    simp only [mapM_eq_ok_iff, List.forall₂_cons_left_iff]
    constructor
    · rintro ⟨_, b, bs, hb, hbs, rfl⟩
      exact ⟨⟨b, hb⟩, bs, hbs⟩
    · rintro ⟨⟨b, hb⟩, bs, hbs⟩
      exact ⟨b :: bs, b, bs, hb, hbs, rfl⟩

/-- What a list is checked to consists of what its elements are checked to. -/
theorem mem_iff_of_mapM_eq_ok {ε α β : Type} {f : α → Except ε β} {l : List α} {r : List β}
    (h : l.mapM f = .ok r) {b : β} : b ∈ r ↔ ∃ a ∈ l, f a = .ok b := by
  rw [mapM_eq_ok_iff] at h
  induction h with
  | nil => simp
  | cons hab _ ih =>
    rw [List.mem_cons, ih, List.exists_mem_cons_iff, hab, Except.ok.injEq, eq_comm]

/-- Every element of a list passes a check. -/
theorem forM_eq_ok_iff {ε α : Type} {f : α → Except ε Unit} {l : List α} :
    l.forM f = .ok () ↔ ∀ a ∈ l, f a = .ok () := by
  induction l with
  | nil => simp [List.forM, pure, Except.pure]
  | cons a l ih =>
    have hcons : (a :: l).forM f = f a >>= fun _ => l.forM f := rfl
    rw [hcons, bind_eq_ok_iff, List.forall_mem_cons, ih]
    exact ⟨fun ⟨_, h⟩ => h, fun h => ⟨(), h⟩⟩

namespace Design

variable {d : Design}

/-! ### Names -/

/-- The agent at a position is the first one with a name. -/
def Declares (d : Design) (name : String) (i : Nat) : Prop :=
  (d.agents[i]?).map AgentSpec.name = some name ∧
    ∀ j < i, (d.agents[j]?).map AgentSpec.name ≠ some name

theorem Declares.lt_length {name : String} {i : Nat} (h : d.Declares name i) :
    i < d.agents.length := by
  obtain ⟨a, ha, -⟩ := Option.map_eq_some_iff.mp h.1
  exact (List.getElem?_eq_some_iff.mp ha).1

/-- A name stands for one agent only. -/
theorem Declares.unique {name : String} {i j : Nat} (hi : d.Declares name i)
    (hj : d.Declares name j) : i = j := by
  rcases Nat.lt_trichotomy i j with hij | hij | hij
  · exact absurd hi.1 (hj.2 i hij)
  · exact hij
  · exact absurd hj.1 (hi.2 j hij)

theorem position_eq_ok_iff {name : String} {i : Nat} :
    d.position name = .ok i ↔ d.Declares name i := by
  have hfind : d.position name = .ok i ↔
      (d.agents.findIdx? fun a => a.name = name) = some i := by
    unfold position
    cases d.agents.findIdx? fun a => a.name = name with
    | none => simp
    | some j => simp
  rw [hfind, List.findIdx?_eq_some_iff_getElem, Declares]
  constructor
  · rintro ⟨hi, hname, hfirst⟩
    rw [decide_eq_true_eq] at hname
    refine ⟨by rw [List.getElem?_eq_getElem hi, Option.map_some, hname], fun j hj => ?_⟩
    have hne := hfirst j hj
    rw [decide_eq_true_eq] at hne
    rw [List.getElem?_eq_getElem (by omega), Option.map_some]
    exact fun h => hne (Option.some.inj h)
  · rintro ⟨hname, hfirst⟩
    obtain ⟨a, ha, rfl⟩ := Option.map_eq_some_iff.mp hname
    obtain ⟨hi, rfl⟩ := List.getElem?_eq_some_iff.mp ha
    refine ⟨hi, decide_eq_true rfl, fun j hj => ?_⟩
    rw [decide_eq_true_eq]
    intro h
    refine hfirst j hj ?_
    rw [List.getElem?_eq_getElem (by omega), Option.map_some, h]

/-- A name is declared once by the first agent that has it, and only then. -/
theorem exists_declares_iff {name : String} :
    (∃ i, d.Declares name i) ↔ ∃ a ∈ d.agents, a.name = name := by
  constructor
  · rintro ⟨i, hi, -⟩
    obtain ⟨a, ha, hname⟩ := Option.map_eq_some_iff.mp hi
    exact ⟨a, List.mem_of_getElem? ha, hname⟩
  · rintro ⟨a, ha, hname⟩
    cases hfind : d.agents.findIdx? fun a => a.name = name with
    | none =>
      rw [List.findIdx?_eq_none_iff] at hfind
      exact absurd hname (by simpa using hfind a ha)
    | some i => exact ⟨i, position_eq_ok_iff.mp (by rw [position, hfind])⟩

end Design

/-! ### Edges -/

/-- A condition that is not blank can be read. -/
def EdgeSpec.ConditionReads (e : EdgeSpec) : Prop :=
  ∀ text, e.condition = some text → Text.trim text.toList ≠ [] →
    ∃ c, Condition.parse (Text.trim text.toList) = .ok c

theorem EdgeSpec.exists_parsedCondition_iff {e : EdgeSpec} :
    (∃ c, e.parsedCondition = .ok c) ↔ e.ConditionReads := by
  unfold EdgeSpec.parsedCondition EdgeSpec.ConditionReads
  cases e.condition with
  | none => simp
  | some text =>
    cases htrim : Text.trim text.toList with
    | nil => simp [htrim]
    | cons c cs =>
      cases hparse : Condition.parse (c :: cs) with
      | error defect => simp [htrim, hparse, Except.map]
      | ok condition => simp [htrim, hparse, Except.map]

namespace Design

variable {d : Design}

theorem resolveEdge_eq_ok_iff {e : EdgeSpec} {r : Edge} :
    d.resolveEdge e = .ok r ↔ e.parsedCondition = .ok r.condition ∧
      d.Declares e.source r.source ∧ d.Declares e.target r.target := by
  unfold resolveEdge
  simp only [bind_eq_ok_iff, position_eq_ok_iff]
  constructor
  · rintro ⟨condition, hcondition, source, hsource, target, htarget, hr⟩
    cases hr
    exact ⟨hcondition, hsource, htarget⟩
  · rintro ⟨hcondition, hsource, htarget⟩
    exact ⟨r.condition, hcondition, r.source, hsource, r.target, htarget, rfl⟩

/-- One of the given edges leads from one position to another, whatever its condition. -/
def Joins (d : Design) (edges : List EdgeSpec) (i j : Nat) : Prop :=
  ∃ e ∈ edges, d.Declares e.source i ∧ d.Declares e.target j

/-- **All edges can be resolved when their names are declared and their conditions can be read.** -/
theorem exists_resolved_iff {edges : List EdgeSpec} :
    (∃ resolved, edges.mapM d.resolveEdge = .ok resolved) ↔
      (∀ e ∈ edges, (∃ a ∈ d.agents, a.name = e.source) ∧ ∃ a ∈ d.agents, a.name = e.target) ∧
        ∀ e ∈ edges, e.ConditionReads := by
  rw [exists_mapM_iff, ← forall₂_and]
  refine forall₂_congr fun e _ => ?_
  rw [← exists_declares_iff, ← exists_declares_iff, ← EdgeSpec.exists_parsedCondition_iff]
  constructor
  · rintro ⟨r, hr⟩
    obtain ⟨hcondition, hsource, htarget⟩ := resolveEdge_eq_ok_iff.mp hr
    exact ⟨⟨⟨_, hsource⟩, ⟨_, htarget⟩⟩, _, hcondition⟩
  · rintro ⟨⟨⟨i, hi⟩, ⟨j, hj⟩⟩, c, hc⟩
    exact ⟨⟨i, j, c⟩, resolveEdge_eq_ok_iff.mpr ⟨hc, hi, hj⟩⟩

/-- The resolved edges lead from and to where the declared ones do. -/
theorem exists_edge_iff {edges : List EdgeSpec} {resolved : List Edge}
    (h : edges.mapM d.resolveEdge = .ok resolved) {i j : Nat} :
    (∃ r ∈ resolved, r.source = i ∧ r.target = j) ↔ d.Joins edges i j := by
  constructor
  · rintro ⟨r, hr, rfl, rfl⟩
    obtain ⟨e, he, her⟩ := (mem_iff_of_mapM_eq_ok h).mp hr
    exact ⟨e, he, (resolveEdge_eq_ok_iff.mp her).2⟩
  · rintro ⟨e, he, hi, hj⟩
    obtain ⟨r, her⟩ := exists_mapM_iff.mp ⟨resolved, h⟩ e he
    obtain ⟨-, hsource, htarget⟩ := resolveEdge_eq_ok_iff.mp her
    exact ⟨r, (mem_iff_of_mapM_eq_ok h).mpr ⟨e, he, her⟩, hsource.unique hi, htarget.unique hj⟩

/-- The ends of a resolved edge are agents. -/
theorem ends_lt_length {edges : List EdgeSpec} {resolved : List Edge}
    (h : edges.mapM d.resolveEdge = .ok resolved) {r : Edge} (hr : r ∈ resolved) :
    r.source < d.agents.length ∧ r.target < d.agents.length := by
  obtain ⟨e, -, hsource, htarget⟩ := (exists_edge_iff h).mp ⟨r, hr, rfl, rfl⟩
  exact ⟨hsource.lt_length, htarget.lt_length⟩

end Design

end AgentPipeline
