import AgentPipeline.Proofs.Graph.Acceptance
import AgentPipeline.Proofs.Graph.Naming

/-!
# The cycle that is named

A design whose edges form a cycle is turned down, and the nodes of the cycle that the search has
come upon are named.  Each of them is the end of an edge, an edge leads from and to the first agents
with its names, and the first agent with a name keeps it.  So what is named can be followed along
the edges as they are declared.

## Main definitions

* `ClosedPath` — a path that ends where it begins and comes to no other place twice.
* `Leads` — one of the edges leads from a node to another one.
* `Declared` — one of the edges is declared to lead from a name to another one.

## Main results

* `closedPath_of_findCycle` — what the search comes upon is a closed path of edges.
* `Design.closedPath_of_compile` — so is what a failure to compile names, by the declared names.
* `Design.names_closedPath` — **the cycle that is named is one**, and one is named if there is any.
-/

namespace AgentPipeline

/-! ### Closed paths -/

/-- A path of one or more steps that ends where it begins and comes to no other place twice. -/
structure ClosedPath {α : Type} (step : α → α → Prop) (path : List α) : Prop where
  long : 2 ≤ path.length
  closed : path.head? = path.getLast?
  distinct : path.dropLast.Nodup
  steps : path.IsChain step

namespace ClosedPath

variable {α β : Type} {step : α → α → Prop} {step' : β → β → Prop} {path : List α}

/-- A step leads on from every place but the last. -/
theorem exists_step (h : ClosedPath step path) {a : α} (ha : a ∈ path.dropLast) :
    ∃ b, step a b := by
  obtain ⟨i, hi, rfl⟩ := List.mem_iff_getElem.mp ha
  rw [List.length_dropLast] at hi
  rw [List.getElem_dropLast]
  exact ⟨_, List.isChain_iff_getElem.mp h.steps i (by omega)⟩

/-- A closed path may be told by other names if these tell the places apart. -/
theorem map (h : ClosedPath step path) (f : α → β)
    (hstep : ∀ a b, step a b → step' (f a) (f b))
    (hinj : ∀ a b c d, step a b → step c d → f a = f c → a = c) :
    ClosedPath step' (path.map f) where
  long := by
    rw [List.length_map]
    exact h.long
  closed := by rw [List.head?_map, List.getLast?_map, h.closed]
  distinct := by
    -- A step leads on from every place that has to be told apart.
    rw [← List.map_dropLast]
    refine List.Nodup.map_on (fun a ha c hc heq => ?_) h.distinct
    obtain ⟨b, hab⟩ := h.exists_step ha
    obtain ⟨d, hcd⟩ := h.exists_step hc
    exact hinj a b c d hab hcd heq
  steps := (List.isChain_map f).mpr (h.steps.imp hstep)

end ClosedPath

/-! ### What the search comes upon -/

/-- One of the edges leads from a node to another one. -/
def Leads (edges : List Edge) (a b : Nat) : Prop :=
  ∃ e ∈ edges, e.source = a ∧ e.target = b

theorem child_childLists_eq {count : Nat} {edges : List Edge}
    (hlt : ∀ e ∈ edges, e.source < count ∧ e.target < count) :
    Paths.Child (childLists count edges) = Leads edges := by
  funext a b
  exact propext (Graph.child_childLists fun e he => (hlt e he).1)

/-- A closed path of edges is a cycle of the lists of children. -/
theorem closedPath_iff_isCycle {count : Nat} {edges : List Edge}
    (hlt : ∀ e ∈ edges, e.source < count ∧ e.target < count) {path : List Nat} :
    ClosedPath (Leads edges) path ↔ Paths.IsCycle (childLists count edges) path := by
  rw [← child_childLists_eq hlt]
  exact ⟨fun ⟨hlong, hclosed, hdistinct, hsteps⟩ => ⟨hlong, hclosed, hdistinct, hsteps⟩,
    fun ⟨hlong, hclosed, hdistinct, hsteps⟩ => ⟨hlong, hclosed, hdistinct, hsteps⟩⟩

/-- What the search comes upon is a closed path of edges. -/
theorem closedPath_of_findCycle {count : Nat} {edges : List Edge}
    (hlt : ∀ e ∈ edges, e.source < count ∧ e.target < count) {path : List Nat}
    (h : Paths.findCycle (childLists count edges) = some path) : ClosedPath (Leads edges) path :=
  (closedPath_iff_isCycle hlt).mpr (Paths.isCycle_of_findCycle h)

/-- The search comes upon something if there is a closed path at all. -/
theorem exists_findCycle_iff {count : Nat} {edges : List Edge}
    (hlt : ∀ e ∈ edges, e.source < count ∧ e.target < count) :
    (∃ path, Paths.findCycle (childLists count edges) = some path) ↔
      ∃ path, ClosedPath (Leads edges) path := by
  constructor
  · rintro ⟨path, h⟩
    exact ⟨path, closedPath_of_findCycle hlt h⟩
  · rintro ⟨path, hpath⟩
    rw [← Option.ne_none_iff_exists', Ne,
      Paths.findCycle_eq_none_iff (Graph.inRange_childLists hlt)]
    exact ((closedPath_iff_isCycle hlt).mp hpath).not_acyclic

/-! ### Failures of checks -/

/-- A sequence of checks fails when its first check or the rest does. -/
theorem bind_eq_error_iff {ε α β : Type} {x : Except ε α} {f : α → Except ε β} {e : ε} :
    x >>= f = .error e ↔ x = .error e ∨ ∃ a, x = .ok a ∧ f a = .error e := by
  cases x with
  | error e' => simp [bind, Except.bind]
  | ok a => simp [bind, Except.bind]

theorem map_eq_error_iff {ε α β : Type} {f : α → β} {x : Except ε α} {e : ε} :
    x.map f = .error e ↔ x = .error e := by
  cases x with
  | error e' => simp [Except.map]
  | ok a => simp [Except.map]

/-- A list fails a check that one of its elements fails. -/
theorem exists_error_of_mapM {ε α β : Type} {f : α → Except ε β} {l : List α} {e : ε}
    (h : l.mapM f = .error e) : ∃ a ∈ l, f a = .error e := by
  induction l with
  | nil => cases h
  | cons a l ih =>
    rw [List.mapM_cons, bind_eq_error_iff] at h
    rcases h with h | ⟨b, -, h⟩
    · exact ⟨a, List.mem_cons_self, h⟩
    · rcases bind_eq_error_iff.mp h with h | ⟨bs, -, h⟩
      · obtain ⟨c, hc, hfails⟩ := ih h
        exact ⟨c, List.mem_cons_of_mem _ hc, hfails⟩
      · cases h

theorem exists_error_of_forM {ε α : Type} {f : α → Except ε Unit} {l : List α} {e : ε}
    (h : l.forM f = .error e) : ∃ a ∈ l, f a = .error e := by
  induction l with
  | nil => cases h
  | cons a l ih =>
    have hcons : (a :: l).forM f = f a >>= fun _ => l.forM f := rfl
    rw [hcons, bind_eq_error_iff] at h
    rcases h with h | ⟨-, -, h⟩
    · exact ⟨a, List.mem_cons_self, h⟩
    · obtain ⟨c, hc, hfails⟩ := ih h
      exact ⟨c, List.mem_cons_of_mem _ hc, hfails⟩

/-! ### No check but the search for cycles names one -/

section

variable {d : Design} {names : List String}

theorem AgentSpec.check_ne_cycle {a : AgentSpec} : a.check ≠ .error (.cycle names) := by
  unfold check
  split_ifs
  all_goals exact fun h => nomatch h

theorem Design.checkAgents_ne_cycle : d.checkAgents ≠ .error (.cycle names) := by
  unfold checkAgents
  split_ifs
  · exact fun h => nomatch h
  · exact fun h => nomatch h
  · intro h
    obtain ⟨a, -, hfails⟩ := exists_error_of_forM h
    exact AgentSpec.check_ne_cycle hfails

theorem Condition.parse_ne_cycle {text : List Char} :
    Condition.parse text ≠ .error (.cycle names) := by
  unfold parse
  split
  · exact fun h => nomatch h
  · split
    · exact fun h => nomatch h
    · exact fun h => nomatch h

theorem EdgeSpec.parsedCondition_ne_cycle {e : EdgeSpec} :
    e.parsedCondition ≠ .error (.cycle names) := by
  unfold parsedCondition
  split
  · exact fun h => nomatch h
  · split
    · exact fun h => nomatch h
    · rw [Ne, map_eq_error_iff]
      exact Condition.parse_ne_cycle

theorem Design.position_ne_cycle {name : String} : d.position name ≠ .error (.cycle names) := by
  unfold position
  split
  · exact fun h => nomatch h
  · exact fun h => nomatch h

theorem Design.resolveEdge_ne_cycle {e : EdgeSpec} :
    d.resolveEdge e ≠ .error (.cycle names) := by
  intro h
  unfold resolveEdge at h
  rcases bind_eq_error_iff.mp h with h | ⟨_, -, h⟩
  · exact EdgeSpec.parsedCondition_ne_cycle h
  · rcases bind_eq_error_iff.mp h with h | ⟨_, -, h⟩
    · exact position_ne_cycle h
    · rcases bind_eq_error_iff.mp h with h | ⟨_, -, h⟩
      · exact position_ne_cycle h
      · cases h

theorem Graph.exists_findCycle_of_ofEdges {edges : List Edge}
    (h : Graph.ofEdges d edges = .error (.cycle names)) :
    ∃ path, Paths.findCycle (childLists d.agents.length edges) = some path ∧
      names = path.map fun i => (uniqueNames (d.agents.map AgentSpec.name)).getD i "" := by
  unfold ofEdges at h
  dsimp only at h
  split at h
  · cases h
  · split at h
    · next path hfind =>
      cases h
      exact ⟨path, hfind, rfl⟩
    · cases h

/-- A failure to compile that names a cycle comes from the search in the resolved edges. -/
theorem Design.exists_findCycle_of_compile (h : d.compile = .error (.cycle names)) :
    ∃ declared resolved path, d.explicitEdges = some declared ∧
      declared.mapM d.resolveEdge = .ok resolved ∧
      Paths.findCycle (childLists d.agents.length resolved) = some path ∧
      names = path.map fun i => (uniqueNames (d.agents.map AgentSpec.name)).getD i "" := by
  unfold compile at h
  -- Neither the check of the agents nor the resolution of the edges names a cycle.
  rcases bind_eq_error_iff.mp h with h | ⟨_, -, h⟩
  · exact absurd h checkAgents_ne_cycle
  · unfold resolvedEdges at h
    split at h
    · cases h
    · next declared hsome =>
      cases hresolved : declared.mapM d.resolveEdge with
      | error defect =>
        rw [hresolved] at h
        obtain rfl := Except.error.inj h
        obtain ⟨e, -, hfails⟩ := exists_error_of_mapM hresolved
        exact absurd hfails resolveEdge_ne_cycle
      | ok resolved =>
        rw [hresolved] at h
        obtain ⟨path, hfind, hnames⟩ := Graph.exists_findCycle_of_ofEdges h
        exact ⟨declared, resolved, path, hsome, hresolved, hfind, hnames⟩

end

/-! ### The names of a cycle -/

/-- One of the edges is declared to lead from a name to another one. -/
def Declared (edges : List EdgeSpec) (a b : String) : Prop :=
  ∃ e ∈ edges, e.source = a ∧ e.target = b

namespace Design

variable {d : Design}

/-- The node of an agent that declares its name first is called by it. -/
theorem Declares.getD_uniqueNames {name : String} {i : Nat} (h : d.Declares name i) :
    (uniqueNames (d.agents.map AgentSpec.name)).getD i "" = name := by
  obtain ⟨hname, hfirst⟩ := h
  rw [← List.getElem?_map] at hname
  rw [List.getD_eq_getElem?_getD, getElem?_uniqueNames_of_first hname, Option.getD_some]
  -- No agent before declares the name.
  intro hmem
  obtain ⟨j, hj⟩ := List.mem_iff_getElem?.mp hmem
  rw [List.getElem?_take, List.getElem?_map] at hj
  split at hj
  · next hlt => exact hfirst j hlt hj
  · cases hj

/-- The cycle that a failure to compile names is a closed path of declared edges. -/
theorem closedPath_of_compile {names : List String} (h : d.compile = .error (.cycle names)) :
    ∃ declared, d.explicitEdges = some declared ∧ ClosedPath (Declared declared) names := by
  obtain ⟨declared, resolved, path, hsome, hresolved, hfind, rfl⟩ := exists_findCycle_of_compile h
  refine ⟨declared, hsome, ?_⟩
  -- Nodes that an edge leads from or to are those of the first agents with its names.
  have hleads : ∀ a b, Leads resolved a b → d.Joins declared a b := by
    intro a b hab
    exact (exists_edge_iff hresolved).mp hab
  refine (closedPath_of_findCycle (fun r => ends_lt_length hresolved) hfind).map _ ?_ ?_
  · intro a b hab
    obtain ⟨e, he, hsource, htarget⟩ := hleads a b hab
    exact ⟨e, he, hsource.getD_uniqueNames.symm, htarget.getD_uniqueNames.symm⟩
  · intro a b a' b' hab hab' hsame
    obtain ⟨e, -, hsource, -⟩ := hleads a b hab
    obtain ⟨e', -, hsource', -⟩ := hleads a' b' hab'
    rw [hsource.getD_uniqueNames, hsource'.getD_uniqueNames] at hsame
    exact hsource.unique (hsame ▸ hsource')

/-- **The cycle that is named is one.**  Whatever the search comes upon is a closed path of the
edges that it is given, and it comes upon one if there is any.  The names that a failure to compile
lists are a closed path of the edges that the design declares. -/
theorem names_closedPath :
    (∀ (count : Nat) (edges : List Edge), (∀ e ∈ edges, e.source < count ∧ e.target < count) →
      (∀ path, Paths.findCycle (childLists count edges) = some path →
        ClosedPath (Leads edges) path) ∧
      ((∃ path, ClosedPath (Leads edges) path) →
        ∃ path, Paths.findCycle (childLists count edges) = some path)) ∧
    ∀ (d : Design) (names : List String), d.compile = .error (.cycle names) →
      ∃ declared, d.explicitEdges = some declared ∧ ClosedPath (Declared declared) names := by
  refine ⟨fun count edges hlt => ⟨fun path hfind => closedPath_of_findCycle hlt hfind, ?_⟩,
    fun d names hnames => closedPath_of_compile hnames⟩
  exact (exists_findCycle_iff hlt).mpr

/-- Two agents that hand the work back and forth, and one that begins it. -/
def backAndForth : Design where
  name := "loop"
  agents := ["a", "b", "c"].map fun name => { name, role := "analyzer", model := "gpt-4o" }
  edges := some [⟨"a", "b", none⟩, ⟨"b", "c", none⟩, ⟨"c", "b", none⟩]

/-- The cycle of the two is come upon from the third, which is no part of it. -/
theorem names_closedPath_backAndForth :
    ClosedPath (Leads [⟨0, 1, none⟩, ⟨1, 2, none⟩, ⟨2, 1, none⟩]) [1, 2, 1] ∧
    backAndForth.compile = .error (.cycle ["b", "c", "b"]) ∧
    ClosedPath (Declared [⟨"a", "b", none⟩, ⟨"b", "c", none⟩, ⟨"c", "b", none⟩])
      ["b", "c", "b"] := by
  have hcompile : backAndForth.compile = .error (.cycle ["b", "c", "b"]) := by decide +kernel
  obtain ⟨hsearch, hnames⟩ := names_closedPath
  obtain ⟨_, hsome, hdeclared⟩ := hnames backAndForth _ hcompile
  cases hsome
  exact ⟨(hsearch 3 _ (by decide)).1 _ (by decide), hcompile, hdeclared⟩

end Design

end AgentPipeline
