import AgentPipeline.Proofs.Run.Accumulation
import AgentPipeline.Proofs.Run.Outcome
import Mathlib.Data.List.Find

/-!
# Who speaks for a run

The output of a run is that of the last success of an agent who speaks for the whole of it, or else
that of the last success of anyone.  Who speaks for the whole is a matter of roles, and an agent has
two: the one that its tag declares and the one that its node is compiled with.  These are the same
unless the agent has a role of its own, which is compiled in place of the declared one.  A result
bears the tag alone, so the output goes by what is declared; it goes by what is compiled exactly when
no agent with a role of its own speaks up, or nothing else would have been said.

## Main definitions

* `IsLast` — an element of a list has a property that none after it has.
* `FinalWord` — what is said in the end if some nodes speak for the whole.
* `Graph.declaredFinal`, `Graph.compiledFinal` — the two notions of who does.

## Main results

* `finalWord_chosenOutput` — the output of a run is a final word.
* `Graph.compiledFinal_eq` — how the two notions differ.
* `Execution.output_finalWord` — **whom the output of a run goes by.**
* `output_not_compiled` — a run that ends with the word of an agent who does not speak for it.
-/

namespace AgentPipeline

/-! ### The last of a kind -/

section IsLast

variable {α : Type} {p q : α → Bool} {l : List α} {x : α}

/-- An element of a list has a property that none after it has. -/
def IsLast (p : α → Bool) (l : List α) (x : α) : Prop :=
  ∃ before after, l = before ++ x :: after ∧ p x = true ∧ ∀ y ∈ after, p y = false

/-- The last of a kind is the first one from behind. -/
theorem isLast_iff_find? : IsLast p l x ↔ l.reverse.find? p = some x := by
  rw [List.find?_eq_some_iff_append]
  constructor
  · rintro ⟨before, after, rfl, hx, hafter⟩
    refine ⟨hx, after.reverse, before.reverse, ?_, ?_⟩
    · rw [List.reverse_append, List.reverse_cons, List.append_assoc, List.singleton_append]
    · intro y hy
      rw [hafter y (List.mem_reverse.mp hy)]
      rfl
  · rintro ⟨hx, after, before, hreverse, hafter⟩
    refine ⟨before.reverse, after.reverse, ?_, hx, ?_⟩
    · rw [← List.reverse_inj, hreverse]
      simp
    · intro y hy
      have hnot := hafter y (List.mem_reverse.mp hy)
      simpa using hnot

theorem IsLast.holds (h : IsLast p l x) : p x = true := by
  obtain ⟨before, after, -, hx, -⟩ := h
  exact hx

/-- The last of a kind is the last of any narrower kind that it belongs to. -/
theorem IsLast.narrow (h : IsLast p l x) (hx : q x = true) (hqp : ∀ y, q y = true → p y = true) :
    IsLast q l x := by
  obtain ⟨before, after, hl, -, hafter⟩ := h
  refine ⟨before, after, hl, hx, ?_⟩
  intro y hy
  rw [← Bool.not_eq_true]
  intro hq
  have hp := hqp y hq
  rw [hafter y hy] at hp
  cases hp

/-- Either none is of a kind, or one is the last. -/
theorem none_or_isLast (p : α → Bool) (l : List α) :
    (∀ x ∈ l, p x = false) ∨ ∃ x, IsLast p l x := by
  cases hfind : l.reverse.find? p with
  | some x => exact Or.inr ⟨x, isLast_iff_find?.mpr hfind⟩
  | none =>
    left
    intro x hx
    have hnot := List.find?_eq_none.mp hfind x (List.mem_reverse.mpr hx)
    simpa using hnot

end IsLast

/-! ### Final words -/

/-- What is said in the end, after completions of nodes with their results, if some nodes speak for
the whole: the last success of one of them, else the last success of anyone, else nothing. -/
inductive FinalWord (speaks : Nat → Bool) (completed : List (Nat × AgentResult)) : String → Prop where
  | spoken {c : Nat × AgentResult}
      (hlast : IsLast (fun c => c.2.isSuccess && speaks c.1) completed c) :
      FinalWord speaks completed c.2.content
  | unspoken {c : Nat × AgentResult} (hnone : ∀ c ∈ completed, (c.2.isSuccess && speaks c.1) = false)
      (hlast : IsLast (fun c => c.2.isSuccess) completed c) :
      FinalWord speaks completed c.2.content
  | nothing (hnone : ∀ c ∈ completed, c.2.isSuccess = false) : FinalWord speaks completed ""

section FinalWord

variable {speaks : Nat → Bool} {completed : List (Nat × AgentResult)} {text text' : String}

/-- The final word is found by going through the completions from behind. -/
theorem finalWord_iff : FinalWord speaks completed text ↔
    text = (((completed.reverse.find? fun c => c.2.isSuccess && speaks c.1).or
      (completed.reverse.find? fun c => c.2.isSuccess)).map fun c => c.2.content).getD "" := by
  have hnot_found : ∀ {p : Nat × AgentResult → Bool}, (∀ c ∈ completed, p c = false) →
      completed.reverse.find? p = none := by
    intro p hnone
    rw [List.find?_eq_none]
    intro c hc
    rw [hnone c (List.mem_reverse.mp hc)]
    exact Bool.false_ne_true
  constructor
  · intro h
    cases h with
    | spoken hlast => rw [isLast_iff_find?.mp hlast]; rfl
    | unspoken hnone hlast => rw [hnot_found hnone, isLast_iff_find?.mp hlast]; rfl
    | nothing hnone =>
      have hnone' : ∀ c ∈ completed, (c.2.isSuccess && speaks c.1) = false := by
        intro c hc
        rw [hnone c hc, Bool.false_and]
      rw [hnot_found hnone, hnot_found hnone']
      rfl
  · rintro rfl
    rcases none_or_isLast (fun c => c.2.isSuccess && speaks c.1) completed with hnone | ⟨c, hlast⟩
    · rcases none_or_isLast (fun c => c.2.isSuccess) completed with hnone' | ⟨c, hlast⟩
      · rw [hnot_found hnone, hnot_found hnone']
        exact .nothing hnone'
      · rw [hnot_found hnone, isLast_iff_find?.mp hlast]
        exact .unspoken hnone hlast
    · rw [isLast_iff_find?.mp hlast]
      exact .spoken hlast

instance : Decidable (FinalWord speaks completed text) :=
  decidable_of_iff _ finalWord_iff.symm

/-- There is only one final word. -/
theorem FinalWord.unique (h : FinalWord speaks completed text)
    (h' : FinalWord speaks completed text') : text = text' :=
  (finalWord_iff.mp h).trans (finalWord_iff.mp h').symm

/-- **The output of a run is a final word**, if the tags of its results tell who speaks. -/
theorem finalWord_chosenOutput
    (htags : ∀ c ∈ completed, Role.producesOutput c.2.role = speaks c.1) :
    FinalWord speaks completed (chosenOutput (completed.map Prod.snd)) := by
  -- The program collects the successes and looks for a speaker among them afterwards.
  have hsuccesses : ((completed.map Prod.snd).filter AgentResult.isSuccess).reverse =
      (completed.reverse.filter fun c => c.2.isSuccess).map Prod.snd := by
    rw [List.filter_map, List.filter_reverse, List.map_reverse]
    rfl
  have hspoken : (completed.reverse.find? fun c =>
        decide (c.2.isSuccess = true ∧ Role.producesOutput c.2.role = true)) =
      completed.reverse.find? fun c => c.2.isSuccess && speaks c.1 := by
    refine List.find?_congr fun c hc => ?_
    rw [htags c (List.mem_reverse.mp hc), Bool.decide_and, Bool.decide_eq_true, Bool.decide_eq_true]
  rw [finalWord_iff, ← hspoken]
  unfold chosenOutput
  simp only [hsuccesses, List.find?_map, Function.comp_def, List.find?_filter, List.head?_map,
    List.head?_filter]
  cases completed.reverse.find? fun c =>
    decide (c.2.isSuccess = true ∧ Role.producesOutput c.2.role = true) with
  | some c => rfl
  | none =>
    cases completed.reverse.find? fun c => c.2.isSuccess with
    | some c => rfl
    | none => rfl

end FinalWord

/-! ### Roles of a graph -/

namespace Graph

/-- Whether the agent of a node declares a role that answers for the whole pipeline. -/
def declaredFinal (g : Graph) (node : Nat) : Bool :=
  g.nodes[node]?.any fun n => Role.producesOutput n.spec.role

/-- Whether a node is compiled with a role that answers for the whole pipeline. -/
def compiledFinal (g : Graph) (node : Nat) : Bool :=
  g.nodes[node]?.any fun n => n.role.isFinal

/-- Whether the agent of a node has a role of its own. -/
def hasOwnRole (g : Graph) (node : Nat) : Bool :=
  g.nodes[node]?.any fun n => n.spec.isCustomRole

end Graph

/-- Nodes are compiled with the roles of their agents. -/
theorem Design.role_of_compile {d : Design} {g : Graph} (hd : d.compile = .ok g) {n : Node}
    (hn : n ∈ g.nodes) : n.role = Role.ofSpec n.spec := by
  obtain ⟨routing, hnodes⟩ := nodes_of_compile hd
  rw [hnodes, Design.nodes, List.mem_mapIdx] at hn
  obtain ⟨i, hi, rfl⟩ := hn
  rfl

/-- An agent answers for the whole if its tag says so and it has no role of its own. -/
theorem Role.isFinal_ofSpec (spec : AgentSpec) :
    (ofSpec spec).isFinal = (producesOutput spec.role && !spec.isCustomRole) := by
  rw [ofSpec, producesOutput]
  cases spec.isCustomRole with
  | true =>
    rw [Bool.not_true, Bool.and_false]
    rfl
  | false => rw [Bool.not_false, Bool.and_true]

/-- **How the two notions differ**: a node is not compiled to speak for the whole, although its agent
declares to, if the agent has a role of its own. -/
theorem Graph.compiledFinal_eq {d : Design} {g : Graph} (hd : d.compile = .ok g) (node : Nat) :
    g.compiledFinal node = (g.declaredFinal node && !g.hasOwnRole node) := by
  rw [compiledFinal, declaredFinal, hasOwnRole]
  cases hn : g.nodes[node]? with
  | none => rfl
  | some n =>
    have hrole := Design.role_of_compile hd (List.mem_of_getElem? hn)
    simp only [Option.any_some, hrole, Role.isFinal_ofSpec]

/-! ### The output of a run -/

/-- The nodes that have completed with their results, in order. -/
def History.completed (h : History) : List (Nat × AgentResult) :=
  (h.merges.map Merge.node).zip h.run.state.agentResults

theorem Ending.output_conclude (ending : Ending) {limits : RunLimits} {secrets : List String}
    {s : RunState} {durationMs : Nat} :
    (ending.conclude limits secrets s durationMs).2.output = chosenOutput s.agentResults := by
  obtain ⟨status, error, hreport⟩ := report_conclude limits secrets s durationMs ending
  rw [hreport]
  rfl

/-- A final word of those who declare that they speak is one of those who are compiled to, unless the
last of them has a role of its own and those who are compiled to speak say something else. -/
theorem FinalWord.compiled_iff {d : Design} {g : Graph} (hd : d.compile = .ok g)
    {completed : List (Nat × AgentResult)} {text : String}
    (h : FinalWord g.declaredFinal completed text) :
    FinalWord g.compiledFinal completed text ↔
      ∀ c, IsLast (fun c => c.2.isSuccess && g.declaredFinal c.1) completed c →
        g.hasOwnRole c.1 = true → FinalWord g.compiledFinal completed c.2.content := by
  -- Whoever is compiled to speak for the whole declares it, too.
  have hdeclared : ∀ c : Nat × AgentResult, (c.2.isSuccess && g.compiledFinal c.1) = true →
      (c.2.isSuccess && g.declaredFinal c.1) = true := by
    intro c hc
    rw [Graph.compiledFinal_eq hd, Bool.and_eq_true, Bool.and_eq_true] at hc
    rw [Bool.and_eq_true]
    exact ⟨hc.1, hc.2.1⟩
  constructor
  · intro hcompiled c hlast _
    rwa [h.unique (.spoken hlast)] at hcompiled
  · intro hown
    cases h with
    | @spoken c hlast =>
      cases hrole : g.hasOwnRole c.1 with
      | true => exact hown c hlast hrole
      | false =>
        have hholds : (c.2.isSuccess && g.compiledFinal c.1) = true := by
          rw [Graph.compiledFinal_eq hd, hrole, Bool.not_false, Bool.and_true]
          exact hlast.holds
        exact .spoken (hlast.narrow hholds hdeclared)
    | unspoken hnone hlast =>
      refine .unspoken ?_ hlast
      intro c hc
      rw [← Bool.not_eq_true]
      intro hcompiled
      have hholds := hdeclared c hcompiled
      rw [hnone c hc] at hholds
      cases hholds
    | nothing hnone => exact .nothing hnone

namespace Execution

variable {d : Design} {g : Graph} {router : Router} {limits : RunLimits} {h : History}

/-- The output of a run is the final word of those who declare that they speak for the whole. -/
theorem finalWord_declared (hd : d.compile = .ok g)
    (hrun : Execution g (g.Yields router limits.backoffMs) (limits.initialState d) h) :
    FinalWord g.declaredFinal h.completed (chosenOutput h.run.state.agentResults) := by
  have hsigned := hrun.forall₂_signed hd (limits.fresh_initialState d)
  obtain ⟨hlength, hpairs⟩ := List.forall₂_iff_zip.mp hsigned
  have hresults : h.completed.map Prod.snd = h.run.state.agentResults :=
    List.map_snd_zip hlength.ge
  rw [← hresults]
  refine finalWord_chosenOutput ?_
  rintro ⟨node, r⟩ hc
  -- A result is signed with the tag that the agent of its node declares.
  obtain ⟨n, spec, hn, hspec, -, hrole⟩ := hpairs hc
  have hsame : n.spec = spec := by
    rw [← Design.specs_of_compile hd, List.getElem?_map, hn] at hspec
    exact Option.some.inj hspec
  rw [Graph.declaredFinal, hn, Option.any_some, hsame, hrole]

/-- **Whom the output of a run goes by**, however the run ends.  It is the final word of those who
declare that they speak for the whole.  It is that of those who are compiled to do so exactly if the
last one who declares it, in case that one has a role of its own, says the same; so it is if nobody
with a role of its own declares it. -/
theorem output_finalWord (hd : d.compile = .ok g)
    (hrun : Execution g (g.Yields router limits.backoffMs) (limits.initialState d) h)
    (ending : Ending) (durationMs : Nat) :
    let output :=
      (ending.conclude limits router.secrets h.run.state durationMs).2.output
    FinalWord g.declaredFinal h.completed output ∧
    (FinalWord g.compiledFinal h.completed output ↔
      ∀ c, IsLast (fun c => c.2.isSuccess && g.declaredFinal c.1) h.completed c →
        g.hasOwnRole c.1 = true → FinalWord g.compiledFinal h.completed c.2.content) ∧
    ((∀ spec ∈ d.agents, spec.isCustomRole = true → Role.producesOutput spec.role = false) →
      FinalWord g.compiledFinal h.completed output) := by
  intro output
  have hdeclared : FinalWord g.declaredFinal h.completed output := by
    have houtput : output = chosenOutput h.run.state.agentResults := ending.output_conclude
    rw [houtput]
    exact hrun.finalWord_declared hd
  have hcompiled := hdeclared.compiled_iff hd
  refine ⟨hdeclared, hcompiled, ?_⟩
  intro hagents
  rw [hcompiled]
  intro c hlast hown
  -- The agent of such a node would have a role of its own and declare to speak for the whole.
  obtain ⟨n, hn, hcustom⟩ := (Option.any_eq_true _ _).mp hown
  have hmem : n.spec ∈ d.agents := by
    rw [← Design.specs_of_compile hd]
    exact List.mem_map_of_mem (List.mem_of_getElem? hn)
  have hholds := hlast.holds
  rw [Graph.declaredFinal, hn, Option.any_some, hagents n.spec hmem hcustom, Bool.and_false] at hholds
  cases hholds

end Execution

/-! ### A reporter and an analyst -/

/-- A reporter, who may have a role of its own, and an analyst after it. -/
def bylined (own : Bool) : Design where
  name := "d"
  agents := [{ name := "a", role := "reporter", model := "gpt-4o", isCustomRole := own },
    { name := "b", role := "analyzer", model := "gpt-4o" }]

theorem compile_bylined (own : Bool) :
    (bylined own).compile = .ok (Graph.chain (bylined own)) := by
  cases own with
  | true => rfl
  | false => rfl

theorem injection_bylined (own : Bool) : (bylined own).injection = none := by
  rw [← Option.isNone_iff_eq_none]
  cases own with
  | true => decide +kernel
  | false => decide +kernel

/-- Both agents get an answer, one after the other. -/
def bylinedScript (own : Bool) : List (Nat × (RunState → Update)) :=
  [(Graph.chain (bylined own)).answer bareRouter 1000 { brief with content := "report" } 0,
    (Graph.chain (bylined own)).answer bareRouter 1000 { brief with content := "notes" } 1]

theorem exists_execution_bylined (own : Bool) {p : History → Bool}
    (hplay : ((History.begin (Graph.chain (bylined own))
      (({} : RunLimits).initialState (bylined own))).play (Graph.chain (bylined own))
        (bylinedScript own)).any p = true) :
    ∃ h, Execution (Graph.chain (bylined own)) ((Graph.chain (bylined own)).Yields bareRouter 1000)
      (({} : RunLimits).initialState (bylined own)) h ∧ p h = true := by
  refine Execution.exists_of_script ?_ hplay
  intro q hq s hdesign
  have hpasses : s.design.injection = none := by
    rw [hdesign]
    exact injection_bylined own
  have hfirst : 0 < (Graph.chain (bylined own)).size := by
    rw [Graph.size_chain]
    exact Nat.zero_lt_two
  have hsecond : 1 < (Graph.chain (bylined own)).size := by
    rw [Graph.size_chain]
    exact Nat.one_lt_two
  rcases List.mem_cons.mp hq with rfl | hq
  · exact Graph.yields_answer hfirst hpasses _
  · cases List.mem_singleton.mp hq
    exact Graph.yields_answer hsecond hpasses _

/-- The reporter speaks for the run, although the analyst comes after it. -/
theorem Execution.output_finalWord_bylined :
    (bylined false).compile = .ok (Graph.chain (bylined false)) ∧
    ∃ h, Execution (Graph.chain (bylined false))
        ((Graph.chain (bylined false)).Yields bareRouter 1000)
        (({} : RunLimits).initialState (bylined false)) h ∧
      FinalWord (Graph.chain (bylined false)).compiledFinal h.completed "report" := by
  obtain ⟨h, hrun, hp⟩ := exists_execution_bylined false
    (p := fun h => (h.run.state.report 0).output == "report") (by decide +kernel)
  have hagents : ∀ spec ∈ (bylined false).agents, spec.isCustomRole = true →
      Role.producesOutput spec.role = false := by decide
  have hrun' : Execution (Graph.chain (bylined false))
      ((Graph.chain (bylined false)).Yields bareRouter ({} : RunLimits).backoffMs)
      (({} : RunLimits).initialState (bylined false)) h := hrun
  obtain ⟨-, -, hcompiled⟩ :=
    Execution.output_finalWord (compile_bylined false) hrun' .timedOut 0
  have houtput : (h.run.state.report 0).output = "report" := beq_iff_eq.mp hp
  have hfinal := hcompiled hagents
  exact ⟨compile_bylined false, h, hrun, houtput ▸ hfinal⟩

/-- A reporter with a role of its own speaks for the run all the same, although its node is not
compiled to; those of the compiled roles would have said what the analyst says. -/
theorem output_not_compiled : (bylined true).compile = .ok (Graph.chain (bylined true)) ∧
    ∃ h, Execution (Graph.chain (bylined true))
        ((Graph.chain (bylined true)).Yields bareRouter 1000)
        (({} : RunLimits).initialState (bylined true)) h ∧ h.run.schedule.running = [] ∧
      FinalWord (Graph.chain (bylined true)).compiledFinal h.completed "notes" ∧
      (h.run.state.report 0).output = "report" ∧
      ¬ FinalWord (Graph.chain (bylined true)).compiledFinal h.completed "report" := by
  obtain ⟨h, hrun, hp⟩ := exists_execution_bylined true
    (p := fun h => h.run.schedule.running.isEmpty && ((h.run.state.report 0).output == "report" &&
      decide (FinalWord (Graph.chain (bylined true)).compiledFinal h.completed "notes")))
    (by decide +kernel)
  rw [Bool.and_eq_true, Bool.and_eq_true, List.isEmpty_iff, beq_iff_eq, decide_eq_true_eq] at hp
  obtain ⟨hdrained, houtput, hnotes⟩ := hp
  refine ⟨compile_bylined true, h, hrun, hdrained, hnotes, houtput, ?_⟩
  intro hreport
  have hsame := hnotes.unique hreport
  revert hsame
  decide

end AgentPipeline
