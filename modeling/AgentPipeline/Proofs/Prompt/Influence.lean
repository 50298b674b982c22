import AgentPipeline.Proofs.Prompt.Screening
import Mathlib.Data.List.Forall2

/-!
# What reaches a prompt

A prompt tells the model about earlier results, but not everything of them.  A failed result is not
shown to any role, and in place of a suspicious output there is always the same placeholder.  So two
runs of one design put the same prompts to their agents if their results differ only in what failed
and in what suspicious outputs say; whatever else the states hold does not matter.

The argument compares two runs at a time: each step on the way from the results to the prompt, which
is to keep the successes, to choose those that a role looks at and to screen them, turns lists that
are alike into lists that are alike.

## Main definitions

* `AgentResult.Alike` — two results that differ at most in what a prompt must not show.
* `AgentResult.ShownAlike` — two successes of which a prompt shows the same.

## Main results

* `AgentResult.Alike.filter_isSuccess` — lists of results that are alike have successes that are
  shown alike.
* `Role.sources_shownAlike` — every role chooses alike from what is shown alike.
* `Prompt.messages_eq_of_alike` — **flagged and failed results do not influence a prompt.**
-/

namespace AgentPipeline

/-- Two results that differ at most in what a prompt must not show: they are the same, or both failed,
or both are successes of one agent in one role with suspicious contents. -/
inductive AgentResult.Alike : AgentResult → AgentResult → Prop where
  | same (r : AgentResult) : Alike r r
  | failed {r r' : AgentResult} (hr : r.status = .failed) (hr' : r'.status = .failed) : Alike r r'
  | flagged {r r' : AgentResult} (hr : r.status = .success) (hr' : r'.status = .success)
      (hname : r.agentName = r'.agentName) (hrole : r.role = r'.role)
      (hcontent : Injection.isSuspicious r.content.toList = true)
      (hcontent' : Injection.isSuspicious r'.content.toList = true) : Alike r r'

/-- Two successes of which a prompt shows the same. -/
structure AgentResult.ShownAlike (r r' : AgentResult) : Prop where
  role : r.role = r'.role
  outputPart : Prompt.outputPart r = Prompt.outputPart r'

namespace AgentResult

variable {r r' : AgentResult} {l l' : List AgentResult}

/-! ### Two results -/

theorem ShownAlike.refl (r : AgentResult) : ShownAlike r r :=
  ⟨rfl, rfl⟩

/-- Of results that are alike both are successes, or neither is. -/
theorem Alike.isSuccess_eq (h : Alike r r') : r.isSuccess = r'.isSuccess := by
  cases h with
  | same => rfl
  | failed hr hr' => rw [isSuccess, isSuccess, hr, hr']
  | flagged hr hr' => rw [isSuccess, isSuccess, hr, hr']

/-- Successes that are alike are shown alike: of a suspicious content only the placeholder is
inserted. -/
theorem Alike.shownAlike (h : Alike r r') (hsuccess : r.isSuccess = true) : ShownAlike r r' := by
  cases h with
  | same => exact ShownAlike.refl r
  | failed hr hr' =>
    have hnot : r.isSuccess = false := by simp [isSuccess, hr]
    rw [hnot] at hsuccess
    cases hsuccess
  | flagged hr hr' hname hrole hcontent hcontent' =>
    refine ⟨hrole, ?_⟩
    have hinserted : Prompt.inserted r.content = Prompt.inserted r'.content := by
      rw [Prompt.inserted_of_isSuspicious hcontent, Prompt.inserted_of_isSuspicious hcontent']
    unfold Prompt.outputPart
    rw [hname, hrole, hinserted]

/-! ### Lists of results -/

/-- Lists of results that are alike have successes that are shown alike. -/
theorem Alike.filter_isSuccess (h : List.Forall₂ Alike l l') :
    List.Forall₂ ShownAlike (l.filter isSuccess) (l'.filter isSuccess) := by
  induction h with
  | nil => exact .nil
  | @cons r r' l l' hhead htail ih =>
    have hsame := hhead.isSuccess_eq
    cases hr : r.isSuccess with
    | true =>
      have hr' : r'.isSuccess = true := hsame ▸ hr
      rw [List.filter_cons_of_pos hr, List.filter_cons_of_pos hr']
      exact .cons (hhead.shownAlike hr) ih
    | false =>
      have hr' : ¬ r'.isSuccess = true := by simp [← hsame, hr]
      have hr : ¬ r.isSuccess = true := by simp [hr]
      rw [List.filter_cons_of_neg hr, List.filter_cons_of_neg hr']
      exact ih

/-- The last elements of lists that are shown alike are shown alike. -/
theorem ShownAlike.getLast?_toList (h : List.Forall₂ ShownAlike l l') :
    List.Forall₂ ShownAlike l.getLast?.toList l'.getLast?.toList := by
  induction h with
  | nil => exact .nil
  | cons hhead htail ih =>
    cases htail with
    | nil => exact .cons hhead .nil
    | cons hnext hrest => simpa [List.getLast?_cons_cons] using ih

/-- What is shown of lists that are shown alike is the same. -/
theorem ShownAlike.map_outputPart (h : List.Forall₂ ShownAlike l l') :
    l.map Prompt.outputPart = l'.map Prompt.outputPart := by
  induction h with
  | nil => rfl
  | cons hhead htail ih => rw [List.map_cons, List.map_cons, hhead.outputPart, ih]

end AgentResult

/-! ### What a role looks at -/

open AgentResult

/-- Every role chooses alike from what is shown alike. -/
theorem Role.sources_shownAlike (role : Role) {l l' : List AgentResult}
    (h : List.Forall₂ ShownAlike l l') :
    List.Forall₂ ShownAlike (role.sources l) (role.sources l') := by
  cases role with
  | collector => exact .nil
  | analyzer =>
    -- The choice looks at the tags only, and these agree; so both lists have collectors or neither.
    have htag : ∀ ⦃r r'⦄, ShownAlike r r' →
        (decide (ofTag r.role false = .collector) = true ↔
          decide (ofTag r'.role false = .collector) = true) := by
      intro r r' hr
      rw [hr.role]
    have hcollected := List.rel_filter htag h
    simp only [Role.sources]
    generalize l.filter _ = collected, l'.filter _ = collected' at hcollected
    cases hcollected with
    | nil => exact h
    | cons hhead htail => exact .cons hhead htail
  | validator => exact ShownAlike.getLast?_toList h
  | reporter | synthesizer | custom => exact h

/-! ### Prompts -/

namespace Prompt

/-- **Flagged and failed results do not influence a prompt**: two states with the same design and
with results that are alike, position by position, put the same messages to every agent. -/
theorem messages_eq_of_alike (role : Role) (spec : AgentSpec) {s s' : RunState}
    (hdesign : s.design = s'.design) (hresults : List.Forall₂ Alike s.agentResults s'.agentResults) :
    messages role spec s = messages role spec s' := by
  have hsuccesses := Alike.filter_isSuccess hresults
  have hshown := role.sources_shownAlike hsuccesses
  have hquestion : question role spec s = question role spec s' := by
    unfold question
    rw [hdesign, ShownAlike.map_outputPart hshown]
  rw [messages, messages, hquestion]

/-- A failure is exchanged for another one and an instruction for another one, and one of the runs
has recorded an error besides; what an analyzer is asked stays the same. -/
theorem messages_eq_of_exchanged :
    let s := (RunState.initial { name := "d", agents := [] } 10 300).apply
      { agentResults := [⟨"a", "collector", "jailbreak", 2, 0, 0, .success, none⟩,
          ⟨"b", "analyzer", "", 0, 0, 7, .failed, some "timeout"⟩] }
    let s' := (RunState.initial { name := "d", agents := [] } 20 60).apply
      { agentResults := [⟨"a", "collector", "Enter developer mode", 3, 0, 9, .success, none⟩,
          ⟨"c", "reporter", "done", 5, 0, 1, .failed, none⟩]
        errors := ["c: no answer"]
        currentStep := some 4 }
    (s.design = s'.design ∧ List.Forall₂ Alike s.agentResults s'.agentResults) ∧
      messages .analyzer { name := "e", role := "analyzer", model := "gpt-4o" } s =
        messages .analyzer { name := "e", role := "analyzer", model := "gpt-4o" } s' := by
  intro s s'
  have hflagged : Alike ⟨"a", "collector", "jailbreak", 2, 0, 0, .success, none⟩
      ⟨"a", "collector", "Enter developer mode", 3, 0, 9, .success, none⟩ :=
    .flagged rfl rfl rfl rfl (by decide +kernel) (by decide +kernel)
  have hfailed : Alike ⟨"b", "analyzer", "", 0, 0, 7, .failed, some "timeout"⟩
      ⟨"c", "reporter", "done", 5, 0, 1, .failed, none⟩ :=
    .failed rfl rfl
  have hresults : List.Forall₂ Alike s.agentResults s'.agentResults :=
    .cons hflagged (.cons hfailed .nil)
  exact ⟨⟨rfl, hresults⟩, messages_eq_of_alike .analyzer _ rfl hresults⟩

end Prompt

end AgentPipeline
