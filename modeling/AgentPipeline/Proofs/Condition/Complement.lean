import AgentPipeline.Proofs.Condition.Grammar
import AgentPipeline.Proofs.Decimal.Comparison
import AgentPipeline.Proofs.Graph.Successors
import AgentPipeline.Proofs.Json.Reading

/-!
# Complementary conditions

Of two conditions on the same field with the same threshold, one asking for more and the other for
at most as much, exactly one is true as long as the field has a number.  A field always resolves to
a double, by default to zero, and no accepted threshold fails to be a number.  But the double need
not be a number itself: a content whose string under the field spells `nan`, in any case, is read as
what is not one, and so are a cost and a cost estimate that are none.  Then neither condition is
true, and a node whose only edges carry the two leads nowhere.

## Main definitions

* `Comparator.opposite?` — the operator that is true of two numbers when another is not.
* `IsThreshold` — the thresholds of conditions that are accepted.
* `AgentResult.LacksNumber`, `RunState.LacksNumber` — a field is read as what is not a number.

## Main results

* `Condition.isNaN_resolve_iff` — which fields resolve to what is not a number.
* `Condition.opposite_conditions_partition` — **opposite conditions part the states exactly where the
  field has a number**, and there only one of two edges with them is followed.
-/

namespace AgentPipeline

open Decimal Text

/-! ### Opposite operators -/

/-- The operator that is true of two numbers when the given one is not; none for equality. -/
def Comparator.opposite? : Comparator → Option Comparator
  | gt => some le
  | le => some gt
  | ge => some lt
  | lt => some ge
  | eq => none

namespace Comparator

variable {op op' : Comparator} {x t : Float}

/-- Of two numbers exactly one of two opposite operators is true. -/
theorem compare_opposite (h : op.opposite? = some op') (hx : x.isNaN = false)
    (ht : t.isNaN = false) : op'.compare x t = !op.compare x t := by
  have hle := le_iff_not_lt hx ht
  have hge := le_iff_not_lt ht hx
  cases op <;> cases h
  · show decide (x ≤ t) = !decide (t < x)
    rw [← decide_not, decide_eq_decide]
    exact hle
  · show decide (t ≤ x) = !decide (x < t)
    rw [← decide_not, decide_eq_decide]
    exact hge
  · show decide (x < t) = !decide (t ≤ x)
    rw [← decide_not, decide_eq_decide, hge, not_not]
  · show decide (t < x) = !decide (x ≤ t)
    rw [← decide_not, decide_eq_decide, hle, not_not]

/-- Of what is not a number no operator with an opposite is true. -/
theorem compare_of_isNaN (h : op.opposite?.isSome = true) (hx : x.isNaN = true) :
    op.compare x t = false := by
  have hlt : ¬ x < t ∧ ¬ t < x := by
    rw [lt_iff, lt_iff, hx]
    simp
  have hle : ¬ x ≤ t ∧ ¬ t ≤ x := by
    rw [le_iff, le_iff, hx]
    simp
  cases op with
  | gt => exact decide_eq_false hlt.2
  | lt => exact decide_eq_false hlt.1
  | ge => exact decide_eq_false hle.2
  | le => exact decide_eq_false hle.1
  | eq => cases h

/-- Opposites come in pairs. -/
theorem opposite?_symm (h : op.opposite? = some op') : op'.opposite? = some op := by
  cases op <;> cases h <;> rfl

end Comparator

/-! ### Thresholds -/

/-- A threshold that some accepted text has. -/
def IsThreshold (t : Float) : Prop :=
  ∃ text c, Condition.parse text = .ok c ∧ c.threshold = t

/-- What is accepted has been taken apart, and its number has been read. -/
theorem Condition.parse_eq_ok_iff {text : List Char} {c : Condition} :
    Condition.parse text = .ok c ↔ ∃ parts, splitCondition? text = some parts ∧
      ∃ t, read? parts.value = some t ∧ c = ⟨String.ofList parts.field, parts.op, t⟩ := by
  unfold Condition.parse
  cases splitCondition? text with
  | none => simp
  | some parts =>
    cases hread : read? parts.value with
    | none => simp [hread]
    | some t => simp [hread, eq_comm]

/-- The sign of a written number is split off. -/
theorem splitSign_append {sign number : List Char} (hsign : IsSign sign)
    (hnumber : IsUnsigned number) : (splitSign (sign ++ number)).2 = number := by
  obtain ⟨c, rest, rfl, hc⟩ := hnumber.exists_cons
  rcases hsign with rfl | rfl | rfl
  · have hminus : c ≠ '-' := by
      rintro rfl
      exact absurd hc (by decide)
    have hplus : c ≠ '+' := by
      rintro rfl
      exact absurd hc (by decide)
    show (splitSign (c :: rest)).2 = c :: rest
    unfold splitSign
    split
    · next heq => exact absurd (List.cons.inj heq).1 hminus
    · next heq => exact absurd (List.cons.inj heq).1 hplus
    · rfl
  · rfl
  · rfl

/-- A written number is none of the words. -/
theorem IsNumber.not_spellsNaN {s : List Char} (hs : IsNumber s) : ¬ SpellsNaN s := by
  obtain ⟨sign, number, rfl, hsign, hnumber⟩ := hs
  rw [SpellsNaN, splitSign_append hsign hnumber]
  obtain ⟨c, rest, rfl, hc⟩ := hnumber.exists_cons
  intro h
  have hfirst : c.toLower = 'n' := (List.cons.inj (String.ofList_injective h)).1
  rcases eq_of_toLower hfirst with rfl | rfl
  · exact absurd hc (by decide)
  · exact absurd hc (by decide)

/-- The threshold of an accepted text is a number, be it infinite. -/
theorem isNaN_of_isThreshold {t : Float} (ht : IsThreshold t) : t.isNaN = false := by
  obtain ⟨text, c, hparse, rfl⟩ := ht
  obtain ⟨parts, hsplit, t, hread, rfl⟩ := Condition.parse_eq_ok_iff.mp hparse
  obtain ⟨x, -, rfl⟩ := exists_text_of_splitCondition? hsplit
  rw [Bool.eq_false_iff]
  intro hnan
  have hspells := (any_isNaN_read? x.value).mp (by rw [hread]; exact hnan)
  exact x.isNumber.not_spellsNaN hspells

/-! ### What a field resolves to -/

/-- A content gives a field a number that is none: it is a JSON object with a string under the
field that spells so. -/
def ContentLacksNumber (content field : String) : Prop :=
  ∃ v text, Json.read? (String.ofList (trim content.toList)) = some v ∧
    v.field? field = some (.str text) ∧ SpellsNaN (trim text.toList)

/-- The fields of a result itself, which its content cannot give. -/
def AgentResult.ownFields : List String :=
  ["tokens_used", "cost_estimate", "duration_ms", "duration"]

/-- A result gives a field a number that is none. -/
def AgentResult.LacksNumber (r : AgentResult) (field : String) : Prop :=
  field = "cost_estimate" ∧ r.costEstimate.isNaN = true ∨
    field ∉ ownFields ∧ ContentLacksNumber r.content field

/-- A state gives a field a number that is none: its cost is none, or it has no such field and its
latest result gives one that is none. -/
def RunState.LacksNumber (s : RunState) (field : String) : Prop :=
  field = "total_cost" ∧ s.totalCost.isNaN = true ∨
    s.numericField field = none ∧ ∃ r, s.agentResults.getLast? = some r ∧ r.LacksNumber field

theorem not_any_isNaN {x : Float} (hx : x.isNaN = false) : ¬ (some x).any Float.isNaN = true := by
  rw [Option.any_some, hx]
  exact Bool.false_ne_true

/-- Of the values of a well-formed document only a string can be read as what is not a number. -/
theorem any_isNaN_numberOf {v : Json} (hv : v.WellFormed) :
    (AgentResult.numberOf v).any Float.isNaN = true ↔
      ∃ text, v = .str text ∧ SpellsNaN (trim text.toList) := by
  cases hv with
  | str s =>
    rw [AgentResult.numberOf, any_isNaN_read?]
    simp
  | int n => exact iff_of_false (not_any_isNaN (Json.isNaN_floatOfInt n)) (by simp)
  | float h => exact iff_of_false (not_any_isNaN h) (by simp)
  | bool b => exact iff_of_false (not_any_isNaN (by cases b <;> rfl)) (by simp)
  | null => exact iff_of_false Bool.false_ne_true (by simp)
  | arr h => exact iff_of_false Bool.false_ne_true (by simp)
  | obj hsorted h => exact iff_of_false Bool.false_ne_true (by simp)

theorem any_isNaN_contentNumber (content field : String) :
    (AgentResult.contentNumber content field).any Float.isNaN = true ↔
      ContentLacksNumber content field := by
  unfold AgentResult.contentNumber ContentLacksNumber
  cases hread : Json.read? (String.ofList (trim content.toList)) with
  | none => simp
  | some v =>
    rw [Option.bind_some]
    cases hfield : v.field? field with
    | none => simp [hfield]
    | some w =>
      have hw := (Json.wellFormed_of_read? hread).field? hfield
      rw [Option.bind_some, any_isNaN_numberOf hw]
      simp [hfield]

theorem AgentResult.any_isNaN_numericField (r : AgentResult) (field : String) :
    (r.numericField field).any Float.isNaN = true ↔ r.LacksNumber field := by
  have hmillis : (Float.ofNat r.durationMs / 1000.0).isNaN = false := by
    rw [isNaN_div rfl]
    exact isNaN_ofNat _
  unfold numericField LacksNumber
  split
  · exact iff_of_false (not_any_isNaN (isNaN_ofNat _)) (by simp [ownFields])
  · simp [ownFields]
  · exact iff_of_false (not_any_isNaN (isNaN_ofNat _)) (by simp [ownFields])
  · exact iff_of_false (not_any_isNaN hmillis) (by simp [ownFields])
  · next htokens hcost hduration hseconds =>
    have hown : field ∉ ownFields := by
      simp only [ownFields, List.mem_cons, List.not_mem_nil, or_false, not_or]
      exact ⟨htokens, hcost, hduration, hseconds⟩
    rw [any_isNaN_contentNumber]
    constructor
    · exact fun h => Or.inr ⟨hown, h⟩
    · rintro (⟨heq, -⟩ | ⟨-, h⟩)
      · exact absurd heq hcost
      · exact h

theorem RunState.any_isNaN_numericField (s : RunState) (field : String) :
    (s.numericField field).any Float.isNaN = true ↔
      field = "total_cost" ∧ s.totalCost.isNaN = true := by
  unfold numericField
  split
  · exact iff_of_false (not_any_isNaN (isNaN_ofNat _)) (by simp)
  · exact iff_of_false (not_any_isNaN (isNaN_ofNat _)) (by simp)
  · exact iff_of_false (not_any_isNaN (isNaN_ofNat _)) (by simp)
  · simp
  · next hcost => exact iff_of_false Bool.false_ne_true fun h => hcost h.1

/-- **A field resolves to what is not a number** when the state or its latest result says so. -/
theorem Condition.isNaN_resolve_iff (c : Condition) (s : RunState) :
    (c.resolve s).isNaN = true ↔ s.LacksNumber c.field := by
  have hstate := s.any_isNaN_numericField c.field
  unfold resolve RunState.LacksNumber
  cases hfield : s.numericField c.field with
  | some x =>
    rw [hfield, Option.any_some] at hstate
    rw [← hstate]
    show x.isNaN = true ↔ _
    simp only [reduceCtorEq, false_and, or_false]
  | none =>
    rw [hfield] at hstate
    rw [← hstate]
    show ((s.agentResults.getLast?.bind fun r => r.numericField c.field).getD 0).isNaN = true ↔ _
    have hzero : (0 : Float).isNaN = false := isNaN_ofNat 0
    cases hlast : s.agentResults.getLast? with
    | none => simp only [Option.bind_none, Option.getD_none, hzero, Option.any_none, reduceCtorEq,
        false_and, exists_false, and_false, or_false, Bool.false_eq_true]
    | some r =>
      rw [Option.bind_some]
      have hresult := r.any_isNaN_numericField c.field
      cases hnumber : r.numericField c.field with
      | none =>
        rw [hnumber] at hresult
        simp only [Option.getD_none, hzero, Option.any_none, Option.some.injEq, exists_eq_left',
          ← hresult, and_false, or_false, Bool.false_eq_true]
      | some x =>
        rw [hnumber, Option.any_some] at hresult
        simp only [Option.getD_some, Option.any_none, Option.some.injEq, exists_eq_left',
          ← hresult, true_and, false_or, Bool.false_eq_true]

/-! ### Opposite conditions -/

section Opposite

variable {op op' : Comparator} {t : Float} {field : String} {s : RunState}

/-- Where the field has a number, exactly one of two opposite conditions is true. -/
theorem Condition.holds_opposite (h : op.opposite? = some op') (ht : IsThreshold t)
    (hnumber : ¬ s.LacksNumber field) :
    (⟨field, op', t⟩ : Condition).holds s = !(⟨field, op, t⟩ : Condition).holds s := by
  have hresolve : ((⟨field, op, t⟩ : Condition).resolve s).isNaN = false := by
    rw [Bool.eq_false_iff, ne_eq, isNaN_resolve_iff]
    exact hnumber
  exact Comparator.compare_opposite h hresolve (isNaN_of_isThreshold ht)

/-- Where the field lacks a number, no condition with an opposite is true. -/
theorem Condition.holds_of_lacksNumber (h : op.opposite?.isSome = true)
    (hlacks : s.LacksNumber field) : (⟨field, op, t⟩ : Condition).holds s = false :=
  Comparator.compare_of_isNaN h ((isNaN_resolve_iff ⟨field, op, t⟩ s).mpr hlacks)

/-- Where control goes from an agent with two edges, both of which have a condition. -/
theorem Design.successors_of_two_conditions {d : Design} {g : Graph} {edges : List EdgeSpec}
    (hd : d.compile = .ok g) (hedges : d.explicitEdges = some edges) {u : Nat} {e e' : EdgeSpec}
    (hpair : d.edgesFrom edges u = [e, e']) {c c' : Condition} (hc : e.spelledCondition = some c)
    (hc' : e'.spelledCondition = some c') (hgoes : s.shouldStop = false) :
    g.successors u s = (if c.holds s then [d.agentOf e.target] else []) ++
      if c'.holds s then [d.agentOf e'.target] else [] := by
  have hconditional := EdgeSpec.isConditional_of_spelledCondition hc
  have hconditional' := EdgeSpec.isConditional_of_spelledCondition hc'
  have hsome : ¬ ∀ f ∈ d.edgesFrom edges u, f.isConditional = false :=
    not_forall_plain ⟨e, by rw [hpair]; exact List.mem_cons_self, hconditional⟩
  have hplain : d.plainTargets edges u = [] := by
    simp [plainTargets, plainEdges, hpair, hconditional, hconditional']
  have hfiring : d.firingTargets edges u s = (if c.holds s then [d.agentOf e.target] else []) ++
      if c'.holds s then [d.agentOf e'.target] else [] := by
    unfold firingTargets
    rw [hpair]
    cases hholds : c.holds s <;> cases hholds' : c'.holds s <;>
      simp [EdgeSpec.firesIn, hc, hc', hholds, hholds']
  rw [successors_eq hd hedges u hgoes, if_neg hsome, hplain, ← hfiring]
  split
  · next hnone => exact hnone.symm
  · rfl

/-- **Opposite conditions part the states exactly where the field has a number**, for every accepted
threshold: there exactly one of them is true, and control goes from an agent whose only edges have
the two along exactly one.  Where the field lacks a number neither is true, and control goes
nowhere. -/
theorem Condition.opposite_conditions_partition (h : op.opposite? = some op')
    (ht : IsThreshold t) (field : String) (s : RunState) :
    (Xor ((⟨field, op, t⟩ : Condition).holds s = true)
      ((⟨field, op', t⟩ : Condition).holds s = true) ↔ ¬ s.LacksNumber field) ∧
    ∀ {d : Design} {g : Graph} {edges : List EdgeSpec} {u : Nat} {e e' : EdgeSpec},
      d.compile = .ok g → d.explicitEdges = some edges → d.edgesFrom edges u = [e, e'] →
      e.spelledCondition = some ⟨field, op, t⟩ → e'.spelledCondition = some ⟨field, op', t⟩ →
      s.shouldStop = false →
        s.LacksNumber field ∧ g.successors u s = [] ∨
        ¬ s.LacksNumber field ∧ g.successors u s =
          [if (⟨field, op, t⟩ : Condition).holds s then d.agentOf e.target
            else d.agentOf e'.target] := by
  have hsome : op.opposite?.isSome = true := by rw [h, Option.isSome_some]
  have hsome' : op'.opposite?.isSome = true := by
    rw [Comparator.opposite?_symm h, Option.isSome_some]
  by_cases hlacks : s.LacksNumber field
  · have hholds := holds_of_lacksNumber (t := t) hsome hlacks
    have hholds' := holds_of_lacksNumber (t := t) hsome' hlacks
    constructor
    · simp [Xor, hholds, hholds', hlacks]
    · intro d g edges u e e' hd hedges hpair hc hc' hgoes
      rw [Design.successors_of_two_conditions hd hedges hpair hc hc' hgoes, hholds, hholds']
      exact Or.inl ⟨hlacks, rfl⟩
  · have hopposite := holds_opposite h ht hlacks
    constructor
    · rw [hopposite]
      cases (⟨field, op, t⟩ : Condition).holds s <;> simp [Xor, hlacks]
    · intro d g edges u e e' hd hedges hpair hc hc' hgoes
      rw [Design.successors_of_two_conditions hd hedges hpair hc hc' hgoes, hopposite]
      refine Or.inr ⟨hlacks, ?_⟩
      cases (⟨field, op, t⟩ : Condition).holds s <;> rfl

end Opposite

/-! ### A branch on a score -/

/-- Control passes along this edge if the score is high. -/
def highEdge : EdgeSpec := ⟨"a", "b", some "score > 0.8"⟩

/-- Control passes along this edge if the score is not high. -/
def lowEdge : EdgeSpec := ⟨"a", "c", some "score <= 0.8"⟩

/-- Control passes from `a` to `b` or to `c`, as the score of `a` says. -/
def branch : Design where
  name := "d"
  agents := ["a", "b", "c"].map fun name => { name, role := "analyzer", model := "gpt-4o" }
  edges := some [highEdge, lowEdge]

/-- What the branch compiles to. -/
def branchGraph : Graph :=
  Graph.joined branch
    [⟨0, 1, some ⟨"score", .gt, 0.8⟩⟩, ⟨0, 2, some ⟨"score", .le, 0.8⟩⟩]

theorem compile_branch : branch.compile = .ok branchGraph := rfl

/-- The state in which `a` has completed with a score, which is given as a JSON text. -/
def scored (score : String) : RunState :=
  (RunState.initial branch 50 300).apply
    { agentResults := [⟨"a", "analyzer", "\x7b\"score\": " ++ score ++ "\x7d", 10, 0, 5,
        .success, none⟩] }

/-- A score that is a number is on one side of the threshold. -/
theorem Condition.opposite_conditions_partition_branch :
    Comparator.opposite? .gt = some .le ∧ IsThreshold 0.8 ∧
      ¬ (scored "0.9").LacksNumber "score" ∧ branchGraph.successors 0 (scored "0.9") = [1] := by
  have hopposite : Comparator.opposite? .gt = some .le := rfl
  have hthreshold : IsThreshold 0.8 :=
    ⟨"score > 0.8".toList, ⟨"score", .gt, 0.8⟩, rfl, rfl⟩
  obtain ⟨hpartition, hroutes⟩ :=
    opposite_conditions_partition hopposite hthreshold "score" (scored "0.9")
  have hhigh : (⟨"score", .gt, 0.8⟩ : Condition).holds (scored "0.9") = true := rfl
  have hlow : (⟨"score", .le, 0.8⟩ : Condition).holds (scored "0.9") = false := rfl
  have hnumber : ¬ (scored "0.9").LacksNumber "score" := by
    rw [← hpartition, hhigh, hlow]
    simp [Xor]
  refine ⟨hopposite, hthreshold, hnumber, ?_⟩
  have hpair : branch.edgesFrom [highEdge, lowEdge] 0 = [highEdge, lowEdge] := rfl
  rcases hroutes compile_branch rfl hpair rfl rfl rfl with
    ⟨hlacks, -⟩ | ⟨-, hgoes⟩
  · exact absurd hlacks hnumber
  · rw [hgoes, hhigh]
    rfl

/-- A score that is spelled as what is not a number is on neither side, and control goes nowhere. -/
theorem opposite_conditions_fail_together :
    IsThreshold 0.8 ∧
    ¬ Xor ((⟨"score", .gt, 0.8⟩ : Condition).holds (scored "\"NaN\"") = true)
      ((⟨"score", .le, 0.8⟩ : Condition).holds (scored "\"NaN\"") = true) ∧
    branch.compile = .ok branchGraph ∧ (scored "\"NaN\"").shouldStop = false ∧
    branchGraph.successors 0 (scored "\"NaN\"") = [] := by
  have hhigh : (⟨"score", .gt, 0.8⟩ : Condition).holds (scored "\"NaN\"") = false := rfl
  have hlow : (⟨"score", .le, 0.8⟩ : Condition).holds (scored "\"NaN\"") = false := rfl
  refine ⟨⟨"score > 0.8".toList, ⟨"score", .gt, 0.8⟩, rfl, rfl⟩, ?_, compile_branch, rfl, rfl⟩
  rw [hhigh, hlow]
  simp [Xor]

end AgentPipeline
