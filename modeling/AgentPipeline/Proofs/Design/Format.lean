import AgentPipeline.Design.Format
import AgentPipeline.Proofs.Decimal.Widening
import AgentPipeline.Proofs.Graph.Edges

/-!
# Designs that are written and read back

A design is written without the parts that it lacks, checked against a schema and read into a draft
field by field, and these three know the format each in its own way.  They agree on it: what is
written of a design has the shape that the schema asks for, and reading it gives the design back,
with parts that are absent staying absent and empty ones staying empty.  All that is asked of the
design is that its numbers have a written form: temperatures have to be finite, and what counts
tokens and retries has to fit 32 bits.

## Main definitions

* `Design.Writable` — all numbers of a design have a written form.
* `AgentSpec.draft`, `Design.draft` — the drafts that reading has come to in the end.

## Main results

* `Schema.violationsAt_record`, `Schema.violationsAt_list` — when records and lists have the shape
  of a schema.
* `AgentSpec.violationsAt_toJson`, `EdgeSpec.violationsAt_toJson` — agents and edges have theirs.
* `AgentSpec.ofJson_toJson`, `EdgeSpec.ofJson_toJson` — agents and edges are read back.
* `Design.ofDocument_toJson` — **a design that is written is accepted and read back.**
-/

namespace AgentPipeline

/-- All numbers of a design have a written form. -/
structure Design.Writable (d : Design) : Prop where
  temperature : ∀ a ∈ d.agents, a.temperature.isFinite = true
  maxOutputTokens : ∀ a ∈ d.agents, a.maxOutputTokens < 2 ^ 32
  retryCount : ∀ a ∈ d.agents, a.retryCount < 2 ^ 32

/-! ### Shapes -/

namespace Schema

variable {path : Path} {fields : List (String × Schema)} {given : List (String × Json)}

theorem fieldViolations_eq_nil
    (h : ∀ f ∈ fields, ∀ v, Json.lookup f.1 given = some v →
      f.2.violationsAt (path ++ [f.1]) v = []) :
    fieldViolations path given fields = [] := by
  induction fields with
  | nil => rw [fieldViolations]
  | cons f fields ih =>
    have hrest := ih fun f hf => h f (List.mem_cons_of_mem _ hf)
    rw [fieldViolations, hrest, List.append_nil]
    cases hv : Json.lookup f.1 given with
    | none => rfl
    | some v => exact h f List.mem_cons_self v hv

/-- An object has the shape of an open record if all the fields that it needs are there and those
whose shape is known have it. -/
theorem violationsAt_record {required : List String}
    (hfields : ∀ f ∈ fields, ∀ v, Json.lookup f.1 given = some v →
      f.2.violationsAt (path ++ [f.1]) v = [])
    (hrequired : ∀ f ∈ required, (Json.lookup f given).isSome = true) :
    (record [.object] required false fields).violationsAt path (.obj given) = [] := by
  have hmissing : required.filter (fun f => (Json.lookup f given).isNone) = [] := by
    rw [List.filter_eq_nil_iff]
    intro f hf
    obtain ⟨v, hv⟩ := Option.isSome_iff_exists.mp (hrequired f hf)
    rw [hv]
    exact Bool.false_ne_true
  rw [violationsAt, fieldViolations_eq_nil hfields, missingViolations, hmissing]
  rfl

theorem itemViolations_eq_nil {check : Path → Json → List Violation} {items : List Json}
    {start : Nat} (h : ∀ p, ∀ v ∈ items, check p v = []) :
    itemViolations check path start items = [] := by
  induction items generalizing start with
  | nil => rfl
  | cons v items ih =>
    have hrest : itemViolations check path (start + 1) items = [] :=
      ih fun p v hv => h p v (List.mem_cons_of_mem _ hv)
    rw [itemViolations, h _ v List.mem_cons_self, hrest, List.append_nil]

/-- A list has the shape of a list of items if its items have theirs, wherever they are. -/
theorem violationsAt_list {types : List JsonType} {schema : Schema} {items : List Json}
    (htypes : .array ∈ types) (h : ∀ v ∈ items, ∀ p, schema.violationsAt p v = []) :
    (list types schema).violationsAt path (.arr items) = [] := by
  have hitems : itemViolations (fun p v => violationsAt p v schema) path 0 items = [] :=
    itemViolations_eq_nil fun p v hv => h v hv p
  have hadmits : types.any (fun t => t.admits (.arr items)) = true :=
    List.any_eq_true.mpr ⟨.array, htypes, rfl⟩
  rw [violationsAt, typeViolations, if_pos hadmits, hitems, List.append_nil]

end Schema

/-! ### Values of fields -/

theorem Json.ofFloat_widen {x : Float32} (h : x.isFinite = true) :
    ofFloat (Decimal.widen x) = .float (Decimal.widen x) :=
  if_pos (Decimal.narrow_widen h).2

namespace Decode

theorem nat_nat {bits n : Nat} (h : n < 2 ^ bits) : nat bits (.nat n) = .ok n := by
  have hbound : (0 : Int) ≤ n ∧ (n : Int) < ((Nat.pow 2 bits : Nat) : Int) := by
    refine ⟨Int.natCast_nonneg n, ?_⟩
    rw [Nat.pow_eq]
    exact_mod_cast h
  have hbounded : nat bits (.nat n) = boundedNat bits n := rfl
  rw [hbounded, boundedNat, if_pos hbound, Int.toNat_natCast]

theorem single_widen {x : Float32} (h : x.isFinite = true) :
    single (.ofFloat (Decimal.widen x)) = .ok x := by
  have hsingle : single (.float (Decimal.widen x)) = .ok (Decimal.narrow (Decimal.widen x)) := rfl
  rw [Json.ofFloat_widen h, hsingle, (Decimal.narrow_widen h).1]

/-- A list is read back if its items are. -/
theorem list_map {α : Type} {decode : Json → Except Misfit α} {encode : α → Json} {l : List α}
    (h : ∀ x ∈ l, decode (encode x) = .ok x) : list decode (.arr (l.map encode)) = .ok l := by
  have hitems : list decode (.arr (l.map encode)) = (l.map encode).mapM decode := rfl
  rw [hitems, mapM_eq_ok_iff, List.forall₂_map_left_iff, List.forall₂_same]
  exact h

/-- Fields are put into a draft one after the other. -/
theorem foldlM_cons_of_eq_ok {α β ε : Type} {put : β → α → Except ε β} {f : α} {fields : List α}
    {draft draft' : β} (h : put draft f = .ok draft') :
    (f :: fields).foldlM put draft = fields.foldlM put draft' := by
  rw [List.foldlM_cons, h]
  rfl

end Decode

open Decode (foldlM_cons_of_eq_ok)

/-! ### Edges -/

theorem EdgeSpec.violationsAt_toJson (e : EdgeSpec) (path : Path) :
    EdgeSpec.schema.violationsAt path e.toJson = [] := by
  obtain ⟨source, target, condition⟩ := e
  cases condition with
  | none => rfl
  | some text => rfl

/-- An edge is read back. -/
theorem EdgeSpec.ofJson_toJson (e : EdgeSpec) : ofJson e.toJson = .ok e := by
  obtain ⟨source, target, condition⟩ := e
  cases condition with
  | none => rfl
  | some text => rfl

/-! ### Agents -/

namespace AgentSpec

variable {a : AgentSpec}

theorem violationsAt_toJson (h : a.temperature.isFinite = true) (path : Path) :
    schema.violationsAt path a.toJson = [] := by
  have htemperature := Json.ofFloat_widen h
  obtain ⟨name, role, model, description, temperature, maxOutputTokens, retryCount, customPrompt,
    isCustomRole⟩ := a
  unfold toJson
  dsimp only at htemperature ⊢
  rw [htemperature]
  cases customPrompt with
  | none => rfl
  | some prompt => rfl

/-- The draft of an agent all of whose fields have been read. -/
def draft (a : AgentSpec) : Draft where
  name := some a.name
  role := some a.role
  model := some a.model
  description := some a.description
  temperature := some a.temperature
  maxOutputTokens := some a.maxOutputTokens
  retryCount := some a.retryCount
  customPrompt := a.customPrompt.map some
  isCustomRole := some a.isCustomRole

/-- The prompt of an agent, which may be absent, is read first. -/
theorem foldlM_custom_prompt (prompt : Option String) (fields : List (String × Json)) :
    (optionalField "custom_prompt" (prompt.map .str) ++ fields).foldlM Draft.put {} =
      fields.foldlM Draft.put { customPrompt := prompt.map some } := by
  cases prompt with
  | none => rfl
  | some text => exact foldlM_cons_of_eq_ok rfl

/-- Reading what is written of an agent comes to the draft with all its fields. -/
theorem record_toJson (htemperature : a.temperature.isFinite = true)
    (htokens : a.maxOutputTokens < 2 ^ 32) (hretries : a.retryCount < 2 ^ 32) :
    Decode.record AgentSpec.shape {} Draft.put a.toJson = .ok a.draft := by
  have htemperature : ∀ d : Draft, d.put ("temperature", .ofFloat (Decimal.widen a.temperature)) =
      .ok { d with temperature := some a.temperature } := by
    intro d
    exact congrArg (Except.map _) (Decode.single_widen htemperature)
  have htokens : ∀ d : Draft, d.put ("max_output_tokens", .nat a.maxOutputTokens) =
      .ok { d with maxOutputTokens := some a.maxOutputTokens } := by
    intro d
    have hput : d.put ("max_output_tokens", .nat a.maxOutputTokens) =
        (Decode.nat 32 (.nat a.maxOutputTokens)).map fun n =>
          { d with maxOutputTokens := some n } := rfl
    rw [hput, Decode.nat_nat htokens, Except.map]
  have hretries : ∀ d : Draft, d.put ("retry_count", .nat a.retryCount) =
      .ok { d with retryCount := some a.retryCount } := by
    intro d
    have hput : d.put ("retry_count", .nat a.retryCount) =
        (Decode.nat 32 (.nat a.retryCount)).map fun n => { d with retryCount := some n } := rfl
    rw [hput, Decode.nat_nat hretries, Except.map]
  unfold Decode.record toJson
  dsimp only
  -- One step for each field, in the order in which they are written.
  rw [foldlM_custom_prompt, foldlM_cons_of_eq_ok rfl, foldlM_cons_of_eq_ok rfl,
    foldlM_cons_of_eq_ok (htokens _), foldlM_cons_of_eq_ok rfl, foldlM_cons_of_eq_ok rfl,
    foldlM_cons_of_eq_ok (hretries _), foldlM_cons_of_eq_ok rfl,
    foldlM_cons_of_eq_ok (htemperature _)]
  rfl

/-- The draft with all the fields of an agent is finished without defaults. -/
theorem finish_draft (a : AgentSpec) : a.draft.finish = .ok a := by
  obtain ⟨name, role, model, description, temperature, maxOutputTokens, retryCount, customPrompt,
    isCustomRole⟩ := a
  cases customPrompt with
  | none => rfl
  | some prompt => rfl

/-- An agent is read back if its numbers have a written form. -/
theorem ofJson_toJson (htemperature : a.temperature.isFinite = true)
    (htokens : a.maxOutputTokens < 2 ^ 32) (hretries : a.retryCount < 2 ^ 32) :
    ofJson a.toJson = .ok a := by
  rw [ofJson, record_toJson htemperature htokens hretries]
  exact a.finish_draft

end AgentSpec

/-! ### Designs -/

namespace Design

variable {d : Design}

/-- What is written of a design, field by field; edges are left out if there are none to declare. -/
theorem field?_toJson (d : Design) :
    d.toJson.field? "agents" = some (.arr (d.agents.map AgentSpec.toJson)) ∧
      d.toJson.field? "description" = some (.str d.description) ∧
      d.toJson.field? "edges" = d.edges.map (fun edges => .arr (edges.map EdgeSpec.toJson)) ∧
      d.toJson.field? "name" = some (.str d.name) := by
  obtain ⟨name, description, agents, edges⟩ := d
  cases edges with
  | none => exact ⟨rfl, rfl, rfl, rfl⟩
  | some edges => exact ⟨rfl, rfl, rfl, rfl⟩

/-- What is written of a design has the shape that the schema asks for. -/
theorem violations_toJson (h : d.Writable) : schema.violations d.toJson = [] := by
  obtain ⟨hagents, hdescription, hedges, hname⟩ := d.field?_toJson
  refine Schema.violationsAt_record ?_ ?_
  · intro f hf v hv
    change d.toJson.field? f.1 = some v at hv
    simp only [List.mem_cons, List.not_mem_nil, or_false] at hf
    rcases hf with rfl | rfl | rfl | rfl
    · rw [hagents, Option.some.injEq] at hv
      rw [← hv]
      refine Schema.violationsAt_list List.mem_cons_self (List.forall_mem_map.mpr ?_)
      intro a ha p
      exact AgentSpec.violationsAt_toJson (h.temperature a ha) p
    · rw [hdescription, Option.some.injEq] at hv
      rw [← hv]
      rfl
    · rw [hedges, Option.map_eq_some_iff] at hv
      obtain ⟨edges, -, rfl⟩ := hv
      refine Schema.violationsAt_list List.mem_cons_self (List.forall_mem_map.mpr ?_)
      intro e _ p
      exact e.violationsAt_toJson p
    · rw [hname, Option.some.injEq] at hv
      rw [← hv]
      rfl
  · intro f hf
    change (d.toJson.field? f).isSome = true
    simp only [List.mem_cons, List.not_mem_nil, or_false] at hf
    rcases hf with rfl | rfl
    · rw [hname]
      rfl
    · rw [hagents]
      rfl

/-- The draft of a design all of whose fields have been read. -/
def draft (d : Design) : Draft where
  name := some d.name
  description := some d.description
  agents := some d.agents
  edges := d.edges.map some

/-- Reading what is written of a design comes to the draft with all its fields. -/
theorem record_toJson (h : d.Writable) :
    Decode.record Design.shape {} Draft.put d.toJson = .ok d.draft := by
  have hagents : ∀ draft : Draft, draft.put ("agents", .arr (d.agents.map AgentSpec.toJson)) =
      .ok { draft with agents := some d.agents } := by
    intro draft
    refine congrArg (Except.map _) (Decode.list_map ?_)
    intro a ha
    exact AgentSpec.ofJson_toJson (h.temperature a ha) (h.maxOutputTokens a ha) (h.retryCount a ha)
  have hedges : ∀ (draft : Draft) (edges : List EdgeSpec),
      draft.put ("edges", .arr (edges.map EdgeSpec.toJson)) =
        .ok { draft with edges := some (some edges) } := by
    intro draft edges
    -- Edges may be absent, so what is read of them is a list inside an option.
    have hlist := Decode.list_map (l := edges) fun e _ => e.ofJson_toJson
    exact congrArg (Except.map _) (congrArg (Except.map some) hlist)
  unfold Decode.record toJson Design.draft
  dsimp only
  rw [List.append_assoc, List.cons_append, List.cons_append, List.nil_append,
    foldlM_cons_of_eq_ok (hagents _), foldlM_cons_of_eq_ok rfl]
  cases d.edges with
  | none =>
    rw [optionalField]
    exact foldlM_cons_of_eq_ok rfl
  | some edges =>
    rw [optionalField]
    exact (foldlM_cons_of_eq_ok (hedges _ edges)).trans (foldlM_cons_of_eq_ok rfl)

/-- The draft with all the fields of a design is finished without defaults. -/
theorem finish_draft (d : Design) : d.draft.finish = .ok d := by
  obtain ⟨name, description, agents, edges⟩ := d
  cases edges with
  | none => rfl
  | some edges => rfl

/-- A design is read back if its numbers have a written form. -/
theorem ofJson_toJson (h : d.Writable) : ofJson d.toJson = .ok d := by
  rw [ofJson, record_toJson h]
  exact d.finish_draft

/-- **A design that is written is accepted and read back**: what is written of it has the shape that
the schema asks for, and reading it gives the design itself, checked or not.  So no two designs are
written alike, not even one without edges and one that declares none. -/
theorem ofDocument_toJson (h : d.Writable) :
    schema.violations d.toJson = [] ∧ ofJson d.toJson = .ok d ∧ ofDocument d.toJson = .ok d ∧
      ∀ d' : Design, d'.Writable → d'.toJson = d.toJson → d' = d := by
  have hshape := violations_toJson h
  have hread := ofJson_toJson h
  refine ⟨hshape, hread, ?_, ?_⟩
  · rw [ofDocument, hshape]
    dsimp only
    rw [hread]
    rfl
  · intro d' h' hsame
    have hread' := ofJson_toJson h'
    rw [hsame, hread] at hread'
    exact (Except.ok.inj hread').symm

end Design

/-! ### A design with and without edges -/

/-- A plain agent and one with a prompt of its own and the largest numbers. -/
def memo (edges : Option (List EdgeSpec)) : Design where
  name := "memo"
  agents := [{ name := "a", role := "collector" },
    { name := "", role := "Custom", temperature := -0.0, maxOutputTokens := 4294967295,
      retryCount := 4294967295, customPrompt := some "", isCustomRole := true }]
  edges

theorem writable_memo (edges : Option (List EdgeSpec)) : (memo edges).Writable := by
  have hfinite : ∀ a ∈ (memo none).agents, a.temperature.isFinite = true := by decide +kernel
  have htokens : ∀ a ∈ (memo none).agents, a.maxOutputTokens < 2 ^ 32 := by decide
  have hretries : ∀ a ∈ (memo none).agents, a.retryCount < 2 ^ 32 := by decide
  exact ⟨hfinite, htokens, hretries⟩

/-- The memo is read back without edges and with an empty list of them, and the two are not written
alike. -/
theorem Design.ofDocument_toJson_memo : (memo none).Writable ∧ (memo (some [])).Writable ∧
    ofDocument (memo none).toJson = .ok (memo none) ∧
    ofDocument (memo (some [])).toJson = .ok (memo (some [])) ∧
    (memo none).toJson ≠ (memo (some [])).toJson := by
  obtain ⟨-, -, habsent, hunique⟩ := Design.ofDocument_toJson (writable_memo none)
  obtain ⟨-, -, hempty, -⟩ := Design.ofDocument_toJson (writable_memo (some []))
  refine ⟨writable_memo none, writable_memo (some []), habsent, hempty, ?_⟩
  intro hsame
  have hedges := congrArg Design.edges (hunique _ (writable_memo (some [])) hsame.symm)
  cases hedges

end AgentPipeline
