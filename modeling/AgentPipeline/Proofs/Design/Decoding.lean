import AgentPipeline.Proofs.Design.Shape

/-!
# What decodes has the right shape

The schema of designs is checked before a document is decoded, and the two know the fields of a
design each on its own.  Whatever value the decoder takes from a field, the schema admits it: the
schema asks no more of a count than that it is an integer, and of fields that only the decoder knows
it asks nothing.  So the check of the shape turns no design away that is written as objects, as it
would if it were stricter than the decoder on a single field.  The one thing that it is stricter on
is a list in place of a record: the decoder takes the values of the fields from it in their order,
while the schema asks for an object.

## Main definitions

* `Json.WrittenAsObjects` — a design, its agents and its edges are written as objects.

## Main results

* `Schema.violationsAt_record_of_fits` — records whose fields fit in a way that the schema admits.
* `AgentSpec.accepted_of_ofJson`, `EdgeSpec.accepted_of_ofJson`, `Design.accepted_of_ofJson` — what
  decodes is accepted.
* `Design.writtenAsObjects_of_accepted` — what is accepted is written as objects.
* `Design.decodes_iff_accepted_decodable` — **the check of the shape turns no design away** that is
  written as objects.
* `Design.ofJson_list` — a list in place of a design decodes, but is never accepted.
-/

namespace AgentPipeline

open Json (lookup)

/-! ### What a schema admits -/

namespace Schema

variable {path : Path} {v : Json}

/-- A record accepts objects that have the fields that it needs if it admits every way in which a
field that it knows fits. -/
theorem violationsAt_record_of_fits {fits : String × Json → Prop} {required : List String}
    {fields : List (String × Schema)} {given : List (String × Json)}
    (hadmits : ∀ f ∈ fields, ∀ path v, fits (f.1, v) → f.2.violationsAt path v = [])
    (hfits : ∀ f ∈ given, fits f) (hrequired : ∀ f ∈ required, (lookup f given).isSome = true) :
    (record [.object] required false fields).violationsAt path (.obj given) = [] :=
  violationsAt_record
    (fun f hf v hv => hadmits f hf _ v (hfits (f.1, v) (Json.mem_of_lookup hv))) hrequired

theorem violationsAt_simple_iff {type : JsonType} :
    (simple type).violationsAt path v = [] ↔ type.admits v = true := by
  rw [simple, violationsAt_leaf_iff, List.any_cons, List.any_nil, Bool.or_false]

/-- A simple value that may be left open is null or of its kind. -/
theorem violationsAt_nullable_iff {type : JsonType} :
    (leaf [.null, type] none).violationsAt path v = [] ↔ v = .null ∨ type.admits v = true := by
  rw [violationsAt_leaf_iff, List.any_cons, List.any_cons, List.any_nil, Bool.or_false,
    Bool.or_eq_true, JsonType.null_admits_iff]

end Schema

/-- A design is written as an object, and so is each of its agents and edges. -/
def Json.WrittenAsObjects (v : Json) : Prop :=
  ∃ fields, v = .obj fields ∧ ∀ key ∈ ["agents", "edges"], ∀ items, (key, .arr items) ∈ fields →
    ∀ w ∈ items, ∃ given, w = .obj given

/-! ### What decodes -/

/-- A list with a value for every field that needs one, and for no others, is read as the object of
these values. -/
theorem Decode.record_list {α : Type} {shape : RecordShape} {draft : α}
    {put : α → String × Json → Except Misfit α} {items : List Json}
    (hlength : shape.checkLength items.length = .ok ()) :
    record shape draft put (.arr items) = record shape draft put (.obj (shape.keys.zip items)) := by
  unfold record
  dsimp only
  rw [hlength]
  cases (shape.keys.zip items).foldlM put draft with
  | error m => rfl
  | ok filled => rfl

section Parts

variable {fields : List (String × Json)}

/-- An agent that decodes is accepted. -/
theorem AgentSpec.accepted_of_ofJson (h : ∃ a, ofJson (.obj fields) = .ok a) (path : Path) :
    schema.violationsAt path (.obj fields) = [] := by
  obtain ⟨hfits, -, hname, hrole⟩ := exists_ofJson_iff.mp h
  -- A count that fits 32 bits is an integer.
  have hcount : ∀ path v, (∃ n : Nat, n < 2 ^ 32 ∧ v = .nat n) →
      (Schema.simple .integer).violationsAt path v = [] := by
    rintro path _ ⟨n, -, rfl⟩
    exact Schema.violationsAt_simple_iff.mpr rfl
  -- There is one case for each field that the schema knows, in its order.
  refine Schema.violationsAt_record_of_fits (fun f hf path v hfit => ?_) hfits ?_
  · simp only [List.mem_cons, List.not_mem_nil, or_false] at hf
    rcases hf with rfl | rfl | rfl | rfl | rfl | rfl | rfl | rfl | rfl
    · exact Schema.violationsAt_nullable_iff.mpr hfit
    · exact Schema.violationsAt_simple_iff.mpr hfit
    · exact Schema.violationsAt_simple_iff.mpr hfit
    · exact hcount path v hfit
    · exact Schema.violationsAt_simple_iff.mpr hfit
    · exact Schema.violationsAt_simple_iff.mpr hfit
    · exact hcount path v hfit
    · exact Schema.violationsAt_simple_iff.mpr hfit
    · exact Schema.violationsAt_simple_iff.mpr hfit
  · simp [hname, hrole]

/-- An edge that decodes is accepted. -/
theorem EdgeSpec.accepted_of_ofJson (h : ∃ e, ofJson (.obj fields) = .ok e) (path : Path) :
    schema.violationsAt path (.obj fields) = [] := by
  obtain ⟨hfits, hsource, htarget⟩ := exists_ofJson_iff.mp h
  refine Schema.violationsAt_record_of_fits (fun f hf path v hfit => ?_) hfits ?_
  · simp only [List.mem_cons, List.not_mem_nil, or_false] at hf
    rcases hf with rfl | rfl | rfl
    · exact Schema.violationsAt_nullable_iff.mpr hfit
    · exact Schema.violationsAt_simple_iff.mpr hfit
    · exact Schema.violationsAt_simple_iff.mpr hfit
  · simp [hsource, htarget]

end Parts

namespace Design

variable {v : Json}

/-- A design that is written as objects and decodes is accepted. -/
theorem accepted_of_ofJson (hv : v.WrittenAsObjects) (h : ∃ d, ofJson v = .ok d) :
    schema.violations v = [] := by
  obtain ⟨fields, rfl, hobjects⟩ := hv
  obtain ⟨hfits, hname, hagents⟩ := exists_ofJson_iff.mp h
  refine Schema.violationsAt_record (fun f hf w hw => ?_) ?_
  · have hmem : (f.1, w) ∈ fields := Json.mem_of_lookup hw
    have hfit := hfits _ hmem
    simp only [List.mem_cons, List.not_mem_nil, or_false] at hf
    rcases hf with rfl | rfl | rfl | rfl
    · obtain ⟨items, rfl, hitems⟩ := hfit
      refine Schema.violationsAt_list (by simp) fun w hw => ?_
      obtain ⟨given, rfl⟩ := hobjects "agents" (by simp) items hmem w hw
      exact AgentSpec.accepted_of_ofJson (hitems _ hw)
    · exact Schema.violationsAt_simple_iff.mpr hfit
    · rcases hfit with rfl | ⟨items, rfl, hitems⟩
      · exact Schema.violationsAt_list_iff.mpr ⟨rfl, fun _ h => nomatch h⟩
      · refine Schema.violationsAt_list (by simp) fun w hw => ?_
        obtain ⟨given, rfl⟩ := hobjects "edges" (by simp) items hmem w hw
        exact EdgeSpec.accepted_of_ofJson (hitems _ hw)
    · exact Schema.violationsAt_simple_iff.mpr hfit
  · simp [hname, hagents]

/-- The items of an accepted list of records are objects. -/
theorem exists_object_of_mem {path : Path} {types : List JsonType} {required : List String}
    {fields : List (String × Schema)} {items : List Json}
    (h : (Schema.list types (.record [.object] required false fields)).violationsAt path
      (.arr items) = []) {w : Json} (hw : w ∈ items) : ∃ given, w = .obj given := by
  obtain ⟨path, haccepted⟩ := exists_accepted_of_mem h hw
  obtain ⟨given, heq, -⟩ := Schema.violationsAt_record_iff.mp haccepted
  exact ⟨given, heq⟩

/-- What is accepted is written as objects. -/
theorem writtenAsObjects_of_accepted (hv : v.WellFormed) (h : schema.violations v = []) :
    v.WrittenAsObjects := by
  obtain ⟨fields, rfl, hall, -⟩ := Schema.violationsAt_record_iff.mp h
  refine ⟨fields, rfl, fun key hkey items hmem w hw => ?_⟩
  have hlookup : lookup key fields = some (.arr items) := hv.fields.lookup_eq hmem
  simp only [List.mem_cons, List.not_mem_nil, or_false] at hkey
  rcases hkey with rfl | rfl
  · exact exists_object_of_mem
      (hall ("agents", .list [.array] AgentSpec.schema) (by simp) _ hlookup) hw
  · exact exists_object_of_mem
      (hall ("edges", .list [.array, .null] EdgeSpec.schema) (by simp) _ hlookup) hw

/-- A document that is written as objects gives the design that it decodes to. -/
theorem ofDocument_eq_ok_iff (hv : v.WrittenAsObjects) {d : Design} :
    ofDocument v = .ok d ↔ ofJson v = .ok d := by
  unfold ofDocument
  cases hviolations : schema.violations v with
  | nil =>
    dsimp only
    cases ofJson v with
    | ok d' => simp [Except.mapError]
    | error m => simp [Except.mapError]
  | cons first more =>
    -- What is not accepted does not decode either.
    refine iff_of_false (fun h => nomatch h) fun h => ?_
    have haccepted := accepted_of_ofJson hv ⟨d, h⟩
    rw [hviolations] at haccepted
    cases haccepted

/-- **The check of the shape turns no design away** that is written as objects.  What decodes is
accepted, whatever other fields there are and however many agents and edges, so a document gives a
design exactly if it decodes.  What is accepted is written as objects, and it decodes in turn if its
agents are decodable. -/
theorem decodes_iff_accepted_decodable (v : Json) :
    (v.WrittenAsObjects → (∃ d, ofJson v = .ok d) → schema.violations v = []) ∧
      (v.WrittenAsObjects → ∀ d, ofDocument v = .ok d ↔ ofJson v = .ok d) ∧
      (v.WellFormed → ((v.WrittenAsObjects ∧ ∃ d, ofJson v = .ok d) ↔
        schema.violations v = [] ∧ v.AgentsDecodable)) := by
  refine ⟨accepted_of_ofJson, fun hv d => ofDocument_eq_ok_iff hv, fun hv => ⟨?_, ?_⟩⟩
  · rintro ⟨hobjects, hdecodes⟩
    have haccepted := accepted_of_ofJson hobjects hdecodes
    exact ⟨haccepted, (exists_ofJson_accepted_iff hv haccepted).mp hdecodes⟩
  · rintro ⟨haccepted, hdecodable⟩
    exact ⟨writtenAsObjects_of_accepted hv haccepted,
      (exists_ofJson_accepted_iff hv haccepted).mpr hdecodable⟩

/-- An agent whose model has its second name, whose temperature is written without a point, whose
prompt is left open, and with a field that nobody knows. -/
def looseAgent : Json :=
  .obj [("custom_prompt", .null), ("model_identifier", .str "gpt-4o"), ("name", .str "a"),
    ("notes", .arr []), ("retry_count", .int 0), ("role", .str "collector"),
    ("temperature", .int 1)]

/-- A design with this agent, that says of its edges that there are none. -/
def looseValue : Json :=
  .obj [("agents", .arr [looseAgent]), ("edges", .null), ("name", .str "d"), ("version", .int 2)]

theorem wellFormed_looseValue : looseValue.WellFormed := by
  have hagent : looseAgent.WellFormed := by
    refine .obj (by decide) ?_
    simp [Json.WellFormed.null, Json.WellFormed.str, Json.WellFormed.int, Json.WellFormed.arr]
  refine .obj (by decide) ?_
  simp [Json.WellFormed.null, Json.WellFormed.str, Json.WellFormed.int, Json.WellFormed.arr, hagent]

theorem writtenAsObjects_looseValue : looseValue.WrittenAsObjects := by
  refine ⟨_, rfl, fun key _ items hmem w hw => ?_⟩
  simp only [List.mem_cons, List.not_mem_nil, or_false, Prod.mk.injEq, Json.arr.injEq,
    reduceCtorEq, and_false] at hmem
  obtain ⟨-, rfl⟩ := hmem
  rw [List.mem_singleton] at hw
  exact ⟨_, hw⟩

/-- A design that makes use of all that the decoder puts up with is accepted. -/
theorem decodes_iff_accepted_decodable_loose : looseValue.WellFormed ∧
    looseValue.WrittenAsObjects ∧ (∃ d, ofJson looseValue = .ok d) ∧
    schema.violations looseValue = [] ∧ looseValue.AgentsDecodable ∧
    ∃ d, ofDocument looseValue = .ok d := by
  obtain ⟨haccepts, hgives, hdecodes⟩ := decodes_iff_accepted_decodable looseValue
  have hobjects := writtenAsObjects_looseValue
  have hdecoded : ∃ d, ofJson looseValue = .ok d := ⟨_, rfl⟩
  obtain ⟨-, hdecodable⟩ := (hdecodes wellFormed_looseValue).mp ⟨hobjects, hdecoded⟩
  refine ⟨wellFormed_looseValue, hobjects, hdecoded, haccepts hobjects hdecoded, hdecodable, ?_⟩
  obtain ⟨d, hd⟩ := hdecoded
  exact ⟨d, (hgives hobjects d).mpr hd⟩

/-! ### Lists in place of records -/

/-- **A list in place of a design decodes as the object of its values, but is never accepted.** -/
theorem ofJson_list {items : List Json} (hlength : shape.checkLength items.length = .ok ()) :
    ofJson (.arr items) = ofJson (.obj (shape.keys.zip items)) ∧
      schema.violations (.arr items) ≠ [] := by
  refine ⟨?_, fun h => ?_⟩
  · rw [ofJson, ofJson, Decode.record_list hlength]
  · obtain ⟨given, heq, -⟩ := Schema.violationsAt_record_iff.mp h
    cases heq

-- Agents may be written so as well.
example : ofJson (.arr [.str "d", .str "", .arr [.arr [.str "a", .str "collector"]]]) =
    .ok { name := "d", agents := [{ name := "a", role := "collector" }] } :=
  rfl

end Design

end AgentPipeline
