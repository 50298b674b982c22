import AgentPipeline.Proofs.Design.Format
import AgentPipeline.Proofs.Json.Reading

/-!
# Which accepted documents are designs

The schema of designs and the decoder describe the same documents in different terms.  What the
schema accepts has every required field and a value of the right kind in every field that it knows.
It knows nothing of the second name of the model, and by its integers it means any number without a
fraction, of whatever size.  So an accepted document can fail to decode, but only in an agent: a
count is negative, too large for 32 bits or written with a point, or the model is given under its
second name as something else than a string or under both names.

## Main definitions

* `AgentSpec.Decodable` — none of this is the case in an agent.
* `Json.AgentsDecodable` — nor in any agent of a document.

## Main results

* `Schema.violationsAt_record_iff`, `Schema.violationsAt_list_iff` — what a schema accepts.
* `Decode.exists_record_iff` — when the fields of a record can be put together.
* `AgentSpec.exists_ofJson_iff`, `EdgeSpec.exists_ofJson_iff`, `Design.exists_ofJson_iff` — which
  objects decode.
* `Design.decodes_accepted_iff` — **which accepted documents decode**, and what becomes of a text.
-/

namespace AgentPipeline

/-! ### Fields by their keys -/

namespace Json

theorem lookup_isSome (key : String) (fields : List (String × Json)) :
    (lookup key fields).isSome = fields.any fun f => f.1 == key := by
  induction fields with
  | nil => rfl
  | cons f fields ih =>
    unfold lookup
    by_cases hkey : f.1 = key
    · simp [hkey]
    · simp [hkey, ih]

/-- In an object every field is found under its key. -/
theorem FieldsWellFormed.lookup_eq {fields : List (String × Json)} (h : FieldsWellFormed fields)
    {f : String × Json} (hf : f ∈ fields) : lookup f.1 fields = some f.2 := by
  obtain ⟨hsorted, -⟩ := h
  induction hsorted with
  | nil => cases hf
  | @cons g fields hlt hsorted ih =>
    unfold lookup
    rcases List.mem_cons.mp hf with rfl | hf
    · rw [if_pos rfl]
    · rw [if_neg (hlt f hf).ne]
      exact ih hf

theorem WellFormed.fields {fields : List (String × Json)} (h : WellFormed (.obj fields)) :
    FieldsWellFormed fields := by
  cases h with
  | obj hsorted hvalues => exact ⟨hsorted, hvalues⟩

theorem WellFormed.items {items : List Json} (h : WellFormed (.arr items)) :
    ∀ v ∈ items, v.WellFormed := by
  cases h with
  | arr h => exact h

end Json

open Json (lookup)

/-! ### What a schema accepts -/

theorem JsonType.null_admits_iff {v : Json} : JsonType.null.admits v = true ↔ v = .null := by
  cases v <;> simp [JsonType.admits]

theorem JsonType.array_admits_iff {v : Json} :
    JsonType.array.admits v = true ↔ ∃ items, v = .arr items := by
  cases v <;> simp [JsonType.admits]

namespace Schema

variable {path : Path} {types : List JsonType} {v : Json}

theorem typeViolations_eq_nil_iff :
    typeViolations types path v = [] ↔ types.any (fun t => t.admits v) = true := by
  unfold typeViolations
  split
  · next h => exact iff_of_true rfl h
  · next h => exact iff_of_false (List.cons_ne_nil _ _) h

theorem violationsAt_leaf_iff :
    (leaf types none).violationsAt path v = [] ↔ types.any (fun t => t.admits v) = true := by
  rw [violationsAt, minimumViolations, List.nil_append, typeViolations_eq_nil_iff]

theorem fieldViolations_eq_nil_iff {fields : List (String × Schema)}
    {given : List (String × Json)} : fieldViolations path given fields = [] ↔
      ∀ f ∈ fields, ∀ w, lookup f.1 given = some w → f.2.violationsAt (path ++ [f.1]) w = [] := by
  refine ⟨fun h => ?_, fieldViolations_eq_nil⟩
  induction fields with
  | nil => simp
  | cons f fields ih =>
    rw [fieldViolations, List.append_eq_nil_iff] at h
    rw [List.forall_mem_cons]
    refine ⟨fun w hw => ?_, ih h.2⟩
    have hfirst := h.1
    rw [hw] at hfirst
    exact hfirst

/-- An open record accepts objects that have the fields that it needs and whose fields that it knows
have the right shape. -/
theorem violationsAt_record_iff {required : List String} {fields : List (String × Schema)} :
    (record [.object] required false fields).violationsAt path v = [] ↔
      ∃ given, v = .obj given ∧
        (∀ f ∈ fields, ∀ w, lookup f.1 given = some w → f.2.violationsAt (path ++ [f.1]) w = []) ∧
        ∀ f ∈ required, (lookup f given).isSome = true := by
  constructor
  · intro h
    cases v with
    | obj given =>
      rw [violationsAt, List.append_eq_nil_iff, List.append_eq_nil_iff, List.append_eq_nil_iff,
        fieldViolations_eq_nil_iff] at h
      obtain ⟨⟨⟨hfields, -⟩, hmissing⟩, -⟩ := h
      refine ⟨given, rfl, hfields, fun f hf => ?_⟩
      have hsome := List.filter_eq_nil_iff.mp (List.map_eq_nil_iff.mp hmissing) f hf
      rw [← Option.not_isNone, Bool.not_eq_true', Bool.eq_false_iff]
      exact hsome
    | _ => simp [violationsAt, typeViolations, JsonType.admits] at h
  · rintro ⟨given, rfl, hfields, hrequired⟩
    exact violationsAt_record hfields hrequired

theorem itemViolations_eq_nil_iff {check : Path → Json → List Violation} {items : List Json}
    {start : Nat} : itemViolations check path start items = [] ↔
      ∀ i w, items[i]? = some w → check (path ++ [toString (start + i)]) w = [] := by
  induction items generalizing start with
  | nil => simp [itemViolations]
  | cons w items ih =>
    rw [itemViolations, List.append_eq_nil_iff, ih]
    constructor
    · rintro ⟨hfirst, hrest⟩ i u hu
      cases i with
      | zero =>
        cases hu
        exact hfirst
      | succ i =>
        rw [Nat.add_comm i 1, ← Nat.add_assoc]
        exact hrest i u hu
    · intro h
      refine ⟨h 0 w rfl, fun i u hu => ?_⟩
      rw [Nat.add_assoc, Nat.add_comm 1 i]
      exact h (i + 1) u hu

/-- What an open record asks of a field that is a simple value. -/
theorem admits_of_accepted {required : List String} {fields : List (String × Schema)}
    {given : List (String × Json)} (hgiven : Json.FieldsWellFormed given)
    (h : (record [.object] required false fields).violationsAt path (.obj given) = [])
    {f : String × Json} (hf : f ∈ given) (types : List JsonType)
    (hknown : (f.1, leaf types none) ∈ fields) : types.any (fun t => t.admits f.2) = true := by
  obtain ⟨given', heq, hall, -⟩ := violationsAt_record_iff.mp h
  cases heq
  exact violationsAt_leaf_iff.mp (hall _ hknown f.2 (hgiven.lookup_eq hf))

/-- A field of one kind only is of that kind. -/
theorem admits_of_accepted_simple {required : List String} {fields : List (String × Schema)}
    {given : List (String × Json)} (hgiven : Json.FieldsWellFormed given)
    (h : (record [.object] required false fields).violationsAt path (.obj given) = [])
    {f : String × Json} (hf : f ∈ given) {type : JsonType}
    (hknown : (f.1, simple type) ∈ fields) : type.admits f.2 = true := by
  simpa using admits_of_accepted hgiven h hf [type] hknown

/-- A list accepts arrays all of whose items have the right shape, and the other kinds allowed. -/
theorem violationsAt_list_iff {items : Schema} :
    (list types items).violationsAt path v = [] ↔
      types.any (fun t => t.admits v) = true ∧
        ∀ given : List Json, v = .arr given →
          ∀ (i : Nat) (w : Json), given[i]? = some w →
            items.violationsAt (path ++ [toString i]) w = [] := by
  cases v with
  | arr vs =>
    rw [violationsAt, List.append_eq_nil_iff, typeViolations_eq_nil_iff, and_comm,
      itemViolations_eq_nil_iff]
    simp only [Nat.zero_add, Json.arr.injEq, forall_eq']
  | _ => simp [violationsAt, typeViolations_eq_nil_iff]

end Schema

/-! ### What a record is put together from -/

namespace Decode

theorem exists_map_eq_ok_iff {ε α β : Type} {f : α → β} {x : Except ε α} :
    (∃ b, x.map f = .ok b) ↔ ∃ a, x = .ok a := by
  cases x with
  | error e => simp [Except.map]
  | ok a => simp [Except.map]

section Records

variable {α : Type} {put : α → String × Json → Except Misfit α} {fields : List (String × Json)}
  {d d' : α} {shape : RecordShape}

/-- What has been put in stays in, and nothing else comes in. -/
theorem has_foldlM (has : α → Bool) {key : String}
    (hput : ∀ {d d' f}, put d f = .ok d' → has d' = (has d || f.1 == key))
    (h : fields.foldlM put d = .ok d') :
    has d' = (has d || fields.any fun f => f.1 == key) := by
  induction fields generalizing d with
  | nil =>
    cases h
    simp
  | cons f fields ih =>
    rw [List.foldlM_cons, bind_eq_ok_iff] at h
    obtain ⟨next, hnext, hrest⟩ := h
    rw [ih hrest, hput hnext, List.any_cons, Bool.or_assoc]

/-- Fields can be put together if each of them fits and no two of them are for the one place that
two keys share. -/
theorem exists_foldlM_iff {fits : String × Json → Prop} (taken : α → Bool) {takes : String → Bool}
    (hfits : ∀ {d f}, (∃ d', put d f = .ok d') ↔ fits f ∧ (takes f.1 = true → taken d = false))
    (htaken : ∀ {d d' f}, put d f = .ok d' → taken d' = (taken d || takes f.1)) :
    (∃ d', fields.foldlM put d = .ok d') ↔
      (∀ f ∈ fields, fits f) ∧
        (taken d).toNat + fields.countP (fun f => takes f.1) ≤ 1 := by
  induction fields generalizing d with
  | nil =>
    have hle := (taken d).toNat_le
    simp [pure, Except.pure, hle]
  | cons f fields ih =>
    have hstep : (∃ d', (f :: fields).foldlM put d = .ok d') ↔
        ∃ next, put d f = .ok next ∧ ∃ d', fields.foldlM put next = .ok d' := by
      simp only [List.foldlM_cons, bind_eq_ok_iff]
      exact ⟨fun ⟨d', next, h, h'⟩ => ⟨next, h, d', h'⟩, fun ⟨next, h, d', h'⟩ => ⟨d', next, h, h'⟩⟩
    rw [hstep, List.forall_mem_cons, List.countP_cons]
    constructor
    · rintro ⟨next, hnext, hrest⟩
      obtain ⟨hf, hfree⟩ := hfits.mp ⟨next, hnext⟩
      obtain ⟨hall, hcount⟩ := ih.mp hrest
      rw [htaken hnext] at hcount
      refine ⟨⟨hf, hall⟩, ?_⟩
      cases htakes : takes f.1 with
      | false =>
        rw [htakes, Bool.or_false] at hcount
        simpa using hcount
      | true =>
        rw [htakes, Bool.or_true, Bool.toNat_true] at hcount
        rw [hfree htakes]
        simpa using hcount
    · rintro ⟨⟨hf, hall⟩, hcount⟩
      have hfree : takes f.1 = true → taken d = false := by
        intro htakes
        rw [htakes, if_pos rfl] at hcount
        cases htaken' : taken d with
        | false => rfl
        | true =>
          rw [htaken', Bool.toNat_true] at hcount
          omega
      obtain ⟨next, hnext⟩ := hfits.mpr ⟨hf, hfree⟩
      refine ⟨next, hnext, ih.mpr ⟨hall, ?_⟩⟩
      rw [htaken hnext]
      cases htakes : takes f.1 with
      | false =>
        rw [htakes] at hcount
        simpa using hcount
      | true =>
        rw [htakes, hfree htakes] at hcount
        rw [hfree htakes]
        simpa [Nat.add_comm] using hcount

/-- An object is read as a record by putting its fields together and finishing the draft. -/
theorem exists_record_iff {β : Type} {finish : α → Except Misfit β} :
    (∃ b, record shape d put (.obj fields) >>= finish = .ok b) ↔
      ∃ d', fields.foldlM put d = .ok d' ∧ ∃ b, finish d' = .ok b := by
  simp only [record, bind_eq_ok_iff]
  constructor
  · rintro ⟨b, d', hfold, hfinish⟩
    exact ⟨d', hfold, b, hfinish⟩
  · rintro ⟨d', hfold, b, hfinish⟩
    exact ⟨b, d', hfold, hfinish⟩

/-- An object is read as a record with two fields that it needs if it has them, if all its fields
fit and if no two of them are for the one place that two keys share. -/
theorem exists_read_iff {β : Type} {finish : α → Except Misfit β}
    {fits : String × Json → Prop} {takes : String → Bool} {key key' : String}
    (taken has has' : α → Bool) (hempty : taken d = false ∧ has d = false ∧ has' d = false)
    (hfits : ∀ {d f}, (∃ d', put d f = .ok d') ↔ fits f ∧ (takes f.1 = true → taken d = false))
    (hput : ∀ {d d' f}, put d f = .ok d' → taken d' = (taken d || takes f.1) ∧
      has d' = (has d || f.1 == key) ∧ has' d' = (has' d || f.1 == key'))
    (hfinish : ∀ {d}, (∃ b, finish d = .ok b) ↔ has d = true ∧ has' d = true) :
    (∃ b, record shape d put (.obj fields) >>= finish = .ok b) ↔
      (∀ f ∈ fields, fits f) ∧ fields.countP (fun f => takes f.1) ≤ 1 ∧
        (lookup key fields).isSome = true ∧ (lookup key' fields).isSome = true := by
  refine exists_record_iff.trans ?_
  have hfold : (∃ d', fields.foldlM put d = .ok d') ↔
      (∀ f ∈ fields, fits f) ∧ fields.countP (fun f => takes f.1) ≤ 1 := by
    rw [exists_foldlM_iff taken hfits fun h => (hput h).1, hempty.1, Bool.toNat_false, Nat.zero_add]
  have hpresent : ∀ {d'}, fields.foldlM put d = .ok d' → ((∃ b, finish d' = .ok b) ↔
      (lookup key fields).isSome = true ∧ (lookup key' fields).isSome = true) := by
    intro d' hd'
    rw [hfinish, has_foldlM has (fun h => (hput h).2.1) hd',
      has_foldlM has' (fun h => (hput h).2.2) hd', hempty.2.1, hempty.2.2, Bool.false_or,
      Bool.false_or, Json.lookup_isSome, Json.lookup_isSome]
  constructor
  · rintro ⟨d', hd', hb⟩
    obtain ⟨hall, hcount⟩ := hfold.mp ⟨d', hd'⟩
    exact ⟨hall, hcount, (hpresent hd').mp hb⟩
  · rintro ⟨hall, hcount, hboth⟩
    obtain ⟨d', hd'⟩ := hfold.mpr ⟨hall, hcount⟩
    exact ⟨d', hd', (hpresent hd').mpr hboth⟩

/-- A record no two keys of which share a place. -/
theorem exists_plain_read_iff {β : Type} {finish : α → Except Misfit β}
    {fits : String × Json → Prop} {key key' : String} (has has' : α → Bool)
    (hempty : has d = false ∧ has' d = false)
    (hfits : ∀ {d f}, (∃ d', put d f = .ok d') ↔ fits f)
    (hput : ∀ {d d' f}, put d f = .ok d' →
      has d' = (has d || f.1 == key) ∧ has' d' = (has' d || f.1 == key'))
    (hfinish : ∀ {d}, (∃ b, finish d = .ok b) ↔ has d = true ∧ has' d = true) :
    (∃ b, record shape d put (.obj fields) >>= finish = .ok b) ↔
      (∀ f ∈ fields, fits f) ∧
        (lookup key fields).isSome = true ∧ (lookup key' fields).isSome = true := by
  let none_taken : String → Bool := fun _ => false
  have hfree : ∀ {d f}, (∃ d', put d f = .ok d') ↔
      fits f ∧ (none_taken f.1 = true → false = false) := by
    intro d f
    simp [hfits]
  rw [exists_read_iff (fun _ => false) has has' ⟨rfl, hempty⟩ hfree (fun h => ⟨rfl, hput h⟩) hfinish]
  simp [none_taken]

end Records

/-! ### Simple values -/

variable {v : Json}

theorem map_eq_ok_iff {ε α β : Type} {f : α → β} {x : Except ε α} {b : β} :
    x.map f = .ok b ↔ ∃ a, x = .ok a ∧ f a = b := by
  cases x with
  | error e => simp [Except.map]
  | ok a => simp [Except.map]

theorem exists_text_iff : (∃ s, text v = .ok s) ↔ JsonType.string.admits v = true := by
  cases v <;> simp [text, Json.found, Found.asText, JsonType.admits]

theorem exists_boolean_iff : (∃ b, boolean v = .ok b) ↔ JsonType.boolean.admits v = true := by
  cases v <;> simp [boolean, Json.found, Found.asBool, JsonType.admits]

theorem exists_single_iff : (∃ x, single v = .ok x) ↔ JsonType.number.admits v = true := by
  cases v <;> simp [single, Json.found, Found.asSingle, JsonType.admits]

theorem exists_nat_iff {bits : Nat} :
    (∃ n, nat bits v = .ok n) ↔ ∃ n : Nat, n < 2 ^ bits ∧ v = .nat n := by
  constructor
  · rintro ⟨n, hn⟩
    cases v with
    | int i =>
      have hbounded : boundedNat bits i = .ok n := hn
      rw [boundedNat] at hbounded
      split at hbounded
      · next hrange =>
        cases hbounded
        refine ⟨i.toNat, ?_, ?_⟩
        · have hlt := hrange.2
          rw [Nat.pow_eq] at hlt
          omega
        · rw [Json.nat, Int.toNat_of_nonneg hrange.1]
      · cases hbounded
    | _ => cases hn
  · rintro ⟨n, hn, rfl⟩
    exact ⟨n, nat_nat hn⟩

theorem exists_optional_iff {α : Type} {decode : Json → Except Misfit α} :
    (∃ r, optional decode v = .ok r) ↔ v = .null ∨ ∃ a, decode v = .ok a := by
  unfold optional
  split
  · simp
  · next hnull =>
    rw [exists_map_eq_ok_iff, or_iff_right hnull]

theorem exists_list_iff {α : Type} {decode : Json → Except Misfit α} :
    (∃ l, list decode v = .ok l) ↔ ∃ items, v = .arr items ∧ ∀ w ∈ items, ∃ a, decode w = .ok a := by
  unfold list
  split
  · simp [exists_mapM_iff]
  · next harr =>
    refine iff_of_false (by simp) ?_
    rintro ⟨items, heq, -⟩
    exact harr items heq

end Decode

/-! ### Agents -/

namespace AgentSpec

/-- The two names of the model. -/
def isModelKey (key : String) : Bool :=
  key == "model" || key == "model_identifier"

theorem isModelKey_of_ne {key : String} (hmodel : key ≠ "model")
    (hsecond : key ≠ "model_identifier") : isModelKey key = false := by
  simp [isModelKey, hmodel, hsecond]

/-- A field of an agent has a value that can be read. -/
def Fits (f : String × Json) : Prop :=
  match f.1 with
  | "name" | "role" | "model" | "model_identifier" | "description" =>
    JsonType.string.admits f.2 = true
  | "temperature" => JsonType.number.admits f.2 = true
  | "max_output_tokens" | "retry_count" => ∃ n : Nat, n < 2 ^ 32 ∧ f.2 = .nat n
  | "custom_prompt" => f.2 = .null ∨ JsonType.string.admits f.2 = true
  | "is_custom_role" => JsonType.boolean.admits f.2 = true
  | _ => True

variable {d d' : Draft} {f : String × Json}

theorem Draft.exists_putModel_iff {v : Json} : (∃ d', putModel d v = .ok d') ↔
    JsonType.string.admits v = true ∧ d.model.isSome = false := by
  unfold putModel
  cases d.model with
  | none => simp [Decode.exists_map_eq_ok_iff, Decode.exists_text_iff]
  | some m => simp

/-- A field can be put into a draft if it fits and the model is not given a second time. -/
theorem Draft.exists_put_iff :
    (∃ d', put d f = .ok d') ↔ Fits f ∧ (isModelKey f.1 = true → d.model.isSome = false) := by
  obtain ⟨key, v⟩ := f
  unfold put
  dsimp only
  split
  case h_11 hname hrole hmodel hsecond _ _ _ _ _ _ =>
    -- An unknown field is passed over.
    simp [Fits, isModelKey_of_ne hmodel hsecond]
  all_goals
    simp only [Decode.exists_map_eq_ok_iff, Decode.exists_text_iff, Decode.exists_single_iff,
      Decode.exists_boolean_iff, Decode.exists_nat_iff, Decode.exists_optional_iff,
      exists_putModel_iff]
    simp [Fits, isModelKey]

/-- What a draft has after one more field. -/
theorem Draft.has_of_put (h : put d f = .ok d') :
    d'.model.isSome = (d.model.isSome || isModelKey f.1) ∧
      d'.name.isSome = (d.name.isSome || f.1 == "name") ∧
      d'.role.isSome = (d.role.isSome || f.1 == "role") := by
  obtain ⟨key, v⟩ := f
  unfold put at h
  dsimp only at h
  split at h
  case h_11 hname hrole hmodel hsecond _ _ _ _ _ _ =>
    cases h
    have hname : (key == "name") = false := beq_eq_false_iff_ne.mpr hname
    have hrole : (key == "role") = false := beq_eq_false_iff_ne.mpr hrole
    simp [isModelKey_of_ne hmodel hsecond, hname, hrole]
  case h_3 =>
    unfold putModel at h
    split at h
    · cases h
    · obtain ⟨s, -, rfl⟩ := Decode.map_eq_ok_iff.mp h
      simp [isModelKey]
  case h_4 =>
    unfold putModel at h
    split at h
    · cases h
    · obtain ⟨s, -, rfl⟩ := Decode.map_eq_ok_iff.mp h
      simp [isModelKey]
  all_goals
    obtain ⟨s, -, rfl⟩ := Decode.map_eq_ok_iff.mp h
    simp [isModelKey]

theorem Draft.exists_finish_iff :
    (∃ a, d.finish = .ok a) ↔ d.name.isSome = true ∧ d.role.isSome = true := by
  unfold finish
  cases d.name with
  | none => simp [Decode.required, bind, Except.bind]
  | some name =>
    cases d.role with
    | none => simp [Decode.required, bind, Except.bind]
    | some role => simp [Decode.required, bind, Except.bind, pure, Except.pure]

/-- **An object is an agent** if it has a name and a role, if its fields fit and if it does not give
the model twice. -/
theorem exists_ofJson_iff {fields : List (String × Json)} :
    (∃ a, ofJson (.obj fields) = .ok a) ↔
      (∀ f ∈ fields, Fits f) ∧ fields.countP (fun f => isModelKey f.1) ≤ 1 ∧
        (lookup "name" fields).isSome = true ∧ (lookup "role" fields).isSome = true := by
  exact Decode.exists_read_iff (fun d : Draft => d.model.isSome) (fun d => d.name.isSome)
    (fun d => d.role.isSome) ⟨rfl, rfl, rfl⟩ Draft.exists_put_iff Draft.has_of_put
    Draft.exists_finish_iff

end AgentSpec

/-! ### Edges -/

namespace EdgeSpec

/-- A field of an edge has a value that can be read. -/
def Fits (f : String × Json) : Prop :=
  match f.1 with
  | "source" | "target" => JsonType.string.admits f.2 = true
  | "condition" => f.2 = .null ∨ JsonType.string.admits f.2 = true
  | _ => True

variable {d d' : Draft} {f : String × Json}

theorem Draft.exists_put_iff : (∃ d', put d f = .ok d') ↔ Fits f := by
  obtain ⟨key, v⟩ := f
  unfold put
  dsimp only
  split
  case h_4 => simp [Fits]
  all_goals
    simp only [Decode.exists_map_eq_ok_iff, Decode.exists_text_iff, Decode.exists_optional_iff]
    simp [Fits]

/-- What a draft has after one more field. -/
theorem Draft.has_of_put (h : put d f = .ok d') :
    d'.source.isSome = (d.source.isSome || f.1 == "source") ∧
      d'.target.isSome = (d.target.isSome || f.1 == "target") := by
  obtain ⟨key, v⟩ := f
  unfold put at h
  dsimp only at h
  split at h
  case h_4 hsource htarget _ =>
    cases h
    have hsource : (key == "source") = false := beq_eq_false_iff_ne.mpr hsource
    have htarget : (key == "target") = false := beq_eq_false_iff_ne.mpr htarget
    simp [hsource, htarget]
  all_goals
    obtain ⟨s, -, rfl⟩ := Decode.map_eq_ok_iff.mp h
    simp

theorem Draft.exists_finish_iff :
    (∃ e, d.finish = .ok e) ↔ d.source.isSome = true ∧ d.target.isSome = true := by
  unfold finish
  cases d.source with
  | none => simp [Decode.required, bind, Except.bind]
  | some source =>
    cases d.target with
    | none => simp [Decode.required, bind, Except.bind]
    | some target => simp [Decode.required, bind, Except.bind, pure, Except.pure]

/-- **An object is an edge** if it has both ends and its fields fit. -/
theorem exists_ofJson_iff {fields : List (String × Json)} :
    (∃ e, ofJson (.obj fields) = .ok e) ↔ (∀ f ∈ fields, Fits f) ∧
      (lookup "source" fields).isSome = true ∧ (lookup "target" fields).isSome = true := by
  exact Decode.exists_plain_read_iff (fun d : Draft => d.source.isSome) (fun d => d.target.isSome)
    ⟨rfl, rfl⟩ Draft.exists_put_iff Draft.has_of_put Draft.exists_finish_iff

end EdgeSpec

/-! ### Designs -/

namespace Design

/-- A field of a design has a value that can be read. -/
def Fits (f : String × Json) : Prop :=
  match f.1 with
  | "name" | "description" => JsonType.string.admits f.2 = true
  | "agents" => ∃ items, f.2 = .arr items ∧ ∀ w ∈ items, ∃ a, AgentSpec.ofJson w = .ok a
  | "edges" => f.2 = .null ∨
      ∃ items, f.2 = .arr items ∧ ∀ w ∈ items, ∃ e, EdgeSpec.ofJson w = .ok e
  | _ => True

variable {d d' : Draft} {f : String × Json}

theorem Draft.exists_put_iff : (∃ d', put d f = .ok d') ↔ Fits f := by
  obtain ⟨key, v⟩ := f
  unfold put
  dsimp only
  split
  case h_5 => simp [Fits]
  all_goals
    simp only [Decode.exists_map_eq_ok_iff, Decode.exists_text_iff, Decode.exists_optional_iff,
      Decode.exists_list_iff]
    simp [Fits]

/-- What a draft has after one more field. -/
theorem Draft.has_of_put (h : put d f = .ok d') :
    d'.name.isSome = (d.name.isSome || f.1 == "name") ∧
      d'.agents.isSome = (d.agents.isSome || f.1 == "agents") := by
  obtain ⟨key, v⟩ := f
  unfold put at h
  dsimp only at h
  split at h
  case h_5 hname _ hagents _ =>
    cases h
    have hname : (key == "name") = false := beq_eq_false_iff_ne.mpr hname
    have hagents : (key == "agents") = false := beq_eq_false_iff_ne.mpr hagents
    simp [hname, hagents]
  all_goals
    obtain ⟨s, -, rfl⟩ := Decode.map_eq_ok_iff.mp h
    simp

theorem Draft.exists_finish_iff :
    (∃ e, d.finish = .ok e) ↔ d.name.isSome = true ∧ d.agents.isSome = true := by
  unfold finish
  cases d.name with
  | none => simp [Decode.required, bind, Except.bind]
  | some name =>
    cases d.agents with
    | none => simp [Decode.required, bind, Except.bind]
    | some agents => simp [Decode.required, bind, Except.bind, pure, Except.pure]

/-- **An object is a design** if it has a name and agents and its fields fit. -/
theorem exists_ofJson_iff {fields : List (String × Json)} :
    (∃ d, ofJson (.obj fields) = .ok d) ↔ (∀ f ∈ fields, Fits f) ∧
      (lookup "name" fields).isSome = true ∧ (lookup "agents" fields).isSome = true := by
  exact Decode.exists_plain_read_iff (fun d : Draft => d.name.isSome) (fun d => d.agents.isSome)
    ⟨rfl, rfl⟩ Draft.exists_put_iff Draft.has_of_put Draft.exists_finish_iff

end Design

/-! ### What is accepted and does not decode -/

namespace Json

/-- In an object no key comes twice. -/
theorem FieldsWellFormed.countP_key {fields : List (String × Json)} (h : FieldsWellFormed fields)
    (key : String) :
    fields.countP (fun f => f.1 == key) = (lookup key fields).isSome.toNat := by
  obtain ⟨hsorted, -⟩ := h
  induction hsorted with
  | nil => rfl
  | @cons f fields hlt hsorted ih =>
    rw [List.countP_cons]
    unfold lookup
    by_cases hkey : f.1 = key
    · have hrest : fields.countP (fun f => f.1 == key) = 0 := by
        rw [List.countP_eq_zero]
        intro g hg
        rw [beq_iff_eq, ← hkey]
        exact (hlt g hg).ne'
      simp [hkey, hrest]
    · simp [hkey, ih]

end Json

namespace AgentSpec

variable {fields : List (String × Json)} {path : Path} {v : Json}

/-- The counts of an agent fit 32 bits and are written as integers, and the model is given under one
name only, as a string. -/
structure Decodable (fields : List (String × Json)) : Prop where
  counts : ∀ key ∈ ["max_output_tokens", "retry_count"], ∀ w, lookup key fields = some w →
    ∃ n : Nat, n < 2 ^ 32 ∧ w = .nat n
  model : ∀ w, lookup "model_identifier" fields = some w →
    JsonType.string.admits w = true ∧ lookup "model" fields = none

/-- The model is not given twice. -/
theorem countP_isModelKey_le_iff (h : Json.FieldsWellFormed fields) :
    fields.countP (fun f => isModelKey f.1) ≤ 1 ↔
      ((lookup "model_identifier" fields).isSome = true → lookup "model" fields = none) := by
  have hsum : fields.countP (fun f => isModelKey f.1) =
      fields.countP (fun f => f.1 == "model") +
        fields.countP (fun f => f.1 == "model_identifier") := by
    clear h
    induction fields with
    | nil => rfl
    | cons f fields ih =>
      rw [List.countP_cons, List.countP_cons, List.countP_cons, ih]
      by_cases hmodel : f.1 = "model"
      · simp [isModelKey, hmodel]
        omega
      · by_cases hsecond : f.1 = "model_identifier"
        · simp [isModelKey, hsecond]
          omega
        · simp [isModelKey, hmodel, hsecond]
  rw [hsum, h.countP_key, h.countP_key]
  cases lookup "model" fields <;> cases lookup "model_identifier" fields <;> simp

/-- A field of an accepted agent fits if it is right where the schema does not say enough. -/
theorem fits_of_accepted (hfields : Json.FieldsWellFormed fields)
    (h : schema.violationsAt path (.obj fields) = []) (hdecodable : Decodable fields)
    {f : String × Json} (hf : f ∈ fields) : Fits f := by
  obtain ⟨key, w⟩ := f
  have hlookup : lookup key fields = some w := hfields.lookup_eq hf
  unfold Fits
  dsimp only
  split
  · exact Schema.admits_of_accepted_simple hfields h hf (by simp)
  · exact Schema.admits_of_accepted_simple hfields h hf (by simp)
  · exact Schema.admits_of_accepted_simple hfields h hf (by simp)
  · exact (hdecodable.model w hlookup).1
  · exact Schema.admits_of_accepted_simple hfields h hf (by simp)
  · exact Schema.admits_of_accepted_simple hfields h hf (by simp)
  · exact hdecodable.counts _ (by simp) w hlookup
  · exact hdecodable.counts _ (by simp) w hlookup
  · rw [← JsonType.null_admits_iff]
    simpa using Schema.admits_of_accepted hfields h hf [.null, .string] (by simp)
  · exact Schema.admits_of_accepted_simple hfields h hf (by simp)
  · trivial

/-- **An accepted agent decodes** unless a count does not fit or the model is misplaced. -/
theorem exists_ofJson_accepted_iff (hfields : Json.FieldsWellFormed fields)
    (h : schema.violationsAt path (.obj fields) = []) :
    (∃ a, ofJson (.obj fields) = .ok a) ↔ Decodable fields := by
  have hmem : ∀ {key w}, lookup key fields = some w → (key, w) ∈ fields := Json.mem_of_lookup
  constructor
  · intro hdecodes
    obtain ⟨hfits, hcount, -, -⟩ := exists_ofJson_iff.mp hdecodes
    constructor
    · intro key hkey w hw
      have hfit := hfits _ (hmem hw)
      simp only [List.mem_cons, List.not_mem_nil, or_false] at hkey
      rcases hkey with rfl | rfl
      · exact hfit
      · exact hfit
    · intro w hw
      refine ⟨hfits _ (hmem hw), (countP_isModelKey_le_iff hfields).mp hcount ?_⟩
      rw [hw, Option.isSome_some]
  · intro hdecodable
    obtain ⟨given, heq, -, hrequired⟩ := Schema.violationsAt_record_iff.mp h
    cases heq
    refine exists_ofJson_iff.mpr ⟨fun f hf => fits_of_accepted hfields h hdecodable hf, ?_,
      hrequired _ (by simp), hrequired _ (by simp)⟩
    rw [countP_isModelKey_le_iff hfields]
    intro hsome
    obtain ⟨w, hw⟩ := Option.isSome_iff_exists.mp hsome
    exact (hdecodable.model w hw).2

end AgentSpec

/-- An accepted edge decodes. -/
theorem EdgeSpec.exists_ofJson_of_accepted {v : Json} (hv : v.WellFormed) {path : Path}
    (h : schema.violationsAt path v = []) : ∃ e, ofJson v = .ok e := by
  obtain ⟨fields, rfl, hall, hrequired⟩ := Schema.violationsAt_record_iff.mp h
  refine exists_ofJson_iff.mpr ⟨fun f hf => ?_, hrequired _ (by simp), hrequired _ (by simp)⟩
  obtain ⟨key, w⟩ := f
  unfold Fits
  dsimp only
  split
  · exact Schema.admits_of_accepted_simple hv.fields h hf (by simp)
  · exact Schema.admits_of_accepted_simple hv.fields h hf (by simp)
  · rw [← JsonType.null_admits_iff]
    simpa using Schema.admits_of_accepted hv.fields h hf [.null, .string] (by simp)
  · trivial

/-- All agents of a document are decodable. -/
def Json.AgentsDecodable (v : Json) : Prop :=
  ∀ items, v.field? "agents" = some (.arr items) →
    ∀ fields, .obj fields ∈ items → AgentSpec.Decodable fields

namespace Design

variable {fields : List (String × Json)}

/-- The agents of an accepted design are an array. -/
theorem exists_agents_of_accepted (h : schema.violations (.obj fields) = []) :
    ∃ items, lookup "agents" fields = some (.arr items) := by
  obtain ⟨given, heq, hall, hrequired⟩ := Schema.violationsAt_record_iff.mp h
  cases heq
  obtain ⟨w, hw⟩ := Option.isSome_iff_exists.mp (hrequired "agents" (by simp))
  obtain ⟨hkind, -⟩ := Schema.violationsAt_list_iff.mp
    (hall ("agents", .list [.array] AgentSpec.schema) (by simp) w hw)
  obtain ⟨items, rfl⟩ := JsonType.array_admits_iff.mp (by simpa using hkind)
  exact ⟨items, hw⟩

/-- The items of an accepted array have been accepted. -/
theorem exists_accepted_of_mem {path : Path} {types : List JsonType} {schema : Schema}
    {items : List Json} (h : (Schema.list types schema).violationsAt path (.arr items) = [])
    {w : Json} (hw : w ∈ items) : ∃ path, schema.violationsAt path w = [] := by
  obtain ⟨i, hi⟩ := List.mem_iff_getElem?.mp hw
  exact ⟨_, (Schema.violationsAt_list_iff.mp h).2 items rfl i w hi⟩

/-- The agents of an accepted design decode one by one. -/
theorem agentsDecodable_iff (hfields : Json.FieldsWellFormed fields)
    (h : schema.violations (.obj fields) = []) {items : List Json}
    (hagents : lookup "agents" fields = some (.arr items)) :
    Json.AgentsDecodable (.obj fields) ↔ ∀ w ∈ items, ∃ a, AgentSpec.ofJson w = .ok a := by
  obtain ⟨given, heq, hall, -⟩ := Schema.violationsAt_record_iff.mp h
  cases heq
  have hlist := hall ("agents", .list [.array] AgentSpec.schema) (by simp) _ hagents
  have hwell := (hfields.values _ (Json.mem_of_lookup hagents)).items
  constructor
  · intro hdecodable w hw
    obtain ⟨path, haccepted⟩ := exists_accepted_of_mem hlist hw
    obtain ⟨given, rfl, -, -⟩ := Schema.violationsAt_record_iff.mp haccepted
    exact (AgentSpec.exists_ofJson_accepted_iff (hwell _ hw).fields haccepted).mpr
      (hdecodable items hagents given hw)
  · intro hdecodes items' hitems' given hgiven
    have hsame : items' = items := by
      have hboth := hitems'.symm.trans hagents
      cases hboth
      rfl
    subst hsame
    obtain ⟨path, haccepted⟩ := exists_accepted_of_mem hlist hgiven
    exact (AgentSpec.exists_ofJson_accepted_iff (hwell _ hgiven).fields haccepted).mp
      (hdecodes _ hgiven)

/-- The fields of an accepted design fit if its agents decode. -/
theorem fits_of_accepted (hfields : Json.FieldsWellFormed fields)
    (h : schema.violations (.obj fields) = []) {items : List Json}
    (hagents : lookup "agents" fields = some (.arr items))
    (hdecodes : ∀ w ∈ items, ∃ a, AgentSpec.ofJson w = .ok a) {f : String × Json}
    (hf : f ∈ fields) : Fits f := by
  obtain ⟨given, heq, hall, -⟩ := Schema.violationsAt_record_iff.mp h
  cases heq
  obtain ⟨key, w⟩ := f
  have hlookup : lookup key fields = some w := hfields.lookup_eq hf
  unfold Fits
  dsimp only
  split
  · exact Schema.admits_of_accepted_simple hfields h hf (by simp)
  · exact Schema.admits_of_accepted_simple hfields h hf (by simp)
  · rw [hlookup, Option.some.injEq] at hagents
    exact ⟨items, hagents, hdecodes⟩
  · have hlist := hall ("edges", .list [.array, .null] EdgeSpec.schema) (by simp) w hlookup
    obtain ⟨hkind, -⟩ := Schema.violationsAt_list_iff.mp hlist
    have hkind : JsonType.array.admits w = true ∨ JsonType.null.admits w = true := by
      simpa using hkind
    rw [JsonType.array_admits_iff, JsonType.null_admits_iff] at hkind
    rcases hkind with ⟨edges, rfl⟩ | rfl
    · refine Or.inr ⟨edges, rfl, fun e he => ?_⟩
      obtain ⟨path, haccepted⟩ := exists_accepted_of_mem hlist he
      exact EdgeSpec.exists_ofJson_of_accepted ((hfields.values _ hf).items e he) haccepted
    · exact Or.inl rfl
  · trivial

/-- **An accepted value decodes** exactly if its agents are decodable. -/
theorem exists_ofJson_accepted_iff {v : Json} (hv : v.WellFormed)
    (h : schema.violations v = []) : (∃ d, ofJson v = .ok d) ↔ v.AgentsDecodable := by
  obtain ⟨fields, rfl, -, hrequired⟩ := Schema.violationsAt_record_iff.mp h
  obtain ⟨items, hagents⟩ := exists_agents_of_accepted h
  rw [agentsDecodable_iff hv.fields h hagents, exists_ofJson_iff]
  constructor
  · rintro ⟨hfits, -, -⟩ w hw
    obtain ⟨items', heq, hdecodes⟩ := hfits _ (Json.mem_of_lookup hagents)
    cases heq
    exact hdecodes w hw
  · intro hdecodes
    exact ⟨fun f hf => fits_of_accepted hv.fields h hagents hdecodes hf,
      hrequired _ (by simp), hrequired _ (by simp)⟩

/-- What becomes of a text that is JSON: a design, or a failure that its shape is announced with, or
a failure that names the misfit of an accepted value. -/
theorem ofJsonText_cases {text : String} {v : Json} (hread : Json.read? text = some v) :
    (schema.violations v = [] ∧ ∃ d, ofJson v = .ok d ∧ ofJsonText text = .ok d) ∨
      (schema.violations v = [] ∧ ∃ m : Misfit, ofJson v = .error m ∧
        ofJsonText text = .error m.failure) ∨
      (schema.violations v ≠ [] ∧ ∃ detail, ofJsonText text =
        .error (.of .config ("Invalid design: " ++ detail))) := by
  unfold ofJsonText
  rw [hread]
  dsimp only
  unfold ofDocument
  cases hviolations : schema.violations v with
  | nil =>
    cases hdecode : ofJson v with
    | ok d => exact Or.inl ⟨rfl, d, rfl, rfl⟩
    | error m => exact Or.inr (Or.inl ⟨rfl, m, rfl, rfl⟩)
  | cons first more => exact Or.inr (Or.inr ⟨List.cons_ne_nil _ _, _, rfl⟩)

/-- **Which accepted documents decode**: those whose agents are decodable.  So a text that is JSON
gives a design or a failure that says what is wrong with its shape, unless the schema accepts it and
an agent is not decodable; then it fails as a text that is not JSON would. -/
theorem decodes_accepted_iff (v : Json) :
    (v.WellFormed → schema.violations v = [] →
      ((∃ d, ofJson v = .ok d) ↔ v.AgentsDecodable)) ∧
    ∀ text : String, Json.read? text = some v →
      (((∃ d, ofJsonText text = .ok d) ∨
          ∃ detail, ofJsonText text = .error (.of .config ("Invalid design: " ++ detail))) ↔
        (schema.violations v = [] → v.AgentsDecodable)) ∧
      (schema.violations v = [] → ¬ v.AgentsDecodable →
        ∃ detail, ofJsonText text = .error (.of .json detail)) := by
  refine ⟨fun hv h => exists_ofJson_accepted_iff hv h, fun text hread => ?_⟩
  have hiff := exists_ofJson_accepted_iff (Json.wellFormed_of_read? hread)
  rcases ofJsonText_cases hread with ⟨hshape, d, hd, htext⟩ | ⟨hshape, m, hm, htext⟩ |
    ⟨hshape, detail, htext⟩
  · have hdecodable := (hiff hshape).mp ⟨d, hd⟩
    exact ⟨iff_of_true (Or.inl ⟨d, htext⟩) fun _ => hdecodable, fun _ h => absurd hdecodable h⟩
  · have hnot : ¬ v.AgentsDecodable := by
      rw [← hiff hshape, hm]
      simp
    refine ⟨iff_of_false ?_ fun h => hnot (h hshape), fun _ _ => ⟨_, htext⟩⟩
    rw [htext]
    rintro (⟨d, hd⟩ | ⟨detail, hd⟩)
    · cases hd
    · -- The two failures are of different kinds.
      have hkind := congrArg Failure.kind (Except.error.inj hd)
      cases hkind
  · exact ⟨iff_of_true (Or.inr ⟨detail, htext⟩) fun h => absurd h hshape,
      fun h => absurd h hshape⟩

end Design

/-! ### A number of retries -/

/-- A design with an agent that asks for so many retries, as a text. -/
def retryText (count : String) : String :=
  "\x7b\"name\":\"d\",\"agents\":[\x7b\"name\":\"a\",\"role\":\"collector\"," ++
    "\"retry_count\":" ++ count ++ "\x7d]\x7d"

/-- A design with an agent that asks for so many retries, as a value. -/
def retryValue (count : Int) : Json :=
  .obj [("agents", .arr [.obj
      [("name", .str "a"), ("retry_count", .int count), ("role", .str "collector")]]),
    ("name", .str "d")]

theorem read_retryText :
    Json.read? (retryText "3") = some (retryValue 3) ∧
      Json.read? (retryText "-1") = some (retryValue (-1)) :=
  ⟨rfl, rfl⟩

/-- A design with three retries decodes. -/
theorem Design.decodes_accepted_iff_retries : (retryValue 3).WellFormed ∧
    schema.violations (retryValue 3) = [] ∧ (retryValue 3).AgentsDecodable ∧
    Json.read? (retryText "3") = some (retryValue 3) ∧
    ((∃ d, ofJsonText (retryText "3") = .ok d) ∨
      ∃ detail, ofJsonText (retryText "3") = .error (.of .config ("Invalid design: " ++ detail))) := by
  have hread := read_retryText.1
  have hwell := Json.wellFormed_of_read? hread
  have haccepted : schema.violations (retryValue 3) = [] := rfl
  have hdecodable := ((decodes_accepted_iff (retryValue 3)).1 hwell haccepted).mp ⟨_, rfl⟩
  exact ⟨hwell, haccepted, hdecodable, hread,
    ((decodes_accepted_iff (retryValue 3)).2 _ hread).1.mpr fun _ => hdecodable⟩

/-- A number of retries below zero is accepted, but does not decode. -/
theorem accepted_retries_fail_to_decode : (retryValue (-1)).WellFormed ∧
    Design.schema.violations (retryValue (-1)) = [] ∧
    (¬ ∃ d, Design.ofJson (retryValue (-1)) = .ok d) ∧
    Json.read? (retryText "-1") = some (retryValue (-1)) ∧
    Design.ofJsonText (retryText "-1") =
      .error (.of .json "invalid value: integer `-1`, expected u32") := by
  have herror : Design.ofJson (retryValue (-1)) = .error (.outOfRange (-1) "u32") := rfl
  refine ⟨Json.wellFormed_of_read? read_retryText.2, rfl, ?_, read_retryText.2, rfl⟩
  rw [herror]
  rintro ⟨d, hd⟩
  cases hd

end AgentPipeline
