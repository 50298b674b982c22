import AgentPipeline.Proofs.Text.Occurrence
import AgentPipeline.Run.Worker

/-!
# What the name of a model hints at

An agent declares its model by name.  Two searches over that name guess the vendor that is preferred
and the tier that is asked for; the model itself is never looked up.  Names begin with a word of the
vendor, and that word should not say anything about the tier.  Two of the three words do not, but
`gemini` has the size word `mini` in it: whatever follows it, the tier is that of small models.

## Main definitions

* `Vendor.modelName` — the name of a model, made of the vendor's word and what follows.
* `Tier.Unsized` — a text without size words.
* `Router.SendsToStandard` — a request leads to the standard model of a vendor.

## Main results

* `Tier.ofModelName_modelName`, `Vendor.ofModelName?_modelName` — tier and vendor of such a name.
* `Router.getElem?_choose_some` — the client that a preference leads to.
* `Tier.vendor_word_iff` — **when the tier does not depend on the vendor's word**, and when a name
  leads to the standard model of its vendor.
* `gemini_is_small` — a name for which neither is so.
-/

namespace AgentPipeline

/-! ### Names of models -/

namespace Vendor

/-- The word that the names of a vendor's models begin with. -/
def word : Vendor → String
  | anthropic => "claude"
  | openai => "gpt"
  | google => "gemini"

/-- The name of a model: the word of its vendor and what follows it. -/
def modelName : Vendor → String → String
  | anthropic, rest => "claude-" ++ rest
  | openai, rest => "gpt-" ++ rest
  | google, rest => "gemini-" ++ rest

/-- A hyphen parts the word of the vendor from what follows it. -/
theorem lower_modelName (v : Vendor) (rest : String) :
    Text.lower (v.modelName rest).toList = v.word.toList ++ '-' :: Text.lower rest.toList := by
  cases v with
  | anthropic =>
    rw [modelName, String.toList_append, Text.lower_append]
    rfl
  | openai =>
    rw [modelName, String.toList_append, Text.lower_append]
    rfl
  | google =>
    rw [modelName, String.toList_append, Text.lower_append]
    rfl

/-- A word without a hyphen is found in the vendor's word or in what follows it. -/
theorem occurs_modelName {w : String} (hw : '-' ∉ w.toList) (v : Vendor) (rest : String) :
    Text.occurs w.toList (Text.lower (v.modelName rest).toList) =
      (Text.occurs w.toList v.word.toList || Text.occurs w.toList (Text.lower rest.toList)) := by
  rw [lower_modelName, Text.occurs_append_cons hw]

/-- The vendor that a name suggests is its own, unless a word of another vendor follows. -/
theorem ofModelName?_modelName (v : Vendor) (rest : String) :
    ofModelName? (v.modelName rest) =
      if Text.occurs "claude".toList (Text.lower rest.toList) then some anthropic else some v := by
  unfold ofModelName?
  dsimp only
  rw [occurs_modelName (by decide), occurs_modelName (by decide), lower_modelName]
  -- What else is asked for is at the beginning of the name, and that is the vendor's word.
  cases v with
  | anthropic => exact (ite_self _).symm
  | openai => rfl
  | google => rfl

end Vendor

namespace Tier

/-- The words in the name of a model that tell its size. -/
def sizeWords : List String :=
  ["mini", "haiku", "opus"]

/-- A text has no size word in it, in whatever case. -/
def Unsized (rest : String) : Prop :=
  ∀ word ∈ sizeWords, Text.occurs word.toList (Text.lower rest.toList) = false

instance (rest : String) : Decidable (Unsized rest) :=
  inferInstanceAs (Decidable (∀ word ∈ sizeWords, Text.occurs word.toList _ = false))

/-- A name asks for the standard tier just when it has no size word in it. -/
theorem ofModelName_eq_standard_iff {rest : String} :
    ofModelName rest = .standard ↔ Unsized rest := by
  unfold ofModelName Unsized sizeWords
  simp only [List.forall_mem_cons, List.not_mem_nil]
  cases Text.occurs "mini".toList (Text.lower rest.toList) with
  | true => simp
  | false =>
    cases Text.occurs "haiku".toList (Text.lower rest.toList) with
    | true => simp
    | false => cases Text.occurs "opus".toList (Text.lower rest.toList) <;> simp

/-- The tier of a name is that of what follows the vendor's word, unless this is `gemini`. -/
theorem ofModelName_modelName (v : Vendor) (rest : String) :
    ofModelName (v.modelName rest) = if v = .google then .simple else ofModelName rest := by
  unfold ofModelName
  dsimp only
  rw [Vendor.occurs_modelName (by decide), Vendor.occurs_modelName (by decide),
    Vendor.occurs_modelName (by decide)]
  -- Of the vendors' words only `gemini` has a size word in it.
  cases v with
  | anthropic => rfl
  | openai => rfl
  | google => rfl

end Tier

/-! ### Where a name leads -/

namespace Router

variable {r : Router} {v : Vendor}

/-- A preference leads to a client of that vendor, or to the first client if there is none. -/
theorem getElem?_choose_some (r : Router) (v : Vendor) :
    r.clients[r.choose (some v)]? = if v ∈ r.clients then some v else r.clients.head? := by
  unfold choose
  rw [Option.bind_some]
  cases hfind : r.clients.findIdx? (· = v) with
  | none =>
    have hmem : v ∉ r.clients := fun hmem => by
      simpa using List.findIdx?_eq_none_iff.mp hfind v hmem
    rw [if_neg hmem, Option.getD_none, List.head?_eq_getElem?]
  | some i =>
    obtain ⟨hi, hv, -⟩ := List.findIdx?_eq_some_iff_getElem.mp hfind
    have hget : r.clients[i] = v := of_decide_eq_true hv
    rw [if_pos (hget ▸ List.getElem_mem hi), Option.getD_some, List.getElem?_eq_getElem hi, hget]

/-- A request leads to a call of the standard model of a vendor. -/
def SendsToStandard (r : Router) (v : Vendor) (request : RouteRequest) : Prop :=
  ∃ call, r.plan request = .ok call ∧ call.vendor = v ∧
    call.request.model = (Model.select .standard v).id

theorem sendsToStandard_iff {request : RouteRequest} {tier : Tier}
    (htier : request.tier = some tier) :
    r.SendsToStandard v request ↔
      tier = .standard ∧ r.clients[r.choose request.preferred]? = some v := by
  have hid : (Model.select tier v).id = (Model.select .standard v).id ↔ tier = .standard := by
    cases tier <;> cases v <;> decide
  unfold SendsToStandard plan
  rw [htier, Option.getD_some]
  cases hclient : r.clients[r.choose request.preferred]? with
  | none => simp [hclient]
  | some u =>
    simp only [hclient, Except.ok.injEq, exists_eq_left', Option.some.injEq]
    constructor
    · rintro ⟨rfl, hmodel⟩
      exact ⟨hid.mp hmodel, rfl⟩
    · rintro ⟨htier, rfl⟩
      exact ⟨rfl, hid.mpr htier⟩

/-- A name leads to a client of its vendor, unless `claude` follows the word of another vendor. -/
theorem getElem?_choose_modelName (hclient : v ∈ r.clients) (rest : String) :
    r.clients[r.choose (Vendor.ofModelName? (v.modelName rest))]? = some v ↔
      (Text.occurs "claude".toList (Text.lower rest.toList) = true → v ≠ .anthropic →
        r.clients.head? = some v ∧ .anthropic ∉ r.clients) := by
  rw [Vendor.ofModelName?_modelName]
  by_cases hclaude : Text.occurs "claude".toList (Text.lower rest.toList) = true
  · rw [if_pos hclaude, getElem?_choose_some]
    by_cases hv : v = .anthropic
    · rw [← hv, if_pos hclient]
      exact ⟨fun _ _ hne => absurd rfl hne, fun _ => rfl⟩
    · by_cases hmem : Vendor.anthropic ∈ r.clients
      · rw [if_pos hmem]
        exact ⟨fun h => absurd (Option.some.inj h).symm hv, fun h => absurd hmem (h hclaude hv).2⟩
      · rw [if_neg hmem]
        exact ⟨fun h _ _ => ⟨h, hmem⟩, fun h => (h hclaude hv).1⟩
  · rw [if_neg hclaude, getElem?_choose_some, if_pos hclient]
    exact ⟨fun _ h => absurd h hclaude, fun _ => rfl⟩

end Router

/-- The vendor's word tells nothing about the tier just where what follows it asks for a small
model.  If there is a client of the vendor, a worker asks for the standard model of that vendor just
when no size word follows, the word is not `gemini`, and no `claude` misleads the router. -/
theorem Tier.vendor_word_iff (rest : String) :
    (∀ v : Vendor, ofModelName (v.modelName rest) =
      if v = .google then .simple else ofModelName rest) ∧
    ((∀ v u : Vendor, ofModelName (v.modelName rest) = ofModelName (u.modelName rest)) ↔
      ofModelName rest = .simple) ∧
    ∀ (v : Vendor) (w : Worker) (s : RunState) (r : Router),
      w.spec.model = v.modelName rest → v ∈ r.clients →
      (r.SendsToStandard v (w.request s) ↔ Unsized rest ∧ v ≠ .google ∧
        (Text.occurs "claude".toList (Text.lower rest.toList) = true → v ≠ .anthropic →
          r.clients.head? = some v ∧ .anthropic ∉ r.clients)) := by
  refine ⟨fun v => ofModelName_modelName v rest, ?_, ?_⟩
  · constructor
    · intro h
      have hsame := h .openai .google
      rwa [ofModelName_modelName, ofModelName_modelName, if_neg (by decide), if_pos rfl] at hsame
    · intro h v u
      rw [ofModelName_modelName, ofModelName_modelName, h, ite_self, ite_self]
  · intro v w s r hmodel hclient
    have htier : (w.request s).tier = some (ofModelName (v.modelName rest)) := by
      rw [← hmodel]
      rfl
    have hpreferred : (w.request s).preferred = Vendor.ofModelName? (v.modelName rest) := by
      rw [← hmodel]
      rfl
    rw [Router.sendsToStandard_iff htier, hpreferred, Router.getElem?_choose_modelName hclient,
      ← and_assoc, ofModelName_modelName, ← ofModelName_eq_standard_iff]
    refine and_congr_left fun _ => ?_
    cases v <;> simp

/-- A worker that declares a model. -/
def Worker.declaring (model : String) : Worker where
  id := "a"
  spec := { name := "a", role := "analyzer", model }
  role := .analyzer
  policy := .default
  secrets := []

/-- A router with one client for each of some vendors. -/
def Router.serving (clients : List Vendor) : Router :=
  ⟨.shared, clients, []⟩

/-- A state of a pipeline without agents. -/
def RunState.idle : RunState :=
  RunState.initial { name := "d", agents := [] } 50 300

/-- A worker that declares `gpt-4.1` asks for the standard model of OpenAI. -/
theorem Tier.vendor_word_gpt : Vendor.openai ∈ (Router.serving [.anthropic, .openai]).clients ∧
    (Router.serving [.anthropic, .openai]).SendsToStandard .openai
      ((Worker.declaring "gpt-4.1").request RunState.idle) := by
  have hmem : Vendor.openai ∈ (Router.serving [.anthropic, .openai]).clients := by decide
  have hunsized : Unsized "4.1" := by decide
  refine ⟨hmem, ((vendor_word_iff "4.1").2.2 .openai (Worker.declaring "gpt-4.1") RunState.idle
    (Router.serving [.anthropic, .openai]) rfl hmem).mpr ⟨hunsized, by decide, ?_⟩⟩
  intro hclaude
  exact absurd hclaude (by decide)

/-- The tier does depend on the vendor's word: `gemini-pro` asks for a small model and `claude-pro`
does not.  So a worker that declares `gemini-pro` does not ask for the standard model of Google. -/
theorem gemini_is_small : Tier.Unsized "pro" ∧
    Tier.ofModelName ("gemini-" ++ "pro") = .simple ∧
    Tier.ofModelName ("claude-" ++ "pro") = .standard ∧
    Vendor.google ∈ (Router.serving [.google]).clients ∧
    ¬ (Router.serving [.google]).SendsToStandard .google
      ((Worker.declaring ("gemini-" ++ "pro")).request RunState.idle) := by
  have hsmall : Tier.ofModelName ("gemini-" ++ "pro") = .simple := by decide
  refine ⟨by decide, hsmall, by decide, by decide, fun h => ?_⟩
  have htier : ((Worker.declaring ("gemini-" ++ "pro")).request RunState.idle).tier =
      some .simple := by
    rw [← hsmall]
    rfl
  exact absurd ((Router.sendsToStandard_iff htier).mp h).1 (by decide)

end AgentPipeline
