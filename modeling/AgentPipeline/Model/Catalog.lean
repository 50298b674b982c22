import AgentPipeline.Text.Basic

/-!
# The catalogue of models

Three vendors offer language models, and a request is served by a model of one of three tiers.  A
request that names no tier is classified by the text of its user messages: by its length and by
words that betray what is asked for.  Every tier has one model of each vendor, listed in
registration order.

## Main definitions

* `Vendor` — the three vendors; `Vendor.all` lists them in registration order.
* `Vendor.ofAlias?` — the vendor that a user's word names.
* `Vendor.ofModelName?` — the vendor that the name of a model suggests.
* `Vendor.envVars` — the environment variables that may hold a vendor's key.
* `Tier` — the tiers.
* `Tier.ofText` — the tier of a text.
* `Tier.ofModelName` — the tier that the name of a model hints at.
* `Model` — a model with its prices and its limit.
* `Model.select` — the model that serves a tier for a vendor.
* `Tier.models` — the models of a tier.
* `Model.cost` — what a completion costs.
-/

namespace AgentPipeline

/-! ### Vendors -/

/-- A vendor of language models. -/
inductive Vendor where
  | anthropic
  | openai
  | google
deriving Repr, DecidableEq, Inhabited

namespace Vendor

/-- Registration order; wherever vendors are walked, they are walked in this order. -/
def all : List Vendor :=
  [anthropic, openai, google]

/-- The canonical name. -/
def name : Vendor → String
  | anthropic => "anthropic"
  | openai => "openai"
  | google => "google"

/-- The name with capitals, as it appears in a diagnostic description. -/
def title : Vendor → String
  | anthropic => "Anthropic"
  | openai => "OpenAI"
  | google => "Google"

/-- The environment variables that may hold a key, in the order in which they are tried. -/
def envVars : Vendor → List String
  | anthropic => ["ANTHROPIC_API_KEY"]
  | openai => ["OPENAI_API_KEY"]
  | google => ["GOOGLE_API_KEY", "GEMINI_API_KEY"]

/-- The vendor of a word in small letters. -/
def ofWord? : String → Option Vendor
  | "anthropic" | "claude" => some anthropic
  | "openai" | "gpt" => some openai
  | "google" | "gemini" => some google
  | _ => none

/-- A user's word without blanks around it and in small letters. -/
def normalized (word : String) : String :=
  String.ofList (Text.lower (Text.trim word.toList))

/-- The vendor that a user's word names, be it the vendor's own name or that of its models. -/
def ofAlias? (word : String) : Option Vendor :=
  ofWord? (normalized word)

/-- The vendor that the name of a model suggests. -/
def ofModelName? (model : String) : Option Vendor :=
  let s := Text.lower model.toList
  if Text.occurs "claude".toList s then some anthropic
  else if ["gpt", "o1", "o3", "o4"].any fun w => w.toList.isPrefixOf s then some openai
  else if Text.occurs "gemini".toList s then some google
  else none

end Vendor

/-! ### Tiers -/

/-- How demanding a request is. -/
inductive Tier where
  | simple
  | standard
  | complex
deriving Repr, DecidableEq, Inhabited

namespace Tier

/-- The tiers from the least demanding on. -/
def all : List Tier :=
  [simple, standard, complex]

/-- The name of a tier. -/
def name : Tier → String
  | simple => "simple"
  | standard => "standard"
  | complex => "complex"

/-- The tier with a given name. -/
def ofName? (s : String) : Option Tier :=
  all.find? fun t => t.name = s

/-- The place of a tier in the order of demands. -/
def rank : Tier → Nat
  | simple => 0
  | standard => 1
  | complex => 2

/-- A text with more words is complex whatever it says. -/
def complexWords : Nat := 500

/-- A text with more words is at least standard. -/
def standardWords : Nat := 100

/-- Words that ask for thought. -/
def complexKeywords : List String :=
  ["analyze", "analysis", "architecture", "design", "optimize", "optimization",
    "comprehensive", "in-depth", "evaluate", "compare", "strategy", "research",
    "분석", "설계", "아키텍처", "최적화", "종합", "심층", "평가", "비교", "전략", "연구"]

/-- Words that ask for a text. -/
def generationKeywords : List String :=
  ["write", "generate", "create", "summarize", "summary", "explain", "draft", "translate",
    "작성", "생성", "만들", "요약", "설명", "초안", "번역"]

/-- Whether a text holds one of the words, be it inside a longer one. -/
def mentions (s : List Char) (keywords : List String) : Bool :=
  keywords.any fun k => Text.occurs k.toList s

/-- The tier of a text. -/
def ofText (s : List Char) : Tier :=
  let lower := Text.lower s
  let words := Text.wordCount lower
  if words > complexWords || mentions lower complexKeywords then complex
  else if words > standardWords || mentions lower generationKeywords then standard
  else simple

/-- The tier that the name of a model hints at. -/
def ofModelName (model : String) : Tier :=
  let s := Text.lower model.toList
  if Text.occurs "mini".toList s || Text.occurs "haiku".toList s then simple
  else if Text.occurs "opus".toList s then complex
  else standard

end Tier

/-! ### Models -/

/-- A language model on offer. -/
structure Model where
  vendor : Vendor
  id : String
  /-- Dollars for a million prompt tokens. -/
  inputPrice : Float
  /-- Dollars for a million completion tokens. -/
  outputPrice : Float
  /-- The most tokens that one completion may have. -/
  maxTokens : Nat

namespace Model

/-- The model that serves a tier for a vendor. -/
def select : Tier → Vendor → Model
  | .simple, .anthropic => ⟨.anthropic, "claude-3-5-haiku-20241022", 0.8, 4.0, 8192⟩
  | .simple, .openai => ⟨.openai, "gpt-4o-mini", 0.15, 0.6, 16384⟩
  | .simple, .google => ⟨.google, "gemini-2.0-flash", 0.1, 0.4, 8192⟩
  | .standard, .anthropic => ⟨.anthropic, "claude-sonnet-4-5-20250929", 3.0, 15.0, 16384⟩
  | .standard, .openai => ⟨.openai, "gpt-4o", 2.5, 10.0, 16384⟩
  | .standard, .google => ⟨.google, "gemini-2.5-flash", 0.3, 2.5, 16384⟩
  | .complex, .anthropic => ⟨.anthropic, "claude-opus-4-1-20250805", 15.0, 75.0, 16384⟩
  | .complex, .openai => ⟨.openai, "o3", 2.0, 8.0, 16384⟩
  | .complex, .google => ⟨.google, "gemini-2.5-pro", 1.25, 10.0, 16384⟩

@[simp] theorem vendor_select (tier : Tier) (vendor : Vendor) :
    (select tier vendor).vendor = vendor := by
  cases tier <;> cases vendor <;> rfl

/-- What a completion costs, in dollars. -/
def cost (m : Model) (promptTokens completionTokens : Nat) : Float :=
  Float.ofNat promptTokens / 1000000.0 * m.inputPrice +
    Float.ofNat completionTokens / 1000000.0 * m.outputPrice

end Model

/-- The models of a tier, one of each vendor in registration order. -/
def Tier.models (tier : Tier) : List Model :=
  Vendor.all.map (Model.select tier)

end AgentPipeline
