import AgentPipeline.Config.Basic
import AgentPipeline.Design.Document
import AgentPipeline.Design.Format
import AgentPipeline.Text.Basic
import AgentPipeline.Yaml.Value

/-!
# Configurations as documents

A configuration file is a YAML text.  Its shape is checked against `Config.schema`, but violations
are only warned of; what counts is whether the values fit a `Config` and make sense.

## Main definitions

* `Config.schema` — the shape of a configuration.
* `Config.ofJson`, `Config.ofYaml` — the configuration of a value.
* `Config.ofText` — the configuration of a text, with warnings.
* `Config.toJson` — a configuration as a value.
-/

namespace AgentPipeline

/-! ### The shape of a document -/

/-- The shape of what is set for a vendor. -/
def ProviderSettings.schema : Schema :=
  .record [.null, .object] [] false
    [("api_key", .simple .string), ("base_url", .simple .string)]

/-- An integer that is not below a minimum. -/
def Schema.integerFrom (least : Nat) : Schema :=
  .leaf [.integer] (some least)

/-- The shape of a configuration. -/
def Config.schema : Schema :=
  .record [.object] [] false
    [("engine", .record [.object] [] false
        [("backoff_base_ms", .integerFrom 0),
          ("max_steps", .integerFrom 1),
          ("timeout_secs", .integerFrom 1)]),
      ("providers", .record [.object] [] true
        [("anthropic", ProviderSettings.schema),
          ("google", ProviderSettings.schema),
          ("openai", ProviderSettings.schema)])]

/-! ### Writing -/

/-- What is set for a vendor, as a value. -/
def ProviderSettings.toJson (s : ProviderSettings) : Json :=
  .obj [("api_key", .ofString? s.apiKey), ("base_url", .ofString? s.baseUrl)]

/-- What is set for runs, as a value. -/
def EngineSettings.toJson (s : EngineSettings) : Json :=
  .obj [("backoff_base_ms", .nat s.backoffBaseMs), ("max_steps", .nat s.maxSteps),
    ("timeout_secs", .nat s.timeoutSecs)]

/-- A configuration as a value. -/
def Config.toJson (c : Config) : Json :=
  let settings (s : Option ProviderSettings) : Json := (s.map ProviderSettings.toJson).getD .null
  .obj [("engine", c.engine.toJson),
    ("providers", .obj [("anthropic", settings c.providers.anthropic),
      ("google", settings c.providers.google),
      ("openai", settings c.providers.openai)])]

/-! ### Reading -/

/-- How the values of a document format are looked at. -/
structure DocumentView (α : Type) where
  /-- What a value is. -/
  found : α → Found
  /-- The keys and values of a value that can stand for a record. -/
  entries : α → Option (List (Found × α))
  /-- The values of the fields, if a value can stand for a record as their list. -/
  positional : α → Option (List α)

/-- The values of JSON documents. -/
def Json.view : DocumentView Json where
  found := Json.found
  entries
    | .obj fields => some (fields.map fun f => (.str f.1, f.2))
    | _ => none
  positional
    | .arr items => some items
    | _ => none

/-- The values of YAML documents, in which null can stand for an empty record, and no list for
one. -/
def Yaml.Value.view : DocumentView Yaml.Value where
  found := Yaml.Value.found
  entries
    | .map entries => some (entries.map fun e => (e.1.found, e.2))
    | .null => some []
    | _ => none
  positional _ := none

namespace DocumentView

variable {α β : Type}

/-- A value that may be null. -/
def optional (view : DocumentView α) (decode : α → Except Misfit β) (v : α) :
    Except Misfit (Option β) :=
  if view.found v = .null then .ok none else (decode v).map some

/-- The fields of a record, put one after the other into a draft of it. -/
def record (view : DocumentView α) (shape : RecordShape) (draft : β)
    (put : β → String → α → Except Misfit β) (v : α) : Except Misfit β :=
  match view.entries v, view.positional v with
  | some entries, _ =>
    entries.foldlM (fun d e =>
      match e.1 with
      | .str key => put d key e.2
      | key => .error (.wrongKind key "field identifier")) draft
  | none, some items => do
    let filled ← (shape.keys.zip items).foldlM (fun d f => put d f.1 f.2) draft
    shape.checkLength items.length
    return filled
  | none, none => .error (.wrongKind (view.found v) ("struct " ++ shape.type))

/-- An optional string. -/
def text (view : DocumentView α) : α → Except Misfit (Option String) :=
  view.optional fun v => (view.found v).asText

/-- What is set for a vendor. -/
def providerSettings (view : DocumentView α) : α → Except Misfit ProviderSettings :=
  view.record ⟨"ProviderSettings", [("api_key", false), ("base_url", false)]⟩ {} fun s key v =>
    match key with
    | "api_key" => (view.text v).map fun x => { s with apiKey := x }
    | "base_url" => (view.text v).map fun x => { s with baseUrl := x }
    | _ => .ok s

/-- What is set for the vendors. -/
def providersConfig (view : DocumentView α) : α → Except Misfit ProvidersConfig :=
  view.record ⟨"ProvidersConfig", [("anthropic", false), ("openai", false), ("google", false)]⟩ {}
      fun c key v =>
    let settings := view.optional view.providerSettings v
    match key with
    | "anthropic" => settings.map fun x => { c with anthropic := x }
    | "openai" => settings.map fun x => { c with openai := x }
    | "google" => settings.map fun x => { c with google := x }
    | _ => .ok c

/-- What is set for runs. -/
def engineSettings (view : DocumentView α) : α → Except Misfit EngineSettings :=
  view.record ⟨"EngineSettings",
      [("max_steps", true), ("timeout_secs", true), ("backoff_base_ms", true)]⟩ {} fun s key v =>
    match key with
    | "max_steps" => ((view.found v).asNat 32).map fun n => { s with maxSteps := n }
    | "timeout_secs" => ((view.found v).asNat 64).map fun n => { s with timeoutSecs := n }
    | "backoff_base_ms" => ((view.found v).asNat 64).map fun n => { s with backoffBaseMs := n }
    | _ => .ok s

/-- A configuration. -/
def config (view : DocumentView α) : α → Except Misfit Config :=
  view.record ⟨"FlowConfig", [("providers", true), ("engine", true)]⟩ {} fun c key v =>
    match key with
    | "providers" => (view.providersConfig v).map fun x => { c with providers := x }
    | "engine" => (view.engineSettings v).map fun x => { c with engine := x }
    | _ => .ok c

end DocumentView

/-- The configuration of a JSON value. -/
def Config.ofJson : Json → Except Misfit Config :=
  Json.view.config

/-- The settings for runs of a JSON value. -/
def EngineSettings.ofJson : Json → Except Misfit EngineSettings :=
  Json.view.engineSettings

/-- The configuration of a YAML value. -/
def Config.ofYaml : Yaml.Value → Except Misfit Config :=
  Yaml.Value.view.config

/-! ### Sense -/

/-- Whether an address is one of a web server. -/
def isWebAddress (url : String) : Bool :=
  "https://".toList.isPrefixOf url.toList || "http://".toList.isPrefixOf url.toList

/-- What makes no sense in a configuration. -/
inductive ConfigDefect where
  | noSteps
  | noTime
  | notWebAddress (vendor : Vendor) (url : String)
deriving Repr, DecidableEq

/-- What is said about a defect. -/
def ConfigDefect.message : ConfigDefect → String
  | noSteps => "engine.max_steps must be at least 1"
  | noTime => "engine.timeout_secs must be at least 1"
  | notWebAddress vendor url =>
    "providers." ++ vendor.name ++ ".base_url must be an http(s) URL, got '" ++ url ++ "'"

/-- What deserves a warning. -/
inductive ConfigWarning where
  | shape (violation : Violation)
  | blankKey (vendor : Vendor)

namespace Config

/-- The first defect of what is set for a vendor. -/
def vendorDefect? (c : Config) (vendor : Vendor) : Option ConfigDefect :=
  (((c.providers.get vendor).bind ProviderSettings.baseUrl).filter fun url =>
    !isWebAddress url).map fun url => .notWebAddress vendor url

/-- Whether a blank key is set for a vendor. -/
def hasBlankKey (c : Config) (vendor : Vendor) : Bool :=
  ((c.providers.get vendor).bind ProviderSettings.apiKey).any fun key => Text.allBlank key.toList

/-- The first defect of a configuration. -/
def defect? (c : Config) : Option ConfigDefect :=
  if c.engine.maxSteps < 1 then some .noSteps
  else if c.engine.timeoutSecs < 1 then some .noTime
  else Vendor.all.findSome? c.vendorDefect?

/-- The vendors with a blank key, as far as the configuration is looked at. -/
def blankKeys (c : Config) : List Vendor :=
  if c.engine.maxSteps < 1 ∨ c.engine.timeoutSecs < 1 then []
  else (Vendor.all.takeWhile fun v => (c.vendorDefect? v).isNone).filter c.hasBlankKey

/-- The configuration of a text, with warnings.  An empty text sets nothing. -/
def ofText (text : String) : List ConfigWarning × Except Failure Config :=
  match Yaml.Value.read text with
  | .error fault => ([], .error fault.failure)
  | .ok .null => ([], .ok {})
  | .ok v =>
    match v.toJson with
    | .error fault => ([], .error (.of .config ("Config conversion error: " ++ fault.message)))
    | .ok j =>
      let shapes := (schema.violations j).map ConfigWarning.shape
      match Config.ofYaml v with
      | .error m => (shapes, .error (.of .yaml (m.message Yaml.wording)))
      | .ok c =>
        (shapes ++ c.blankKeys.map ConfigWarning.blankKey,
          match c.defect? with
          | some d => .error (.of .config d.message)
          | none => .ok c)

/-- A configuration file has at most so many bytes. -/
def maxBytes : Nat := 1048576

/-- The configuration of a file. -/
def ofFile (path : String) (file : FileContent) : Except Failure Config :=
  match file with
  | .missing => .error (.of .config ("Config file not found: " ++ path))
  | file =>
    if maxBytes < file.size then .error (.of .config "Config file exceeds 1MB limit")
    else do
      let text ← file.text
      (ofText text).2

end Config

/-- A warning in words. -/
def ConfigWarning.message : ConfigWarning → String
  | shape violation => "Config schema warning: validation_error=" ++ violation.message
  | blankKey vendor => "Provider configured with an empty api_key: provider=" ++ vendor.name

end AgentPipeline
