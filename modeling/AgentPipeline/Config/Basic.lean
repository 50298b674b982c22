import AgentPipeline.Model.Catalog

/-!
# Configuration

What a configuration file may set: keys and addresses of the vendors, and the limits of a run.

## Main definitions

* `Config` and its parts `ProvidersConfig`, `ProviderSettings`, `EngineSettings`.
* `RunLimits` — the limits of a run; `EngineSettings.limits` derives them from the settings.
-/

namespace AgentPipeline

/-- What is set for one vendor. -/
structure ProviderSettings where
  /-- The key itself, or a dollar sign and the name of an environment variable that holds it. -/
  apiKey : Option String := none
  baseUrl : Option String := none
deriving Repr, DecidableEq

/-- What is set for the vendors. -/
structure ProvidersConfig where
  anthropic : Option ProviderSettings := none
  openai : Option ProviderSettings := none
  google : Option ProviderSettings := none
deriving Repr, DecidableEq

/-- What is set for a vendor. -/
def ProvidersConfig.get (c : ProvidersConfig) : Vendor → Option ProviderSettings
  | .anthropic => c.anthropic
  | .openai => c.openai
  | .google => c.google

/-- What is set for runs. -/
structure EngineSettings where
  maxSteps : Nat := 50
  timeoutSecs : Nat := 300
  backoffBaseMs : Nat := 1000
deriving Repr, DecidableEq

/-- A configuration. -/
structure Config where
  providers : ProvidersConfig := {}
  engine : EngineSettings := {}
deriving Repr, DecidableEq

/-- The limits of a run. -/
structure RunLimits where
  maxSteps : Nat := 50
  timeoutMs : Nat := 300000
  /-- The unit of the delays between the attempts of an agent. -/
  backoffMs : Nat := 1000
deriving Repr, DecidableEq

/-- The limits that settings amount to. -/
def EngineSettings.limits (s : EngineSettings) : RunLimits :=
  ⟨s.maxSteps, 1000 * s.timeoutSecs, s.backoffBaseMs⟩

end AgentPipeline
