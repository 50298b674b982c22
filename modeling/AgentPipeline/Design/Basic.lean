import AgentPipeline.Text.Basic
import AgentPipeline.Decimal.Format

/-!
# Designs

A design declares the agents of a pipeline and, optionally, the edges along which control passes
from one agent to others.  Without edges the agents run in declaration order; with edges the edges
alone decide.

## Main definitions

* `AgentSpec`, `EdgeSpec`, `Design` — what is declared.
* `Design.explicitEdges` — the edges to honour.
* `Design.fragments` — every text that a user may have written.
* `Defect` — why a design cannot be run.
* `AgentSpec.check` — the bounds on what an agent declares.
-/

namespace AgentPipeline

/-- One agent of a design. -/
structure AgentSpec where
  name : String
  /-- An open tag; unknown tags count as that of an analyzer. -/
  role : String
  model : String := "claude-sonnet-4-5-20250929"
  description : String := ""
  temperature : Float32 := 0.7
  maxOutputTokens : Nat := 4096
  retryCount : Nat := 3
  customPrompt : Option String := none
  /-- Whether the agent has a role of its own, whatever its tag. -/
  isCustomRole : Bool := false
deriving DecidableEq

/-- Control may pass from one agent to another. -/
structure EdgeSpec where
  source : String
  target : String
  /-- When control passes, as in `score > 0.8`; always if there is none. -/
  condition : Option String := none
deriving Repr, DecidableEq

/-- A pipeline as it is declared. -/
structure Design where
  name : String
  description : String := ""
  agents : List AgentSpec
  edges : Option (List EdgeSpec) := none
deriving DecidableEq

namespace AgentSpec

/-- The same agent with another number of attempts. -/
def withRetryCount (a : AgentSpec) (count : Nat) : AgentSpec :=
  { a with retryCount := count }

/-- The same agent with a prompt, and so with a role, of its own. -/
def withCustomPrompt (a : AgentSpec) (prompt : String) : AgentSpec :=
  { a with customPrompt := some prompt, isCustomRole := true }

/-- The texts of an agent that a user may have written. -/
def fragments (a : AgentSpec) : List String :=
  [a.name, a.role, a.description] ++ a.customPrompt.toList

end AgentSpec

namespace Design

/-- The edges to honour.  An empty list counts as no edges. -/
def explicitEdges (d : Design) : Option (List EdgeSpec) :=
  match d.edges with
  | some (e :: edges) => some (e :: edges)
  | _ => none

/-- Every text that a user may have written. -/
def fragments (d : Design) : List String :=
  [d.name, d.description] ++ d.agents.flatMap AgentSpec.fragments

end Design

/-- Why a design cannot be run. -/
inductive Defect where
  | blankName
  | temperatureOutside (agent : String) (value : Float32)
  | outputTokensOutside (agent : String) (value : Nat)
  | tooManyRetries (agent : String) (value : Nat)
  | noAgents
  | tooManyAgents (count : Nat)
  | undeclaredAgent (name : String)
  | invalidCondition (text : String)
  | invalidThreshold (text : String)
  /-- Every agent has an incoming edge. -/
  | noEntry
  /-- The nodes of a closed path, the first one being repeated at the end. -/
  | cycle (path : List String)
deriving DecidableEq

/-- The highest temperature of an agent. -/
def temperatureLimit : Float32 := 2.0

/-- The most output tokens of an agent. -/
def outputTokenLimit : Nat := 16384

/-- The most attempts of an agent. -/
def retryLimit : Nat := 10

/-- The most agents of a design. -/
def agentLimit : Nat := 20

/-- What is said about a defect. -/
def Defect.message : Defect → String
  | blankName => "Agent name must not be empty"
  | temperatureOutside agent value =>
    s!"Agent '{agent}': temperature {Decimal.plainSingle value} outside [0, " ++
      s!"{Decimal.plainSingle temperatureLimit}]"
  | outputTokensOutside agent value =>
    s!"Agent '{agent}': max_output_tokens {value} outside [1, {outputTokenLimit}]"
  | tooManyRetries agent value => s!"Agent '{agent}': retry_count {value} exceeds {retryLimit}"
  | noAgents => "Design has no agents"
  | tooManyAgents count => s!"Design has {count} agents, at most {agentLimit} are allowed"
  | undeclaredAgent name => s!"Edge references undeclared agent '{name}'"
  | invalidCondition text =>
    s!"Invalid condition '{text}': expected `field op number` " ++
      "with op one of >, <, >=, <=, =="
  | invalidThreshold text => s!"Invalid threshold '{text}': invalid float literal"
  | noEntry =>
    "Design has a cycle: every agent has an incoming edge, so there is no entry point"
  | cycle path => "Design has a cycle: " ++ " -> ".intercalate path

/-- The bounds on what an agent declares, in the order in which they are checked. -/
def AgentSpec.check (a : AgentSpec) : Except Defect Unit :=
  if Text.allBlank a.name.toList then .error .blankName
  else if ¬ (0 ≤ a.temperature ∧ a.temperature ≤ temperatureLimit) then
    .error (.temperatureOutside a.name a.temperature)
  else if ¬ (1 ≤ a.maxOutputTokens ∧ a.maxOutputTokens ≤ outputTokenLimit) then
    .error (.outputTokensOutside a.name a.maxOutputTokens)
  else if retryLimit < a.retryCount then .error (.tooManyRetries a.name a.retryCount)
  else .ok ()

end AgentPipeline
