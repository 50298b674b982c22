import AgentPipeline.Design.Basic
import AgentPipeline.Json.Reader

/-!
# The state of a run

A run accumulates the results of its agents and their errors.  A node hands back an `Update`, which
is merged into the state: lists are appended, counters never move back, and the other fields are
overwritten by what the update sets.

## Main definitions

* `AgentResult` — the outcome of one agent; `AgentResult.numericField` reads numbers off it.
* `RunState`, `RunState.initial` — the state of a run.
* `RunState.shouldStop` — the stop condition of a run.
* `Update`, `RunState.apply` — merging what a node hands back.
-/

namespace AgentPipeline

/-- How far a run has come. -/
inductive RunStatus where
  | pending
  | running
  | completed
  | failed
  | timeout
deriving Repr, DecidableEq, Inhabited

namespace RunStatus

/-- All statuses. -/
def all : List RunStatus :=
  [pending, running, completed, failed, timeout]

/-- The name of a status. -/
def name : RunStatus → String
  | pending => "pending"
  | running => "running"
  | completed => "completed"
  | failed => "failed"
  | timeout => "timeout"

/-- The status with a given name. -/
def ofName? (s : String) : Option RunStatus :=
  all.find? fun k => k.name = s

/-- Whether a run with this status is over. -/
def isTerminal : RunStatus → Bool
  | pending | running => false
  | completed | failed | timeout => true

end RunStatus

/-- Whether an agent did its work. -/
inductive AgentStatus where
  | success
  | failed
deriving Repr, DecidableEq, Inhabited

namespace AgentStatus

/-- The name of a status. -/
def name : AgentStatus → String
  | success => "success"
  | failed => "failed"

/-- The status with a given name. -/
def ofName? : String → Option AgentStatus
  | "success" => some success
  | "failed" => some failed
  | _ => none

end AgentStatus

/-- The outcome of all the attempts of one agent. -/
structure AgentResult where
  agentName : String
  role : String
  content : String
  tokensUsed : Nat
  costEstimate : Float
  durationMs : Nat
  status : AgentStatus
  error : Option String
deriving DecidableEq

namespace AgentResult

/-- Whether the agent did its work. -/
def isSuccess (r : AgentResult) : Bool :=
  r.status == .success

/-- The number that a JSON value stands for: a number itself, a string that spells one, or a truth
value as one or zero. -/
def numberOf : Json → Option Float
  | .int n => some (Json.floatOfInt n)
  | .float x => some x
  | .str s => Decimal.read? (Text.trim s.toList)
  | .bool b => some (if b then 1 else 0)
  | _ => none

/-- The number under a key of a content that is a JSON object. -/
def contentNumber (content field : String) : Option Float :=
  ((Json.read? (String.ofList (Text.trim content.toList))).bind (Json.field? field)).bind numberOf

/-- A number read off a result: one of its own attributes, else one of its content. -/
def numericField (r : AgentResult) (field : String) : Option Float :=
  match field with
  | "tokens_used" => some (Float.ofNat r.tokensUsed)
  | "cost_estimate" => some r.costEstimate
  | "duration_ms" => some (Float.ofNat r.durationMs)
  | "duration" => some (Float.ofNat r.durationMs / 1000.0)
  | _ => contentNumber r.content field

end AgentResult

/-- The state of a run. -/
structure RunState where
  design : Design
  currentStep : Nat
  maxSteps : Nat
  timeoutSeconds : Nat
  agentResults : List AgentResult
  errors : List String
  status : RunStatus
  totalCost : Float
  currentAgent : Option String
  finalOutput : Option String
deriving DecidableEq

/-- What a node hands back. -/
structure Update where
  agentResults : List AgentResult := []
  errors : List String := []
  currentStep : Option Nat := none
  totalCost : Option Float := none
  status : Option RunStatus := none
  currentAgent : Option String := none
  finalOutput : Option String := none
deriving DecidableEq

/-- With so many errors a run launches nothing more. -/
def maxErrors : Nat := 3

/-- The larger of two numbers; of a number and what is not one, the number. -/
def laterCost (a b : Float) : Float :=
  if a.isNaN then b else if a < b then b else a

namespace RunState

/-- The state in which a run begins. -/
def initial (design : Design) (maxSteps timeoutSeconds : Nat) : RunState where
  design
  currentStep := 0
  maxSteps
  timeoutSeconds
  agentResults := []
  errors := []
  status := .pending
  totalCost := 0
  currentAgent := none
  finalOutput := none

/-- The stop condition: too many errors, no steps left, or a run that is over. -/
def shouldStop (s : RunState) : Bool :=
  maxErrors ≤ s.errors.length || s.maxSteps ≤ s.currentStep || s.status.isTerminal

/-- The numbers of a state that conditions can read. -/
def numericField (s : RunState) : String → Option Float
  | "current_step" => some (Float.ofNat s.currentStep)
  | "max_steps" => some (Float.ofNat s.maxSteps)
  | "timeout_seconds" => some (Float.ofNat s.timeoutSeconds)
  | "total_cost" => some s.totalCost
  | _ => none

/-- The state after an update. -/
def apply (s : RunState) (u : Update) : RunState :=
  { s with
    agentResults := s.agentResults ++ u.agentResults
    errors := s.errors ++ u.errors
    currentStep := (u.currentStep.map (max s.currentStep)).getD s.currentStep
    totalCost := (u.totalCost.map (laterCost s.totalCost)).getD s.totalCost
    status := u.status.getD s.status
    currentAgent := u.currentAgent <|> s.currentAgent
    finalOutput := u.finalOutput <|> s.finalOutput }

end RunState

end AgentPipeline
