import AgentPipeline.Design.Format
import AgentPipeline.State.Basic

/-!
# States, results and reports as documents

## Main definitions

* `RunReport` — the final report of a run.
* `toJson` and `ofJson` of `AgentResult`, `RunState` and `RunReport`.
-/

namespace AgentPipeline

/-- The final report of a run. -/
structure RunReport where
  designName : String
  status : RunStatus
  agentResults : List AgentResult
  totalCost : Float
  totalDurationMs : Nat
  totalTokens : Nat
  output : String
  error : Option String
deriving DecidableEq

/-- A result as a value. -/
def AgentResult.toJson (r : AgentResult) : Json :=
  .obj ([("agent_name", .str r.agentName),
      ("content", .str r.content),
      ("cost_estimate", .ofFloat r.costEstimate),
      ("duration_ms", .nat r.durationMs)] ++
    optionalField "error" (r.error.map .str) ++
    [("role", .str r.role),
      ("status", .str r.status.name),
      ("tokens_used", .nat r.tokensUsed)])

/-- A state as a value. -/
def RunState.toJson (s : RunState) : Json :=
  .obj [("agent_results", .arr (s.agentResults.map AgentResult.toJson)),
    ("current_agent", .ofString? s.currentAgent),
    ("current_step", .nat s.currentStep),
    ("design", s.design.toJson),
    ("errors", .arr (s.errors.map .str)),
    ("final_output", .ofString? s.finalOutput),
    ("max_steps", .nat s.maxSteps),
    ("status", .str s.status.name),
    ("timeout_seconds", .nat s.timeoutSeconds),
    ("total_cost", .ofFloat s.totalCost)]

/-- A report as a value. -/
def RunReport.toJson (r : RunReport) : Json :=
  .obj ([("agent_results", .arr (r.agentResults.map AgentResult.toJson)),
      ("design_name", .str r.designName)] ++
    optionalField "error" (r.error.map .str) ++
    [("output", .str r.output),
      ("status", .str r.status.name),
      ("total_cost", .ofFloat r.totalCost),
      ("total_duration_ms", .nat r.totalDurationMs),
      ("total_tokens", .nat r.totalTokens)])

/-! ### Reading -/

/-- The status of an agent of a value. -/
def AgentStatus.ofJson : Json → Except Misfit AgentStatus :=
  Decode.name [("success", .success), ("failed", .failed)]

/-- The status of a run of a value. -/
def RunStatus.ofJson : Json → Except Misfit RunStatus :=
  Decode.name (RunStatus.all.map fun s => (s.name, s))

/-- The fields of a result, in order. -/
def AgentResult.shape : RecordShape where
  type := "AgentResult"
  fields := [("agent_name", false), ("role", false), ("content", false), ("tokens_used", false),
    ("cost_estimate", false), ("duration_ms", false), ("status", false), ("error", true)]

/-- The fields of a result that have been seen. -/
structure AgentResult.Draft where
  agentName : Option String := none
  role : Option String := none
  content : Option String := none
  tokensUsed : Option Nat := none
  costEstimate : Option Float := none
  durationMs : Option Nat := none
  status : Option AgentStatus := none
  error : Option (Option String) := none

namespace AgentResult.Draft

/-- Puts a field in; unknown fields are passed over. -/
def put (d : Draft) (f : String × Json) : Except Misfit Draft :=
  match f.1 with
  | "agent_name" => (Decode.text f.2).map fun s => { d with agentName := some s }
  | "role" => (Decode.text f.2).map fun s => { d with role := some s }
  | "content" => (Decode.text f.2).map fun s => { d with content := some s }
  | "tokens_used" => (Decode.nat 64 f.2).map fun n => { d with tokensUsed := some n }
  | "cost_estimate" => (Decode.double f.2).map fun x => { d with costEstimate := some x }
  | "duration_ms" => (Decode.nat 64 f.2).map fun n => { d with durationMs := some n }
  | "status" => (AgentStatus.ofJson f.2).map fun s => { d with status := some s }
  | "error" => (Decode.optional Decode.text f.2).map fun s => { d with error := some s }
  | _ => .ok d

/-- The result of a draft. -/
def finish (d : Draft) : Except Misfit AgentResult := do
  return {
    agentName := ← Decode.required "agent_name" d.agentName
    role := ← Decode.required "role" d.role
    content := ← Decode.required "content" d.content
    tokensUsed := ← Decode.required "tokens_used" d.tokensUsed
    costEstimate := ← Decode.required "cost_estimate" d.costEstimate
    durationMs := ← Decode.required "duration_ms" d.durationMs
    status := ← Decode.required "status" d.status
    error := d.error.getD none }

end AgentResult.Draft

/-- The result of a value. -/
def AgentResult.ofJson (v : Json) : Except Misfit AgentResult := do
  let draft ← Decode.record AgentResult.shape {} AgentResult.Draft.put v
  draft.finish

/-- The fields of a state, in order.  None has a default; only in an object may the last two be
absent. -/
def RunState.shape : RecordShape where
  type := "PipelineState"
  fields := ["design", "current_step", "max_steps", "timeout_seconds", "agent_results", "errors",
    "status", "total_cost", "current_agent", "final_output"].map fun key => (key, false)

/-- The fields of a state that have been seen. -/
structure RunState.Draft where
  design : Option Design := none
  currentStep : Option Nat := none
  maxSteps : Option Nat := none
  timeoutSeconds : Option Nat := none
  agentResults : Option (List AgentResult) := none
  errors : Option (List String) := none
  status : Option RunStatus := none
  totalCost : Option Float := none
  currentAgent : Option (Option String) := none
  finalOutput : Option (Option String) := none

namespace RunState.Draft

/-- Puts a field in; unknown fields are passed over. -/
def put (d : Draft) (f : String × Json) : Except Misfit Draft :=
  match f.1 with
  | "design" => (Design.ofJson f.2).map fun x => { d with design := some x }
  | "current_step" => (Decode.nat 32 f.2).map fun n => { d with currentStep := some n }
  | "max_steps" => (Decode.nat 32 f.2).map fun n => { d with maxSteps := some n }
  | "timeout_seconds" => (Decode.nat 64 f.2).map fun n => { d with timeoutSeconds := some n }
  | "agent_results" =>
    (Decode.list AgentResult.ofJson f.2).map fun l => { d with agentResults := some l }
  | "errors" => (Decode.list Decode.text f.2).map fun l => { d with errors := some l }
  | "status" => (RunStatus.ofJson f.2).map fun s => { d with status := some s }
  | "total_cost" => (Decode.double f.2).map fun x => { d with totalCost := some x }
  | "current_agent" =>
    (Decode.optional Decode.text f.2).map fun s => { d with currentAgent := some s }
  | "final_output" =>
    (Decode.optional Decode.text f.2).map fun s => { d with finalOutput := some s }
  | _ => .ok d

/-- The state of a draft. -/
def finish (d : Draft) : Except Misfit RunState := do
  return {
    design := ← Decode.required "design" d.design
    currentStep := ← Decode.required "current_step" d.currentStep
    maxSteps := ← Decode.required "max_steps" d.maxSteps
    timeoutSeconds := ← Decode.required "timeout_seconds" d.timeoutSeconds
    agentResults := ← Decode.required "agent_results" d.agentResults
    errors := ← Decode.required "errors" d.errors
    status := ← Decode.required "status" d.status
    totalCost := ← Decode.required "total_cost" d.totalCost
    currentAgent := d.currentAgent.getD none
    finalOutput := d.finalOutput.getD none }

end RunState.Draft

/-- The state of a value. -/
def RunState.ofJson (v : Json) : Except Misfit RunState := do
  let draft ← Decode.record RunState.shape {} RunState.Draft.put v
  draft.finish

/-- The fields of a report, in order. -/
def RunReport.shape : RecordShape where
  type := "PipelineResult"
  fields := [("design_name", false), ("status", false), ("agent_results", false),
    ("total_cost", false), ("total_duration_ms", false), ("total_tokens", false),
    ("output", false), ("error", true)]

/-- The fields of a report that have been seen. -/
structure RunReport.Draft where
  designName : Option String := none
  status : Option RunStatus := none
  agentResults : Option (List AgentResult) := none
  totalCost : Option Float := none
  totalDurationMs : Option Nat := none
  totalTokens : Option Nat := none
  output : Option String := none
  error : Option (Option String) := none

namespace RunReport.Draft

/-- Puts a field in; unknown fields are passed over. -/
def put (d : Draft) (f : String × Json) : Except Misfit Draft :=
  match f.1 with
  | "design_name" => (Decode.text f.2).map fun s => { d with designName := some s }
  | "status" => (RunStatus.ofJson f.2).map fun s => { d with status := some s }
  | "agent_results" =>
    (Decode.list AgentResult.ofJson f.2).map fun l => { d with agentResults := some l }
  | "total_cost" => (Decode.double f.2).map fun x => { d with totalCost := some x }
  | "total_duration_ms" => (Decode.nat 64 f.2).map fun n => { d with totalDurationMs := some n }
  | "total_tokens" => (Decode.nat 64 f.2).map fun n => { d with totalTokens := some n }
  | "output" => (Decode.text f.2).map fun s => { d with output := some s }
  | "error" => (Decode.optional Decode.text f.2).map fun s => { d with error := some s }
  | _ => .ok d

/-- The report of a draft. -/
def finish (d : Draft) : Except Misfit RunReport := do
  return {
    designName := ← Decode.required "design_name" d.designName
    status := ← Decode.required "status" d.status
    agentResults := ← Decode.required "agent_results" d.agentResults
    totalCost := ← Decode.required "total_cost" d.totalCost
    totalDurationMs := ← Decode.required "total_duration_ms" d.totalDurationMs
    totalTokens := ← Decode.required "total_tokens" d.totalTokens
    output := ← Decode.required "output" d.output
    error := d.error.getD none }

end RunReport.Draft

/-- The report of a value. -/
def RunReport.ofJson (v : Json) : Except Misfit RunReport := do
  let draft ← Decode.record RunReport.shape {} RunReport.Draft.put v
  draft.finish

end AgentPipeline
