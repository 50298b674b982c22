import AgentPipeline.Config.Basic
import AgentPipeline.Failure
import AgentPipeline.Graph.Compile
import AgentPipeline.Role
import AgentPipeline.Run.Basic
import AgentPipeline.Text.Basic

/-!
# The ending of a run

A run drains, is ended by a failure or is cut off by its time limit.  Whatever happens is told by
the last event and by the final report.  The totals of the report are sums over the results.  A run
counts as failed only when no result is a success.  Its output is that of the last successful
reporter or synthesizer, else that of the last success.

## Main definitions

* `RunState.report` — the report of a run that has come to an end by itself.
* `Ending` — how a run comes to an end.
* `Ending.conclude` — the last event and the report of a run.
* `Outcome` — all events and the report.
-/

namespace AgentPipeline

/-! ### Reports -/

/-- The output of a run. -/
def chosenOutput (results : List AgentResult) : String :=
  let successes := (results.filter AgentResult.isSuccess).reverse
  match (successes.find? fun r => Role.producesOutput r.role) <|> successes.head? with
  | some r => r.content
  | none => ""

/-- The errors of a run in one text. -/
def joinedErrors (errors : List String) : Option String :=
  match errors with
  | [] => none
  | errors => some ("; ".intercalate errors)

/-- The sum of the costs of results; that of none is negative zero, the neutral element. -/
def summedCost (results : List AgentResult) : Float :=
  results.foldl (fun total r => total + r.costEstimate) (-0.0)

/-- The report of a run that has come to an end by itself. -/
def RunState.report (s : RunState) (durationMs : Nat) : RunReport where
  designName := s.design.name
  status := if s.agentResults.any AgentResult.isSuccess then .completed else .failed
  agentResults := s.agentResults
  totalCost := summedCost s.agentResults
  totalDurationMs := durationMs
  totalTokens := (s.agentResults.map AgentResult.tokensUsed).foldr (· + ·) 0
  output := chosenOutput s.agentResults
  error := joinedErrors s.errors

/-! ### Endings -/

/-- How a run comes to an end. -/
inductive Ending where
  /-- Nothing is left to schedule. -/
  | drained
  /-- A failure of a node ended the run. -/
  | aborted (failure : Failure)
  /-- The time limit cut the run off. -/
  | timedOut
deriving DecidableEq

/-- All the events and the report of a run. -/
structure Outcome where
  events : List Event
  report : RunReport
deriving DecidableEq

/-- A time limit in words: in seconds if it is a whole number of them. -/
def describeLimit (ms : Nat) : String :=
  if ms % 1000 = 0 then s!"{ms / 1000}s" else s!"{ms}ms"

/-- What is said of a run without a success and without an error. -/
def allAgentsFailed : String :=
  "All agents failed"

/-- The last event and the report of a run with a given state. -/
def Ending.conclude (limits : RunLimits) (secrets : List String) (s : RunState)
    (durationMs : Nat) : Ending → Event × RunReport
  | drained =>
    let report := s.report durationMs
    match report.status with
    | .failed => (.failed (report.error.getD allAgentsFailed), report)
    | _ => (.completed report.totalCost report.totalTokens durationMs, report)
  | aborted failure =>
    let error := Secrets.redact secrets failure.message
    (.failed error, { s.report durationMs with status := .failed, error := some error })
  | timedOut =>
    (.timedOut (limits.timeoutMs / 1000),
      { s.report durationMs with
        status := .timeout
        error := some ("Pipeline execution timed out after " ++ describeLimit limits.timeoutMs) })

/-- The state in which a run of a design begins. -/
def RunLimits.initialState (limits : RunLimits) (d : Design) : RunState :=
  { RunState.initial d limits.maxSteps (limits.timeoutMs / 1000) with status := .running }

/-- The outcome of a run that went as far as `r` and then came to its end. -/
def Ending.outcome (limits : RunLimits) (secrets : List String) (runId : String) (g : Graph)
    (r : Run) (durationMs : Nat) (ending : Ending) : Outcome :=
  let (last, report) := ending.conclude limits secrets r.state durationMs
  { events := .started runId r.state.design.name g.size :: r.events ++ [last], report }

/-- The outcome of a design that does not compile. -/
def Defect.outcome (d : Design) (defect : Defect) (durationMs : Nat) : Outcome :=
  let error := defect.failure.message
  { events := [.failed error]
    report :=
      { designName := d.name
        status := .failed
        agentResults := []
        totalCost := 0
        totalDurationMs := durationMs
        totalTokens := 0
        output := ""
        error := some error } }

end AgentPipeline
