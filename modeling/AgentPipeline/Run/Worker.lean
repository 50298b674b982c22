import AgentPipeline.Graph.Basic
import AgentPipeline.Prompt
import AgentPipeline.Retry
import AgentPipeline.Router

/-!
# The work of one node

A node works on a snapshot of the state.  A design that fails screening is refused without asking
anyone.  Otherwise the node asks its router, again and again while attempts are left and the failure
is one that may pass.  Its failures come back as failed results; only a failure that ends the whole
run is passed on as such.

## Main definitions

* `Worker` — a node with what it needs to run.
* `Worker.refusal` — the update of a node whose design fails screening.
* `Worker.request` — what a node asks its router.
* `Worker.react` — what a node does with the outcome of an attempt.
* `Worker.transcript` — all the attempts of a node, given the outcome of each.
-/

namespace AgentPipeline

/-- A node with what it needs to run. -/
structure Worker where
  id : String
  spec : AgentSpec
  role : Role
  policy : RetryPolicy
  /-- The secrets that must not show up in recorded errors. -/
  secrets : List String

/-- The worker of a node. -/
def Node.worker (n : Node) (router : Router) (backoffMs : Nat) : Worker where
  id := n.id
  spec := n.spec
  role := Role.ofSpec n.spec
  policy := RetryPolicy.ofCount n.spec.retryCount backoffMs
  secrets := router.secrets

/-- What a node does after an attempt. -/
inductive Reaction where
  /-- It is done, or ends the whole run. -/
  | finish (outcome : Except Failure Update)
  /-- It waits and tries again. -/
  | retryAfter (delayMs : Nat)

namespace Worker

/-- The update of a node that failed.  Durations are measured outside and not kept here. -/
def failed (w : Worker) (s : RunState) (error : String) : Update :=
  let error := String.ofList (Text.truncateError error.toList)
  { agentResults := [
      { agentName := w.id
        role := w.spec.role
        content := ""
        tokensUsed := 0
        costEstimate := 0
        durationMs := 0
        status := .failed
        error := some error }]
    errors := [error]
    currentStep := some (s.currentStep + 1)
    currentAgent := some w.id }

/-- The update of a node that got its completion. -/
def succeeded (w : Worker) (s : RunState) (c : Completion) : Update where
  agentResults := [
    { agentName := w.id
      role := w.spec.role
      content := c.content
      tokensUsed := c.totalTokens
      costEstimate := c.costUsd
      durationMs := 0
      status := .success
      error := none }]
  currentStep := some (s.currentStep + 1)
  totalCost := some (s.totalCost + c.costUsd)
  currentAgent := some w.id
  finalOutput := some c.content

/-- The failure of a node that refuses to run a design. -/
def rejection : Failure :=
  .of .security Injection.rejection

/-- The update of a node whose design fails screening. -/
def refusal (w : Worker) (s : RunState) : Option Update :=
  s.design.injection.map fun _ => w.failed s rejection.message

/-- What a node asks its router. -/
def request (w : Worker) (s : RunState) : RouteRequest where
  messages := Prompt.messages w.role w.spec s
  tier := some (Tier.ofModelName w.spec.model)
  preferred := Vendor.ofModelName? w.spec.model
  maxTokens := w.spec.maxOutputTokens
  temperature := w.spec.temperature

/-- How a failure of a node is recorded. -/
def failureText (w : Worker) (f : Failure) : String :=
  Secrets.redact w.secrets s!"Agent '{w.id}' failed: {f.message}"

/-- What a node does with the outcome of its attempt, attempts being counted from zero. -/
def react (w : Worker) (s : RunState) (attempt : Nat) : Except Failure Completion → Reaction
  | .ok c => .finish (.ok (w.succeeded s c))
  | .error f =>
    if f.kind.endsRun then .finish (.error f)
    else if !f.kind.retryable || !w.policy.hasNext attempt then
      .finish (.ok (w.failed s (w.failureText f)))
    else .retryAfter (w.policy.delay attempt)

/-- All the attempts of a node. -/
structure Transcript where
  /-- The requests, one for each attempt. -/
  requests : List RouteRequest
  /-- The delays between the attempts. -/
  delays : List Nat
  outcome : Except Failure Update

/-- The attempts of a node from one on, given the outcome of each; at most `left` further ones
follow. -/
def attempts (w : Worker) (s : RunState) (outcomes : Nat → Except Failure Completion) :
    (left attempt : Nat) → Transcript
  | 0, attempt => ⟨[w.request s], [], match w.react s attempt (outcomes attempt) with
      | .finish outcome => outcome
      | .retryAfter _ => .error (.of .internal "attempts exhausted")⟩
  | left + 1, attempt =>
    match w.react s attempt (outcomes attempt) with
    | .finish outcome => ⟨[w.request s], [], outcome⟩
    | .retryAfter delay =>
      let rest := w.attempts s outcomes left (attempt + 1)
      ⟨w.request s :: rest.requests, delay :: rest.delays, rest.outcome⟩

/-- All the attempts of a node, given the outcome of each.  A refused design needs none. -/
def transcript (w : Worker) (s : RunState) (outcomes : Nat → Except Failure Completion) :
    Transcript :=
  match w.refusal s with
  | some update => ⟨[], [], .ok update⟩
  | none => w.attempts s outcomes w.policy.maxAttempts 0

end Worker

end AgentPipeline
