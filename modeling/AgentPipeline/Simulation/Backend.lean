import AgentPipeline.Run.Worker

/-!
# Working in virtual time

In virtual time nothing takes time but the answers of a backend and the delays between attempts.  A
worker moves from stage to stage; a move tells how long the next stage has to wait.  How long a wait
for a given span really lasts is up to the timer, of which nothing is known here.

## Main definitions

* `Backend` — what answers calls, and the timer.
* `Clock` — the time, what the backend remembers and the decisions reported so far.
* `Clock.complete` — one request, answered while nothing else happens.
* `Worker.move` — what a worker does at a stage.
* `Worker.runAlone` — a worker from its first stage to the last.
-/

namespace AgentPipeline

/-- What surrounds the workers: what answers their calls, and their timer.  `σ` is what the former
remembers. -/
structure Backend (σ : Type) where
  /-- A call made at a time, and how long its answer takes; none if it never comes. -/
  call : σ → (now : Nat) → Call → σ × Option Nat
  /-- The answer to a call, when it has come. -/
  answer : σ → Call → σ × Except Failure Response
  /-- How long a wait for a span of milliseconds lasts. -/
  waits : Nat → Nat := id

/-- The time, and what has come about by then. -/
structure Clock (σ : Type) where
  now : Nat := 0
  backend : σ
  decisions : List Decision := []

namespace Clock

variable {σ : Type}

/-- The clock some time later. -/
def later (c : Clock σ) (ms : Nat) : Clock σ :=
  { c with now := c.now + ms }

/-- The outcome of a call whose answer has come.  A completion is reported. -/
def receive (b : Backend σ) (c : Clock σ) (call : Call) :
    Clock σ × Except Failure Completion :=
  let (backend, answer) := b.answer c.backend call
  match answer with
  | .error f => ({ c with backend }, .error f)
  | .ok response =>
    let completion := call.settle response
    ({ c with backend, decisions := c.decisions ++ [completion.decision] }, .ok completion)

/-- The outcome of a request while nothing else happens; none if its answer never comes. -/
def complete (b : Backend σ) (router : Router) (c : Clock σ) (request : RouteRequest) :
    Clock σ × Option (Except Failure Completion) :=
  match router.plan request with
  | .error f => (c, some (.error f))
  | .ok call =>
    match b.call c.backend c.now call with
    | (backend, none) => ({ c with backend }, none)
    | (backend, some ms) =>
      let (c, outcome) := receive b ({ c with backend }.later ms) call
      (c, some outcome)

end Clock

/-- How far a worker has come.  Attempts are counted from zero. -/
inductive Stage where
  /-- An attempt is about to be made. -/
  | attempting (attempt : Nat)
  /-- The answer to the call of an attempt has come. -/
  | answered (attempt : Nat) (call : Call)

/-- Why a worker stands still for ever. -/
inductive Standstill where
  /-- The answer to a call never comes. -/
  | unanswered
  /-- A delay does not fit the clock. -/
  | unmeasurable
deriving Repr, DecidableEq

/-- What comes of a stage. -/
inductive Move where
  /-- Another stage after some time. -/
  | next (stage : Stage) (afterMs : Nat)
  /-- Nothing, ever. -/
  | stuck (cause : Standstill)
  | done (outcome : Except Failure Update)

namespace Worker

variable {σ : Type}

/-- What comes of the outcome of an attempt. -/
def moveAfter (w : Worker) (b : Backend σ) (s : RunState) (attempt : Nat)
    (outcome : Except Failure Completion) : Move :=
  match w.react s attempt outcome with
  | .finish outcome => .done outcome
  | .retryAfter ms =>
    if fitsClock ms then .next (.attempting (attempt + 1)) (b.waits ms)
    else .stuck .unmeasurable

/-- What a worker does at a stage. -/
def move (w : Worker) (b : Backend σ) (router : Router) (s : RunState) (c : Clock σ) :
    Stage → Clock σ × Move
  | .attempting attempt =>
    match w.refusal s with
    | some update => (c, .done (.ok update))
    | none =>
      match router.plan (w.request s) with
      | .error f => (c, w.moveAfter b s attempt (.error f))
      | .ok call =>
        match b.call c.backend c.now call with
        | (backend, none) => ({ c with backend }, .stuck .unanswered)
        | (backend, some ms) => ({ c with backend }, .next (.answered attempt call) ms)
  | .answered attempt call =>
    let (c, outcome) := c.receive b call
    (c, w.moveAfter b s attempt outcome)

/-- More than the number of stages that a worker goes through. -/
def stageLimit (w : Worker) : Nat :=
  2 * w.policy.maxAttempts + 1

/-- A worker from a stage on while nothing else happens.  `fuel` bounds the number of stages. -/
def runFrom (w : Worker) (b : Backend σ) (router : Router) (s : RunState) :
    (fuel : Nat) → Clock σ → Stage → Clock σ × Except Standstill (Except Failure Update)
  | 0, c, _ => (c, .error .unanswered)
  | fuel + 1, c, stage =>
    match w.move b router s c stage with
    | (c, .next stage ms) => w.runFrom b router s fuel (c.later ms) stage
    | (c, .stuck cause) => (c, .error cause)
    | (c, .done outcome) => (c, .ok outcome)

/-- A worker from its first stage on while nothing else happens. -/
def runAlone (w : Worker) (b : Backend σ) (router : Router) (s : RunState) (c : Clock σ) :
    Clock σ × Except Standstill (Except Failure Update) :=
  w.runFrom b router s w.stageLimit c (.attempting 0)

end Worker

end AgentPipeline
