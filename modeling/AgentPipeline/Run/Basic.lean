import AgentPipeline.Graph.Basic
import AgentPipeline.State.Format

/-!
# Runs

A run is a compiled graph at work.  Between two completions it is described by a schedule, by the
state that all completions so far have been merged into, and by the events that it has told.

The schedule keeps the books on the nodes: which have been launched, which of them are still
running, and which have been routed to and wait.  A waiting node is ready once none of its
predecessors can produce output any more, so that a join sees the output of every branch that feeds
it.

Nothing here depends on the order in which running nodes complete, nor on what they hand back: the
one step of a run takes any running node and any update.

## Main definitions

* `Event` — what a run tells while it is going on.
* `Schedule` with `launch`, `finish` and `route`.
* `Schedule.blocks` — whether a predecessor may still produce output.
* `Schedule.ready` — the waiting nodes that can be launched.
* `Run` — a run between two completions.
* `Run.begin` — a run whose entries have been launched.
* `Run.complete` — the run after a completion, and the nodes that it has launched.
-/

namespace AgentPipeline

/-! ### Events -/

/-- What a run tells. -/
inductive Event where
  | started (runId designName : String) (agentCount : Nat)
  | agentCompleted (agentName : String) (status : AgentStatus) (durationMs : Nat) (costUsd : Float)
  | completed (totalCostUsd : Float) (totalTokens durationMs : Nat)
  | failed (error : String)
  | timedOut (timeoutSecs : Nat)
deriving DecidableEq

namespace Event

/-- The event of a completed agent. -/
def ofResult (r : AgentResult) : Event :=
  agentCompleted r.agentName r.status r.durationMs r.costEstimate

/-- An event as a value. -/
def toJson : Event → Json
  | started runId designName agentCount =>
    .obj [("agent_count", .nat agentCount), ("design_name", .str designName),
      ("event", .str "started"), ("run_id", .str runId)]
  | agentCompleted agentName status durationMs costUsd =>
    .obj [("agent_name", .str agentName), ("cost_usd", .ofFloat costUsd),
      ("duration_ms", .nat durationMs), ("event", .str "agent_completed"),
      ("status", .str status.name)]
  | completed totalCostUsd totalTokens durationMs =>
    .obj [("duration_ms", .nat durationMs), ("event", .str "completed"),
      ("total_cost_usd", .ofFloat totalCostUsd), ("total_tokens", .nat totalTokens)]
  | failed error => .obj [("error", .str error), ("event", .str "failed")]
  | timedOut timeoutSecs =>
    .obj [("event", .str "timed_out"), ("timeout_secs", .nat timeoutSecs)]

end Event

/-! ### The schedule -/

/-- The books on the nodes of a run. -/
structure Schedule where
  /-- Every node that has been launched, in order. -/
  launched : List Nat := []
  /-- The launched nodes that have not completed. -/
  running : List Nat := []
  /-- The nodes that have been routed to but not launched, in order of routing. -/
  waiting : List Nat := []
deriving Repr, DecidableEq

namespace Schedule

/-- Launches a node. -/
def launch (s : Schedule) (node : Nat) : Schedule where
  launched := s.launched ++ [node]
  running := s.running ++ [node]
  waiting := s.waiting.filter fun w => w != node

/-- Launches nodes in order. -/
def launchAll (s : Schedule) (nodes : List Nat) : Schedule :=
  nodes.foldl launch s

/-- Takes a node that has completed off the running ones. -/
def finish (s : Schedule) (node : Nat) : Schedule :=
  { s with running := s.running.filter fun r => r != node }

/-- Routes to a node, which waits unless it has been launched or waits already. -/
def route (s : Schedule) (node : Nat) : Schedule :=
  if s.launched.contains node || s.waiting.contains node then s
  else { s with waiting := s.waiting ++ [node] }

/-- Routes to nodes in order. -/
def routeAll (s : Schedule) (nodes : List Nat) : Schedule :=
  nodes.foldl route s

/-- Whether a predecessor of a node may still produce output: it is running, or it has not been
launched and is, or can be reached from, running or waiting work other than the node itself. -/
def blocks (s : Schedule) (g : Graph) (predecessor node : Nat) : Bool :=
  if s.running.contains predecessor then true
  else if s.launched.contains predecessor then false
  else
    (s.running.any fun r => g.reaches r predecessor) ||
      s.waiting.any fun w => w != node && (w == predecessor || g.reaches w predecessor)

/-- The waiting nodes that can be launched, in order of routing. -/
def ready (s : Schedule) (g : Graph) : List Nat :=
  s.waiting.filter fun node => (g.predecessorsOf node).all fun p => !s.blocks g p node

end Schedule

/-! ### The run -/

/-- A run between two completions. -/
structure Run where
  schedule : Schedule
  /-- What all completions so far have been merged into. -/
  state : RunState
  /-- The events of the completions so far. -/
  events : List Event
deriving DecidableEq

namespace Run

/-- A run whose entries have been launched, each with the given state as its snapshot. -/
def begin (g : Graph) (s : RunState) : Run where
  schedule := Schedule.launchAll {} g.entries
  state := s
  events := []

/-- The run after the completion of a node with an update, and the nodes that were launched in
response, each with the new state as its snapshot. -/
def complete (g : Graph) (r : Run) (node : Nat) (u : Update) : Run × List Nat :=
  let state := r.state.apply u
  let routed := (r.schedule.finish node).routeAll (g.successors node state)
  let launched := routed.ready g
  ({ schedule := routed.launchAll launched
     state
     events := r.events ++ (u.agentResults.head?.map Event.ofResult).toList }, launched)

end Run

end AgentPipeline
