import AgentPipeline.Condition.Basic
import AgentPipeline.Role

/-!
# Compiled graphs

A design that can be run is compiled to a graph.  Its nodes are the agents in declaration order and
are referred to by their positions.

## Main definitions

* `Routing` — where control goes when a node has completed.
* `Node`, `Graph` — the compiled graph.
* `Graph.reaches` — whether a path of one or more edges leads from one node to another.
* `Graph.successors` — the nodes to which control passes.
-/

namespace AgentPipeline

/-- Where control goes when a node has completed. -/
inductive Routing where
  /-- Nowhere. -/
  | terminal
  | next (target : Nat)
  /-- To the targets of all true conditions, or to the fallback if none is true. -/
  | branch (branches : List (Condition × Nat)) (fallback : Option Nat)
  /-- To all targets at once. -/
  | fanOut (targets : List Nat)
deriving DecidableEq

namespace Routing

/-- The nodes to which control passes in a given state. -/
def targets (s : RunState) : Routing → List Nat
  | terminal => []
  | next target => [target]
  | fanOut targets => targets
  | branch branches fallback =>
    match (branches.filter fun b => b.1.holds s).map (·.2) with
    | [] => fallback.toList
    | fired => fired

/-- All the nodes to which control may pass. -/
def allTargets : Routing → List Nat
  | terminal => []
  | next target => [target]
  | fanOut targets => targets
  | branch branches fallback => branches.map (·.2) ++ fallback.toList

end Routing

/-- A node of a compiled graph. -/
structure Node where
  /-- The declared name, with a suffix if an earlier agent has the same. -/
  id : String
  spec : AgentSpec
  role : Role
  routing : Routing
deriving DecidableEq

/-- A compiled graph. -/
structure Graph where
  nodes : List Node
  /-- The nodes with which a run begins. -/
  entries : List Nat
  /-- Whether the design declares edges. -/
  explicit : Bool
  /-- For every node the distinct sources of its incoming edges. -/
  predecessors : List (List Nat)
  /-- For every node the nodes that some path leads to. -/
  reachable : List (List Nat)
deriving DecidableEq

namespace Graph

/-- The number of nodes. -/
def size (g : Graph) : Nat :=
  g.nodes.length

/-- The distinct sources of the edges into a node. -/
def predecessorsOf (g : Graph) (node : Nat) : List Nat :=
  g.predecessors.getD node []

/-- Whether a path of one or more edges leads from one node to another. -/
def reaches (g : Graph) (source target : Nat) : Bool :=
  (g.reachable.getD source []).contains target

/-- The nodes to which control passes when a node has completed, given the state with its result.
Once the run has to stop there are none. -/
def successors (g : Graph) (node : Nat) (s : RunState) : List Nat :=
  if s.shouldStop then []
  else
    match g.nodes[node]? with
    | some n => n.routing.targets s
    | none => []

end Graph

end AgentPipeline
