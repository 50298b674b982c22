import AgentPipeline.Graph.Summary

/-!
# Compiling designs

Compilation first rejects every defect and turns names and condition texts into positions and
conditions; then it builds the graph from the edges found that way.  Cycles and reachability are
found in the list of the children of every node.

## Main definitions

* `Paths.findCycle` — the first closed path that a depth-first search comes upon.
* `Paths.reachableFrom` — the nodes that some path of one or more edges leads to.
* `Edge`, `Design.resolvedEdges` — edges between positions.
* `Routing.ofEdges` — the routing of a node, read off its outgoing edges.
* `Graph.chain`, `Graph.ofEdges` — the graph of a design without and with edges.
* `Design.compile` — the graph of a design, or its first defect.
-/

namespace AgentPipeline

/-! ### Cycles and reachability -/

namespace Paths

/-- The children of a node. -/
def childrenOf (children : List (List Nat)) (node : Nat) : List Nat :=
  children.getD node []

/-- Depth-first search from a node.  `path` leads from the start of the search to the node and
`visited` holds the nodes that have been entered.  The outcome is a closed path or the nodes entered
by then.  A path has distinct nodes, so `depth` need not exceed the number of nodes by more than
one. -/
def visit (children : List (List Nat)) :
    (depth : Nat) → (path visited : List Nat) → (node : Nat) → Except (List Nat) (List Nat)
  | 0, _, visited, _ => .ok visited
  | depth + 1, path, visited, node =>
    if path.contains node then .error (path.dropWhile (· != node) ++ [node])
    else if visited.contains node then .ok visited
    else
      (childrenOf children node).foldlM
        (fun visited child => visit children depth (path ++ [node]) visited child)
        (node :: visited)

/-- The first closed path that depth-first searches from all nodes in order come upon. -/
def findCycle (children : List (List Nat)) : Option (List Nat) :=
  match (List.range children.length).foldlM
      (fun visited start => visit children (children.length + 1) [] visited start) [] with
  | .error path => some path
  | .ok _ => none

/-- Adds a node to a list that does not have it yet. -/
def addNew (nodes : List Nat) (node : Nat) : List Nat :=
  if nodes.contains node then nodes else nodes ++ [node]

/-- Adds the children of the nodes of a list to it. -/
def spread (children : List (List Nat)) (nodes : List Nat) : List Nat :=
  (nodes.flatMap (childrenOf children)).foldl addNew nodes

/-- Spreads a number of times. -/
def spreadTimes (children : List (List Nat)) : Nat → List Nat → List Nat
  | 0, nodes => nodes
  | n + 1, nodes => spreadTimes children n (spread children nodes)

/-- The nodes that some path of one or more edges leads to from a node. -/
def reachableFrom (children : List (List Nat)) (start : Nat) : List Nat :=
  spreadTimes children children.length ((childrenOf children start).foldl addNew [])

end Paths

/-! ### Compiling -/

/-- An edge between the positions of two agents. -/
structure Edge where
  source : Nat
  target : Nat
  condition : Option Condition
deriving DecidableEq

/-! ### Checking -/

/-- The bounds on agents, checked in declaration order after their number. -/
def Design.checkAgents (d : Design) : Except Defect Unit :=
  if d.agents.isEmpty then .error .noAgents
  else if agentLimit < d.agents.length then .error (.tooManyAgents d.agents.length)
  else d.agents.forM AgentSpec.check

/-- The position of the first agent with a name. -/
def Design.position (d : Design) (name : String) : Except Defect Nat :=
  match d.agents.findIdx? fun a => a.name = name with
  | some i => .ok i
  | none => .error (.undeclaredAgent name)

/-- The condition of an edge; a blank text counts as none. -/
def EdgeSpec.parsedCondition (e : EdgeSpec) : Except Defect (Option Condition) :=
  match e.condition with
  | none => .ok none
  | some text =>
    match Text.trim text.toList with
    | [] => .ok none
    | trimmed => (Condition.parse trimmed).map some

/-- An edge with positions for names and a condition for its text. -/
def Design.resolveEdge (d : Design) (e : EdgeSpec) : Except Defect Edge := do
  let condition ← e.parsedCondition
  let source ← d.position e.source
  let target ← d.position e.target
  return { source, target, condition }

/-- The edges to honour, if there are any. -/
def Design.resolvedEdges (d : Design) : Except Defect (Option (List Edge)) :=
  match d.explicitEdges with
  | none => .ok none
  | some edges => (edges.mapM d.resolveEdge).map some

/-! ### Building -/

/-- The targets of a list without repetitions, in order of first occurrence. -/
def distinct (nodes : List Nat) : List Nat :=
  nodes.foldl Paths.addNew []

/-- The edges out of a node, in declaration order. -/
def outgoing (edges : List Edge) (node : Nat) : List Edge :=
  edges.filter fun e => e.source = node

/-- The edges with a condition, as branches. -/
def conditionalBranches (edges : List Edge) : List (Condition × Nat) :=
  edges.filterMap fun e => e.condition.map fun c => (c, e.target)

/-- The distinct targets of the edges without a condition. -/
def unconditionalTargets (edges : List Edge) : List Nat :=
  distinct ((edges.filter fun e => e.condition.isNone).map Edge.target)

/-- The routing of a node with the given outgoing edges. -/
def Routing.ofEdges (edges : List Edge) : Routing :=
  match conditionalBranches edges, unconditionalTargets edges with
  | [], [] => .terminal
  | [], [target] => .next target
  | [], targets => .fanOut targets
  | branches, targets => .branch branches targets.getLast?

/-- The nodes of a design, given their names and routings. -/
def Design.nodes (d : Design) (routing : Nat → Routing) : List Node :=
  (d.agents.zip (uniqueNames (d.agents.map AgentSpec.name))).mapIdx fun i (spec, id) =>
    { id, spec, role := Role.ofSpec spec, routing := routing i }

/-- The children of every node, as often as there are edges. -/
def childLists (count : Nat) (edges : List Edge) : List (List Nat) :=
  (List.range count).map fun i => (outgoing edges i).map Edge.target

/-- The distinct sources of the edges into every node. -/
def predecessorLists (count : Nat) (edges : List Edge) : List (List Nat) :=
  (List.range count).map fun i =>
    distinct ((edges.filter fun e => e.target = i).map Edge.source)

/-- The nodes that every node reaches. -/
def reachableLists (children : List (List Nat)) : List (List Nat) :=
  (List.range children.length).map (Paths.reachableFrom children)

/-- The routing of a node of a chain of `count` nodes. -/
def Routing.inChain (count i : Nat) : Routing :=
  if i + 1 < count then .next (i + 1) else .terminal

/-- The graph of a design without edges: its agents in declaration order. -/
def Graph.chain (d : Design) : Graph :=
  let count := d.agents.length
  { nodes := d.nodes (Routing.inChain count)
    entries := [0]
    explicit := false
    predecessors := (List.range count).map fun i => if 0 < i then [i - 1] else []
    reachable := reachableLists
      ((List.range count).map fun i => if i + 1 < count then [i + 1] else []) }

/-- The graph of a design with edges, unless they form a cycle. -/
def Graph.ofEdges (d : Design) (edges : List Edge) : Except Defect Graph :=
  let count := d.agents.length
  let names := uniqueNames (d.agents.map AgentSpec.name)
  let predecessors := predecessorLists count edges
  let children := childLists count edges
  let entries := (List.range count).filter fun i => (predecessors.getD i []).isEmpty
  if entries.isEmpty then .error .noEntry
  else
    match Paths.findCycle children with
    | some path => .error (.cycle (path.map fun i => names.getD i ""))
    | none =>
      .ok { nodes := d.nodes fun i => Routing.ofEdges (outgoing edges i)
            entries
            explicit := true
            predecessors
            reachable := reachableLists children }

/-- The graph of a design, or its first defect. -/
def Design.compile (d : Design) : Except Defect Graph := do
  d.checkAgents
  match ← d.resolvedEdges with
  | none => return Graph.chain d
  | some edges => Graph.ofEdges d edges

end AgentPipeline
