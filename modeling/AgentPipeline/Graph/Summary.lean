import AgentPipeline.Graph.Basic

/-!
# Names and summaries of graphs

Agents may share a name.  The first agent with a name keeps it; every later one gets the smallest
suffix, from 2 on, that gives a name which no agent declares and no earlier agent has got.  A graph
is summed up by one line for every node: whether it is an entry, its name and role, and where
control goes.

## Main definitions

* `uniqueNames` — the declared names made unique.
* `Graph.summary` — one line for every node.
-/

namespace AgentPipeline

/-! ### Names -/

/-- A name with a suffix. -/
def suffixed (name : String) (suffix : Nat) : String :=
  s!"{name}_{suffix}"

/-- The smallest suffix from 2 on that gives a name which is not taken.  One more candidate than
taken names is enough. -/
def freeSuffix (name : String) (taken : List String) : Nat :=
  ((List.range' 2 (taken.length + 1)).find? fun k => !taken.contains (suffixed name k)).getD 2

/-- The names of the remaining agents, given the taken names and the names that have been seen. -/
def uniqueNamesFrom (taken seen : List String) : List String → List String
  | [] => []
  | name :: names =>
    if seen.contains name then
      let fresh := suffixed name (freeSuffix name taken)
      fresh :: uniqueNamesFrom (fresh :: taken) seen names
    else name :: uniqueNamesFrom taken (name :: seen) names

/-- The declared names made unique. -/
def uniqueNames (names : List String) : List String :=
  uniqueNamesFrom names [] names

/-! ### Summaries -/

namespace Graph

/-- The name of a node. -/
def idOf (g : Graph) (node : Nat) : String :=
  match g.nodes[node]? with
  | some n => n.id
  | none => ""

/-- Where control goes, in words. -/
def routingText (g : Graph) : Routing → String
  | .terminal => "end"
  | .next target => "-> " ++ g.idOf target
  | .fanOut targets => "-> [" ++ ", ".intercalate (targets.map g.idOf) ++ "]"
  | .branch branches fallback =>
    "-> \x7b" ++ "; ".intercalate (branches.map (fun b => g.idOf b.2 ++ " if " ++ b.1.display) ++
      fallback.toList.map fun f => g.idOf f ++ " otherwise") ++ "\x7d"

/-- The line of a node. -/
def nodeLine (g : Graph) (i : Nat) (n : Node) : String :=
  (if g.entries.contains i then "* " else "  ") ++ n.id ++ " (" ++ n.role.name ++ ") " ++
    g.routingText n.routing

/-- One line for every node. -/
def summary (g : Graph) : List String :=
  g.nodes.mapIdx g.nodeLine

end Graph

end AgentPipeline
