import Blockflow.Block.Registry

/-!
# The graph of a workflow

The blocks that a run goes through, and what can be reached along connections.

Components `graph` and `validation` of `workflow-engine`; specification §4.2 and §4.3.
-/

namespace Blockflow

namespace Graph

/-- Everything that is reached from the ids still to be visited, on top of what has been reached.
Each step visits one id. The search of `reaches`, `check_cycles` and `check_reachability`. -/
def reachFrom (next : String → List String) : Nat → (todo reached : List String) → List String
  | 0, _, reached => reached
  | _ + 1, [], reached => reached
  | fuel + 1, id :: todo, reached =>
    if reached.contains id then reachFrom next fuel todo reached
    else reachFrom next fuel (next id ++ todo) (id :: reached)

/-- Texts in ascending order, each once. -/
def ascending (ids : List String) : List String := (Dict.ofList (ids.map (·, ()))).keys

end Graph

namespace Workflow

/-- Whether a block starts runs. -/
def isTrigger (r : Registry) (b : Block) : Bool := r.isTrigger b.tag

/-- The blocks that start runs. -/
def triggers (w : Workflow) (r : Registry) : List Block := w.blocks.filter (isTrigger r)

/-- The blocks that a run goes through. -/
def steps (w : Workflow) (r : Registry) : List Block := w.blocks.filter (!isTrigger r ·)

/-- The ids of the blocks that a run goes through, ascending. Part of `non_trigger_graph`. -/
def stepIds (w : Workflow) (r : Registry) : List String := Graph.ascending ((w.steps r).map (·.id))

/-- The connections between two of the given blocks, as pairs of source and target. Part of
`non_trigger_graph`. -/
def edgesAmong (w : Workflow) (ids : List String) : List (String × String) :=
  (w.connections.filter fun c ↦ ids.contains c.source && ids.contains c.target).map
    fun c ↦ (c.source, c.target)

/-- What comes right after an id. -/
def successors (edges : List (String × String)) (id : String) : List String :=
  (edges.filter fun e ↦ e.1 == id).map (·.2)

/-- What comes right before an id. -/
def predecessors (edges : List (String × String)) (id : String) : List String :=
  (edges.filter fun e ↦ e.2 == id).map (·.1)

/-- Everything that can be reached along edges from some ids, these included. -/
def reachable (edges : List (String × String)) (start : List String) : List String :=
  Graph.reachFrom (successors edges) (start.length + edges.length + 1) start []

/-- Whether an id can be reached from itself along at least one edge. Part of `check_cycles`. -/
def isOnCycle (edges : List (String × String)) (id : String) : Bool :=
  (reachable edges (successors edges id)).contains id

end Workflow

end Blockflow
