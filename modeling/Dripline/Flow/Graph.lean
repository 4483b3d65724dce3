import Dripline.Flow.Model
import Dripline.Keyed

/-!
# The graph of a flow

An index over the nodes and edges of a flow, built in one pass over each list:

* of several nodes with one id the first counts;
* the edges out of a node keep the order of the flow;
* a step follows the first edge out of a node, a condition the first edge with its outcome's tag.

The index is rebuilt from the stored flow whenever an execution goes on, so that it never lags
behind an edit.
-/

namespace Dripline

/-- Nodes by id and edges by source. -/
structure Graph where
  byId : Keyed Node
  bySource : Keyed (List Edge)

namespace Graph

/-- The index with one more edge at the end of those with its source. -/
def addEdge (index : Keyed (List Edge)) (e : Edge) : Keyed (List Edge) :=
  index.put e.source ((index.get? e.source).getD [] ++ [e])

/-- The graph of a flow. -/
def ofFlow (f : Flow) : Graph where
  byId := f.nodes.foldl (fun index n => index.putNew n.id n) .empty
  bySource := f.edges.foldl addEdge .empty

/-- The node with an id. -/
def node? (g : Graph) (id : String) : Option Node := g.byId.get? id

/-- The nodes of a kind. -/
def nodesOfKind (g : Graph) (k : NodeKind) : List Node := g.byId.values.filter fun n => n.kind = k

/-- The node where a walk begins. -/
def start? (g : Graph) : Option Node := (g.nodesOfKind .start).head?

/-- The edges out of a node. -/
def outgoing (g : Graph) (id : String) : List Edge := (g.bySource.get? id).getD []

/-- Where the first edge out of a node leads. -/
def successor? (g : Graph) (id : String) : Option String := (g.outgoing id).head?.map Edge.target

/-- The tag of an outcome. -/
def outcomeTag (outcome : Bool) : String := if outcome then "true" else "false"

/-- Where the first edge out of a node that is tagged with an outcome leads. -/
def branch? (g : Graph) (id : String) (outcome : Bool) : Option String :=
  ((g.outgoing id).find? fun e => e.handle = some (outcomeTag outcome)).map Edge.target

end Graph

end Dripline
