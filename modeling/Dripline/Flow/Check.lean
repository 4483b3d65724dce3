import Dripline.Flow.Delay
import Dripline.Flow.Condition
import Dripline.Text.Blank

/-!
# The structural check of a flow

What is wrong with a flow, as a list of problems in a fixed order; an empty list means that the
flow may be saved and started:

* the number of start and end nodes;
* each node in turn: its id, then what its kind asks of its data;
* each edge: both ends are nodes; then the number and tags of the edges out of each node;
* with exactly one start node, which nodes it does not reach.

Only the order of moments can stop the check: a time without offset does not compare with `now`.
-/

namespace Dripline

/-- One thing that is wrong with a flow. -/
inductive Problem where
  | noNodes
  | startCount
  | endCount
  | duplicateId (id : String)
  | missingId
  | unknownKind (kind : String)
  | missingMessage (id : String)
  | noRules (id : String)
  | incompleteRule (id : String) (index : Nat)
  | unknownOperator (id : String) (index : Nat) (operator : String)
  | badLogic (id : String)
  | missingMode (id : String)
  | unknownMode (id mode : String)
  | missingTime (id : String)
  | pastTime (id : String)
  | amountNotFinite (id : String)
  | amountNotPositive (id : String)
  | missingUnit (id : String)
  | unknownUnit (id unit : String)
  | amountTooLarge (id : String)
  | badSource (edge source : String)
  | badTarget (edge target : String)
  | startExits
  | endExits
  | conditionExits (id : String)
  | conditionTags (id : String)
  | singleExit (kind : NodeKind) (id : String)
  | unreachable (ids : List String)
  | endUnreachable
deriving DecidableEq, Repr

namespace Problem

/-- The name of a kind at the beginning of a sentence. -/
def kindTitle : NodeKind → String
  | .action => "Action"
  | .delay => "Delay"
  | k => k.text

/-- The wording of a problem. -/
def message : Problem → String
  | .noNodes => "Automation must have at least one node"
  | .startCount => "Flow must have exactly one Start node"
  | .endCount => "Flow must have exactly one End node"
  | .duplicateId id => s!"Duplicate node id: {id}"
  | .missingId => "Node is missing id"
  | .unknownKind kind => s!"Unknown node type: {kind}"
  | .missingMessage id => s!"Action node {id} is missing message"
  | .noRules id => s!"Condition node {id} must have at least one rule"
  | .incompleteRule id i => s!"Condition node {id} rule {i} is incomplete"
  | .unknownOperator id i op => s!"Condition node {id} rule {i} has unknown operator: {op}"
  | .badLogic id => s!"Condition node {id} logic must be AND or OR"
  | .missingMode id => s!"Delay node {id} is missing mode"
  | .unknownMode id mode => s!"Delay node {id} has unknown mode: {mode}"
  | .missingTime id => s!"Delay node {id} is missing absolute time"
  | .pastTime id => s!"Delay node {id} absolute time must be in the future"
  | .amountNotFinite id => s!"Delay node {id} relative value must be a finite number"
  | .amountNotPositive id => s!"Delay node {id} relative value must be greater than 0"
  | .missingUnit id => s!"Delay node {id} is missing relative unit"
  | .unknownUnit id unit => s!"Delay node {id} has unknown relative unit: {unit}"
  | .amountTooLarge id => s!"Delay node {id} relative value is too large"
  | .badSource edge source => s!"Edge {edge} has invalid source node {source}"
  | .badTarget edge target => s!"Edge {edge} has invalid target node {target}"
  | .startExits => "Start node must have exactly one outgoing edge"
  | .endExits => "End node cannot have outgoing edges"
  | .conditionExits id =>
    s!"Condition node {id} must have exactly 2 outgoing edges (true/false)"
  | .conditionTags id => "Condition node " ++ id ++ " must have 'true' and 'false' handles"
  | .singleExit kind id =>
    kindTitle kind ++ s!" node {id} must have exactly one outgoing edge"
  | .unreachable ids => "Unreachable nodes: " ++ ", ".intercalate ids
  | .endUnreachable => "End node is not reachable from Start node"

end Problem

namespace Check

/-! ## 1. Nodes -/

/-- Whether an optional text is missing or empty. -/
def isUnset (s : Option String) : Bool := s.getD "" = ""

/-- What is wrong with an action. -/
def actionProblems (id : String) : NodeData → List Problem
  | .action (some message) => if Text.isBlankText message then [.missingMessage id] else []
  | _ => [.missingMessage id]

/-- What is wrong with one rule, counted from 1. -/
def ruleProblems (id : String) (index : Nat) (r : Rule) : List Problem :=
  if isUnset r.operator || isUnset r.value then [.incompleteRule id index]
  else if (Operator.ofText? (r.operator.getD "")).isNone then
    [.unknownOperator id index (r.operator.getD "")]
  else []

/-- What is wrong with rules, the first of them having the given number. -/
def rulesProblems (id : String) : Nat → List Rule → List Problem
  | _, [] => []
  | index, r :: rs => ruleProblems id index r ++ rulesProblems id (index + 1) rs

/-- What is wrong with the way a condition combines its rules. -/
def logicProblems (id : String) : Option String → List Problem
  | none => []
  | some l => if l = "AND" || l = "OR" then [] else [.badLogic id]

/-- What is wrong with a condition. -/
def conditionProblems (id : String) : NodeData → List Problem
  | .condition c =>
    if c.rules.isEmpty then [.noRules id]
    else rulesProblems id 1 c.rules ++ logicProblems id c.logic
  | _ => [.noRules id]

/-- Milliseconds left until the last moment of the calendar. -/
def millisLeft (now : Moment) : Except ArithFault Double := Moment.last.millisSince now

/-- What is wrong with the amount of a relative delay on its own. -/
def amountProblems (id : String) (amount : Option Double) : List Problem :=
  match amount with
  | none => [.amountNotPositive id]
  | some x =>
    if !x.isFinite then [.amountNotFinite id]
    else if !x.isPositive then [.amountNotPositive id]
    else []

/-- What is wrong with the unit of a relative delay, and with the product: the moment at which the
    delay ends must be in the calendar. -/
def unitProblems (id : String) (amount : Option Double) (unit : Option String) (now : Moment) :
    Except ArithFault (List Problem) :=
  if isUnset unit then .ok [.missingUnit id]
  else
    match DelayUnit.ofText? (unit.getD ""), amount with
    | none, _ => .ok [.unknownUnit id (unit.getD "")]
    | some u, some x =>
      if x.isFinite && x.isPositive then do
        let left ← millisLeft now
        .ok (if left.le (x.times u.millis) then [.amountTooLarge id] else [])
      else .ok []
    | some _, none => .ok []

/-- What is wrong with a delay. -/
def delayProblems (id : String) (now : Moment) : NodeData → Except ArithFault (List Problem)
  | .delay d =>
    if isUnset d.mode then .ok [.missingMode id]
    else if d.mode = some "absolute" then
      match d.time with
      | none => .ok [.missingTime id]
      | some t => do .ok (if ← t.atMost now then [.pastTime id] else [])
    else if d.mode = some "relative" then do
      .ok (amountProblems id d.amount ++ (← unitProblems id d.amount d.unit now))
    else .ok [.unknownMode id (d.mode.getD "")]
  | _ => .ok [.missingMode id]

/-- What is wrong with a node on its own. -/
def nodeProblems (now : Moment) (n : Node) : Except ArithFault (List Problem) :=
  if n.id = "" then .ok [.missingId]
  else
    match n.kind with
    | .action => .ok (actionProblems n.id n.data)
    | .delay => delayProblems n.id now n.data
    | .condition => .ok (conditionProblems n.id n.data)
    | .start => .ok []
    | .finish => .ok []
    | .unknown text _ => .ok [.unknownKind text]

/-- What is wrong with the nodes one by one, where the ids before them are `seen`. -/
def nodesProblems (now : Moment) (seen : List String) : List Node → Except ArithFault (List Problem)
  | [] => .ok []
  | n :: ns => do
    let own ← nodeProblems now n
    let rest ← nodesProblems now (n.id :: seen) ns
    .ok ((if n.id ∈ seen then [.duplicateId n.id] else []) ++ own ++ rest)

/-! ## 2. Edges -/

/-- What is wrong with the ends of an edge. -/
def endpointProblems (ids : List String) (e : Edge) : List Problem :=
  (if e.source ∈ ids then [] else [.badSource e.id e.source]) ++
    (if e.target ∈ ids then [] else [.badTarget e.id e.target])

/-- The two tags of the edges out of a condition, in either order. -/
def areOutcomeTags (edges : List Edge) : Bool :=
  match edges with
  | [a, b] =>
    (a.handle = some "true" && b.handle = some "false") ||
      (a.handle = some "false" && b.handle = some "true")
  | _ => false

/-- What is wrong with the edges out of a node. -/
def exitProblems (edges : List Edge) (n : Node) : List Problem :=
  let out := edges.filter fun e => e.source = n.id
  match n.kind with
  | .start => if out.length = 1 then [] else [.startExits]
  | .finish => if out.isEmpty then [] else [.endExits]
  | .condition =>
    if out.length ≠ 2 then [.conditionExits n.id]
    else if areOutcomeTags out then []
    else [.conditionTags n.id]
  | .action => if out.length = 1 then [] else [.singleExit .action n.id]
  | .delay => if out.length = 1 then [] else [.singleExit .delay n.id]
  | .unknown _ _ => []

/-- What is wrong with the edges of a flow. -/
def edgesProblems (f : Flow) : List Problem :=
  f.edges.flatMap (endpointProblems (f.nodes.map Node.id)) ++
    f.nodes.flatMap (exitProblems f.edges)

/-! ## 3. Reachability -/

/-- The targets of the edges out of a node, when that is a node of the flow. -/
def neighbours (f : Flow) (id : String) : List String :=
  if id ∈ f.nodes.map Node.id then
    (f.edges.filter fun e => e.source = id).map Edge.target
  else []

/-- The ids of a list that are not in `reached`, each once, in order. -/
def newcomers (reached : List String) : List String → List String
  | [] => []
  | id :: ids =>
    if id ∈ reached then newcomers reached ids else id :: newcomers (id :: reached) ids

/-- Breadth-first: takes ids from the front of the queue and appends what they newly reach. Every
    id enters the queue at most once, as a target of an edge, which bounds the number of turns. -/
def spread (f : Flow) : Nat → List String → List String → List String
  | 0, reached, _ => reached
  | _ + 1, reached, [] => reached
  | turns + 1, reached, id :: queue =>
    let new := newcomers reached (neighbours f id)
    spread f turns (reached ++ new) (queue ++ new)

/-- The ids that are reached from an id along the edges out of nodes of the flow. -/
def reachedFrom (f : Flow) (id : String) : List String :=
  spread f (f.edges.length + 1) [id] [id]

/-- What is wrong with the connection of the nodes to the start node. -/
def connectionProblems (f : Flow) (start : Node) (finish : Option Node) : List Problem :=
  let reached := reachedFrom f start.id
  let lost := (f.nodes.map Node.id).filter fun id => id ∉ reached
  (if lost.isEmpty then [] else [.unreachable lost]) ++
    match finish with
    | some e => if e.id ∈ reached then [] else [.endUnreachable]
    | none => []

/-! ## 4. The check -/

/-- The nodes of a kind, in order. -/
def ofKind (f : Flow) (k : NodeKind) : List Node := f.nodes.filter fun n => n.kind = k

end Check

open Check in
/-- Everything that is wrong with a flow at a moment. -/
def Flow.problems (f : Flow) (now : Moment) : Except ArithFault (List Problem) :=
  if f.nodes.isEmpty then .ok [.noNodes]
  else do
    let starts := ofKind f .start
    let finishes := ofKind f .finish
    let own ← nodesProblems now [] f.nodes
    .ok ((if starts.length = 1 then [] else [.startCount]) ++
      (if finishes.length = 1 then [] else [.endCount]) ++ own ++ edgesProblems f ++
      match starts with
      | [start] => connectionProblems f start finishes.head?
      | _ => [])

/-- Whether a flow passes the check at a moment. -/
def Flow.isAccepted (f : Flow) (now : Moment) : Bool :=
  match f.problems now with
  | .ok [] => true
  | _ => false

end Dripline
