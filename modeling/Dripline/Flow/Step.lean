import Dripline.Flow.Graph
import Dripline.Flow.Condition
import Dripline.Flow.Delay

/-!
# Steps

What one node does with a subject:

* `Step.plan` decides everything that needs no delivery; an action only asks for one, after its
  message and its way on have been found, so that nothing is sent from a node without a way on;
* `Step.delivered` turns a successful delivery into the result of the action;
* a result goes on, waits, ends the walk, or is stuck after it was logged.
-/

namespace Dripline

/-- Why a step did not come to a result. -/
inductive StepFault where
  | unknownKind (kind : String)
  | noMessage (id : String)
  | noMode (id : String)
  | noRules (id : String)
  | noExit (id : String)
  | arithmetic (fault : ArithFault)
deriving DecidableEq, Repr

/-- The wording of a fault. -/
def StepFault.message : StepFault → String
  | .unknownKind kind => s!"Unknown node type: {kind}"
  | .noMessage id => s!"Action node {id} is missing message"
  | .noMode id => s!"Delay node {id} is missing mode"
  | .noRules id => s!"Condition node {id} must have at least one rule"
  | .noExit id => s!"No outgoing edge from node {id}"
  | .arithmetic fault => fault.message

/-- How a step ended. -/
inductive StepResult where
  /-- The walk goes on at a node. -/
  | proceed (message : String) (next : String)
  /-- The walk waits for a moment. -/
  | suspend (message : String) (resumeAt : Moment)
  /-- The walk is over. -/
  | finish (message : String)
  /-- The step is logged, but the walk has no way on. -/
  | stuck (message : String) (error : String)
deriving DecidableEq, Repr

/-- What a step logs. -/
def StepResult.message : StepResult → String
  | .proceed m _ => m
  | .suspend m _ => m
  | .finish m => m
  | .stuck m _ => m

/-- What a step needs: nothing more, or a delivery before it goes on. -/
inductive StepPlan where
  | settled (result : StepResult)
  | deliver (message : String) (next : String)
deriving DecidableEq, Repr

namespace Step

/-- The way on from a node that does not branch. -/
def exit (g : Graph) (id : String) : Except StepFault String :=
  match g.successor? id with
  | some target => .ok target
  | none => .error (.noExit id)

/-- A calculation inside a step. -/
def reckon {α : Type} (r : Except ArithFault α) : Except StepFault α :=
  r.mapError .arithmetic

/-- The step of an action: its delivery. -/
def planAction (g : Graph) (id : String) : NodeData → Except StepFault StepPlan
  | .action (some message) =>
    if message = "" then .error (.noMessage id)
    else (exit g id).map fun next => .deliver message next
  | _ => .error (.noMessage id)

/-- The step of a delay: it waits, unless its time is over. -/
def planDelay (g : Graph) (now : Moment) (id : String) : NodeData → Except StepFault StepPlan
  | .delay d => do
    let next ← exit g id
    let millis ← reckon (d.millis now)
    if millis ≤ 0 then .ok (.settled (.proceed "Delay already elapsed, continuing" next))
    else do
      let resumeAt ← reckon (d.resumeTime now)
      .ok (.settled (.suspend ("Delaying " ++ d.describe) resumeAt))
  | _ => .error (.noMode id)

/-- The label of an outcome. -/
def outcomeLabel (outcome : Bool) : String := if outcome then "TRUE" else "FALSE"

/-- The step of a condition: it takes the edge of its outcome. -/
def planCondition (g : Graph) (subject : String) (id : String) :
    NodeData → Except StepFault StepPlan
  | .condition c =>
    let outcome := c.outcome subject
    let label := outcomeLabel outcome
    let message := "Condition evaluated to: " ++ label
    match g.branch? id outcome with
    | some next => .ok (.settled (.proceed message next))
    | none => .ok (.settled (.stuck message s!"No {label} path found for condition node {id}"))
  | _ => .error (.noRules id)

/-- The step of a node. -/
def plan (g : Graph) (subject : String) (now : Moment) (n : Node) : Except StepFault StepPlan :=
  match n.kind with
  | .start => (exit g n.id).map fun next => .settled (.proceed "Flow started" next)
  | .finish => .ok (.settled (.finish "Flow completed successfully"))
  | .action => planAction g n.id n.data
  | .delay => planDelay g now n.id n.data
  | .condition => planCondition g subject n.id n.data
  | .unknown text _ => .error (.unknownKind text)

/-- The first `n` characters of a text; a negative count leaves that many out at the end. -/
def preview (s : String) (n : Int) : String :=
  match n with
  | .ofNat k => String.ofList (s.toList.take k)
  | .negSucc k => String.ofList (s.toList.take (s.toList.length - (k + 1)))

/-- The result of an action after its delivery. -/
def delivered (previewChars : Int) (message next deliveryId : String) : StepResult :=
  .proceed ("Email sent: \"" ++ preview message previewChars ++ "...\" (ID: " ++ deliveryId ++ ")")
    next

end Step

end Dripline
