import Dripline.Number.Double
import Dripline.Time.Moment

/-!
# Automations and their flows

The data of the domain:

* a flow is a list of nodes and a list of edges; ids may repeat and edges may dangle, since a flow
  is stored and shown before it is checked;
* the kind of a node is one of five, or a text that names none of them; its data may belong to
  another kind;
* an automation is a named flow; an execution is one walk of a subject through an automation, with
  the log of that walk.
-/

namespace Dripline

/-- The names of the kinds of nodes. -/
def kindNames : List String := ["start", "end", "action", "delay", "condition"]

/-- The kind of a node. A text that names no kind is kept. -/
inductive NodeKind where
  | start
  | finish
  | action
  | delay
  | condition
  | unknown (text : String) (noKind : text ∉ kindNames)
deriving DecidableEq, Repr

namespace NodeKind

/-- The kind that a text names. -/
def ofText (s : String) : NodeKind :=
  if h : s ∈ kindNames then
    if s = "start" then .start
    else if s = "end" then .finish
    else if s = "action" then .action
    else if s = "delay" then .delay
    else .condition
  else .unknown s h

/-- The name of a kind. -/
def text : NodeKind → String
  | .start => "start"
  | .finish => "end"
  | .action => "action"
  | .delay => "delay"
  | .condition => "condition"
  | .unknown s _ => s

theorem ofText_text (k : NodeKind) : ofText k.text = k := by
  cases k with
  | unknown s h => simp [ofText, text, h]
  | _ => decide

theorem text_ofText (s : String) : (ofText s).text = s := by
  unfold ofText
  split
  · rename_i h
    simp only [kindNames, List.mem_cons, List.not_mem_nil, or_false] at h
    rcases h with h | h | h | h | h <;> subst h <;> decide
  · rfl

end NodeKind

/-- One comparison of a condition. The field names what is compared; there is only the subject. -/
structure Rule where
  operator : Option String
  value : Option String
  field : String := "email"
deriving DecidableEq, Repr

/-- What a delay node waits for: a moment, or an amount of a unit. -/
structure Delay where
  mode : Option String
  time : Option Moment
  amount : Option Double
  unit : Option String
deriving DecidableEq, Repr

/-- The rules of a condition node and how they are combined. -/
structure Condition where
  rules : List Rule
  logic : Option String
deriving DecidableEq, Repr

/-- The data of a node. -/
inductive NodeData where
  | empty
  | action (message : Option String)
  | delay (delay : Delay)
  | condition (condition : Condition)
deriving DecidableEq, Repr

/-- A node of a flow. -/
structure Node where
  id : String
  kind : NodeKind
  data : NodeData
deriving DecidableEq, Repr

/-- An edge of a flow. The handle tags the two ways out of a condition. -/
structure Edge where
  id : String
  source : String
  target : String
  handle : Option String
deriving DecidableEq, Repr

/-- The nodes and edges of an automation. -/
structure Flow where
  nodes : List Node
  edges : List Edge
deriving DecidableEq, Repr

/-- A named flow. An automation that is in no store has no times. -/
structure Automation where
  id : String
  name : String
  flow : Flow
  createdAt : Option Moment
  updatedAt : Option Moment
deriving DecidableEq, Repr

/-- The status of an execution, by its label. -/
structure Status where
  label : String
deriving DecidableEq, Repr

namespace Status

/-- Waiting for its first step or for a delay to end. -/
def pending : Status := ⟨"pending"⟩

/-- Between two steps. -/
def running : Status := ⟨"running"⟩

/-- At the end of its flow. -/
def completed : Status := ⟨"completed"⟩

/-- Stopped by a step that went wrong. -/
def failed : Status := ⟨"failed"⟩

end Status

/-- One entry of the log of an execution. -/
structure LogEntry where
  nodeId : String
  nodeKind : String
  timestamp : Moment
  status : String
  message : Option String
  error : Option String
deriving DecidableEq, Repr

/-- The label of an entry for a step that went well. -/
def LogEntry.success : String := "success"

/-- The label of an entry for a step that went wrong. -/
def LogEntry.failure : String := "failed"

/-- One walk of a subject through an automation. -/
structure Execution where
  id : String
  automationId : String
  subject : String
  status : Status
  currentNode : Option String
  log : List LogEntry
  scheduledFor : Option Moment
  completedAt : Option Moment
  createdAt : Option Moment
deriving DecidableEq, Repr

/-- Whether an execution has come to its end. -/
def Execution.isTerminal (e : Execution) : Bool :=
  e.status = Status.completed || e.status = Status.failed

/-- Whether an execution waits for the end of a delay. -/
def Execution.isSuspended (e : Execution) : Bool :=
  e.status = Status.pending && e.scheduledFor.isSome

end Dripline
