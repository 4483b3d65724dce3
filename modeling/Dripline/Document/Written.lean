import Dripline.Fault
import Dripline.Yaml.Meaning
import Dripline.Yaml.Layout

/-!
# Written automations

Automations as texts:

* `Automation.ofText`: reads one from a YAML text, or from JSON, which is a part of it;
* `Automation.toText`: writes one, so that reading it back gives the same flow;
* `Automation.sameContent`: when two automations have the same name and the same flow;
* `sameDescribed`: when two texts describe the same. What is written as no number is the same in both,
  although no number is the same as it.
-/

namespace Dripline

/-- The automation that a text describes, under the given id if there is one. -/
def Automation.ofText (text : String) (id : Option String) : Except Fault Automation := do
  let v ← (Yaml.read? text).mapError .yaml
  (Automation.ofDocument v id).mapError .document

/-- The text of an automation. -/
def Automation.toText (a : Automation) : String := Yaml.Layout.render a.document

/-- Two optional values that are both missing, or both there and alike. -/
def bothOrNeither (alike : α → α → Bool) : Option α → Option α → Bool
  | none, none => true
  | some a, some b => alike a b
  | _, _ => false

/-- The same data: amounts are compared as numbers, and times as instants. -/
def NodeData.same : NodeData → NodeData → Bool
  | .delay d, .delay e =>
    d.mode == e.mode && bothOrNeither Moment.same d.time e.time &&
      bothOrNeither Double.same d.amount e.amount && d.unit == e.unit
  | a, b => a == b

/-- The same node. -/
def Node.same (m n : Node) : Bool := m.id == n.id && m.kind == n.kind && m.data.same n.data

/-- The same nodes in the same order. -/
def sameNodes : List Node → List Node → Bool
  | [], [] => true
  | m :: ms, n :: ns => m.same n && sameNodes ms ns
  | _, _ => false

/-- The same name, nodes and edges. -/
def Automation.sameContent (a b : Automation) : Bool :=
  a.name == b.name && sameNodes a.flow.nodes b.flow.nodes && a.flow.edges == b.flow.edges

/-- A value with zero for whatever is written as no number, so that it is the same as itself. -/
def Value.settled (v : Value) : Value :=
  v.mapFloats fun x => .float (if x = .nan then Double.zero else x)

/-- The automation that a text describes, settled. -/
def Automation.settledOfText (text : String) : Except Fault Automation := do
  let v ← (Yaml.read? text).mapError .yaml
  (Automation.ofDocument v.settled none).mapError .document

/-- Whether two texts describe automations with the same content. -/
def sameDescribed (s t : String) : Bool :=
  match Automation.settledOfText s, Automation.settledOfText t with
  | .ok a, .ok b => a.sameContent b
  | _, _ => false

end Dripline
