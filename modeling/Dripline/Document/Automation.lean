import Dripline.Document.Shape
import Dripline.Flow.Model

/-!
# Automation documents

How an automation reads as a document and a document as an automation:

* a draft is what a document says before a node is narrowed to the data of its kind: every field of
  every kind, whatever the kind of the node;
* `AutomationDraft.settle` keeps the fields of the node's kind, takes times to universal time and
  names an edge without id after its ends;
* `Automation.document` writes only what is set, so that reading it back gives the same automation.
-/

namespace Dripline

open Shape

/-! ## 1. Drafts -/

/-- The fields that the data of a node may have. -/
structure DataDraft where
  message : Option String
  mode : Option String
  time : Option Moment
  amount : Option Double
  unit : Option String
  rules : Option (List Rule)
  logic : Option String
deriving Repr

/-- Data without any field. -/
def DataDraft.blank : DataDraft := ⟨none, none, none, none, none, none, none⟩

/-- A node as a document says it. -/
structure NodeDraft where
  id : String
  kind : String
  data : DataDraft
deriving Repr

/-- An edge as a document says it. -/
structure EdgeDraft where
  id : Option String
  source : String
  target : String
  handle : Option String
deriving Repr

/-- A flow as a document says it. -/
structure FlowDraft where
  nodes : List NodeDraft
  edges : List EdgeDraft
deriving Repr

/-- An automation as a document says it. -/
structure AutomationDraft where
  id : Option String
  name : String
  flow : FlowDraft
deriving Repr

/-! ## 2. Reading drafts -/

/-- A rule. Its field has a default. -/
def Rule.shape : Value → Shaped Rule :=
  model fun es =>
    (fun field operator value => ⟨operator, value, field⟩) <$>
      withDefault "field" text "email" es <*>
      withDefault "operator" (optional text) none es <*>
      withDefault "value" (optional text) none es

/-- The data of a node. -/
def DataDraft.shape : Value → Shaped DataDraft :=
  model fun es =>
    DataDraft.mk <$> withDefault "message" (optional text) none es <*>
      withDefault "mode" (optional text) none es <*>
      eitherName "absoluteTime" "absolute_time" (optional moment) none es <*>
      eitherName "relativeValue" "relative_value" (optional decimal) none es <*>
      eitherName "relativeUnit" "relative_unit" (optional text) none es <*>
      withDefault "rules" (optional (listOf Rule.shape)) none es <*>
      withDefault "logic" (optional text) none es

/-- A node. Its position belongs to the editor and is only looked at. -/
def NodeDraft.shape : Value → Shaped NodeDraft :=
  model fun es =>
    (fun id kind _ data => ⟨id, kind, data⟩) <$> required "id" text es <*>
      required "type" text es <*>
      withDefault "position" (optional textKeyed) none es <*>
      withDefault "data" DataDraft.shape .blank es

/-- An edge. -/
def EdgeDraft.shape : Value → Shaped EdgeDraft :=
  model fun es =>
    EdgeDraft.mk <$> withDefault "id" (optional text) none es <*> required "source" text es <*>
      required "target" text es <*>
      eitherName "sourceHandle" "source_handle" (optional text) none es

/-- A flow. -/
def FlowDraft.shape (es : List (Value × Value)) : Shaped FlowDraft :=
  FlowDraft.mk <$> withDefault "nodes" (listOf NodeDraft.shape) [] es <*>
    withDefault "edges" (listOf EdgeDraft.shape) [] es

/-- An automation. It has no other fields. -/
def AutomationDraft.shape (es : List (Value × Value)) : Shaped AutomationDraft :=
  (fun id name flow _ => ⟨id, name, flow⟩) <$> withDefault "id" (optional text) none es <*>
    required "name" text es <*> FlowDraft.shape es <*>
    onlyFields ["id", "name", "nodes", "edges"] es

/-! ## 3. Settling drafts -/

/-- The data of a node of a kind. -/
def DataDraft.settle (kind : NodeKind) (d : DataDraft) : Except ArithFault NodeData :=
  match kind with
  | .action => .ok (.action d.message)
  | .delay =>
    match d.time with
    | none => .ok (.delay ⟨d.mode, none, d.amount, d.unit⟩)
    | some t => t.toUtc.map fun u => .delay ⟨d.mode, some u, d.amount, d.unit⟩
  | .condition => .ok (.condition ⟨d.rules.getD [], d.logic⟩)
  | _ => .ok .empty

/-- A node with the data of its kind. -/
def NodeDraft.settle (n : NodeDraft) : Except ArithFault Node :=
  (n.data.settle (.ofText n.kind)).map fun data => ⟨n.id, .ofText n.kind, data⟩

/-- An edge with an id. -/
def EdgeDraft.settle (e : EdgeDraft) : Edge where
  id := if e.id.getD "" = "" then e.source ++ "->" ++ e.target else e.id.getD ""
  source := e.source
  target := e.target
  handle := e.handle

/-- The nodes of a list of drafts, or the first fault. -/
def settleNodes : List NodeDraft → Except ArithFault (List Node)
  | [] => .ok []
  | n :: ns => do
    let node ← n.settle
    let rest ← settleNodes ns
    .ok (node :: rest)

/-- The flow of a draft. -/
def FlowDraft.settle (f : FlowDraft) : Except ArithFault Flow :=
  (settleNodes f.nodes).map fun nodes => ⟨nodes, f.edges.map EdgeDraft.settle⟩

/-! ## 4. Reading automations -/

/-- Why a document is no automation. -/
inductive DocumentFault where
  | notMapping
  | missingField (name : String)
  | shape (issues : List Issue)
  | arithmetic (fault : ArithFault)
deriving DecidableEq, Repr

/-- The fields without which a document is not looked at. -/
def requiredFields : List String := ["name", "nodes", "edges"]

/-- The first required field that is not there. -/
def firstMissing? (es : List (Value × Value)) : Option String :=
  requiredFields.find? fun name => (Value.entry? name es).isNone

/-- The first of two texts that is set and not empty, the empty text by default. -/
def firstSet (a b : Option String) : String :=
  if a.getD "" = "" then b.getD "" else a.getD ""

/-- The automation of a draft, under the given id if there is one. -/
def AutomationDraft.settle (d : AutomationDraft) (id : Option String) :
    Except ArithFault Automation :=
  d.flow.settle.map fun flow => ⟨firstSet id d.id, d.name, flow, none, none⟩

/-- The automation that a mapping describes. -/
def Automation.ofEntries (es : List (Value × Value)) (id : Option String) :
    Except DocumentFault Automation :=
  match firstMissing? es with
  | some name => .error (.missingField name)
  | none =>
    match AutomationDraft.shape es with
    | .misfits issues => .error (.shape issues)
    | .fits draft => (draft.settle id).mapError .arithmetic

/-- The automation that a document describes. -/
def Automation.ofDocument (v : Value) (id : Option String) : Except DocumentFault Automation :=
  match v with
  | .map es => Automation.ofEntries es id
  | _ => .error .notMapping

/-- The flow of two lists of an editor. -/
def Flow.ofLists (nodes edges : Value) : Except DocumentFault Flow :=
  match FlowDraft.shape [(.text "nodes", nodes), (.text "edges", edges)] with
  | .misfits issues => .error (.shape issues)
  | .fits draft => draft.settle.mapError .arithmetic

/-! ## 5. Writing automations -/

/-- A field that is left out when it is not set. -/
def fieldIf (name : String) (v : Option Value) : List (String × Value) :=
  match v with
  | some v => [(name, v)]
  | none => []

/-- A rule as a mapping. -/
def Rule.document (r : Rule) : Value :=
  .object [("field", .text r.field), ("operator", .ofText? r.operator), ("value", .ofText? r.value)]

/-- The data of a node as a mapping. -/
def NodeData.document : NodeData → Value
  | .empty => .object []
  | .action message => .object [("message", .ofText? message)]
  | .delay d =>
    .object ([("mode", .ofText? d.mode)] ++
      fieldIf "absoluteTime" (d.time.map fun t => .text t.render) ++
      fieldIf "relativeValue" (d.amount.map .float) ++ fieldIf "relativeUnit" (d.unit.map .text))
  | .condition c =>
    .object ([("rules", .list (c.rules.map Rule.document))] ++ fieldIf "logic" (c.logic.map .text))

/-- A node as a mapping. -/
def Node.document (n : Node) : Value :=
  .object [("id", .text n.id), ("type", .text n.kind.text), ("data", n.data.document)]

/-- An edge as a mapping. -/
def Edge.document (e : Edge) : Value :=
  .object ([("id", .text e.id), ("source", .text e.source), ("target", .text e.target)] ++
    fieldIf "sourceHandle" (e.handle.map .text))

/-- The nodes of a flow as a list. -/
def Flow.nodesDocument (f : Flow) : Value := .list (f.nodes.map Node.document)

/-- The edges of a flow as a list. -/
def Flow.edgesDocument (f : Flow) : Value := .list (f.edges.map Edge.document)

/-- An automation as a document. Its times belong to the store and are not written. -/
def Automation.document (a : Automation) : Value :=
  .object [("id", .text a.id), ("name", .text a.name), ("nodes", a.flow.nodesDocument),
    ("edges", a.flow.edgesDocument)]

end Dripline
