import Dripline.Store.Storage
import Dripline.Journal

/-!
# Authoring

Saving automations. Every flow passes the structural check before it reaches the store:

* `cleanName`: a name has no blanks at its ends and 1 to 100 characters;
* `create`, `createFromEntries`: a new automation, from a flow or from what an editor hands in;
* `update`: a new name, a new flow, or both; nodes and edges come together;
* `delete`.

The result comes with the store after the operation, so that a refusal that changed something would
show.
-/

namespace Dripline.Authoring

/-- The outcome of an operation: the result, the store and the supply of ids after it, and what
    there is to tell, oldest first. -/
structure Outcome (α β : Type) where
  result : Except Fault β
  store : α
  ids : Ids
  lines : List Line

/-- A name without blanks around it, or what is wrong with it. -/
def cleanName (name : Option String) : Except Complaint String :=
  let s := Text.strip (name.getD "")
  if s = "" then .error .noName
  else if nameLimit < s.length then .error .longName
  else .ok s

/-- Refuses a flow that does not pass the check. -/
def checkFlow (f : Flow) (now : Moment) : Except Fault Unit :=
  match f.problems now with
  | .error fault => .error (.arithmetic fault)
  | .ok [] => .ok ()
  | .ok (p :: ps) => .error (.rejected ((p :: ps).map .flow))

/-- A name, with its complaint as a fault. -/
def acceptName (name : Option String) : Except Fault String :=
  (cleanName name).mapError fun c => .rejected [c]

/-- A line about an automation. -/
def note (verb : String) (a : Automation) : Line :=
  ⟨.info, .authoring, verb ++ s!" automation {a.id} ({a.name})"⟩

section

variable {α : Type} [AutomationStorage α]

/-- An operation that was refused before it reached the store. -/
def refuse {β : Type} (store : α) (ids : Ids) (fault : Fault) : Outcome α β :=
  ⟨.error fault, store, ids, []⟩

/-- Saves a new automation. -/
def create (store : α) (ids : Ids) (now : Moment) (name : Option String) (flow : Flow) :
    Outcome α Automation :=
  match acceptName name with
  | .error fault => refuse store ids fault
  | .ok name =>
    match checkFlow flow now with
    | .error fault => refuse store ids fault
    | .ok () =>
      let created := AutomationStorage.create store ⟨"", name, flow, none, none⟩ now ids
      match created.result with
      | .error fault => ⟨.error fault, created.store, created.ids, []⟩
      | .ok a => ⟨.ok a, created.store, created.ids, [note "Created" a]⟩

/-- The name of the type of a value that is no text. -/
def typeName : Value → String
  | .bool _ => "bool"
  | .int _ => "int"
  | .float _ => "float"
  | .bytes _ => "bytes"
  | .date _ => "datetime.date"
  | .moment _ => "datetime.datetime"
  | .list _ => "list"
  | .members _ => "set"
  | .map _ => "dict"
  | .text _ => "str"
  | .null => "NoneType"

/-- A name that an editor handed in. -/
def nameOf (v : Value) : Except Fault (Option String) :=
  match v with
  | .text s => .ok (some s)
  | v => if v.isVoid then .ok none else .error (.nameNotText (typeName v))

/-- Whether a field is missing or null. -/
def isAbsent (es : List (Value × Value)) (name : String) : Bool :=
  match Value.entry? name es with
  | none => true
  | some .null => true
  | some _ => false

/-- Saves a new automation that an editor handed in. -/
def createFromEntries (store : α) (ids : Ids) (now : Moment) (es : List (Value × Value)) :
    Outcome α Automation :=
  match requiredFields.filter (isAbsent es) with
  | name :: names => refuse store ids (.rejected [.missingFields (name :: names)])
  | [] =>
    match Flow.ofLists ((Value.entry? "nodes" es).getD .null)
        ((Value.entry? "edges" es).getD .null) with
    | .error fault => refuse store ids (.document fault)
    | .ok flow =>
      match nameOf ((Value.entry? "name" es).getD .null) with
      | .error fault => refuse store ids fault
      | .ok name => create store ids now name flow

/-- An automation that must be there. -/
def get (store : α) (id : String) : Except Fault Automation :=
  match AutomationStorage.get store id with
  | .error fault => .error fault
  | .ok none => .error (.noAutomation id)
  | .ok (some a) => .ok a

/-- An automation under a new name, if there is one. -/
def rename (a : Automation) : Option String → Except Fault Automation
  | none => .ok a
  | some name => (acceptName (some name)).map fun name => { a with name := name }

/-- An automation with a new flow that passes the check, if there is one. -/
def reflow (a : Automation) (now : Moment) : Option Flow → Except Fault Automation
  | none => .ok a
  | some flow => (checkFlow flow now).map fun _ => { a with flow := flow }

/-- The flow of nodes and edges that come together. -/
def together : Option (List Node) → Option (List Edge) → Except Fault (Option Flow)
  | none, none => .ok none
  | some nodes, some edges => .ok (some ⟨nodes, edges⟩)
  | _, _ => .error (.rejected [.halfFlow])

/-- The new version of an automation, checked. -/
def revision (store : α) (now : Moment) (id : String) (name : Option String)
    (nodes : Option (List Node)) (edges : Option (List Edge)) : Except Fault Automation := do
  let flow ← together nodes edges
  let a ← get store id
  let a ← rename a name
  reflow a now flow

/-- Saves a new version of an automation. -/
def update (store : α) (ids : Ids) (now : Moment) (id : String) (name : Option String)
    (nodes : Option (List Node)) (edges : Option (List Edge)) : Outcome α Automation :=
  match revision store now id name nodes edges with
  | .error fault => refuse store ids fault
  | .ok a =>
    match AutomationStorage.update store a now with
    | (.error fault, store) => ⟨.error fault, store, ids, []⟩
    | (.ok a, store) => ⟨.ok a, store, ids, [note "Updated" a]⟩

/-- Deletes an automation. -/
def delete (store : α) (ids : Ids) (id : String) : Outcome α Unit :=
  match AutomationStorage.delete store id with
  | (true, store) => ⟨.ok (), store, ids, [⟨.info, .authoring, s!"Deleted automation {id}"⟩]⟩
  | (false, store) => ⟨.error (.noAutomation id), store, ids, []⟩

end

end Dripline.Authoring
