import Dripline.Fault

/-!
# Stores

What the rest of the library asks of a store, so that it works with any:

* `AutomationStorage`: automations under ids, with unique names;
* `ExecutionStorage`: executions under ids, whose log only grows and which are never removed.

An operation that may be refused says so in its result; the store it returns is the one after the
operation either way. A store takes new ids from a supply that is handed in and handed back.
-/

namespace Dripline

/-- The supply of new ids: how many have been taken. -/
structure Ids where
  taken : Nat
deriving DecidableEq, Repr

/-- The next id and the supply after it. -/
def Ids.next (ids : Ids) : String × Ids := (s!"id-{ids.taken + 1}", ⟨ids.taken + 1⟩)

/-- The given id, or a new one when it is empty. -/
def Ids.orNext (ids : Ids) (id : String) : String × Ids :=
  if id = "" then ids.next else (id, ids)

/-- The result of an operation that may take an id, the store and the supply after it. -/
structure Creation (σ β : Type) where
  result : Except Fault β
  store : σ
  ids : Ids

/-- Persistence of automations. -/
class AutomationStorage (α : Type) where
  /-- Adds an automation, under a new id when it has none. -/
  create : α → Automation → Moment → Ids → Creation α Automation
  get : α → String → Except Fault (Option Automation)
  getByName : α → String → Except Fault (Option Automation)
  /-- What is found under a name that is not whole. No automation has one. -/
  getBroken : α → Text.Points → Except Fault (Option Automation)
  /-- All automations, the most recently updated first. -/
  list : α → Except Fault (List Automation)
  update : α → Automation → Moment → Except Fault Automation × α
  /-- Whether there was an automation to delete. -/
  delete : α → String → Bool × α

/-- What is found under a name that may not be whole. -/
def AutomationStorage.getByPoints {α : Type} [AutomationStorage α] (s : α) (name : Text.Points) :
    Except Fault (Option Automation) :=
  match name.text? with
  | some text => getByName s text
  | none => getBroken s name

/-- One field of an execution to be written. -/
inductive Field where
  | status (s : Status)
  | currentNode (id : Option String)
  | scheduledFor (m : Option Moment)
  | completedAt (m : Option Moment)
  /-- A field that must not be written. -/
  | unknown (name : String)
deriving DecidableEq, Repr

/-- The names of fields that must not be written, each once, in order of the names. -/
def unknownNames (fields : List Field) : List String :=
  ((fields.filterMap fun f => match f with | .unknown n => some n | _ => none).mergeSort
    fun a b => !(b < a)).eraseDups

/-- Refuses fields that must not be written. -/
def checkFields (fields : List Field) : Except Fault Unit :=
  match unknownNames fields with
  | [] => .ok ()
  | names => .error (.unknownFields names)

/-- Persistence of executions. -/
class ExecutionStorage (ε : Type) where
  /-- Adds an execution, under a new id when it has none. -/
  create : ε → Execution → Moment → Ids → Creation ε Execution
  get : ε → String → Option Execution
  /-- Writes fields in one step. -/
  update : ε → String → List Field → Except Fault Execution × ε
  appendLog : ε → String → LogEntry → Except Fault Unit × ε
  /-- The most recently created executions. -/
  listRecent : ε → Int → Except Fault (List Execution)
  /-- The pending executions that are scheduled. -/
  listScheduled : ε → List Execution
  /-- All executions, in order of insertion. -/
  all : ε → List Execution

end Dripline
