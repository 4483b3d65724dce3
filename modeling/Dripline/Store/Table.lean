import Dripline.Store.Storage
import Dripline.Document.Json

/-!
# Stores as tables

Automations and executions as rows of text columns, the form in which they outlive the program:

* moments are columns of time stamps, and rows are ordered by the text of such a column;
* the flow of an automation is two columns of JSON, read back through the shape of documents;
* the log of an execution is a table of its own, ordered by insertion over all executions.

An id and a name may each stand in one row only, and a row that would repeat one is not added.
-/

namespace Dripline

/-! ## 1. Columns -/

/-- A moment as a column. -/
def momentColumn (m : Moment) : String := m.render

/-- The moment of a column. A column without offset is in universal time. Every column that
    `momentColumn` wrote is readable. -/
def columnMoment (s : String) : Moment := ((Moment.ofText? s).getD Moment.first).assumeUtc

/-- Whether a whole number can be handed to a table: it has 64 bits, one of them for the sign. -/
def isColumnNumber (n : Int) : Bool := -9223372036854775808 ≤ n && n < 9223372036854775808

/-- Rows from the greatest to the least text of a column; equal texts keep their order. -/
def descending {β : Type} (column : β → String) (rows : List β) : List β :=
  rows.mergeSort fun a b => !(column a < column b)

/-! ## 2. Automations -/

/-- A row of the table of automations. -/
structure AutomationRow where
  id : String
  name : String
  nodes : String
  edges : String
  createdAt : String
  updatedAt : String
deriving DecidableEq, Repr

/-- The table of automations, in order of insertion. -/
structure AutomationTable where
  rows : List AutomationRow
deriving DecidableEq, Repr

namespace AutomationTable

/-- The table without rows. -/
def empty : AutomationTable := ⟨[]⟩

/-- The flow of two columns. -/
def flowOfColumns (nodes edges : String) : Except DocumentFault Flow :=
  Flow.ofLists ((Json.read? nodes).getD .null) ((Json.read? edges).getD .null)

/-- The automation of a row. -/
def automationOf (r : AutomationRow) : Except Fault Automation :=
  ((flowOfColumns r.nodes r.edges).mapError .document).map fun flow =>
    ⟨r.id, r.name, flow, some (columnMoment r.createdAt), some (columnMoment r.updatedAt)⟩

/-- The automation of the first row that satisfies a test. -/
def fetch (t : AutomationTable) (p : AutomationRow → Bool) : Except Fault (Option Automation) :=
  match t.rows.find? p with
  | none => .ok none
  | some r => (automationOf r).map some

/-- The automations of rows, or the first fault. -/
def automationsOf : List AutomationRow → Except Fault (List Automation)
  | [] => .ok []
  | r :: rs => do
    let a ← automationOf r
    let rest ← automationsOf rs
    .ok (a :: rest)

/-- Adds a row. The id is taken before the row turns out to repeat a name. -/
def create (t : AutomationTable) (a : Automation) (now : Moment) (ids : Ids) :
    Creation AutomationTable Automation :=
  let (id, ids) := ids.orNext a.id
  if t.rows.any fun r => r.id == id || r.name == a.name then ⟨.error (.nameTaken a.name), t, ids⟩
  else
    let row : AutomationRow :=
      ⟨id, a.name, Json.render a.flow.nodesDocument, Json.render a.flow.edgesDocument,
        momentColumn now, momentColumn now⟩
    ⟨.ok { a with id := id, createdAt := some now, updatedAt := some now }, ⟨t.rows ++ [row]⟩, ids⟩

/-- A row with the columns of a new version. -/
def revisedRow (a : Automation) (now : Moment) (r : AutomationRow) : AutomationRow :=
  { r with
    name := a.name
    nodes := Json.render a.flow.nodesDocument
    edges := Json.render a.flow.edgesDocument
    updatedAt := momentColumn now }

/-- Puts a new version of an automation in its row. What is returned is read back from the table. -/
def update (t : AutomationTable) (a : Automation) (now : Moment) :
    Except Fault Automation × AutomationTable :=
  if !(t.rows.any fun r => r.id == a.id) then (.error (.noAutomation a.id), t)
  else if t.rows.any fun r => r.name == a.name && r.id != a.id then
    (.error (.nameTaken a.name), t)
  else
    let t : AutomationTable :=
      ⟨t.rows.map fun r => if r.id = a.id then revisedRow a now r else r⟩
    match t.fetch fun r => r.id == a.id with
    | .ok (some stored) => (.ok stored, t)
    | .ok none => (.error (.noAutomation a.id), t)
    | .error fault => (.error fault, t)

instance : AutomationStorage AutomationTable where
  create := create
  get t id := t.fetch fun r => r.id == id
  getByName t name := t.fetch fun r => r.name == name
  -- a parameter of a query is encoded before any row is looked at
  getBroken _ name := .error (.nameNotWhole name)
  list t := automationsOf (descending AutomationRow.updatedAt t.rows)
  update := update
  delete t id := (t.rows.any fun r => r.id == id, ⟨t.rows.filter fun r => r.id ≠ id⟩)

end AutomationTable

/-! ## 3. Executions -/

/-- A row of the table of executions. -/
structure ExecutionRow where
  id : String
  automationId : String
  subject : String
  status : String
  currentNode : Option String
  scheduledFor : Option String
  completedAt : Option String
  createdAt : String
deriving DecidableEq, Repr

/-- A row of the table of log entries. -/
structure LogRow where
  executionId : String
  nodeId : String
  nodeKind : String
  timestamp : String
  status : String
  message : Option String
  error : Option String
deriving DecidableEq, Repr

/-- The tables of executions and of their log entries, each in order of insertion. -/
structure ExecutionTable where
  rows : List ExecutionRow
  logRows : List LogRow
deriving DecidableEq, Repr

namespace ExecutionTable

/-- The tables without rows. -/
def empty : ExecutionTable := ⟨[], []⟩

/-- The log entry of a row. -/
def entryOf (r : LogRow) : LogEntry :=
  ⟨r.nodeId, r.nodeKind, columnMoment r.timestamp, r.status, r.message, r.error⟩

/-- The execution of a row, with its log. -/
def executionOf (t : ExecutionTable) (r : ExecutionRow) : Execution where
  id := r.id
  automationId := r.automationId
  subject := r.subject
  status := ⟨r.status⟩
  currentNode := r.currentNode
  log := (t.logRows.filter fun l => l.executionId = r.id).map entryOf
  scheduledFor := r.scheduledFor.map columnMoment
  completedAt := r.completedAt.map columnMoment
  createdAt := some (columnMoment r.createdAt)

/-- The execution with an id. -/
def get (t : ExecutionTable) (id : String) : Option Execution :=
  (t.rows.find? fun r => r.id == id).map t.executionOf

/-- The row of a log entry. -/
def logRow (id : String) (e : LogEntry) : LogRow :=
  ⟨id, e.nodeId, e.nodeKind, momentColumn e.timestamp, e.status, e.message, e.error⟩

/-- Adds an execution and its log. -/
def create (t : ExecutionTable) (e : Execution) (now : Moment) (ids : Ids) :
    Creation ExecutionTable Execution :=
  let (id, ids) := ids.orNext e.id
  if t.rows.any fun r => r.id == id then ⟨.error .executionIdTaken, t, ids⟩
  else
    let row : ExecutionRow :=
      ⟨id, e.automationId, e.subject, e.status.label, e.currentNode,
        e.scheduledFor.map momentColumn, e.completedAt.map momentColumn,
        momentColumn (e.createdAt.getD now)⟩
    let t : ExecutionTable := ⟨t.rows ++ [row], t.logRows ++ e.log.map (logRow id)⟩
    ⟨.ok (t.executionOf row), t, ids⟩

/-- A row with one column written. -/
def write (r : ExecutionRow) : Field → ExecutionRow
  | .status s => { r with status := s.label }
  | .currentNode id => { r with currentNode := id }
  | .scheduledFor m => { r with scheduledFor := m.map momentColumn }
  | .completedAt m => { r with completedAt := m.map momentColumn }
  | .unknown _ => r

/-- Writes columns of an execution. What is returned is read back from the tables. -/
def update (t : ExecutionTable) (id : String) (fields : List Field) :
    Except Fault Execution × ExecutionTable :=
  match checkFields fields with
  | .error fault => (.error fault, t)
  | .ok () =>
    let t : ExecutionTable :=
      { t with rows := t.rows.map fun r => if r.id = id then fields.foldl write r else r }
    match t.get id with
    | some e => (.ok e, t)
    | none => (.error (.noExecution id), t)

/-- Appends an entry to the log of an execution. -/
def appendLog (t : ExecutionTable) (id : String) (entry : LogEntry) :
    Except Fault Unit × ExecutionTable :=
  if t.rows.any fun r => r.id == id then
    (.ok (), { t with logRows := t.logRows ++ [logRow id entry] })
  else (.error (.noExecution id), t)

/-- The most recently created executions; a negative limit is none. A limit that is no column's number is
    refused. -/
def listRecent (t : ExecutionTable) (limit : Int) : Except Fault (List Execution) :=
  if isColumnNumber limit then
    let rows := descending ExecutionRow.createdAt t.rows
    .ok ((if limit < 0 then rows else rows.take limit.toNat).map t.executionOf)
  else .error .numberTooLarge

/-- Rows from the least to the greatest scheduled time, as the index on it lists them; equal times
    keep their order. -/
def byScheduledTime (rows : List ExecutionRow) : List ExecutionRow :=
  rows.mergeSort fun a b => !(b.scheduledFor.getD "" < a.scheduledFor.getD "")

/-- The pending executions that are scheduled. -/
def listScheduled (t : ExecutionTable) : List Execution :=
  (byScheduledTime (t.rows.filter fun r =>
    r.status == Status.pending.label && r.scheduledFor.isSome)).map t.executionOf

instance : ExecutionStorage ExecutionTable where
  create := create
  get := get
  update := update
  appendLog := appendLog
  listRecent := listRecent
  listScheduled := listScheduled
  all t := t.rows.map t.executionOf

end ExecutionTable

end Dripline
