import Dripline.Store.Table
import Dripline.Files

/-!
# Databases in files

The tables of both stores as one file:

* `Database.tables`: they can be used once the database is open;
* `Archive.text`, `Archive.read?`: the text of a file with tables;
* `Database.openAt`: opens the file at a path. A new one is begun where there is none.
-/

namespace Dripline

/-- Why a database cannot be used. -/
inductive DatabaseFault where
  | closed
  | notOpened
  | notDatabase
deriving DecidableEq, Repr

namespace DatabaseFault

/-- The name of a fault in reports. -/
def label : DatabaseFault → String
  | .closed => "RuntimeError"
  | .notOpened => "OperationalError"
  | .notDatabase => "DatabaseError"

/-- The wording of a fault. -/
def message : DatabaseFault → String
  | .closed => "SqliteDatabase used before initialize()"
  | .notOpened => "unable to open database file"
  | .notDatabase => "file is not a database"

end DatabaseFault

/-- The tables of both stores. -/
structure Tables where
  automations : AutomationTable
  executions : ExecutionTable
deriving DecidableEq, Repr

/-- Tables without rows. -/
def Tables.empty : Tables := ⟨.empty, .empty⟩

/-! ## 1. Tables as text -/

namespace Archive

/-- A column that may be empty. -/
def column? : Value → Option (Option String)
  | .text s => some (some s)
  | .null => some none
  | _ => none

/-- The columns of a row. -/
def columns? : Value → Option (List (Option String))
  | .list vs => vs.mapM column?
  | _ => none

/-- A row of columns. -/
def row (columns : List (Option String)) : Value := .list (columns.map Value.ofText?)

/-- The columns of an automation. -/
def automationRow (r : AutomationRow) : Value :=
  row [some r.id, some r.name, some r.nodes, some r.edges, some r.createdAt, some r.updatedAt]

/-- The automation of a row. -/
def automationRow? (v : Value) : Option AutomationRow :=
  match columns? v with
  | some [some id, some name, some nodes, some edges, some createdAt, some updatedAt] =>
    some ⟨id, name, nodes, edges, createdAt, updatedAt⟩
  | _ => none

/-- The columns of an execution. -/
def executionRow (r : ExecutionRow) : Value :=
  row [some r.id, some r.automationId, some r.subject, some r.status, r.currentNode,
    r.scheduledFor, r.completedAt, some r.createdAt]

/-- The execution of a row. -/
def executionRow? (v : Value) : Option ExecutionRow :=
  match columns? v with
  | some [some id, some automationId, some subject, some status, currentNode, scheduledFor,
      completedAt, some createdAt] =>
    some ⟨id, automationId, subject, status, currentNode, scheduledFor, completedAt, createdAt⟩
  | _ => none

/-- The columns of a log entry. -/
def logRow (r : LogRow) : Value :=
  row [some r.executionId, some r.nodeId, some r.nodeKind, some r.timestamp, some r.status,
    r.message, r.error]

/-- The log entry of a row. -/
def logRow? (v : Value) : Option LogRow :=
  match columns? v with
  | some [some executionId, some nodeId, some nodeKind, some timestamp, some status, message,
      error] =>
    some ⟨executionId, nodeId, nodeKind, timestamp, status, message, error⟩
  | _ => none

/-- The rows of a table. -/
def rows? {β : Type} (read : Value → Option β) (name : String) (es : List (Value × Value)) :
    Option (List β) :=
  match Value.entry? name es with
  | some (.list vs) => vs.mapM read
  | _ => none

/-- The text of a file with tables. -/
def text (t : Tables) : String :=
  Json.render (.object [("automations", .list (t.automations.rows.map automationRow)),
    ("executions", .list (t.executions.rows.map executionRow)),
    ("entries", .list (t.executions.logRows.map logRow))])

/-- The tables in the text of a file. A file without text has tables without rows. -/
def read? (s : String) : Option Tables :=
  if s = "" then some .empty
  else
    match Json.read? s with
    | some (.map es) => do
      let automations ← rows? automationRow? "automations" es
      let executions ← rows? executionRow? "executions" es
      let entries ← rows? logRow? "entries" es
      some ⟨⟨automations⟩, ⟨executions, entries⟩⟩
    | _ => none

end Archive

/-! ## 2. Databases -/

/-- A database. -/
inductive Database where
  | closed
  | opened (tables : Tables)
deriving DecidableEq, Repr

namespace Database

/-- The tables of a database, which must be open. -/
def tables : Database → Except DatabaseFault Tables
  | .closed => .error .closed
  | .opened t => .ok t

/-- The path that stands for a database without a file. -/
def inMemory : String := ":memory:"

/-- Opens the database at a path. -/
def openAt (fs : Files) (path : String) : Except DatabaseFault Database :=
  if path = inMemory then .ok (.opened .empty)
  else
    match fs.find path with
    | .text s =>
      match Archive.read? s with
      | some t => .ok (.opened t)
      | none => .error .notDatabase
    | .directory => .error .notOpened
    | .throughFile => .error .notOpened
    | .absent => if fs.hasRoom path then .ok (.opened .empty) else .error .notOpened

/-- The files after a database has been used. -/
def close (fs : Files) (path : String) (t : Tables) : Files :=
  if path = inMemory then fs else fs.write path (Archive.text t)

end Database

end Dripline
