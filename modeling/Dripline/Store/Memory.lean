import Dripline.Store.Storage
import Dripline.Keyed

/-!
# Stores in memory

Automations and executions as they are, in order of insertion. A record that is created under an id
that is there takes the place of the old one.
-/

namespace Dripline

/-- Automations under their ids. -/
structure MemoryAutomations where
  items : Keyed Automation
deriving DecidableEq, Repr

/-- Executions under their ids. -/
structure MemoryExecutions where
  items : Keyed Execution
deriving DecidableEq, Repr

/-- Records from the latest to the earliest by a key of whole numbers; equal keys keep their
    order. -/
def latestFirst {β : Type} (key : β → Int) (items : List β) : List β :=
  items.mergeSort fun a b => decide (key b ≤ key a)

namespace MemoryAutomations

/-- The store without automations. -/
def empty : MemoryAutomations := ⟨.empty⟩

/-- Whether an automation with another id has a name. -/
def nameTaken (s : MemoryAutomations) (name : String) (except : Option String) : Bool :=
  s.items.values.any fun a => a.name == name && some a.id != except

/-- Adds an automation under a free name. -/
def create (s : MemoryAutomations) (a : Automation) (now : Moment) (ids : Ids) :
    Creation MemoryAutomations Automation :=
  if s.nameTaken a.name none then ⟨.error (.nameTaken a.name), s, ids⟩
  else
    let (id, ids) := ids.orNext a.id
    let stored := { a with id := id, createdAt := some now, updatedAt := some now }
    ⟨.ok stored, ⟨s.items.put id stored⟩, ids⟩

/-- Puts a new version of an automation in the place of the old one. -/
def update (s : MemoryAutomations) (a : Automation) (now : Moment) :
    Except Fault Automation × MemoryAutomations :=
  match s.items.get? a.id with
  | none => (.error (.noAutomation a.id), s)
  | some current =>
    if s.nameTaken a.name (some a.id) then (.error (.nameTaken a.name), s)
    else
      let stored := { a with createdAt := current.createdAt, updatedAt := some now }
      (.ok stored, ⟨s.items.put a.id stored⟩)

/-- The instant of the last update. -/
def updateInstant (a : Automation) : Int := (a.updatedAt.bind Moment.instant?).getD 0

instance : AutomationStorage MemoryAutomations where
  create := create
  get s id := .ok (s.items.get? id)
  getByName s name := .ok (s.items.values.find? fun a => a.name == name)
  getBroken _ _ := .ok none
  list s := .ok (latestFirst updateInstant s.items.values)
  update := update
  delete s id := (s.items.contains id, ⟨s.items.erase id⟩)

end MemoryAutomations

namespace MemoryExecutions

/-- The store without executions. -/
def empty : MemoryExecutions := ⟨.empty⟩

/-- Adds an execution. -/
def create (s : MemoryExecutions) (e : Execution) (now : Moment) (ids : Ids) :
    Creation MemoryExecutions Execution :=
  let (id, ids) := ids.orNext e.id
  let stored := { e with id := id, createdAt := some (e.createdAt.getD now) }
  ⟨.ok stored, ⟨s.items.put id stored⟩, ids⟩

/-- An execution with one field written. -/
def write (e : Execution) : Field → Execution
  | .status s => { e with status := s }
  | .currentNode id => { e with currentNode := id }
  | .scheduledFor m => { e with scheduledFor := m }
  | .completedAt m => { e with completedAt := m }
  | .unknown _ => e

/-- Writes fields of an execution. -/
def update (s : MemoryExecutions) (id : String) (fields : List Field) :
    Except Fault Execution × MemoryExecutions :=
  match checkFields fields with
  | .error fault => (.error fault, s)
  | .ok () =>
    match s.items.get? id with
    | none => (.error (.noExecution id), s)
    | some e =>
      let stored := fields.foldl write e
      (.ok stored, ⟨s.items.put id stored⟩)

/-- Appends an entry to the log of an execution. -/
def appendLog (s : MemoryExecutions) (id : String) (entry : LogEntry) :
    Except Fault Unit × MemoryExecutions :=
  match s.items.get? id with
  | none => (.error (.noExecution id), s)
  | some e => (.ok (), ⟨s.items.put id { e with log := e.log ++ [entry] }⟩)

/-- The reading by which executions are ordered. -/
def creationKey (e : Execution) : Int :=
  match e.createdAt with
  | some m => (m.instant?).getD m.ticks
  | none => 0

/-- Whether an execution was created at a moment with an offset. -/
def isAnchored (e : Execution) : Bool := (e.createdAt.map Moment.isAnchored).getD true

/-- The first `n` items; a negative count leaves that many out at the end. -/
def takeSigned {β : Type} (n : Int) (items : List β) : List β :=
  match n with
  | .ofNat k => items.take k
  | .negSucc k => items.take (items.length - (k + 1))

/-- The most recently created executions. Times with and without offset have no order. -/
def listRecent (s : MemoryExecutions) (limit : Int) : Except Fault (List Execution) :=
  let es := s.items.values
  if es.all isAnchored || es.all fun e => !isAnchored e then
    .ok (takeSigned limit (latestFirst creationKey es))
  else .error (.arithmetic .mixedOrder)

instance : ExecutionStorage MemoryExecutions where
  create := create
  get s id := s.items.get? id
  update := update
  appendLog := appendLog
  listRecent := listRecent
  listScheduled s := s.items.values.filter Execution.isSuspended
  all s := s.items.values

end MemoryExecutions

end Dripline
