import Dripline.Store.Storage
import Dripline.Delivery.Notifier
import Dripline.Flow.Step
import Dripline.Run.Timers
import Dripline.Address
import Dripline.Text.Quoted

/-!
# The runner

One runner over its stores: the interpreter that walks executions through their flows, and the
scheduler that suspends and resumes them at delays.

* A task is one call of the interpreter or one resumption, at a stage. `Task.step` takes it one stage
  further; a stage writes to the store or sends at most once, so that every state in which the program
  can be interrupted lies between two stages.
* The interpreter re-reads the automation on every call and follows the flow as it then is; the record
  says where the walk stands.
* A suspended execution is pending with a scheduled time. Its timer is only an index over that; when
  the timer fires, a task is queued that moves the record past the delay and calls the interpreter.
* Queued tasks run one after the other, each to its end. Those that were asked for directly are left to
  their callers, and neither draining nor shutting down waits for them.
-/

namespace Dripline

/-! ## 1. State -/

/-- What the interpreter knows during one call: the execution, its subject, and the flow. -/
structure Walk where
  executionId : String
  subject : String
  graph : Graph

/-- How the interpreter is set up: whether timers are armed for delays, and how much of a message
    the log quotes. -/
structure Setup where
  scheduled : Bool
  previewChars : Int
deriving DecidableEq, Repr

/-- Where a task stands. -/
inductive Stage where
  /-- The interpreter is called. -/
  | enter
  /-- The walk arrives at a node. -/
  | arrive (walk : Walk) (nodeId : String)
  /-- The record stands at the node, whose step comes next. -/
  | act (walk : Walk) (node : Node)
  /-- The step has a result, which is to be logged. -/
  | note (walk : Walk) (node : Node) (result : StepResult)
  /-- The result is logged and takes effect. -/
  | settle (walk : Walk) (node : Node) (result : StepResult)
  /-- The execution fails: an entry for a node is to be logged, if there is one. -/
  | failing (entry : Option (String × String)) (error : String)
  /-- The failure is logged, and the record is to be closed. -/
  | closing
  /-- A resumption begins. -/
  | wake
  /-- A resumption has no way on, which is to be logged. -/
  | lost (nodeId : Option String) (error : String) (timer : Option Nat)
  /-- The lost resumption is logged, and the record is to be closed. -/
  | lostClosing (timer : Option Nat)
  /-- The record is to be moved past the delay. -/
  | leave (target : String) (timer : Option Nat)

/-- How a task was started, which decides where its failure is told. -/
inductive Origin where
  | direct
  | dispatched
  | fired
deriving DecidableEq, Repr

/-- Work on an execution. -/
structure Task where
  executionId : String
  origin : Origin
  setup : Setup
  stage : Stage

/-- A task that the runner queued itself is in flight. One that was asked for directly is its caller's to
    wait for. -/
def Task.isInFlight (t : Task) : Bool := t.origin ≠ .direct

/-- The result of a task: the record, when it was the interpreter that was called. -/
abbrev TaskResult := Except Fault (Option Execution)

/-- A runner with its stores and its notifier. -/
structure Runner (α ε ν : Type) where
  automations : α
  executions : ε
  notifier : ν
  clock : Moment
  ids : Ids
  timers : Timers
  queue : List Task
  journal : List Line
  previewChars : Int
  recentLimit : Int

namespace Runner

variable {α ε ν : Type} [AutomationStorage α] [ExecutionStorage ε] [Notifier ν]

/-- The runner with one more line in its journal. -/
def say (r : Runner α ε ν) (level : Level) (speaker : Speaker) (text : String) : Runner α ε ν :=
  { r with journal := ⟨level, speaker, text⟩ :: r.journal }

/-! ## 2. Timers -/

/-- Seconds from the clock to a moment, none when it is past. -/
def secondsUntil (r : Runner α ε ν) (due : Moment) : Except ArithFault Double :=
  (due.since r.clock).map fun micros => Double.ofQuotient (max micros 0) secondMicros

/-- Arms a timer for an execution; says whether it did. A moment that does not compare with the clock
    is refused, and a timer that is there is kept. -/
def schedule (r : Runner α ε ν) (id : String) (due : Moment) :
    Except ArithFault Bool × Runner α ε ν :=
  if (r.timers.get? id).isSome then
    (.ok false, r.say .debug .scheduler s!"Timer for execution {id} already armed")
  else
    match r.secondsUntil due with
    | .error fault => (.error fault, r)
    | .ok seconds =>
      let r := { r with timers := r.timers.arm id due }
      (.ok true, r.say .info .scheduler
        s!"Scheduled execution {id} to resume in {seconds.thousandths}s at {due.render}")

/-! ## 3. Stages -/

/-- What comes after a stage. -/
inductive Next where
  | stage (s : Stage)
  | done (result : TaskResult)

/-- The log entry for a node at the clock's time. An empty error is no error. -/
def logEntry (r : Runner α ε ν) (node : Node) (message error : Option String) : LogEntry where
  nodeId := node.id
  nodeKind := node.kind.text
  timestamp := r.clock
  status := if error.getD "" = "" then LogEntry.success else LogEntry.failure
  message := message
  error := error

/-- Writes fields of an execution and goes on. -/
def write (r : Runner α ε ν) (id : String) (fields : List Field)
    (next : Execution → Runner α ε ν → Runner α ε ν × Next) : Runner α ε ν × Next :=
  match ExecutionStorage.update r.executions id fields with
  | (.ok e, s) => next e { r with executions := s }
  | (.error fault, s) => ({ r with executions := s }, .done (.error fault))

/-- Appends to the log of an execution and goes on. -/
def append (r : Runner α ε ν) (id : String) (entry : LogEntry) (next : Stage) :
    Runner α ε ν × Next :=
  match ExecutionStorage.appendLog r.executions id entry with
  | (.ok (), s) => ({ r with executions := s }, .stage next)
  | (.error fault, s) => ({ r with executions := s }, .done (.error fault))

/-- The interpreter is called: it reads the record and the automation. -/
def stepEnter (r : Runner α ε ν) (id : String) : Runner α ε ν × Next :=
  match ExecutionStorage.get r.executions id with
  | none => (r, .done (.error (.noExecution id)))
  | some e =>
    match AutomationStorage.get r.automations e.automationId with
    | .error fault => (r, .done (.error fault))
    | .ok none => (r, .stage (.failing none s!"Automation not found: {e.automationId}"))
    | .ok (some a) =>
      let walk : Walk := ⟨id, e.subject, .ofFlow a.flow⟩
      match e.currentNode with
      | some nodeId => (r, .stage (.arrive walk nodeId))
      | none =>
        match walk.graph.start? with
        | some start => (r, .stage (.arrive walk start.id))
        | none => (r, .stage (.failing none "Start node not found"))

/-- The walk arrives at a node: the record is put there. -/
def stepArrive (r : Runner α ε ν) (id : String) (walk : Walk) (nodeId : String) :
    Runner α ε ν × Next :=
  match walk.graph.node? nodeId with
  | none => (r, .stage (.failing (some (nodeId, "unknown")) s!"Node {nodeId} not found"))
  | some node =>
    r.write id [.status .running, .currentNode (some node.id)] fun _ r =>
      (r.say .debug .interpreter
        s!"Execution {id}: executing node {node.kind.text} ({node.id})", .stage (.act walk node))

/-- The step of a node is done, with its delivery if it has one. -/
def stepAct (r : Runner α ε ν) (setup : Setup) (walk : Walk) (node : Node) :
    Runner α ε ν × Next :=
  match Step.plan walk.graph walk.subject r.clock node with
  | .error fault => (r, .stage (.failing (some (node.id, node.kind.text)) fault.message))
  | .ok (.settled result) => (r, .stage (.note walk node result))
  | .ok (.deliver message next) =>
    let sent := Notifier.send r.notifier (ExecutionStorage.all r.executions) walk.subject message
    let r := { r with notifier := sent.notifier, journal := sent.lines.reverse ++ r.journal }
    match sent.outcome with
    | .error fault => (r, .stage (.failing (some (node.id, node.kind.text)) fault.message))
    | .ok deliveryId =>
      (r, .stage (.note walk node (Step.delivered setup.previewChars message next deliveryId)))

/-- A timer for a suspended execution, or a warning that there will be none. -/
def attend (r : Runner α ε ν) (setup : Setup) (id : String) (due : Moment) :
    Except ArithFault Unit × Runner α ε ν :=
  if setup.scheduled then
    match r.schedule id due with
    | (.ok _, r) => (.ok (), r)
    | (.error fault, r) => (.error fault, r)
  else
    (.ok (), r.say .warning .interpreter
      s!"No scheduler attached; execution {id} waits for recovery")

/-- The result of a step takes effect. -/
def stepSettle (r : Runner α ε ν) (setup : Setup) (id : String) (walk : Walk) (node : Node) :
    StepResult → Runner α ε ν × Next
  | .proceed _ next => (r, .stage (.arrive walk next))
  | .stuck _ error => (r, .stage (.failing (some (node.id, node.kind.text)) error))
  | .suspend _ due =>
    r.write id [.status .pending, .currentNode (some node.id), .scheduledFor (some due)]
      fun e r =>
        let r := r.say .info .interpreter
          s!"Execution {id} suspended at {node.id} until {due.render}"
        match r.attend setup id due with
        | (.ok (), r) => (r, .done (.ok (some e)))
        | (.error fault, r) => (r, .done (.error (.arithmetic fault)))
  | .finish _ =>
    (r.say .info .interpreter s!"Execution {id} completed").write id
      [.status .completed, .completedAt (some r.clock)] fun e r => (r, .done (.ok (some e)))

/-- The entry of a failed step. The step of a missing node fails whatever the text. -/
def failureEntry (r : Runner α ε ν) (nodeId kind error : String) : LogEntry where
  nodeId := nodeId
  nodeKind := kind
  timestamp := r.clock
  status := if error = "" then LogEntry.success else LogEntry.failure
  message := none
  error := some error

/-- The failure of an execution is told and logged. -/
def stepFailing (r : Runner α ε ν) (id : String) (entry : Option (String × String))
    (error : String) : Runner α ε ν × Next :=
  let r := r.say .error .interpreter s!"Execution {id} failed: {error}"
  match entry with
  | none => (r, .stage .closing)
  | some (nodeId, kind) => r.append id (r.failureEntry nodeId kind error) .closing

/-- The record of a failed execution is closed. -/
def stepClosing (r : Runner α ε ν) (id : String) : Runner α ε ν × Next :=
  r.write id [.status .failed, .scheduledFor none, .completedAt (some r.clock)]
    fun e r => (r, .done (.ok (some e)))

/-- The runner without a timer, if that is still the one with the serial number. -/
def release (r : Runner α ε ν) (id : String) (timer : Option Nat) : Runner α ε ν :=
  { r with timers := r.timers.release id timer }

/-- The runner after a resumption that had nothing to do. -/
def dropTimer (r : Runner α ε ν) (id : String) (timer : Option Nat) (text : String) :
    Runner α ε ν × Next :=
  ((r.say .warning .scheduler text).release id timer, .done (.ok none))

/-- A resumption begins: the timer is disarmed, and the record says whether there is a delay to
    leave and the flow where it leads. -/
def stepWake (r : Runner α ε ν) (id : String) : Runner α ε ν × Next :=
  let timer := (r.timers.get? id).map Timer.serial
  let r := { r with timers := r.timers.cancel id }
  match ExecutionStorage.get r.executions id with
  | none => r.dropTimer id timer s!"Dropping timer for missing execution {id}"
  | some e =>
    if !e.isSuspended then
      r.dropTimer id timer
        s!"Dropping stale timer for execution {id} (status={e.status.label})"
    else
      let r := r.say .info .scheduler s!"Resuming execution {id}"
      match AutomationStorage.get r.automations e.automationId with
      | .error fault => (r.release id timer, .done (.error fault))
      | .ok none =>
        (r, .stage (.lost e.currentNode s!"Automation not found: {e.automationId}" timer))
      | .ok (some a) =>
        match e.currentNode.bind (Graph.ofFlow a.flow).successor? with
        | some target => (r, .stage (.leave target timer))
        | none =>
          (r, .stage (.lost e.currentNode
            ("No outgoing edge from node " ++ e.currentNode.getD "None") timer))

/-- A resumption without a way on is told and logged. -/
def stepLost (r : Runner α ε ν) (id : String) (nodeId : Option String) (error : String)
    (timer : Option Nat) : Runner α ε ν × Next :=
  let r := r.say .error .scheduler s!"Execution {id} failed on resume: {error}"
  let entry : LogEntry :=
    ⟨if nodeId.getD "" = "" then "unknown" else nodeId.getD "", "delay", r.clock,
      LogEntry.failure, none, some error⟩
  r.append id entry (.lostClosing timer)

/-- The record of a lost resumption is closed. -/
def stepLostClosing (r : Runner α ε ν) (id : String) (timer : Option Nat) :
    Runner α ε ν × Next :=
  r.write id [.status .failed, .scheduledFor none, .completedAt (some r.clock)]
    fun _ r => (r.release id timer, .done (.ok none))

/-- The record is moved past the delay, and the timer is released before the interpreter may arm
    the next one. -/
def stepLeave (r : Runner α ε ν) (id : String) (target : String) (timer : Option Nat) :
    Runner α ε ν × Next :=
  r.write id [.currentNode (some target), .scheduledFor none]
    fun _ r => (r.release id timer, .stage .enter)

/-- One stage of a task. -/
def stepTask (r : Runner α ε ν) (t : Task) : Runner α ε ν × Next :=
  let id := t.executionId
  match t.stage with
  | .enter => r.stepEnter id
  | .arrive walk nodeId => r.stepArrive id walk nodeId
  | .act walk node => r.stepAct t.setup walk node
  | .note walk node result =>
    r.append id (r.logEntry node (some result.message) none) (.settle walk node result)
  | .settle walk node result => r.stepSettle t.setup id walk node result
  | .failing entry error => r.stepFailing id entry error
  | .closing => r.stepClosing id
  | .wake => r.stepWake id
  | .lost nodeId error timer => r.stepLost id nodeId error timer
  | .lostClosing timer => r.stepLostClosing id timer
  | .leave target timer => r.stepLeave id target timer

/-- A task to its end, within a number of stages. Whether a walk ends at all depends on its flow. -/
def finish : Nat → Runner α ε ν → Task → Option (Runner α ε ν × TaskResult)
  | 0, _, _ => none
  | fuel + 1, r, t =>
    match r.stepTask t with
    | (r, .stage s) => finish fuel r { t with stage := s }
    | (r, .done result) => some (r, result)

/-! ## 4. Tasks -/

/-- The setup of the runner's own interpreter. -/
def setup (r : Runner α ε ν) : Setup := ⟨true, r.previewChars⟩

/-- How a log quotes a fault: its name and its text. -/
def faultText (fault : Fault) : String := fault.label ++ "(" ++ Text.quoted fault.message ++ ")"

/-- The failure of a queued task is told by the part that queued it. -/
def tellResult (r : Runner α ε ν) (origin : Origin) : TaskResult → Runner α ε ν
  | .ok _ => r
  | .error fault =>
    match origin with
    | .direct => r
    | .dispatched => r.say .error .runner ("Execution task failed: " ++ faultText fault)
    | .fired => r.say .error .scheduler ("Delayed resume failed: " ++ faultText fault)

/-- Calls the interpreter for an execution. -/
def run (r : Runner α ε ν) (fuel : Nat) (id : String) : Option (Runner α ε ν × TaskResult) :=
  finish fuel r ⟨id, .direct, r.setup, .enter⟩

/-- Calls an interpreter that arms no timers. -/
def runAlone (r : Runner α ε ν) (fuel : Nat) (id : String) :
    Option (Runner α ε ν × TaskResult) :=
  finish fuel r ⟨id, .direct, ⟨false, 50⟩, .enter⟩

/-- Resumes an execution at once. -/
def resume (r : Runner α ε ν) (fuel : Nat) (id : String) : Option (Runner α ε ν × TaskResult) :=
  finish fuel r ⟨id, .direct, r.setup, .wake⟩

/-- Queues a call of the interpreter. -/
def dispatch (r : Runner α ε ν) (id : String) : Runner α ε ν :=
  { r with queue := r.queue ++ [⟨id, .dispatched, r.setup, .enter⟩] }

/-- The timer of an execution fires: its resumption is queued. -/
def fire (r : Runner α ε ν) (id : String) : Runner α ε ν :=
  { r with
    timers := r.timers.setPhase id .fired
    queue := r.queue ++ [⟨id, .fired, r.setup, .wake⟩] }

/-- All timers that are due fire. -/
def fireDue (r : Runner α ε ν) : Runner α ε ν := (r.timers.dueIds r.clock).foldl fire r

/-- Runs the queued tasks one after the other, with the same fuel for each. -/
def runQueue (fuel : Nat) (r : Runner α ε ν) : List Task → Option (Runner α ε ν)
  | [] => some r
  | t :: ts =>
    match finish fuel r t with
    | none => none
    | some (r, result) => runQueue fuel (r.tellResult t.origin result) ts

/-- The queued tasks that were asked for directly. -/
def asked (r : Runner α ε ν) : List Task := r.queue.filter fun t => !t.isInFlight

/-- Runs the tasks in flight. -/
def runQueued (r : Runner α ε ν) (fuel : Nat) : Option (Runner α ε ν) :=
  runQueue fuel { r with queue := r.asked } (r.queue.filter Task.isInFlight)

/-- Runs everything that is in flight or due, until nothing is. Timers that are not due stay armed. -/
def drainWithin (fuel : Nat) : Nat → Runner α ε ν → Option (Runner α ε ν)
  | 0, _ => none
  | rounds + 1, r =>
    if r.queue.any Task.isInFlight then
      match r.runQueued fuel with
      | none => none
      | some r => drainWithin fuel rounds r
    else if (r.timers.dueIds r.clock).isEmpty then some r
    else drainWithin fuel rounds r.fireDue

/-- Runs everything that is in flight or due. -/
def drain (r : Runner α ε ν) (fuel : Nat) : Option (Runner α ε ν) := drainWithin fuel fuel r

/-! ## 5. Operations -/

/-- Starts an execution: the automation is checked again, a pending record is created and the
    interpreter is queued. -/
def start (r : Runner α ε ν) (automationId : String) (subject : Option String) :
    Except Fault Execution × Runner α ε ν :=
  match Address.clean subject with
  | .error fault => (.error fault, r)
  | .ok subject =>
    match AutomationStorage.get r.automations automationId with
    | .error fault => (.error fault, r)
    | .ok none => (.error (.noAutomation automationId), r)
    | .ok (some a) =>
      match a.flow.problems r.clock with
      | .error fault => (.error (.arithmetic fault), r)
      | .ok (p :: ps) => (.error (.notStartable (p :: ps)), r)
      | .ok [] =>
        let record : Execution :=
          ⟨"", a.id, subject, .pending, none, [], none, none, none⟩
        let created := ExecutionStorage.create r.executions record r.clock r.ids
        let r := { r with executions := created.store, ids := created.ids }
        match created.result with
        | .error fault => (.error fault, r)
        | .ok e =>
          let r := r.say .info .runner
            s!"Started execution {e.id} of automation {a.id} for {subject}"
          (.ok e, r.dispatch e.id)

/-- Arms a timer for an execution that is suspended. What cannot be armed is told and passed over. -/
def rearm (r : Runner α ε ν) (e : Execution) : Nat × Runner α ε ν :=
  match e.scheduledFor with
  | none => (0, r)
  | some due =>
    match r.schedule e.id due with
    | (.ok true, r) => (1, r)
    | (.ok false, r) => (0, r)
    | (.error _, r) =>
      (0, r.say .error .scheduler s!"Failed to re-arm timer for execution {e.id}")

/-- Arms timers for executions in turn and counts them. -/
def rearmAll (r : Runner α ε ν) : List Execution → Nat × Runner α ε ν
  | [] => (0, r)
  | e :: es =>
    let (n, r) := r.rearm e
    let (m, r) := rearmAll r es
    (n + m, r)

/-- Arms timers for all suspended executions that have none; says how many. -/
def recover (r : Runner α ε ν) : Nat × Runner α ε ν :=
  let pending := ExecutionStorage.listScheduled r.executions
  (r.say .info .scheduler s!"Found {pending.length} pending executions to resume").rearmAll pending

/-- The record of an execution. -/
def getExecution (r : Runner α ε ν) (id : String) : Except Fault Execution :=
  match ExecutionStorage.get r.executions id with
  | some e => .ok e
  | none => .error (.noExecution id)

/-- The most recent executions. No limit, and a limit of zero, stand for the runner's own. -/
def listExecutions (r : Runner α ε ν) (limit : Option Int) : Except Fault (List Execution) :=
  ExecutionStorage.listRecent r.executions
    (if limit.getD 0 = 0 then r.recentLimit else limit.getD 0)

/-- Disarms every timer, then lets the tasks in flight end, one after the other and before any timer that
    they arm can fire. -/
def shutdown (r : Runner α ε ν) (fuel : Nat) : Option (Runner α ε ν) :=
  ({ r with timers := { r.timers with entries := .empty } }).runQueued fuel

/-- The runner that a new process has over the same stores. -/
def reopened (r : Runner α ε ν) : Runner α ε ν := { r with timers := .empty, queue := [] }

/-- The clock moves on. -/
def advance (r : Runner α ε ν) (micros : Nat) : Runner α ε ν :=
  { r with clock := r.clock.addMicros micros }

/-! ## 6. Waiting -/

/-- The number of whole naps after which a moment is reached. -/
def napsUntil (r : Runner α ε ν) (due : Moment) (nap : Nat) : Nat :=
  match due.since r.clock with
  | .ok micros => max 1 ((micros.toNat + nap - 1) / nap)
  | .error _ => 1

/-- Lets time pass up to a moment. Timers fire at their own time on the way. -/
def passUntil (fuel : Nat) : Nat → Runner α ε ν → Moment → Option (Runner α ε ν)
  | 0, _, _ => none
  | rounds + 1, r, target =>
    match r.timers.nextDue? with
    | none => some { r with clock := target }
    | some due =>
      match due.atMost target, due.since r.clock with
      | .ok true, .ok micros =>
        match (r.advance micros.toNat).drain fuel with
        | none => none
        | some r => passUntil fuel rounds r target
      | _, _ => some { r with clock := target }

/-- Naps until no timer is in the registry. Naps during which nothing can happen are taken at once. -/
def waitWithin (fuel nap : Nat) : Nat → Runner α ε ν → Option (Runner α ε ν)
  | 0, _ => none
  | rounds + 1, r =>
    match r.drain fuel with
    | none => none
    | some r =>
      if r.timers.count = 0 then some r
      else
        let naps := match r.timers.nextDue? with
          | some due => r.napsUntil due nap
          | none => 1
        match passUntil fuel fuel r (r.clock.addMicros (naps * nap)) with
        | none => none
        | some r => waitWithin fuel nap rounds r

/-- Runs until every timer has fired, looking after each nap of that many microseconds. -/
def waitUntilIdle (r : Runner α ε ν) (fuel nap : Nat) : Option (Runner α ε ν) :=
  waitWithin fuel nap fuel r

end Runner

end Dripline
