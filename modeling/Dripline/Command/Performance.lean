import Dripline.Command.Failure
import Dripline.Command.Invocation
import Dripline.Delivery.Post
import Dripline.Logging
import Dripline.Run.Report
import Dripline.Run.Runner
import Dripline.Saving
import Dripline.Store.Memory

/-!
# Carrying out commands

What the program does for an invocation, in a world of files, a clock and the numbers given out so far:

* `perform`: one command with a runner over open stores;
* `withStores`: the runner over the stores that the settings name. Timers do not outlive the command, and
  a database is a file again after it;
* `execute`: a whole call of the program. Its end is an exit status, or a failure that nothing answers.

Fuel bounds the interpreter, as in the runner.
-/

namespace Dripline.Command

/-- What lasts from one call of the program to the next. -/
structure World where
  files : Files
  clock : Moment
  ids : Ids
  mails : Nat

/-- How a call of the program ends. -/
inductive Ending where
  | status (code : Nat)
  /-- An answer to a failure, and the exit status. -/
  | answered (code : Nat) (answer : String)
  /-- A failure without an answer. -/
  | defect (failure : Failure)
  /-- A failure of which it is not described what the program does. -/
  | undescribed (failure : Failure)
deriving DecidableEq, Repr

/-- A call of the program: the lines it wrote, its end, and its journal from the level on that was asked
    for. -/
structure Report where
  lines : List String
  ending : Ending
  journal : List Line
deriving DecidableEq, Repr

namespace Report

/-- What was written, each line with its end. -/
def output (r : Report) : String := String.join (r.lines.map (· ++ "\n"))

/-- The report of a call that ends before anything is written. -/
def atOnce (ending : Ending) : Report := ⟨[], ending, []⟩

end Report

/-- A failure as the end of a call, with the exit status of answered ones. -/
def Ending.ofFailure (code : Nat) (f : Failure) : Ending :=
  if f.isAnswered then .answered code f.answer else if f.isDescribed then .defect f else .undescribed f

/-! ## 1. Commands -/

/-- A command so far: the lines written, latest first, and the runner. -/
structure Progress (α ε : Type) where
  written : List String
  runner : Runner α ε Post

/-- How a command over open stores came out; nothing when the fuel ran out. -/
abbrev Performed (α ε : Type) := Option (Except Failure Unit × Progress α ε)

section

variable {α ε : Type} [AutomationStorage α] [ExecutionStorage ε]

/-- One more line. -/
def Progress.write (p : Progress α ε) (line : String) : Progress α ε :=
  { p with written := line :: p.written }

/-- A command that is stopped. -/
def stopped (p : Progress α ε) (f : Failure) : Performed α ε := some (.error f, p)

/-- A command that is finished. -/
def finished (p : Progress α ε) : Performed α ε := some (.ok (), p)

/-- Goes on with the value of a result. -/
def onward {β : Type} (p : Progress α ε) (result : Except Fault β) (next : β → Performed α ε) :
    Performed α ε :=
  match result with
  | .ok b => next b
  | .error f => stopped p (.fault f)

/-- Saves the automation in a file. -/
def saveFile (files : Files) (path : String) (p : Progress α ε)
    (next : Automation → Progress α ε → Performed α ε) : Performed α ε :=
  match files.readText path with
  | .error f => stopped p (.file f)
  | .ok text =>
    let r := p.runner
    let saved := Authoring.saveText r.automations r.ids r.clock text
    let p := { p with runner := { r with
      automations := saved.store
      ids := saved.ids
      journal := saved.lines.reverse ++ r.journal } }
    onward p saved.result fun a => next a p

/-- The automation of a file, a name or an id. A file is saved first. -/
def findAutomation (files : Files) (named : String) (p : Progress α ε)
    (next : Automation → Progress α ε → Performed α ε) : Performed α ε :=
  if files.isFile named then saveFile files named p next
  else
    onward p (AutomationStorage.getByName p.runner.automations named) fun found =>
      match found with
      | some a => next a p
      | none => onward p (Authoring.get p.runner.automations named) fun a => next a p

/-- A nap of one second, in microseconds. -/
def standardNap : Nat := secondMicros

/-- Starts an execution and shows where it got to. -/
def startAndShow (fuel : Nat) (recipient : String) (wait : Bool) (a : Automation)
    (p : Progress α ε) : Performed α ε :=
  let (started, r) := p.runner.start a.id (some recipient)
  let p := { p with runner := r }
  onward p started fun e =>
    let p := p.write s!"Started execution {e.id} ({e.status.label})"
    match if wait then r.waitUntilIdle fuel standardNap else r.drain fuel with
    | none => none
    | some r =>
      let p := { p with runner := r }
      onward p (r.getExecution e.id) fun e => finished (p.write e.report)

/-- The microseconds of a number of seconds, none for one that is not positive. -/
def microsOf (seconds : Double) : Nat :=
  match seconds with
  | .finite false units => Double.roundTo 1 (units * secondMicros) Double.one
  | _ => 0

/-- Carries out a command that needs stores. -/
def perform (fuel : Nat) (files : Files) (action : Action) (p : Progress α ε) :
    Performed α ε :=
  match action with
  | .validate _ => finished p
  | .save file =>
    saveFile files file p fun a p => finished (p.write s!"Saved automation {a.id} ({a.name})")
  | .run named recipient wait =>
    findAutomation files named p (startAndShow fuel recipient wait)
  | .serve pollInterval =>
    let (n, r) := p.runner.recover
    let p := { p with runner := r }.write s!"Re-armed {n} pending executions"
    match r.waitUntilIdle fuel (microsOf pollInterval) with
    | none => none
    | some r => finished { p with runner := r }
  | .executions limit =>
    onward p (p.runner.listExecutions limit) fun es =>
      finished (es.foldl (fun p e => p.write e.summary) p)
  | .display id =>
    onward p (p.runner.getExecution id) fun e => finished (p.write e.report)

/-- A runner in a world, with nothing queued. -/
def runnerOver (w : World) (s : Settings) (answers : Answers) (automations : α)
    (executions : ε) : Runner α ε Post :=
  { automations, executions, notifier := .ofService s.service s.smtp answers w.mails
    clock := w.clock, ids := w.ids, timers := .empty, queue := [], journal := []
    previewChars := s.previewChars, recentLimit := s.recentLimit }

/-- Carries out a command over stores, then disarms the timers. The result comes with the stores and the
    world after it. -/
def performOver (fuel level : Nat) (w : World) (s : Settings) (answers : Answers)
    (action : Action) (automations : α) (executions : ε) :
    Option (Report × (α × ε) × World) :=
  match perform fuel w.files action ⟨[], runnerOver w s answers automations executions⟩ with
  | none => none
  | some (result, p) =>
    (p.runner.shutdown fuel).map fun r =>
      let ending := match result with
        | .ok () => .status 0
        | .error f => .ofFailure 1 f
      (⟨p.written.reverse, ending, linesFrom level r.journal⟩, (r.automations, r.executions),
        { w with clock := r.clock, ids := r.ids, mails := r.notifier.mails })

end

/-! ## 2. Calls of the program -/

/-- Checks the automation in a file. -/
def validateFile (w : World) (path : String) : Report :=
  match w.files.readText path with
  | .error f => .atOnce (.ofFailure 1 (.file f))
  | .ok text =>
    match Automation.ofText text none with
    | .error f => .atOnce (.ofFailure 1 (.fault f))
    | .ok a =>
      match a.flow.problems w.clock with
      | .error f => .atOnce (.ofFailure 1 (.fault (.arithmetic f)))
      | .ok [] => ⟨[s!"{a.name}: OK"], .status 0, []⟩
      | .ok (q :: qs) => ⟨(q :: qs).map fun q => "- " ++ q.message, .status 1, []⟩

/-- Carries out a command over the stores that the settings name. -/
def withStores (fuel level : Nat) (w : World) (s : Settings) (answers : Answers)
    (action : Action) : Option (Report × World) :=
  match Text.filled s.databasePath with
  | none =>
    (performOver fuel level w s answers action MemoryAutomations.empty
      MemoryExecutions.empty).map fun (report, _, w) => (report, w)
  | some path =>
    match (Database.openAt w.files path).bind Database.tables with
    | .error f => some (.atOnce (.ofFailure 1 (.database f)), w)
    | .ok t =>
      (performOver fuel level w s answers action t.automations t.executions).map
        fun (report, (automations, executions), w) =>
          (report, { w with files := Database.close w.files path ⟨automations, executions⟩ })

/-- The level from which on the journal is shown: an option counts more than the settings. -/
def shownRank (i : Invocation) (s : Settings) : Except Logging.Fault Nat :=
  Logging.rankOf ((Text.filled i.logLevel).getD s.logLevel)

/-- Carries out an invocation. A level of the journal that is none stops every command, and nothing answers
    it. -/
def carryOut (fuel : Nat) (w : World) (env : Environment) (answers : Answers)
    (i : Invocation) : Option (Report × World) :=
  match Settings.load w.files i.config env with
  | .error f => some (.atOnce (.ofFailure 2 (.settings f)), w)
  | .ok s =>
    match shownRank i s with
    | .error f => some (.atOnce (.defect (.level f)), w)
    | .ok level =>
      match i.action with
      | .validate file => some (validateFile w file, w)
      | action => withStores fuel level w s answers action

/-- How a call of the program came out: it stopped at its words, or it was carried out. -/
inductive CallOutcome where
  | halted (halt : Halt)
  | carriedOut (report : Report)
deriving DecidableEq, Repr

/-- A call of the program with the words after its name. -/
def execute (fuel : Nat) (w : World) (env : Environment) (answers : Answers)
    (words : List String) : Option (CallOutcome × World) :=
  match Invocation.ofWords words with
  | .error halt => some (.halted halt, w)
  | .ok i => (carryOut fuel w env answers i).map fun (report, w) => (.carriedOut report, w)

end Dripline.Command
