import Dripline.Flow.Model
import Dripline.Time.Stamp

/-!
# Reports

Executions as text for a reader:

* `Execution.report`: the record with a line for each entry of its log;
* `Execution.summary`: one line.
-/

namespace Dripline

/-- A text, or the word for none. -/
def orNone (s : Option String) : String := s.getD "None"

/-- One entry of a log. -/
def LogEntry.report (e : LogEntry) : String :=
  let text := match e.error with
    | none => orNone e.message
    | some error => "ERROR " ++ error
  s!"  [{e.timestamp.render}] {e.nodeKind}:{e.nodeId} {e.status} - {text}"

/-- A line about a moment, if there is one. -/
def momentLine (label : String) (m : Option Moment) : List String :=
  match m with
  | some m => [label ++ m.render]
  | none => []

/-- The lines of a report. -/
def Execution.reportLines (e : Execution) : List String :=
  [s!"Execution {e.id}", s!"  automation: {e.automationId}", s!"  subject:    {e.subject}",
    s!"  status:     {e.status.label}", s!"  node:       {orNone e.currentNode}"] ++
    momentLine "  resumes at: " e.scheduledFor ++ momentLine "  finished:   " e.completedAt ++
    e.log.map LogEntry.report

/-- The report of an execution. -/
def Execution.report (e : Execution) : String := "\n".intercalate e.reportLines

/-- A text with blanks after it up to a width. -/
def padRight (width : Nat) (s : String) : String :=
  s ++ String.ofList (List.replicate (width - s.length) ' ')

/-- An execution in one line. -/
def Execution.summary (e : Execution) : String :=
  s!"{e.id}  {padRight 9 e.status.label}  {e.subject}  {e.automationId}"

end Dripline
