import Dripline.Logging
import Dripline.Settings.Load
import Dripline.Store.Database

/-!
# Failures of commands

Everything that can stop a command, and whether the program has an answer to it: a failure that it has no
answer to ends the program as a defect. Of a few failures only the cause is described here, not what the program
does then.
-/

namespace Dripline.Command

/-- Why a command was stopped. -/
inductive Failure where
  | fault (f : Fault)
  | settings (f : SettingsFault)
  | level (f : Logging.Fault)
  | file (f : FileFault)
  | database (f : DatabaseFault)
deriving DecidableEq, Repr

namespace Failure

/-- The name of a failure in reports. -/
def label : Failure → String
  | .fault f => f.label
  | .settings f => f.label
  | .level f => f.label
  | .file f => f.label
  | .database f => f.label

/-- The wording of a failure. -/
def message : Failure → String
  | .fault f => f.message
  | .settings f => f.message
  | .level f => f.message
  | .file f => f.message
  | .database f => f.message

/-- What does not fit, where something does not. -/
def issues : Failure → List Shape.Issue
  | .fault (.document (.shape is)) => is
  | .settings (.shape is) => is
  | _ => []

/-- A count of misfits in something of a name. -/
def countText (n : Nat) (name : String) : String :=
  s!"{n} validation error" ++ (if n = 1 then "" else "s") ++ " for " ++ name

/-- What the user reads. -/
def answer (f : Failure) : String :=
  "error: " ++ f.message ++
    match f with
    | .fault (.document (.shape is)) => ": " ++ countText is.length "AutomationSpec"
    | .settings (.shape is) => ": " ++ countText is.length "Settings"
    | _ => ""

/-- Whether the program has an answer. It has none to a database that cannot be used, or to a level that is
    none. -/
def isAnswered : Failure → Bool
  | .fault f => f.isReported
  | .settings f => f.isReported
  | .level _ => false
  | .file _ => true
  | .database _ => false

/-- Whether what a failure leads to is described. -/
def isDescribed : Failure → Bool
  | .fault (.yaml f) => f.isDescribed
  | .settings f => f.isDescribed
  | _ => true

end Failure

end Dripline.Command
