import Dripline.Flow.Check
import Dripline.Flow.Step
import Dripline.Document.Automation
import Dripline.Text.Points
import Dripline.Yaml.Fault

/-!
# Faults

Everything that can go wrong outside a single step, by its cause:

* `Complaint`: what is wrong with something that was handed in to be saved;
* `Fault`: why an operation on automations or executions was refused;
* `label` and `message`: how reports and logs name and word a fault;
* `isReported`: whether the command line answers a fault with a message. All other faults are defects
  of what was handed in that nothing in the library expects.
-/

namespace Dripline

/-- The name of a calculation fault in reports. -/
def ArithFault.label : ArithFault → String
  | .nanToWhole => "ValueError"
  | .infinityToWhole => "OverflowError"
  | .dateOutOfRange => "OverflowError"
  | .tooManyDays _ => "OverflowError"
  | .dayWordOverflow => "OverflowError"
  | .mixedOrder => "TypeError"
  | .mixedDifference => "TypeError"

/-- Whether a calculation failed for its number alone. -/
def ArithFault.isReported : ArithFault → Bool
  | .nanToWhole => true
  | _ => false

/-- The name of a document fault in reports. -/
def DocumentFault.label : DocumentFault → String
  | .arithmetic fault => fault.label
  | _ => "ValueError"

/-- The wording of a document fault. Misfits are listed beside it. -/
def DocumentFault.message : DocumentFault → String
  | .notMapping => "Automation document must be a mapping"
  | .missingField name => s!"Missing required top-level field: {name}"
  | .shape _ => "Automation document validation error"
  | .arithmetic fault => fault.message

/-- Whether the command line answers a document fault. -/
def DocumentFault.isReported : DocumentFault → Bool
  | .arithmetic fault => fault.isReported
  | _ => true

/-- What is wrong with something that was handed in to be saved. -/
inductive Complaint where
  | flow (problem : Problem)
  | noName
  | longName
  | halfFlow
  | missingFields (names : List String)
deriving DecidableEq, Repr

/-- The largest length of a name. -/
def nameLimit : Nat := 100

/-- The wording of a complaint. -/
def Complaint.message : Complaint → String
  | .flow problem => problem.message
  | .noName => "Automation name is required"
  | .longName => s!"Automation name must be at most {nameLimit} characters"
  | .halfFlow => "Nodes and edges must be updated together"
  | .missingFields names => "Missing required fields: " ++ ", ".intercalate names

/-- Why an operation was refused. -/
inductive Fault where
  | rejected (complaints : List Complaint)
  | notStartable (problems : List Problem)
  | noAutomation (id : String)
  | noExecution (id : String)
  | nameTaken (name : String)
  | noSubject
  | badSubject (subject : String)
  | unknownFields (names : List String)
  | executionIdTaken
  | numberTooLarge
  | nameNotText (kind : String)
  | nameNotWhole (name : Text.Points)
  | document (fault : DocumentFault)
  | yaml (fault : Yaml.Fault)
  | arithmetic (fault : ArithFault)
deriving DecidableEq, Repr

namespace Fault

/-- The name of a fault in reports. -/
def label : Fault → String
  | .rejected _ => "AutomationValidationError"
  | .notStartable _ => "AutomationValidationError"
  | .noAutomation _ => "AutomationNotFoundError"
  | .noExecution _ => "ExecutionNotFoundError"
  | .nameTaken _ => "DuplicateNameError"
  | .noSubject => "InvalidSubjectError"
  | .badSubject _ => "InvalidSubjectError"
  | .unknownFields _ => "ValueError"
  | .executionIdTaken => "IntegrityError"
  | .numberTooLarge => "OverflowError"
  | .nameNotText _ => "AttributeError"
  | .nameNotWhole _ => "UnicodeEncodeError"
  | .document fault => fault.label
  | .yaml fault => fault.label
  | .arithmetic fault => fault.label

/-- The single errors that a refusal lists. -/
def errors : Fault → List String
  | .rejected complaints => complaints.map Complaint.message
  | .notStartable problems => problems.map Problem.message
  | _ => []

/-- The wording of a fault. -/
def message : Fault → String
  | .rejected complaints =>
    "Validation failed: " ++ "; ".intercalate (complaints.map Complaint.message)
  | .notStartable problems =>
    "Cannot execute invalid automation: " ++ "; ".intercalate (problems.map Problem.message)
  | .noAutomation id => s!"Automation not found: {id}"
  | .noExecution id => s!"Execution not found: {id}"
  | .nameTaken name => s!"Automation name must be unique: {name}"
  | .noSubject => "Email is required"
  | .badSubject subject => s!"Invalid email format: {subject}"
  | .unknownFields names => "Unknown execution fields: " ++ ", ".intercalate names
  | .executionIdTaken => "UNIQUE constraint failed: executions.id"
  | .numberTooLarge => "Python int too large to convert to SQLite INTEGER"
  | .nameNotWhole name => name.refusal
  | .nameNotText kind => "'" ++ kind ++ "' object has no attribute 'strip'"
  | .document fault => fault.message
  | .yaml fault => fault.message
  | .arithmetic fault => fault.message

/-- Whether the command line answers the fault with a message. -/
def isReported : Fault → Bool
  | .executionIdTaken => false
  | .numberTooLarge => false
  | .nameNotText _ => false
  | .document fault => fault.isReported
  | .yaml fault => fault.isOfValue
  | .arithmetic fault => fault.isReported
  | _ => true

end Fault

end Dripline
