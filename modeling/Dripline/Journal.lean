/-!
# The journal

What the parts of the program tell about their work: a line has a level, the part that speaks, and a
text. Journals are kept with the newest line first, so that a line is added at the front.
-/

namespace Dripline

/-- How serious a line is. -/
inductive Level where
  | debug
  | info
  | warning
  | error
deriving DecidableEq, Repr

namespace Level

/-- The levels as numbers. -/
def rank : Level → Nat
  | .debug => 10
  | .info => 20
  | .warning => 30
  | .error => 40

/-- The name of a level. -/
def name : Level → String
  | .debug => "DEBUG"
  | .info => "INFO"
  | .warning => "WARNING"
  | .error => "ERROR"

end Level

/-- The parts that keep a journal. -/
inductive Speaker where
  | authoring
  | runner
  | interpreter
  | scheduler
  | logNotifier
  | smtpNotifier
deriving DecidableEq, Repr

/-- The name under which a part speaks. -/
def Speaker.name : Speaker → String
  | .authoring => "flowbuilder.automations"
  | .runner => "flowbuilder.runner"
  | .interpreter => "flowbuilder.workflow.executor"
  | .scheduler => "flowbuilder.workflow.scheduler"
  | .logNotifier => "flowbuilder.notifiers.console"
  | .smtpNotifier => "flowbuilder.notifiers.smtp"

/-- One line of a journal. -/
structure Line where
  level : Level
  speaker : Speaker
  text : String
deriving DecidableEq, Repr

/-- What is said at a level under a name, as it is shown. -/
def shownAs (level : Level) (name text : String) : String := level.name ++ " " ++ name ++ ": " ++ text

/-- A line as it is shown. -/
def Line.render (l : Line) : String := shownAs l.level l.speaker.name l.text

/-- The lines of at least a level, oldest first. -/
def linesFrom (level : Nat) (journal : List Line) : List Line :=
  (journal.filter fun l => level ≤ l.level.rank).reverse

end Dripline
