import Dripline.Command.Words
import Dripline.Number.Reading
import Dripline.Text.Blank

/-!
# Invocations

What a command line asks for:

* `Action`: the commands with their operands;
* `Invocation.ofWords`: the command that words ask for, and what they say about settings.
-/

namespace Dripline.Command

/-- What is to be done. -/
inductive Action where
  /-- Checks an automation in a file. -/
  | validate (file : String)
  /-- Saves an automation in a file. -/
  | save (file : String)
  /-- Starts an execution of an automation given by file, name or id. -/
  | run (automation recipient : String) (wait : Bool)
  /-- Resumes suspended executions. -/
  | serve (pollInterval : Double)
  /-- Lists executions. -/
  | executions (limit : Option Int)
  /-- Shows an execution. -/
  | display (executionId : String)
deriving DecidableEq, Repr

/-- A command with the options before it. -/
structure Invocation where
  config : Option String
  logLevel : Option String
  action : Action
deriving DecidableEq, Repr

/-- An option with any text as its value. -/
def textOption (name : String) : OptionSpec := ⟨name, .value fun _ => true⟩

/-- A whole number with blanks around it. -/
def wholeNumber? (s : String) : Option Int :=
  Double.readInteger? (Text.trimBy Text.isBlank s.toList)

/-- A decimal with blanks around it. -/
def decimal? (s : String) : Option Double :=
  Double.readDecimal? (Text.trimBy Text.isBlank s.toList)

/-- The options before the command. -/
def generalOptions : List OptionSpec :=
  helpOptions ++ [textOption "--config", textOption "--log-level"]

/-- The options of the command that starts an execution. -/
def runOptions : List OptionSpec := helpOptions ++ [textOption "--to", ⟨"--wait", .flag⟩]

/-- The options of the command that resumes executions. -/
def serveOptions : List OptionSpec :=
  helpOptions ++ [⟨"--poll-interval", .value fun s => (decimal? s).isSome⟩]

/-- The options of the command that lists executions. -/
def listOptions : List OptionSpec :=
  helpOptions ++ [⟨"--limit", .value fun s => (wholeNumber? s).isSome⟩]

/-- The operand of a command that takes exactly one. -/
def operand (s : Scan) : Except Halt String :=
  match s.plain with
  | [w] => .ok w
  | _ => .error .misuse

/-- A required option. -/
def requiredOption (s : Scan) (name : String) : Except Halt String :=
  match s.value? name with
  | some v => .ok v
  | none => .error .misuse

/-- Whether all words were of use. -/
def used {β : Type} (s : Scan) (b : β) : Except Halt β :=
  if s.leftover then .error .misuse else .ok b

/-- The command of a name with the words after it. -/
def Action.ofWords (name : String) (words : List String) : Except Halt Action :=
  match name with
  | "validate" => do
    let s ← Scan.run helpOptions .single words
    used s (.validate (← operand s))
  | "save" => do
    let s ← Scan.run helpOptions .single words
    used s (.save (← operand s))
  | "run" => do
    let s ← Scan.run runOptions .single words
    let automation ← operand s
    let recipient ← requiredOption s "--to"
    used s (.run automation recipient (s.has "--wait"))
  | "serve" => do
    let s ← Scan.run serveOptions .nothing words
    used s (.serve (((s.value? "--poll-interval").bind decimal?).getD (.ofInt 1)))
  | "executions" => do
    let s ← Scan.run listOptions .nothing words
    used s (.executions ((s.value? "--limit").bind wholeNumber?))
  | "show" => do
    let s ← Scan.run helpOptions .single words
    used s (.display (← operand s))
  | _ => .error .misuse

/-- What the words of a command line ask for. -/
def Invocation.ofWords (words : List String) : Except Halt Invocation := do
  let s ← Scan.run generalOptions .command words
  match s.plain with
  | name :: rest =>
    let action ← Action.ofWords name rest
    used s ⟨s.value? "--config", s.value? "--log-level", action⟩
  | [] => .error .misuse

/-- How the program is called, for who asks and for who got it wrong. -/
def usage : String :=
  "usage: flowbuilder [-h] [--config CONFIG] [--log-level LOG_LEVEL] " ++
    "\x7bvalidate,save,run,serve,executions,show\x7d ..."

end Dripline.Command
