import Dripline.Command.Performance
import Std.Time.DateTime.Timestamp

/-!
# The program

Reads what a call needs -- its words, its environment, the files that it names and the clock -- lets
`Command.execute` decide everything, and then writes what came of it. Ids are numbered from the clock
on, so that they do not repeat from one call to the next. There is no way to a mail server from here:
every server answers like one that refuses connections.
-/

namespace Dripline.Program

open Command

/-- How many stages, tasks and rounds a call may take. -/
def fuel : Nat := 1000000000

/-- The names of the variables that settings are read from. -/
def variableNames : List String :=
  let fields := Settings.fieldNames ++ SmtpSettings.fieldNames.map ("smtp__" ++ ·)
  fields.map fun name => (Environment.lead ++ name).map Char.toUpper

/-- The variables that are set. -/
def readEnvironment : IO Environment :=
  variableNames.filterMapM fun name => do
    return (← IO.getEnv name).map fun s => (name, s)

/-- The files with what a path leads to, as far as a call can see it. -/
def learn (files : Files) (path : String) : IO Files := do
  let place := (← IO.currentDir) / path
  if path = "" then
    return files
  if ← place.isDir then
    return files.withDirectory path
  if ← place.pathExists then
    try
      return files.write path (← IO.FS.readFile place)
    catch _ =>
      return files
  let parent := (Route.ofPath path).parent.render
  if ← ((← IO.currentDir) / parent).isDir then
    return files.withDirectory parent
  return files

/-- The files that words name, also behind a `=`, and the database that the settings name. -/
def learnFiles (env : Environment) (words : List String) : IO Files := do
  let values := words.filterMap fun w => (splitValue w.toList).2.map String.ofList
  let files ← (words ++ values).foldlM learn Files.empty
  match Invocation.ofWords words with
  | .error _ => return files
  | .ok i =>
    match Settings.load files i.config env with
    | .error _ => return files
    | .ok s =>
      match s.databasePath with
      | some path => learn files path
      | none => return files

/-- Microseconds on the clock since the first of January 1970. -/
def readClock : IO Nat := do
  return (← Std.Time.Timestamp.now).toNanosecondsSinceUnixEpoch.val.toNat / 1000

/-- Writes the files that are new or have changed. -/
def writeFiles (before after : Files) : IO Unit :=
  after.texts.entries.forM fun (path, s) => do
    if before.texts.get? path != some s then
      IO.FS.writeFile path s

/-- The server that refuses connections. -/
def unreachable : Answers := fun _ => some (.system 111 "Connection refused")

/-- Waits as long as a call has waited. -/
def passTime (before after : Moment) : IO Unit := do
  match after.since before with
  | .ok micros => IO.sleep (micros.toNat / 1000).toUInt32
  | .error _ => return

/-- Writes what a call says and gives its exit status. -/
def conclude (r : Report) : IO UInt32 := do
  let err ← IO.getStderr
  for l in r.journal do
    err.putStrLn l.render
  IO.print r.output
  match r.ending with
  | .status code => return code.toUInt32
  | .answered code answer =>
    err.putStrLn answer
    return code.toUInt32
  | .defect f | .undescribed f =>
    err.putStrLn (f.label ++ ": " ++ f.message)
    return 1

/-- One call of the program. -/
def call (words : List String) : IO UInt32 := do
  let env ← readEnvironment
  let files ← learnFiles env words
  let micros ← readClock
  let clock := (Shape.momentAtEpoch? micros).getD Moment.first
  match execute fuel ⟨files, clock, ⟨micros⟩, micros⟩ env unreachable words with
  | none => return 1
  | some (.halted halt, _) =>
    let out ← if halt = .help then IO.getStdout else IO.getStderr
    out.putStrLn usage
    return halt.status.toUInt32
  | some (.carriedOut r, after) =>
    writeFiles files after.files
    passTime clock after.clock
    conclude r

end Dripline.Program

def main (words : List String) : IO UInt32 := Dripline.Program.call words
