import Dripline.Text.Quoted
import Dripline.Keyed

/-!
# Files

Texts under paths, and why one of them cannot be read:

* `Route`: a path without what it does not need;
* `Files.find`: what a path leads to. A path may lead through directories, which are there when a file
  is in them;
* `Files.readText`: the text of a file, with one kind of line ends.
-/

namespace Dripline

/-- Why a file cannot be read. -/
inductive FileFault where
  | absent (path : String)
  | directory (path : String)
  | notDirectory (path : String)
deriving DecidableEq, Repr

namespace FileFault

/-- The name of a fault in reports. -/
def label : FileFault → String
  | .absent _ => "FileNotFoundError"
  | .directory _ => "IsADirectoryError"
  | .notDirectory _ => "NotADirectoryError"

/-- The wording of a fault. -/
def message : FileFault → String
  | .absent path => "[Errno 2] No such file or directory: " ++ Text.quoted path
  | .directory path => "[Errno 21] Is a directory: " ++ Text.quoted path
  | .notDirectory path => "[Errno 20] Not a directory: " ++ Text.quoted path

end FileFault

/-! ## 1. Routes -/

/-- The parts of a path between its slashes. -/
def pathParts : List Char → List (List Char)
  | [] => [[]]
  | c :: cs =>
    if c = '/' then [] :: pathParts cs
    else
      match pathParts cs with
      | [] => [[c]]
      | p :: ps => (c :: p) :: ps

/-- Where a path leads: from the root of the system or from here, through names. -/
structure Route where
  fromRoot : Bool
  names : List String
deriving DecidableEq, Repr

namespace Route

/-- The route of a path. Empty names and those of the directory itself say nothing. -/
def ofPath (path : String) : Route where
  fromRoot := path.toList.head? == some '/'
  names := ((pathParts path.toList).map String.ofList).filter fun p => p != "" && p != "."

/-- A route as it is shown. -/
def render (r : Route) : String :=
  let joined := "/".intercalate r.names
  if r.fromRoot then "/" ++ joined else if joined = "" then "." else joined

/-- The directory that a route leads through last. -/
def parent (r : Route) : Route := { r with names := r.names.dropLast }

/-- Whether one route is the beginning of another one. -/
def isStartOf (r s : Route) : Bool := r.fromRoot == s.fromRoot && r.names.isPrefixOf s.names

/-- Whether a route leads to a directory in any case: the root, the directory itself, and those
    above it. -/
def isAlwaysThere (r : Route) : Bool :=
  if r.fromRoot then r.names.isEmpty else r.names.all (· == "..")

end Route

/-! ## 2. Files -/

/-- Texts under the paths of files, and further directories that are there. -/
structure Files where
  texts : Keyed String
  directories : List Route
deriving DecidableEq, Repr

/-- What a path leads to. -/
inductive Found where
  | text (s : String)
  | directory
  | absent
  | throughFile
deriving DecidableEq, Repr

namespace Files

/-- The directory without files. -/
def empty : Files := ⟨.empty, []⟩

/-- The files with a text in a file. -/
def write (fs : Files) (path text : String) : Files :=
  { fs with texts := fs.texts.put (Route.ofPath path).render text }

/-- The files with a directory that is there. -/
def withDirectory (fs : Files) (path : String) : Files :=
  { fs with directories := Route.ofPath path :: fs.directories }

/-- Files with the texts that are given. -/
def ofTexts (texts : List (String × String)) : Files :=
  texts.foldl (fun fs (path, s) => fs.write path s) empty

/-- The routes to all files. -/
def routes (fs : Files) : List Route := fs.texts.entries.map fun e => Route.ofPath e.1

/-- Whether a route leads to a directory. One that holds something is there. -/
def isDirectory (fs : Files) (r : Route) : Bool :=
  r.isAlwaysThere || fs.directories.any r.isStartOf ||
    fs.routes.any fun s => r.isStartOf s && r != s

/-- Whether a route leads on from a file. -/
def leadsThroughFile (fs : Files) (r : Route) : Bool :=
  fs.routes.any fun s => s.isStartOf r && r != s

/-- What a path leads to. -/
def find (fs : Files) (path : String) : Found :=
  let r := Route.ofPath path
  match fs.texts.get? r.render with
  | some s => .text s
  | none =>
    if fs.isDirectory r then .directory
    else if fs.leadsThroughFile r then .throughFile
    else .absent

/-- Whether a path leads to a file. -/
def isFile (fs : Files) (path : String) : Bool :=
  match fs.find path with
  | .text _ => true
  | _ => false

/-- Whether a file may be put at a path: the directory is there. -/
def hasRoom (fs : Files) (path : String) : Bool := fs.isDirectory (Route.ofPath path).parent

/-- A text with line feeds for all its line ends. -/
def plainLines : List Char → List Char
  | [] => []
  | '\r' :: '\n' :: cs => '\n' :: plainLines cs
  | c :: cs => (if c = '\r' then '\n' else c) :: plainLines cs

/-- The text of a file. -/
def readText (fs : Files) (path : String) : Except FileFault String :=
  match fs.find path with
  | .text s => .ok (String.ofList (plainLines s.toList))
  | .directory => .error (.directory (Route.ofPath path).render)
  | .absent => .error (.absent (Route.ofPath path).render)
  | .throughFile => .error (.notDirectory (Route.ofPath path).render)

end Files

end Dripline
