import Dripline.Text.Digits

/-!
# Words of a command line

How the words after the name of a program are told apart:

* an option begins with `-`. It may be shortened as long as only one option begins so, and its value is
  the next word or follows a `=`;
* what looks like a negative number is no option, and neither is a word with a space in it that no
  option begins with;
* after `--` there are no options.

`Scan.run` reads words from left to right: a request for help ends it at once, and so does a fault.
-/

namespace Dripline.Command

/-- What an option is for. A value may be checked. -/
inductive OptionKind where
  | help
  | flag
  | value (accepts : String → Bool)

/-- An option under one of its names. -/
structure OptionSpec where
  name : String
  kind : OptionKind

/-- Why words are not read to the end. -/
inductive Halt where
  | help
  | misuse
deriving DecidableEq, Repr

/-- The exit status of a program that stops so. -/
def Halt.status : Halt → Nat
  | .help => 0
  | .misuse => 2

/-- The names for the request for help. -/
def helpOptions : List OptionSpec := [⟨"-h", .help⟩, ⟨"--help", .help⟩]

/-! ## 1. Kinds of words -/

/-- What a word is. -/
inductive Mark where
  | plain
  /-- The word after which there are no options. -/
  | divider
  /-- An option, which may be unknown, and the value written in the same word. -/
  | option (spec : Option OptionSpec) (value : Option String)

/-- A word before its first `=`, and what follows it. -/
def splitValue (cs : List Char) : List Char × Option (List Char) :=
  (cs.takeWhile (· ≠ '='), ((cs.dropWhile (· ≠ '=')).tail?))

/-- Digits, possibly with a point in or before them, after a minus sign. -/
def isNegativeNumber (cs : List Char) : Bool :=
  match cs with
  | '-' :: body =>
    match body.dropWhile Text.isDigit with
    | [] => !body.isEmpty
    | '.' :: fraction => !fraction.isEmpty && fraction.all Text.isDigit
    | _ => false
  | _ => false

/-- The options that a word may be short for, with the value in the word. A single letter may have its
    value right behind it. -/
def candidates (specs : List OptionSpec) (cs : List Char) : List (OptionSpec × Option String) :=
  if "--".toList.isPrefixOf cs then
    let (name, value) := splitValue cs
    (specs.filter fun s => name.isPrefixOf s.name.toList).map fun s =>
      (s, value.map String.ofList)
  else
    (specs.filter fun s => s.name.toList == cs.take 2).map fun s =>
      (s, some (String.ofList (cs.drop 2)))

/-- What a word is before the divider. -/
def markOf (specs : List OptionSpec) (word : String) : Except Halt Mark :=
  let cs := word.toList
  let (name, value) := splitValue cs
  let exact (cs : List Char) := specs.find? fun s => s.name.toList == cs
  if cs.head? != some '-' || cs.length = 1 then .ok .plain
  else
    match exact cs, value, exact name with
    | some s, _, _ => .ok (.option (some s) none)
    | none, some v, some s => .ok (.option (some s) (some (String.ofList v)))
    | none, _, _ =>
      match candidates specs cs with
      | [(s, v)] => .ok (.option (some s) v)
      | _ :: _ :: _ => .error .misuse
      | [] =>
        if isNegativeNumber cs || cs.contains ' ' then .ok .plain else .ok (.option none none)

/-- What each of some words is. -/
def marks (specs : List OptionSpec) : List String → Except Halt (List (String × Mark))
  | [] => .ok []
  | w :: ws =>
    if w = "--" then .ok ((w, .divider) :: ws.map fun w => (w, .plain))
    else do
      let m ← markOf specs w
      let rest ← marks specs ws
      .ok ((w, m) :: rest)

/-! ## 2. Reading -/

/-- What has been read: the values of options, latest first, the plain words, and whether something was
    left over. -/
structure Scan where
  values : List (String × String)
  plain : List String
  leftover : Bool
deriving Repr

/-- The plain words that are wanted. -/
inductive Operands where
  | nothing
  | single
  /-- A word and everything after it. -/
  | command
deriving DecidableEq, Repr

namespace Scan

/-- Before the first word. -/
def start : Scan := ⟨[], [], false⟩

/-- The value of an option that was given last. -/
def value? (s : Scan) (name : String) : Option String := s.values.lookup name

/-- Whether an option was given. -/
def has (s : Scan) (name : String) : Bool := (s.value? name).isSome

/-- The scan with a value of an option, if the option accepts it. -/
def put (s : Scan) (spec : OptionSpec) (value : String) : Except Halt Scan :=
  match spec.kind with
  | .value accepts =>
    if accepts value then .ok { s with values := (spec.name, value) :: s.values }
    else .error .misuse
  | _ => .ok { s with values := (spec.name, value) :: s.values }

/-- A request for help with something behind it in the same word. Behind the short name other letters
    do no harm, but a value does. -/
def helpWith (word : String) : Halt :=
  if "--".toList.isPrefixOf word.toList then .misuse
  else
    match (word.toList.drop 1).dropWhile (· == 'h') with
    | [] => .help
    | c :: _ => if c = '-' || c = '=' then .misuse else .help

/-- Reads one option, written as a word, with the words behind it: the scan after it and the words that
    are left. -/
def takeOption (s : Scan) (word : String) (spec : OptionSpec) (value : Option String)
    (rest : List (String × Mark)) : Except Halt (Scan × List (String × Mark)) :=
  match spec.kind, value with
  | .help, none => .error .help
  | .help, some _ => .error (helpWith word)
  | .flag, none => (s.put spec "").map fun s => (s, rest)
  | .flag, some _ => .error .misuse
  | .value _, some v => (s.put spec v).map fun s => (s, rest)
  | .value _, none =>
    match rest with
    | (w, .plain) :: more => (s.put spec w).map fun s => (s, more)
    | _ => .error .misuse

/-- The words after a divider that follows a plain word, which is of no use there. -/
def dropDivider : List (String × Mark) → List (String × Mark)
  | (_, .divider) :: rest => rest
  | rest => rest

/-- Reads a plain word with the words behind it: the scan after it and the words that are left. -/
def takePlain (s : Scan) (operands : Operands) (w : String) (rest : List (String × Mark)) :
    Scan × List (String × Mark) :=
  match operands with
  | .single =>
    if s.plain.isEmpty then ({ s with plain := [w] }, dropDivider rest)
    else ({ s with leftover := true }, rest)
  | .command => ({ s with plain := w :: rest.map Prod.fst }, [])
  | .nothing => ({ s with leftover := true }, rest)

/-- Reads words, within a number of steps that the number of words bounds. -/
def runWithin (operands : Operands) : Nat → Scan → List (String × Mark) → Except Halt Scan
  | 0, s, _ => .ok s
  | _ + 1, s, [] => .ok s
  | fuel + 1, s, (w, .plain) :: rest =>
    let (s, rest) := s.takePlain operands w rest
    runWithin operands fuel s rest
  | fuel + 1, s, (_, .divider) :: rest =>
    match operands, rest with
    | .single, (w, .plain) :: more =>
      let (s, more) := s.takePlain .single w more
      runWithin operands fuel s more
    | _, _ => .error .misuse
  | fuel + 1, s, (_, .option none _) :: rest =>
    runWithin operands fuel { s with leftover := true } rest
  | fuel + 1, s, (w, .option (some spec) value) :: rest =>
    match s.takeOption w spec value rest with
    | .error halt => .error halt
    | .ok (s, rest) => runWithin operands fuel s rest

/-- Reads words from left to right. -/
def run (specs : List OptionSpec) (operands : Operands) (words : List String) :
    Except Halt Scan :=
  match marks specs words with
  | .error halt => .error halt
  | .ok ms => runWithin operands ms.length start ms

end Scan

end Dripline.Command
