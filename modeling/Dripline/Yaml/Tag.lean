import Dripline.Text.Digits
import Dripline.Time.Stamp

/-!
# Types of nodes

Every node has a type. It is given by a tag, or else by the words of a plain scalar:

* `truthWord?`, `isNull`: the words for truth values and for nothing;
* `isFloat`, `isWhole`: numbers in several bases, with underscores between digits, and in base sixty
  with colons between the places;
* `Stamp`: dates, with or without a time of day;
* `Tag.ofPlain`: the type of a plain scalar. What has none of these forms is text.
-/

namespace Dripline.Yaml

open Text

/-- The type of a node. -/
inductive Tag where
  | null
  | bool
  | int
  | float
  | binary
  | timestamp
  | omap
  | pairs
  | set
  | str
  | seq
  | map
  /-- A key whose value is merged into the mapping. -/
  | merge
  /-- A key for the value of the mapping as a whole. -/
  | value
  | unknown
deriving DecidableEq, Repr

namespace Tag

/-- What the addresses of the known types begin with. -/
def standard : String := "tag:yaml.org,2002:"

/-- The known types by name. -/
def names : List (String × Tag) :=
  [("null", .null), ("bool", .bool), ("int", .int), ("float", .float), ("binary", .binary),
    ("timestamp", .timestamp), ("omap", .omap), ("pairs", .pairs), ("set", .set), ("str", .str),
    ("seq", .seq), ("map", .map), ("merge", .merge), ("value", .value)]

/-- The type at an address. -/
def ofAddress (address : String) : Tag :=
  ((names.find? fun (name, _) => standard ++ name == address).map Prod.snd).getD .unknown

/-- Whether nodes of the type have parts. -/
def isCollection (t : Tag) : Bool :=
  [Tag.omap, .pairs, .set, .seq, .map].contains t

end Tag

/-! ## 1. Words -/

/-- The truth value of a word in lower case. -/
def truthOf? (word : List Char) : Option Bool :=
  if ["yes", "true", "on"].any fun w => w.toList = word then some true
  else if ["no", "false", "off"].any fun w => w.toList = word then some false
  else none

/-- The words for truth values: in lower case, in upper case, or with a capital. -/
def isTruth (cs : List Char) : Bool :=
  ["yes", "Yes", "YES", "no", "No", "NO", "true", "True", "TRUE", "false", "False", "FALSE", "on",
    "On", "ON", "off", "Off", "OFF"].any fun w => w.toList = cs

/-- The words for nothing, one of which is empty. -/
def isNull (cs : List Char) : Bool :=
  ["~", "null", "Null", "NULL", ""].any fun w => w.toList = cs

/-! ## 2. Numbers -/

/-- The parts of a text between marks. -/
def pieces (mark : Char) : List Char → List (List Char)
  | [] => [[]]
  | c :: cs =>
    if c = mark then [] :: pieces mark cs
    else
      match pieces mark cs with
      | [] => [[c]]
      | p :: ps => (c :: p) :: ps

/-- A digit or an underscore. -/
def isSpacedDigit (c : Char) : Bool := isDigit c || c = '_'

/-- The text after a sign, if there is one. -/
def afterSign : List Char → List Char
  | '+' :: cs => cs
  | '-' :: cs => cs
  | cs => cs

/-- A place in base sixty after the first. -/
def isSixtieth : List Char → Bool
  | [a] => isDigit a
  | [a, b] => '0' ≤ a && a ≤ '5' && isDigit b
  | _ => false

/-- Places in base sixty after the first, a colon before each. -/
def areSixtieths : List Char → Bool
  | ':' :: cs => (pieces ':' cs).all isSixtieth
  | _ => false

/-- A whole number: binary, hexadecimal, octal, decimal or in base sixty. -/
def isWhole (cs : List Char) : Bool :=
  match afterSign cs with
  | ['0'] => true
  | '0' :: 'b' :: ds => !ds.isEmpty && ds.all fun c => c = '0' || c = '1' || c = '_'
  | '0' :: 'x' :: ds => !ds.isEmpty && ds.all fun c => (digitValue? c).isSome || c = '_'
  | '0' :: ds => ds.all fun c => ('0' ≤ c && c ≤ '7') || c = '_'
  | d :: ds =>
    let rest := ds.dropWhile isSpacedDigit
    isDigit d && (rest.isEmpty || areSixtieths rest)
  | [] => false

/-- Nothing, or an exponent with a sign. -/
def isExponent : List Char → Bool
  | [] => true
  | e :: s :: ds => (e = 'e' || e = 'E') && (s = '+' || s = '-') && !ds.isEmpty && ds.all isDigit
  | _ => false

/-- Digits with a point after them. -/
def isPointed (cs : List Char) : Bool :=
  match cs with
  | d :: ds =>
    match ds.dropWhile isSpacedDigit with
    | '.' :: rest => isDigit d && isExponent (rest.dropWhile isSpacedDigit)
    | rest =>
      isDigit d && areSixtieths (rest.takeWhile (· ≠ '.')) &&
        match rest.dropWhile (· ≠ '.') with
        | '.' :: fraction => fraction.all isSpacedDigit
        | _ => false
  | [] => false

/-- A number with a point, or one of the words that stand for no digits. -/
def isFloat (cs : List Char) : Bool :=
  isPointed (afterSign cs) ||
    (match cs with
      | '.' :: d :: ds => isDigit d && isExponent (ds.dropWhile isSpacedDigit)
      | _ => false) ||
    ([".inf", ".Inf", ".INF"].any fun w => w.toList = afterSign cs) ||
    ([".nan", ".NaN", ".NAN"].any fun w => w.toList = cs)

/-! ## 3. Dates and times -/

/-- An offset from universal time as it is written. -/
structure Zone where
  negative : Bool
  hours : Nat
  minutes : Nat
deriving DecidableEq, Repr

/-- A time of day as it is written; no zone, or one. -/
structure Clock where
  hour : Nat
  minute : Nat
  second : Nat
  fraction : List Char
  zone : Option Zone
deriving DecidableEq, Repr

/-- A date as it is written, with a time of day or without. -/
structure Stamp where
  year : Nat
  month : Nat
  day : Nat
  clock : Option Clock
deriving DecidableEq, Repr

namespace Stamp

/-- One or two digits at the front. -/
def takeShort : List Char → Option (Nat × List Char)
  | a :: b :: cs =>
    if isDigit a && isDigit b then (readNat? 10 [a, b]).map fun n => (n, cs)
    else if isDigit a then (readNat? 10 [a]).map fun n => (n, b :: cs)
    else none
  | [a] => if isDigit a then (readNat? 10 [a]).map fun n => (n, []) else none
  | [] => none

/-- A zone to the end of the text, or nothing. -/
def readZone? (cs : List Char) : Option (Option Zone) :=
  match cs with
  | [] => some none
  | cs =>
    match cs.dropWhile fun c => c = ' ' || c = '\t' with
    | ['Z'] => some (some ⟨false, 0, 0⟩)
    | s :: cs =>
      if s = '+' || s = '-' then do
        let (hours, cs) ← takeShort cs
        match cs with
        | [] => some (some ⟨s = '-', hours, 0⟩)
        | _ =>
          let cs ← Moment.takeChar ':' cs
          let (minutes, cs) ← Moment.takeFixed 2 0 cs
          if cs.isEmpty then some (some ⟨s = '-', hours, minutes⟩) else none
      else none
    | [] => none

/-- The fraction of a second, if there is one. -/
def takeFraction : List Char → List Char × List Char
  | '.' :: cs => (cs.takeWhile isDigit, cs.dropWhile isDigit)
  | cs => ([], cs)

/-- A time of day to the end of the text. -/
def readClock? (cs : List Char) : Option Clock := do
  let (hour, cs) ← takeShort cs
  let cs ← Moment.takeChar ':' cs
  let (minute, cs) ← Moment.takeFixed 2 0 cs
  let cs ← Moment.takeChar ':' cs
  let (second, cs) ← Moment.takeFixed 2 0 cs
  let (fraction, cs) := takeFraction cs
  let zone ← readZone? cs
  some ⟨hour, minute, second, fraction, zone⟩

/-- What stands between a date and a time of day: a letter, or spaces and tabs. -/
def afterGap? : List Char → Option (List Char)
  | c :: cs =>
    if c = 'T' || c = 't' then some cs
    else if c = ' ' || c = '\t' then some (cs.dropWhile fun c => c = ' ' || c = '\t')
    else none
  | [] => none

/-- A date, possibly with a time of day. -/
def read? (cs : List Char) : Option Stamp := do
  let (year, cs) ← Moment.takeFixed 4 0 cs
  let cs ← Moment.takeChar '-' cs
  let (month, cs) ← takeShort cs
  let cs ← Moment.takeChar '-' cs
  let (day, cs) ← takeShort cs
  if cs.isEmpty then some ⟨year, month, day, none⟩
  else do
    let cs ← afterGap? cs
    let clock ← readClock? cs
    some ⟨year, month, day, some clock⟩

end Stamp

/-- A date in ten characters, or any date with a time of day. -/
def isTimestamp (cs : List Char) : Bool :=
  match Stamp.read? cs with
  | some stamp => stamp.clock.isSome || cs.length == 10
  | none => false

/-! ## 4. Plain scalars -/

/-- A text without the line break at its end. -/
def withoutBreak (cs : List Char) : List Char :=
  match cs.reverse with
  | '\n' :: c :: rest => (c :: rest).reverse
  | _ => cs

/-- The type of a plain scalar. -/
def Tag.ofPlain (s : String) : Tag :=
  let cs := withoutBreak s.toList
  if isTruth cs then .bool
  else if isFloat cs then .float
  else if isWhole cs then .int
  else if cs = ['<', '<'] then .merge
  else if isNull cs then .null
  else if isTimestamp cs then .timestamp
  else if cs = ['='] then .value
  else .str

end Dripline.Yaml
