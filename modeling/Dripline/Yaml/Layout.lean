import Dripline.Yaml.Tag
import Dripline.Document.Value

/-!
# Writing YAML

The text of a value in block style: an entry or an item a line, two spaces of indentation, the items of a
list not indented under their key.

* `allowsPlain`, `allowsSingle`: the forms that a text may be written in. It is plain where that reads
  back as the same text, in single quotes where it is printable, and in double quotes elsewhere;
* `fold`: a line that has grown past the width is broken at its next single space;
* `render`: the text of a value.
-/

namespace Dripline.Yaml.Layout

/-- The column past which lines are broken. -/
def width : Nat := 80

/-- Spaces. -/
def blanks (n : Nat) : List Char := List.replicate n ' '

/-- A new line and its indentation. -/
def newLine (indent : Nat) : List Char := '\n' :: blanks indent

/-! ## 1. Forms of a text -/

/-- A printable character of ASCII. -/
def isPrintable (c : Char) : Bool := ' ' ≤ c && c ≤ '~'

/-- Whether a text ends here or goes on with a space. -/
def atGap : List Char → Bool
  | [] => true
  | c :: _ => c = ' '

/-- Whether no colon ends a word and no number sign begins one. -/
def hasNoMarks (afterGap : Bool) : List Char → Bool
  | [] => true
  | c :: cs =>
    !(c = ':' && atGap cs) && !(c = '#' && afterGap) && hasNoMarks (c = ' ') cs

/-- Whether a text may begin a plain scalar. -/
def beginsPlain : List Char → Bool
  | [] => false
  | c :: cs =>
    !("#,[]\x7b\x7d&*!|>'\"%@` ".toList.contains c) &&
      !((c = '?' || c = ':' || c = '-') && atGap cs) &&
      !("---".toList.isPrefixOf (c :: cs)) && !("...".toList.isPrefixOf (c :: cs))

/-- Whether a text may stand without quotes. -/
def allowsPlain (cs : List Char) : Bool :=
  beginsPlain cs && cs.all isPrintable && cs.getLast? != some ' ' &&
    hasNoMarks false cs && Tag.ofPlain (String.ofList cs) == .str

/-- Whether no space stands beside a line break. -/
def hasNoSpacedBreak : List Char → Bool
  | a :: b :: cs =>
    !(a = ' ' && b = '\n') && !(a = '\n' && b = ' ') && hasNoSpacedBreak (b :: cs)
  | _ => true

/-- Whether a text may stand in single quotes. -/
def allowsSingle (cs : List Char) : Bool :=
  (cs.all fun c => c = '\n' || isPrintable c) && hasNoSpacedBreak cs

/-! ## 2. Writing a text -/

/-- A text without quotes, folded. The flag says whether the last character was a space. -/
def fold (indent : Nat) (afterSpace : Bool) (column : Nat) : List Char → List Char
  | [] => []
  | c :: cs =>
    if c = ' ' && !afterSpace && cs.head? != some ' ' && width < column then
      newLine indent ++ fold indent true indent cs
    else c :: fold indent (c = ' ') (column + 1) cs

/-- The line breaks at the front of a text. -/
def takeBreaks : List Char → Nat × List Char
  | [] => (0, [])
  | c :: cs =>
    if c = '\n' then
      let (n, rest) := takeBreaks cs
      (n + 1, rest)
    else (0, c :: cs)

/-- The inside of single quotes, folded: quotes are doubled, and a run of line breaks has one more. -/
def foldSingle (indent : Nat) (previous : Option Char) (column : Nat) : List Char → List Char
  | [] => []
  | c :: cs =>
    if c = '\n' then
      let lead := if previous = some '\n' then [] else ['\n']
      if cs.head? = some '\n' then lead ++ '\n' :: foldSingle indent (some c) 0 cs
      else lead ++ newLine indent ++ foldSingle indent (some c) indent cs
    else if c = ' ' && previous.isSome && previous != some ' ' && !cs.isEmpty &&
        cs.head? != some ' ' && width < column then
      newLine indent ++ foldSingle indent (some c) indent cs
    else if c = '\'' then '\'' :: '\'' :: foldSingle indent (some c) (column + 2) cs
    else c :: foldSingle indent (some c) (column + 1) cs

/-- The letter of a character that has an escape of its own. -/
def escapeLetter? (c : Char) : Option Char :=
  ([('\x00', '0'), ('\x07', 'a'), ('\x08', 'b'), ('\x09', 't'), ('\x0A', 'n'), ('\x0B', 'v'),
    ('\x0C', 'f'), ('\x0D', 'r'), ('\x1B', 'e'), ('"', '"'), ('\\', '\\'), ('\x85', 'N'),
    ('\xA0', '_'), ('\u2028', 'L'), ('\u2029', 'P')] : List (Char × Char)).lookup c

/-- A number in upper-case hexadecimal with leading zeros up to a width. -/
def hexCapitals (n value : Nat) : List Char :=
  (Text.hexPadded n value).map Char.toUpper

/-- The escape of a character, where it needs one in double quotes. -/
def escape? (c : Char) : Option (List Char) :=
  match escapeLetter? c with
  | some letter => some ['\\', letter]
  | none =>
    if isPrintable c then none
    else if c.toNat < 0x100 then some ('\\' :: 'x' :: hexCapitals 2 c.toNat)
    else if c.toNat < 0x10000 then some ('\\' :: 'u' :: hexCapitals 4 c.toNat)
    else some ('\\' :: 'U' :: hexCapitals 8 c.toNat)

/-- The end of a line in double quotes, and the beginning of the next one before a text, with its
    column. A space at the beginning needs a mark. -/
def breakDouble (indent : Nat) (next : List Char) : List Char × Nat :=
  if next.head? = some ' ' then ('\\' :: newLine indent ++ ['\\'], indent + 1)
  else ('\\' :: newLine indent, indent)

/-- The inside of double quotes, folded before a space and around an escape, but not at its ends. -/
def foldDouble (indent : Nat) (isFirst afterEscape : Bool) (column : Nat) :
    List Char → List Char
  | [] => []
  | c :: cs =>
    let inside := !isFirst && !cs.isEmpty
    match escape? c with
    | some e =>
      let column := column + e.length
      if inside && width + 1 < column then
        let (gap, column) := breakDouble indent cs
        e ++ gap ++ foldDouble indent false true column cs
      else e ++ foldDouble indent false true column cs
    | none =>
      if inside && (c = ' ' || afterEscape) && width < column then
        let (gap, column) := breakDouble indent (c :: cs)
        gap ++ c :: foldDouble indent false false (column + 1) cs
      else c :: foldDouble indent false false (column + 1) cs

/-- A text in the first form that it allows. It begins at a column, and further lines are indented. -/
def textChars (indent column : Nat) (s : String) : List Char :=
  let cs := s.toList
  if allowsPlain cs then fold indent false column cs
  else if allowsSingle cs then '\'' :: foldSingle indent none (column + 1) cs ++ ['\'']
  else '"' :: foldDouble indent true false (column + 1) cs ++ ['"']

/-! ## 3. Writing a value -/

/-- A decimal. A mantissa without a point gets one. -/
def floatChars (x : Double) : List Char :=
  match x with
  | .nan => ".nan".toList
  | .infinite false => ".inf".toList
  | .infinite true => "-.inf".toList
  | x =>
    let cs := x.render.toList
    if cs.contains '.' then cs
    else cs.takeWhile (· ≠ 'e') ++ ".0".toList ++ cs.dropWhile (· ≠ 'e')

/-- The characters of a value that has no lines of its own. -/
def scalarChars (indent column : Nat) (v : Value) : List Char :=
  match v with
  | .text s => textChars indent column s
  | .bool b => if b then "true".toList else "false".toList
  | .int i => Text.signedDecimal i
  | .float x => floatChars x
  | .moment m => m.chars.take 10 ++ ' ' :: m.chars.drop 11
  | .date d => d.chars.take 10
  | _ => "null".toList

mutual

/-- What follows the colon of a key that stands at an indentation and ends at a column. -/
def afterKey (indent column : Nat) : Value → List Char
  | .map [] => " \x7b\x7d".toList
  | .list [] => " []".toList
  | .map es => newLine (indent + 2) ++ entryChars (indent + 2) es
  | .list vs => newLine indent ++ itemChars indent vs
  | v => ' ' :: scalarChars (indent + 2) (column + 1) v

/-- What follows the mark of an item that stands at an indentation. -/
def afterDash (indent : Nat) : Value → List Char
  | .map [] => " \x7b\x7d".toList
  | .list [] => " []".toList
  | .map es => ' ' :: entryChars (indent + 2) es
  | .list vs => ' ' :: itemChars (indent + 2) vs
  | v => ' ' :: scalarChars (indent + 2) (indent + 2) v

/-- Entries at an indentation, the first of them at the cursor. -/
def entryChars (indent : Nat) : List (Value × Value) → List Char
  | [] => []
  | (k, v) :: es =>
    let key := scalarChars indent indent k
    key ++ ':' :: afterKey indent (indent + key.length + 1) v ++
      if es.isEmpty then [] else newLine indent ++ entryChars indent es

/-- Items at an indentation, the first of them at the cursor. -/
def itemChars (indent : Nat) : List Value → List Char
  | [] => []
  | v :: vs =>
    '-' :: afterDash indent v ++ if vs.isEmpty then [] else newLine indent ++ itemChars indent vs

end

/-- The text of a mapping, with a line break at its end. -/
def render (v : Value) : String :=
  match v with
  | .map [] => "\x7b\x7d\n"
  | .list [] => "[]\n"
  | .map es => String.ofList (entryChars 0 es ++ ['\n'])
  | .list vs => String.ofList (itemChars 0 vs ++ ['\n'])
  | v => String.ofList (scalarChars 0 0 v ++ ['\n'])

end Dripline.Yaml.Layout
