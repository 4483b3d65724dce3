import Dripline.Document.Value
import Dripline.Number.Reading

/-!
# JSON texts

Writing and reading values in JSON, with the three number words for what JSON has no digits for:

* `Json.render`: one line without spaces; a text is written with the two escapes that it needs and
  with control characters by number;
* `Json.read?`: one value with blanks around it. A number with a point or an exponent is a float, and
  any other one an integer, with a limit to its digits; of a repeated key the last value counts.

A reader consumes its input from the front. Its fuel bounds the nesting and the number of items, and
the length of the text is always enough of it.
-/

namespace Dripline.Json

open Text

/-! ## 1. Writing -/

/-- One character between quotes. -/
def escaped (c : Char) : List Char :=
  if c = '"' then ['\\', '"']
  else if c = '\\' then ['\\', '\\']
  else if c.toNat < 0x20 then '\\' :: 'u' :: hexPadded 4 c.toNat
  else [c]

/-- A text between quotes. -/
def textChars (s : String) : List Char := '"' :: s.toList.flatMap escaped ++ ['"']

/-- A number word or the shortest text of a number. -/
def floatChars : Double → List Char
  | .nan => "NaN".toList
  | .infinite false => "Infinity".toList
  | .infinite true => "-Infinity".toList
  | x => x.render.toList

/-- The text of a key. -/
def keyText : Value → String
  | .text s => s
  | .int i => toString i
  | .float x => x.render
  | .bool b => if b then "true" else "false"
  | _ => "null"

mutual

/-- The characters of a value. Moments are written as their time stamps. -/
def chars : Value → List Char
  | .null => "null".toList
  | .bool b => if b then "true".toList else "false".toList
  | .int i => signedDecimal i
  | .float x => floatChars x
  | .text s => textChars s
  | .bytes _ => "null".toList
  | .date d => textChars d.render
  | .moment m => textChars m.render
  | .list items => '[' :: itemChars items ++ [']']
  | .members items => '[' :: itemChars items ++ [']']
  | .map entries => '\x7b' :: entryChars entries ++ ['\x7d']

/-- The items of a list, commas between them. -/
def itemChars : List Value → List Char
  | [] => []
  | [v] => chars v
  | v :: w :: rest => chars v ++ ',' :: itemChars (w :: rest)

/-- The entries of a mapping, commas between them. -/
def entryChars : List (Value × Value) → List Char
  | [] => []
  | [(k, v)] => textChars (keyText k) ++ ':' :: chars v
  | (k, v) :: e :: rest => textChars (keyText k) ++ ':' :: chars v ++ ',' :: entryChars (e :: rest)

end

/-- A value on one line. -/
def render (v : Value) : String := String.ofList (chars v)

/-! ## 2. Reading -/

/-- Blanks between the parts of a value. -/
def isGap (c : Char) : Bool := c = ' ' || c = '\t' || c = '\n' || c = '\r'

/-- The rest of a text after its leading blanks. -/
def skipGaps (cs : List Char) : List Char := cs.dropWhile isGap

/-- Four hexadecimal digits. -/
def takeHex4 : List Char → Option (Nat × List Char)
  | a :: b :: c :: d :: rest => (readNat? 16 [a, b, c, d]).map fun n => (n, rest)
  | _ => none

/-- An escape after `\u`: one code unit, or two that make one character. -/
def takeUnicode (cs : List Char) : Option (Char × List Char) := do
  let (high, rest) ← takeHex4 cs
  if 0xD800 ≤ high ∧ high < 0xDC00 then
    match rest with
    | '\\' :: 'u' :: more =>
      let (low, rest) ← takeHex4 more
      if 0xDC00 ≤ low ∧ low < 0xE000 then
        some (Char.ofNat (0x10000 + (high - 0xD800) * 0x400 + (low - 0xDC00)), rest)
      else none
    | _ => none
  else if 0xDC00 ≤ high ∧ high < 0xE000 then none
  else some (Char.ofNat high, rest)

/-- The character of a one-letter escape. -/
def simpleEscape? (c : Char) : Option Char :=
  if c = '"' || c = '\\' || c = '/' then some c
  else if c = 'b' then some '\x08'
  else if c = 'f' then some '\x0c'
  else if c = 'n' then some '\n'
  else if c = 'r' then some '\r'
  else if c = 't' then some '\t'
  else none

/-- The rest of a text after its opening quote. The characters read so far are in reverse. -/
def takeText : Nat → List Char → List Char → Option (String × List Char)
  | 0, _, _ => none
  | _ + 1, _, [] => none
  | fuel + 1, acc, c :: rest =>
    if c = '"' then some (String.ofList acc.reverse, rest)
    else if c = '\\' then
      match rest with
      | 'u' :: more =>
        match takeUnicode more with
        | some (d, rest) => takeText fuel (d :: acc) rest
        | none => none
      | e :: rest =>
        match simpleEscape? e with
        | some d => takeText fuel (d :: acc) rest
        | none => none
      | [] => none
    else if c.toNat < 0x20 then none
    else takeText fuel (c :: acc) rest

/-- Whether digits are the whole part of a number: no needless zero in front. -/
def isWholePart (digits : List Char) : Bool :=
  match digits with
  | [] => false
  | ['0'] => true
  | c :: _ => c != '0'

/-- The exponent of a number and the rest, or nothing when there is none. -/
def takeExponent (cs : List Char) : Option (Int × List Char) :=
  match cs with
  | e :: rest =>
    if e = 'e' || e = 'E' then
      let (negative, rest) := Double.takeSign rest
      let digits := rest.takeWhile isDigit
      if digits.isEmpty then none
      else
        let n : Int := Double.digitsValue digits
        some (if negative then -n else n, rest.dropWhile isDigit)
    else none
  | [] => none

/-- A number without its sign. -/
def takeNumber (negative : Bool) (cs : List Char) : Option (Value × List Char) :=
  let whole := cs.takeWhile isDigit
  let rest := cs.dropWhile isDigit
  if !isWholePart whole then none
  else
    let (fraction, rest, isFraction) :=
      match rest with
      | '.' :: d :: more =>
        if isDigit d then
          ((d :: more).takeWhile isDigit, (d :: more).dropWhile isDigit, true)
        else ([], rest, false)
      | _ => ([], rest, false)
    match takeExponent rest with
    | some (e, rest) =>
      some (.float (.ofDecimal negative (Double.digitsValue (whole ++ fraction))
        (e - fraction.length)), rest)
    | none =>
      if isFraction then
        some (.float (.ofDecimal negative (Double.digitsValue (whole ++ fraction))
          (-fraction.length)), rest)
      else if digitLimit < whole.length then none
      else
        let n : Int := Double.digitsValue whole
        some (.int (if negative then -n else n), rest)

/-- The words of JSON. -/
def words : List (String × Value) :=
  [("null", .null), ("true", .bool true), ("false", .bool false), ("NaN", .float .nan),
    ("Infinity", .float (.infinite false)), ("-Infinity", .float (.infinite true))]

/-- One of the words at the front of a text. -/
def takeWord (cs : List Char) : Option (Value × List Char) :=
  words.findSome? fun (word, value) =>
    if word.toList.isPrefixOf cs then some (value, cs.drop word.length) else none

mutual

/-- A value at the front of a text. -/
def takeValue : Nat → List Char → Option (Value × List Char)
  | 0, _ => none
  | fuel + 1, cs =>
    match takeWord cs with
    | some hit => some hit
    | none =>
      match cs with
      | '"' :: rest => (takeText (rest.length + 1) [] rest).map fun (s, rest) => (.text s, rest)
      | '[' :: rest =>
        match skipGaps rest with
        | ']' :: rest => some (.list [], rest)
        | rest => (takeItems fuel rest).map fun (items, rest) => (.list items, rest)
      | '\x7b' :: rest =>
        match skipGaps rest with
        | '\x7d' :: rest => some (.map [], rest)
        | rest =>
          (takeEntries fuel rest).map fun (entries, rest) => (.map (Value.collect entries), rest)
      | '-' :: rest => takeNumber true rest
      | _ => takeNumber false cs

/-- The items of a list up to its closing bracket. -/
def takeItems : Nat → List Char → Option (List Value × List Char)
  | 0, _ => none
  | fuel + 1, cs =>
    match takeValue fuel (skipGaps cs) with
    | none => none
    | some (v, rest) =>
      match skipGaps rest with
      | ',' :: rest => (takeItems fuel rest).map fun (vs, rest) => (v :: vs, rest)
      | ']' :: rest => some ([v], rest)
      | _ => none

/-- The entries of a mapping up to its closing brace. -/
def takeEntries : Nat → List Char → Option (List (Value × Value) × List Char)
  | 0, _ => none
  | fuel + 1, cs =>
    match skipGaps cs with
    | '"' :: rest =>
      match takeText (rest.length + 1) [] rest with
      | none => none
      | some (k, rest) =>
        match skipGaps rest with
        | ':' :: rest =>
          match takeValue fuel (skipGaps rest) with
          | none => none
          | some (v, rest) =>
            match skipGaps rest with
            | ',' :: rest =>
              (takeEntries fuel rest).map fun (es, rest) => ((.text k, v) :: es, rest)
            | '\x7d' :: rest => some ([(.text k, v)], rest)
            | _ => none
        | _ => none
    | _ => none

end

/-- The value that a text holds. -/
def read? (s : String) : Option Value :=
  match takeValue (s.length + 1) (skipGaps s.toList) with
  | some (v, rest) => if (skipGaps rest).isEmpty then some v else none
  | none => none

end Dripline.Json
