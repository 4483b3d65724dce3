import Dripline.Yaml.Cursor
import Dripline.Number.Reading

/-!
# The forms of scalars

Reading one scalar off the front of a text, in each of its forms:

* `plain`: words without quotes, over several lines where the indentation allows;
* `quotedBody`: between single or double quotes, the double ones with escapes;
* `block`: the lines below an indicator, kept or folded.

In all forms a single line break between words is a space, and each further break is kept.
-/

namespace Dripline.Yaml

open Cursor

/-! ## 1. Line breaks inside scalars -/

/-- Further line breaks of a quoted scalar, each with the spacing before it. A document separator must
    not follow a break. -/
def quotedBreaks : Nat → Cursor → Except Fault (List Char × Cursor)
  | 0, _ => .error .malformed
  | fuel + 1, c =>
    if c.isSeparator then .error .malformed
    else
      let c := c.skipWhile isSpacing
      match c.takeBreak with
      | none => .ok ([], c)
      | some (b, c) => do
        let (more, c) ← quotedBreaks fuel c
        .ok (b :: more, c)

/-- What a break and further breaks stand for: a single one is a space. -/
def foldBreaks (first : Char) (more : List Char) : List Char :=
  if first ≠ '\n' then first :: more else if more.isEmpty then [' '] else more

/-! ## 2. Quoted scalars -/

/-- The character of a one-letter escape. -/
def escapeChar? (c : Char) : Option Char :=
  ([('0', '\x00'), ('a', '\x07'), ('b', '\x08'), ('t', '\x09'), ('\t', '\x09'), ('n', '\x0A'),
    ('v', '\x0B'), ('f', '\x0C'), ('r', '\x0D'), ('e', '\x1B'), (' ', ' '), ('"', '"'),
    ('\\', '\\'), ('/', '/'), ('N', '\x85'), ('_', '\xA0'), ('L', '\u2028'),
    ('P', '\u2029')] : List (Char × Char)).lookup c

/-- The number of hexadecimal digits after an escape letter. -/
def escapeWidth? (c : Char) : Option Nat :=
  if c = 'x' then some 2 else if c = 'u' then some 4 else if c = 'U' then some 8 else none

/-- An escape in double quotes, after its backslash: the characters it stands for. -/
def takeEscape (fuel : Nat) (c : Cursor) : Except Fault (List Char × Cursor) :=
  let x := c.peek
  match escapeChar? x, escapeWidth? x with
  | some y, _ => .ok ([y], c.skip)
  | none, some width =>
    let digits := c.skip.rest.take width
    match Text.readNat? 16 digits with
    | some n =>
      if digits.length ≠ width then .error .malformed
      else if n.isValidChar then .ok ([Char.ofNat n], c.skip.skipBy width)
      else if n < 0x110000 then .error .unpaired
      else .error .noCharacter
    | none => .error .malformed
  | none, none =>
    match c.takeBreak with
    | some (_, c) => quotedBreaks fuel c
    | none => .error .malformed

/-- The rest of a quoted scalar, after its opening quote. -/
def quotedBody (quote : Char) : Nat → Cursor → Except Fault (List Char × Cursor)
  | 0, _ => .error .malformed
  | fuel + 1, c =>
    let x := c.peek
    let double := quote = '"'
    if x = quote then
      if !double && c.peekAt 1 = quote then do
        let (more, c) ← quotedBody quote fuel (c.skipBy 2)
        .ok (quote :: more, c)
      else .ok ([], c.skip)
    else if double && x = '\\' then do
      let (here, c) ← takeEscape fuel c.skip
      let (more, c) ← quotedBody quote fuel c
      .ok (here ++ more, c)
    else if isGap x then do
      let (spaces, c) := c.span isSpacing
      if c.rest.isEmpty then .error .malformed
      else
        match c.takeBreak with
        | none =>
          let (more, c) ← quotedBody quote fuel c
          .ok (spaces ++ more, c)
        | some (b, c) =>
          let (breaks, c) ← quotedBreaks fuel c
          let (more, c) ← quotedBody quote fuel c
          .ok (foldBreaks b breaks ++ more, c)
    else do
      let (more, c) ← quotedBody quote fuel c.skip
      .ok (x :: more, c)

/-- A quoted scalar. -/
def takeQuoted (c : Cursor) : Except Fault (String × Cursor) := do
  let (cs, c) ← quotedBody c.peek (c.rest.length + 1) c.skip
  .ok (String.ofList cs, c)

/-! ## 3. Plain scalars -/

/-- Whether a plain scalar ends before a character, with the one after it in view. -/
def endsPlain (inFlow : Bool) (x next : Char) : Bool :=
  isGap x || (x = ':' && (isGap next || (inFlow && ",[]\x7b\x7d".toList.contains next))) ||
    (inFlow && ",?[]\x7b\x7d".toList.contains x)

/-- The characters of a plain scalar up to a gap or its end. -/
def plainWord (inFlow : Bool) : List Char → List Char
  | [] => []
  | x :: xs => if endsPlain inFlow x (xs.headD endMark) then [] else x :: plainWord inFlow xs

/-- Further line breaks of a plain scalar with the spaces around them; nothing when a document
    separator follows one of them. -/
def plainBreaks : Nat → Cursor → Option (List Char) × Cursor
  | 0, c => (some [], c)
  | fuel + 1, c =>
    let c := c.skipSpaces
    match c.takeBreak with
    | none => (some [], c)
    | some (b, c) =>
      if c.isSeparator then (none, c)
      else
        let (more, c) := plainBreaks fuel c
        (more.map (b :: ·), c)

/-- What stands between two words of a plain scalar, whether a line was broken, and the cursor after
    it. Nothing stands there at the end of the scalar. -/
def plainGap (fuel : Nat) (c : Cursor) : Option (List Char) × Bool × Cursor :=
  let (spaces, c) := c.span (· = ' ')
  match c.takeBreak with
  | none => (if spaces.isEmpty then none else some spaces, false, c)
  | some (b, c) =>
    if c.isSeparator then (none, true, c)
    else
      let (breaks, c) := plainBreaks fuel c
      (breaks.map (foldBreaks b), true, c)

/-- The words of a plain scalar from here on, where `gap` stands before the next one. The column of
    further lines must reach `indent` outside flow collections. The flag says whether the last gap
    that was read broke the line. -/
def plainWords (inFlow : Bool) (indent : Int) :
    Nat → List Char → Bool → Cursor → List Char × Bool × Cursor
  | 0, _, broken, c => ([], broken, c)
  | fuel + 1, gap, broken, c =>
    let word := plainWord inFlow c.rest
    if c.peek = '#' || word.isEmpty then ([], broken, c)
    else
      let c := c.skipBy word.length
      match plainGap c.rest.length c with
      | (none, broken, c) => (gap ++ word, broken, c)
      | (some next, broken, c) =>
        if c.peek = '#' || (!inFlow && (c.column : Int) < indent) then
          (gap ++ word, broken, c)
        else
          let (more, broken, c) := plainWords inFlow indent fuel next broken c
          (gap ++ word ++ more, broken, c)

/-- A plain scalar, and whether a line was broken after its last word. -/
def takePlain (inFlow : Bool) (indent : Int) (c : Cursor) : String × Bool × Cursor :=
  let (cs, broken, c) := plainWords inFlow indent (c.rest.length + 1) [] false c
  (String.ofList cs, broken, c)

/-! ## 4. Block scalars -/

/-- What becomes of the line breaks at the end of a block. -/
inductive Chomp where
  | clip
  | strip
  | keep
deriving DecidableEq, Repr

/-- A mark for the end of a block. -/
def chomp? (x : Char) : Option Chomp :=
  if x = '+' then some .keep else if x = '-' then some .strip else none

/-- A mark for the indentation of a block. -/
def indentMark? (x : Char) : Option Nat :=
  if '0' ≤ x && x ≤ '9' then some (x.toNat - '0'.toNat) else none

/-- The marks after the indicator of a block, in either order. An indentation is not zero. -/
def takeMarks (c : Cursor) : Except Fault ((Chomp × Option Nat) × Cursor) :=
  let result : Chomp × Option Nat × Cursor :=
    match chomp? c.peek with
    | some ch =>
      match indentMark? (c.peekAt 1) with
      | some n => (ch, some n, c.skipBy 2)
      | none => (ch, none, c.skip)
    | none =>
      match indentMark? c.peek with
      | none => (.clip, none, c)
      | some n =>
        match chomp? (c.peekAt 1) with
        | some ch => (ch, some n, c.skipBy 2)
        | none => (.clip, some n, c.skip)
  match result with
  | (_, some 0, _) => .error .malformed
  | (ch, n, c) => if endsWord c.peek then .ok ((ch, n), c) else .error .malformed

/-- The rest of a line that holds nothing but a comment. -/
def takeIgnored (c : Cursor) : Except Fault Cursor :=
  let c := c.skipSpaces.skipComment
  match c.takeBreak with
  | some (_, c) => .ok c
  | none => if c.rest.isEmpty then .ok c else .error .malformed

/-- Line breaks and spaces before the first line of a block: the breaks and the widest column. -/
def blockLead : Nat → Nat → Cursor → List Char × Nat × Cursor
  | 0, widest, c => ([], widest, c)
  | fuel + 1, widest, c =>
    if c.peek = ' ' then blockLead fuel (max widest c.skip.column) c.skip
    else
      match c.takeBreak with
      | none => ([], widest, c)
      | some (b, c) =>
        let (more, widest, c) := blockLead fuel widest c
        (b :: more, widest, c)

/-- The cursor after the spaces at the front, up to a column. -/
def skipToColumn (column : Nat) : Nat → Cursor → Cursor
  | 0, c => c
  | fuel + 1, c =>
    if c.column < column && c.peek = ' ' then skipToColumn column fuel c.skip else c

/-- Empty lines of a block, each indented up to a column. -/
def blockBreaks (column : Nat) : Nat → Cursor → List Char × Cursor
  | 0, c => ([], c)
  | fuel + 1, c =>
    let c := skipToColumn column column c
    match c.takeBreak with
    | none => ([], c)
    | some (b, c) =>
      let (more, c) := blockBreaks column fuel c
      (b :: more, c)

/-- The lines of a block from here on: its text without the last break, that break, and the breaks
    after it. A folded break between two lines that begin with no spacing is a space. -/
def blockLines (folded : Bool) (column : Nat) :
    Nat → List Char → List Char → Cursor → List Char × List Char × List Char × Cursor
  | 0, _, breaks, c => ([], [], breaks, c)
  | fuel + 1, last, breaks, c =>
    if c.column ≠ column || c.rest.isEmpty then ([], last, breaks, c)
    else
      let dense := !isSpacing c.peek
      let (line, c) := c.span fun x => !isBreak x
      let (last, c) :=
        match c.takeBreak with
        | some (b, c) => ([b], c)
        | none => ([], c)
      let (next, c) := blockBreaks column c.rest.length c
      let here := breaks ++ line
      if c.column = column && !c.rest.isEmpty then
        let joint :=
          if folded && last = ['\n'] && dense && !isSpacing c.peek then
            if next.isEmpty then [' '] else []
          else last
        let (more, last, after, c) := blockLines folded column fuel last next c
        (here ++ joint ++ more, last, after, c)
      else (here, last, next, c)

/-- A block scalar below a collection of the given indentation. -/
def takeBlock (indent : Int) (c : Cursor) : Except Fault (String × Cursor) := do
  let folded := c.peek = '>'
  let ((chomp, mark), c) ← takeMarks c.skip
  let c ← takeIgnored c
  let least := (max (indent + 1) 1).toNat
  let (breaks, column, c) :=
    match mark with
    | none =>
      let (breaks, widest, c) := blockLead c.rest.length 0 c
      (breaks, max least widest, c)
    | some n =>
      let column := least + n - 1
      let (breaks, c) := blockBreaks column c.rest.length c
      (breaks, column, c)
  let (text, last, after, c) := blockLines folded column (c.rest.length + 1) [] breaks c
  let tail := match chomp with
    | .clip => last
    | .strip => []
    | .keep => last ++ after
  .ok (String.ofList (text ++ tail), c)

end Dripline.Yaml
