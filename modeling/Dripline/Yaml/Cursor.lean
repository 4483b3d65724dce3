import Dripline.Yaml.Fault

/-!
# Reading a text from the front

A cursor is what is left of a text, with its line, its column and the number of characters before it.

* `peek` shows a character ahead; past the end it shows the null character, which no text holds;
* `skip` goes on, and a line break of one or two characters counts once;
* the classes of characters by which the format is divided: breaks, gaps, what may be in a name.
-/

namespace Dripline.Yaml

/-! ## 1. Characters -/

/-- The character shown past the end of a text. -/
def endMark : Char := '\x00'

/-- A line break. -/
def isBreak (c : Char) : Bool :=
  c = '\n' || c = '\r' || c = '\x85' || c = '\u2028' || c = '\u2029'

/-- A line break or the end. -/
def endsLine (c : Char) : Bool := c = endMark || isBreak c

/-- A space, a line break or the end. -/
def endsWord (c : Char) : Bool := c = ' ' || endsLine c

/-- A space, a tab, a line break or the end. -/
def isGap (c : Char) : Bool := c = '\t' || endsWord c

/-- A space or a tab. -/
def isSpacing (c : Char) : Bool := c = ' ' || c = '\t'

/-- A letter, a digit or one of the two joining marks. -/
def isNameChar (c : Char) : Bool :=
  ('0' ≤ c && c ≤ '9') || ('A' ≤ c && c ≤ 'Z') || ('a' ≤ c && c ≤ 'z') || c = '-' || c = '_'

/-- A character of the address of a tag. -/
def isAddressChar (c : Char) : Bool := isNameChar c || ";/?:@&=+$,.!~*'()[]%".toList.contains c

/-- A character that a text may hold. -/
def isAllowed (c : Char) : Bool :=
  let n := c.toNat
  n == 0x09 || n == 0x0A || n == 0x0D || (0x20 ≤ n && n ≤ 0x7E) || n == 0x85 ||
    (0xA0 ≤ n && n ≤ 0xD7FF) || (0xE000 ≤ n && n ≤ 0xFFFD) || (0x10000 ≤ n && n ≤ 0x10FFFF)

/-! ## 2. The cursor -/

/-- What is left of a text, and where it begins. -/
structure Cursor where
  rest : List Char
  index : Nat
  line : Nat
  column : Nat
deriving Repr

namespace Cursor

/-- The beginning of a text. -/
def ofChars (cs : List Char) : Cursor := ⟨cs, 0, 0, 0⟩

/-- The character `k` places ahead. -/
def peekAt (c : Cursor) (k : Nat) : Char := (c.rest.drop k).headD endMark

/-- The next character. -/
def peek (c : Cursor) : Char := c.rest.headD endMark

/-- The cursor one character further. The first half of a double line break and the byte order mark
    do not count as a line and a column. -/
def skip (c : Cursor) : Cursor :=
  match c.rest with
  | [] => c
  | x :: xs =>
    if x = '\r' then
      if xs.headD endMark = '\n' then ⟨xs, c.index + 1, c.line, c.column + 1⟩
      else ⟨xs, c.index + 1, c.line + 1, 0⟩
    else if isBreak x then ⟨xs, c.index + 1, c.line + 1, 0⟩
    else if x = '\uFEFF' then ⟨xs, c.index + 1, c.line, c.column⟩
    else ⟨xs, c.index + 1, c.line, c.column + 1⟩

/-- The cursor some characters further. -/
def skipBy (c : Cursor) : Nat → Cursor
  | 0 => c
  | n + 1 => c.skip.skipBy n

/-- The characters at the front that satisfy a test, and the cursor after them. -/
def span (c : Cursor) (p : Char → Bool) : List Char × Cursor :=
  let taken := c.rest.takeWhile p
  (taken, c.skipBy taken.length)

/-- The cursor after the characters at the front that satisfy a test. -/
def skipWhile (c : Cursor) (p : Char → Bool) : Cursor := (c.span p).2

/-- The cursor after the spaces at the front. -/
def skipSpaces (c : Cursor) : Cursor := c.skipWhile (· = ' ')

/-- The cursor after a comment, if one begins here. -/
def skipComment (c : Cursor) : Cursor :=
  if c.peek = '#' then c.skipWhile fun x => !isBreak x else c

/-- A line break at the front, as the character it stands for, and the cursor after it. -/
def takeBreak (c : Cursor) : Option (Char × Cursor) :=
  let x := c.peek
  if x = '\r' && c.peekAt 1 = '\n' then some ('\n', c.skipBy 2)
  else if x = '\r' || x = '\n' || x = '\x85' then some ('\n', c.skip)
  else if x = '\u2028' || x = '\u2029' then some (x, c.skip)
  else none

/-- Whether three marks of a kind stand here as a word of their own. -/
def isMarker (c : Cursor) (mark : Char) : Bool :=
  c.peek = mark && c.peekAt 1 = mark && c.peekAt 2 = mark && isGap (c.peekAt 3)

/-- Whether a document begins or ends here, in the middle of a scalar. -/
def isSeparator (c : Cursor) : Bool := c.isMarker '-' || c.isMarker '.'

end Cursor

end Dripline.Yaml
