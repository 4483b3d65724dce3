import Dripline.Yaml.Scalar

/-!
# Tokens

The words of a YAML text. Indentation is made explicit: a block collection begins with a token of its
own and ends with `blockEnd`. A key without an indicator is only recognised at the `:` that follows it,
so a place that may turn out to be a key is remembered:

* one place for each open flow collection, and only on one line and within 1024 characters;
* a place at the indentation of a block collection must turn out to be a key;
* at the `:` the tokens for the key are put in before the remembered place.

Tokens are collected newest first. Where a text cannot be divided any further, the last token says why.
-/

namespace Dripline.Yaml

/-- A directive in front of a document. -/
inductive Directive where
  | version (major : Nat)
  | tagHandle (handle address : String)
  | other
deriving DecidableEq, Repr

/-- A token. -/
inductive Token where
  | streamEnd
  | directive (d : Directive)
  | documentStart
  | documentEnd
  | blockSequenceStart
  | blockMappingStart
  | blockEnd
  | flowSequenceStart
  | flowSequenceEnd
  | flowMappingStart
  | flowMappingEnd
  | key
  | value
  | blockEntry
  | flowEntry
  | alias (name : String)
  | anchor (name : String)
  | tag (handle : Option String) (suffix : String)
  | scalar (text : String) (isPlain : Bool)
  /-- No token can be read here. -/
  | broken (fault : Fault)
deriving DecidableEq, Repr

/-- A place that may turn out to be a key: the number of tokens before it, and where it is. -/
structure KeyPlace where
  number : Nat
  required : Bool
  index : Nat
  line : Nat
  column : Nat
deriving Repr

/-- The reader of tokens. The head of `places` belongs to the innermost open flow collection, or to the
    block context when there is none. -/
structure Lexer where
  cursor : Cursor
  indent : Int
  indents : List Int
  keyAllowed : Bool
  places : List (Option KeyPlace)
  tokens : List Token
  count : Nat

namespace Lexer

/-- The reader at the beginning of a text. -/
def ofChars (cs : List Char) : Lexer := ⟨.ofChars cs, -1, [], true, [none], [], 0⟩

/-- Whether the reader is inside a flow collection. -/
def inFlow (l : Lexer) : Bool := 1 < l.places.length

/-- The reader with one more token. -/
def emit (l : Lexer) (t : Token) : Lexer := { l with tokens := t :: l.tokens, count := l.count + 1 }

/-- The reader with a token put in before the one with the given number. -/
def insertAt (l : Lexer) (number : Nat) (t : Token) : Lexer :=
  let later := l.count - number
  { l with
    tokens := l.tokens.take later ++ t :: l.tokens.drop later
    count := l.count + 1 }

/-- The reader after the token at the front, of that many characters. -/
def emitAfter (l : Lexer) (t : Token) (width : Nat) : Lexer :=
  { l.emit t with cursor := l.cursor.skipBy width }

/-! ## 1. Places for keys -/

/-- Forgets the place of the current level, which must not be required. -/
def dropPlace (l : Lexer) : Except Fault Lexer :=
  match l.places with
  | some p :: ps => if p.required then .error .malformed else .ok { l with places := none :: ps }
  | _ => .ok l

/-- Remembers this place, if a key may begin here. -/
def markPlace (l : Lexer) : Except Fault Lexer :=
  if l.keyAllowed then do
    let l ← l.dropPlace
    let c := l.cursor
    let required := !l.inFlow && l.indent == (c.column : Int)
    .ok { l with places := some ⟨l.count, required, c.index, c.line, c.column⟩ :: l.places.drop 1 }
  else .ok l

/-- Whether a place is too far back. -/
def isStale (l : Lexer) (p : KeyPlace) : Bool :=
  p.line != l.cursor.line || 1024 < l.cursor.index - p.index

/-- Forgets all places that are too far back, none of which may be required. -/
def dropStale (l : Lexer) : Except Fault Lexer :=
  if l.places.any fun p => p.any fun p => l.isStale p && p.required then .error .malformed
  else .ok { l with places := l.places.map fun p => p.filter fun p => !l.isStale p }

/-! ## 2. Indentation -/

/-- Ends the block collections that are indented further than a column. -/
def unwindFrom (column : Int) : List Int → Lexer → Lexer
  | [], l => l
  | outer :: rest, l =>
    if column < l.indent then
      unwindFrom column rest { l.emit .blockEnd with indent := outer, indents := rest }
    else l

/-- Ends the block collections that are indented further than a column. Flow collections have no
    indentation. -/
def unwind (l : Lexer) (column : Int) : Lexer :=
  if l.inFlow then l else unwindFrom column l.indents l

/-- Begins a block collection at a column, unless one is there. -/
def indentTo (l : Lexer) (column : Nat) : Option Lexer :=
  if l.indent < (column : Int) then
    some { l with indent := column, indents := l.indent :: l.indents }
  else none

/-- Begins a block collection at the cursor, unless one is there. -/
def openBlock (l : Lexer) (t : Token) : Lexer :=
  match l.indentTo l.cursor.column with
  | some l => l.emit t
  | none => l

/-! ## 3. Between tokens -/

/-- The cursor after spaces, comments and line breaks. A line break lets a key begin in block
    context. -/
def skipGapsFrom : Nat → Lexer → Lexer
  | 0, l => l
  | fuel + 1, l =>
    let c := l.cursor.skipSpaces.skipComment
    match c.takeBreak with
    | some (_, c) =>
      skipGapsFrom fuel { l with cursor := c, keyAllowed := l.keyAllowed || !l.inFlow }
    | none => { l with cursor := c }

/-- The reader at its next token. A byte order mark at the very beginning is passed over. -/
def skipGaps (l : Lexer) : Lexer :=
  let c := l.cursor
  let c := if c.index = 0 && c.peek = '\uFEFF' then c.skip else c
  skipGapsFrom (c.rest.length + 1) { l with cursor := c }

/-! ## 4. Single tokens -/

/-- The digits of a version number. -/
def takeNumber (c : Cursor) : Except Fault (Nat × Cursor) :=
  let (digits, c) := c.span Text.isDigit
  if Text.digitLimit < digits.length then .error (.manyDigits digits.length)
  else
    match Text.readNat? 10 digits with
    | some n => .ok (n, c)
    | none => .error .malformed

/-- The handle of a tag: `!`, or a name between two of them. -/
def takeHandle (c : Cursor) : Except Fault (String × Cursor) :=
  if c.peek ≠ '!' then .error .malformed
  else if c.peekAt 1 = ' ' then .ok ("!", c.skip)
  else
    let (name, d) := c.skip.span isNameChar
    if d.peek = '!' then .ok (String.ofList ('!' :: name ++ ['!']), d.skip) else .error .malformed

/-- Escaped bytes of an address. -/
def takeBytes : Nat → Cursor → Except Fault (List UInt8 × Cursor)
  | 0, c => .ok ([], c)
  | fuel + 1, c =>
    if c.peek = '%' then
      let digits := c.skip.rest.take 2
      match Text.readNat? 16 digits with
      | some n =>
        if digits.length ≠ 2 then .error .malformed
        else do
          let (more, c) ← takeBytes fuel (c.skipBy 3)
          .ok (UInt8.ofNat n :: more, c)
      | none => .error .malformed
    else .ok ([], c)

/-- The characters of an address, with escaped ones. -/
def addressChars : Nat → Cursor → Except Fault (List Char × Cursor)
  | 0, c => .ok ([], c)
  | fuel + 1, c =>
    if c.peek = '%' then do
      let (bytes, c) ← takeBytes fuel c
      match String.fromUTF8? ⟨bytes.toArray⟩ with
      | some s =>
        let (more, c) ← addressChars fuel c
        .ok (s.toList ++ more, c)
      | none => .error .malformed
    else if isAddressChar c.peek then do
      let x := c.peek
      let (more, c) ← addressChars fuel c.skip
      .ok (x :: more, c)
    else .ok ([], c)

/-- An address of a tag, which is not empty. -/
def takeAddress (c : Cursor) : Except Fault (String × Cursor) := do
  let (cs, d) ← addressChars (c.rest.length + 1) c
  if c.index = d.index then .error .malformed else .ok (String.ofList cs, d)

/-- A directive, after its `%`. -/
def takeDirective (c : Cursor) : Except Fault (Directive × Cursor) := do
  let (name, c) := c.span isNameChar
  if name.isEmpty || !endsWord c.peek then .error .malformed
  else if name = "YAML".toList then
    let (major, c) ← takeNumber c.skipSpaces
    if c.peek ≠ '.' then .error .malformed
    else
      let (_, c) ← takeNumber c.skip
      if endsWord c.peek then .ok (.version major, c) else .error .malformed
  else if name = "TAG".toList then
    let (handle, c) ← takeHandle c.skipSpaces
    if c.peek ≠ ' ' then .error .malformed
    else
      let (address, c) ← takeAddress c.skipSpaces
      if endsWord c.peek then .ok (.tagHandle handle address, c) else .error .malformed
  else .ok (.other, c.skipWhile fun x => !isBreak x)

/-- The name of an anchor or an alias, after its mark. -/
def takeName (c : Cursor) : Except Fault (String × Cursor) :=
  let (name, c) := c.span isNameChar
  if name.isEmpty then .error .malformed
  else if isGap c.peek || "?:,]\x7d%@`".toList.contains c.peek then .ok (String.ofList name, c)
  else .error .malformed

/-- Whether a `!` stands in the rest of the word. -/
def hasHandle : List Char → Bool
  | [] => false
  | x :: xs => if endsWord x then false else x = '!' || hasHandle xs

/-- A tag: an address between angle brackets, a lone `!`, or a handle with a suffix. -/
def takeTag (c : Cursor) : Except Fault (Token × Cursor) := do
  let next := c.peekAt 1
  let (token, c) ←
    if next = '<' then do
      let (address, c) ← takeAddress (c.skipBy 2)
      if c.peek = '>' then .ok (Token.tag none address, c.skip) else .error Fault.malformed
    else if isGap next then .ok (Token.tag none "!", c.skip)
    else if hasHandle (c.rest.drop 1) then do
      let (handle, c) ← takeHandle c
      let (suffix, c) ← takeAddress c
      .ok (Token.tag (some handle) suffix, c)
    else do
      let (suffix, c) ← takeAddress c.skip
      .ok (Token.tag (some "!") suffix, c)
  if endsWord c.peek then .ok (token, c) else .error .malformed

/-! ## 5. One step -/

/-- The end of the text, which ends all block collections. -/
def stepEnd (l : Lexer) : Except Fault Lexer := do
  let l ← (l.unwind (-1)).dropPlace
  .ok ({ l with keyAllowed := false, places := [none] }.emit .streamEnd)

/-- A token that ends all block collections: a directive or a document marker. -/
def stepDocument (l : Lexer) (read : Cursor → Except Fault (Token × Cursor)) :
    Except Fault Lexer := do
  let l ← (l.unwind (-1)).dropPlace
  let (t, c) ← read l.cursor
  .ok { { l with keyAllowed := false }.emit t with cursor := c }

/-- A directive with the rest of its line. -/
def readDirective (c : Cursor) : Except Fault (Token × Cursor) := do
  let (d, c) ← takeDirective c.skip
  let c ← takeIgnored c
  .ok (.directive d, c)

/-- The beginning of a flow collection. -/
def stepFlowStart (l : Lexer) (t : Token) : Except Fault Lexer := do
  let l ← l.markPlace
  .ok ({ l with places := none :: l.places, keyAllowed := true }.emitAfter t 1)

/-- The end of a flow collection. -/
def stepFlowEnd (l : Lexer) (t : Token) : Except Fault Lexer := do
  let l ← l.dropPlace
  if l.inFlow then
    .ok ({ l with places := l.places.drop 1, keyAllowed := false }.emitAfter t 1)
  else .error .malformed

/-- A comma between the entries of a flow collection. -/
def stepFlowEntry (l : Lexer) : Except Fault Lexer := do
  let l ← { l with keyAllowed := true }.dropPlace
  .ok (l.emitAfter .flowEntry 1)

/-- The mark of an entry of a block sequence. -/
def stepBlockEntry (l : Lexer) : Except Fault Lexer := do
  if !l.inFlow && !l.keyAllowed then .error .malformed
  else
    let l := if l.inFlow then l else l.openBlock .blockSequenceStart
    let l ← { l with keyAllowed := true }.dropPlace
    .ok (l.emitAfter .blockEntry 1)

/-- The mark of a key. -/
def stepKey (l : Lexer) : Except Fault Lexer := do
  if !l.inFlow && !l.keyAllowed then .error .malformed
  else
    let l := if l.inFlow then l else l.openBlock .blockMappingStart
    let l ← { l with keyAllowed := !l.inFlow }.dropPlace
    .ok (l.emitAfter .key 1)

/-- The mark of a value. When a place for a key is remembered, it is one. -/
def stepValue (l : Lexer) : Except Fault Lexer := do
  match l.places with
  | some p :: ps =>
    let l := { l with places := none :: ps }.insertAt p.number .key
    let l :=
      if l.inFlow then l
      else
        match l.indentTo p.column with
        | some l => l.insertAt p.number .blockMappingStart
        | none => l
    .ok ({ l with keyAllowed := false }.emitAfter .value 1)
  | _ =>
    if !l.inFlow && !l.keyAllowed then .error .malformed
    else
      let l := if l.inFlow then l else l.openBlock .blockMappingStart
      let l ← { l with keyAllowed := !l.inFlow }.dropPlace
      .ok (l.emitAfter .value 1)

/-- A token that may be a key, or stand in front of one. -/
def stepInline (l : Lexer) (read : Cursor → Except Fault (Token × Cursor)) :
    Except Fault Lexer := do
  let l ← l.markPlace
  let (t, c) ← read l.cursor
  .ok { { l with keyAllowed := false }.emit t with cursor := c }

/-- A block scalar. -/
def stepBlockScalar (l : Lexer) : Except Fault Lexer := do
  let l ← { l with keyAllowed := true }.dropPlace
  let (s, c) ← takeBlock l.indent l.cursor
  .ok { l.emit (.scalar s false) with cursor := c }

/-- A plain scalar. A line break after it lets a key begin. -/
def stepPlain (l : Lexer) : Except Fault Lexer := do
  let l ← l.markPlace
  let (s, broken, c) := takePlain l.inFlow (l.indent + 1) l.cursor
  .ok { l.emit (.scalar s true) with cursor := c, keyAllowed := broken }

/-- Whether a mark is a word of its own, or inside a flow collection. -/
def isMark (l : Lexer) : Bool := l.inFlow || isGap (l.cursor.peekAt 1)

/-- Whether a plain scalar may begin at the cursor. -/
def beginsPlain (l : Lexer) : Bool :=
  let x := l.cursor.peek
  !(isGap x || "-?:,[]\x7b\x7d#&*!|>'\"%@`".toList.contains x) ||
    (!isGap (l.cursor.peekAt 1) && (x = '-' || (!l.inFlow && (x = '?' || x = ':'))))

/-- An anchor or an alias. -/
def readName (make : String → Token) (c : Cursor) : Except Fault (Token × Cursor) := do
  let (name, c) ← takeName c.skip
  .ok (make name, c)

/-- A quoted scalar. -/
def readQuoted (c : Cursor) : Except Fault (Token × Cursor) := do
  let (s, c) ← takeQuoted c
  .ok (.scalar s false, c)

/-- The reader after one more token. -/
def step (l : Lexer) : Except Fault Lexer := do
  let l ← l.skipGaps.dropStale
  let l := l.unwind l.cursor.column
  let c := l.cursor
  let x := c.peek
  if c.rest.isEmpty then l.stepEnd
  else if c.column = 0 && x = '%' then l.stepDocument readDirective
  else if c.column = 0 && c.isMarker '-' then
    l.stepDocument fun c => .ok (.documentStart, c.skipBy 3)
  else if c.column = 0 && c.isMarker '.' then
    l.stepDocument fun c => .ok (.documentEnd, c.skipBy 3)
  else if x = '[' then l.stepFlowStart .flowSequenceStart
  else if x = '\x7b' then l.stepFlowStart .flowMappingStart
  else if x = ']' then l.stepFlowEnd .flowSequenceEnd
  else if x = '\x7d' then l.stepFlowEnd .flowMappingEnd
  else if x = ',' then l.stepFlowEntry
  else if x = '-' && isGap (c.peekAt 1) then l.stepBlockEntry
  else if x = '?' && l.isMark then l.stepKey
  else if x = ':' && l.isMark then l.stepValue
  else if x = '*' then l.stepInline (readName .alias)
  else if x = '&' then l.stepInline (readName .anchor)
  else if x = '!' then l.stepInline takeTag
  else if x = '|' && !l.inFlow then l.stepBlockScalar
  else if x = '>' && !l.inFlow then l.stepBlockScalar
  else if x = '\'' || x = '"' then l.stepInline readQuoted
  else if l.beginsPlain then l.stepPlain
  else .error .malformed

/-- Whether all tokens have been read. -/
def isDone (l : Lexer) : Bool := l.tokens.head? = some .streamEnd

/-- Reads tokens to the end, or up to a place where there is none. Every step but the last takes at
    least one character. -/
def run : Nat → Lexer → List Token
  | 0, l => .broken .malformed :: l.tokens
  | fuel + 1, l =>
    if l.isDone then l.tokens
    else
      match l.step with
      | .ok l => run fuel l
      | .error fault => .broken fault :: l.tokens

end Lexer

/-- The tokens of a text. -/
def tokens (s : String) : List Token :=
  let cs := s.toList
  if cs.all isAllowed then (Lexer.run (cs.length + 3) (.ofChars cs)).reverse
  else [.broken .malformed]

end Dripline.Yaml
