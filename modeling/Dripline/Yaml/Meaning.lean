import Dripline.Yaml.Node
import Dripline.Document.Value
import Dripline.Number.Reading
import Dripline.Text.Base64
import Dripline.Text.Case

/-!
# The values of nodes

What the nodes of a document stand for:

* `scalarValue`: the value of a scalar of each type;
* `merged`: the entries of a mapping with those that a merge key brings in, which come first and give way
  to the mapping's own;
* `valueAt`: the value of a node. Nodes are looked at level by level, so of several faults the one nearest
  to the top of the tree is met first, and of two on one level the one that is written first;
* `read?`: the value of a text.
-/

namespace Dripline.Yaml

open Text

/-! ## 1. Scalars -/

/-- Splits off the mark of a base, where it may be written. -/
def afterBaseMark (base : Nat) (cs : List Char) : List Char :=
  let mark := if base = 2 then 'b' else if base = 8 then 'o' else 'x'
  match cs with
  | '0' :: m :: rest => if base ≠ 10 && Double.asciiLower m = mark then rest else cs
  | _ => cs

/-- A whole number in a base, with a sign and blanks around it. The number of its decimal digits is looked
    at first, whatever follows them. -/
def wholeIn (base : Nat) (cs : List Char) : Except Fault Int :=
  let (negative, body) := Double.takeSign (trimBy isBlank cs)
  let digits := (body.takeWhile isDigit).length
  if base = 10 && digitLimit < digits then .error (.manyDigits digits)
  else
    match readNat? base (afterBaseMark base body) with
    | some n => .ok (if negative then -n else n)
    | none => .error (.notInteger base (String.ofList cs))

/-- A number without underscores between its digits. -/
def withoutUnderscores (cs : List Char) : List Char := cs.filter (· ≠ '_')

/-- Whole numbers as the places of one in base sixty. -/
def sixtieths (places : List Int) : Int := places.foldl (fun acc n => acc * 60 + n) 0

/-- The value of a whole number, once its sign has been taken off. -/
def magnitude (cs : List Char) : Except Fault Int :=
  match cs with
  | ['0'] => .ok 0
  | '0' :: 'b' :: ds => wholeIn 2 ds
  | '0' :: 'x' :: ds => wholeIn 16 ds
  | '0' :: _ => wholeIn 8 cs
  | _ =>
    if cs.contains ':' then ((pieces ':' cs).mapM (wholeIn 10)).map sixtieths
    else wholeIn 10 cs

/-- The value of a scalar marked as a whole number. -/
def intValue (text : String) : Except Fault Value :=
  match withoutUnderscores text.toList with
  | [] => .error .emptyNumber
  | c :: cs =>
    if c = '-' || c = '+' then
      if cs.isEmpty then .error .emptyNumber
      else (magnitude cs).map fun n => .int (if c = '-' then -n else n)
    else (magnitude (c :: cs)).map .int

/-- A decimal with blanks around it. -/
def decimalIn (cs : List Char) : Except Fault Double :=
  match Double.readDecimal? (trimBy isBlank cs) with
  | some x => .ok x
  | none => .error (.notNumber (String.ofList cs))

/-- Decimals as the places of one in base sixty, summed up from the last. -/
def floatSixtieths (places : List Double) : Double :=
  (places.reverse.foldl (fun (sum, scale) x => (sum.plus (x.times scale), scale * 60))
    (Double.zero, 1)).1

/-- The value of a decimal, once its sign has been taken off. -/
def floatMagnitude (cs : List Char) : Except Fault Double :=
  if cs = ".inf".toList then .ok (.infinite false)
  else if cs = ".nan".toList then .ok .nan
  else if cs.contains ':' then ((pieces ':' cs).mapM decimalIn).map floatSixtieths
  else decimalIn cs

/-- The value of a scalar marked as a decimal. -/
def floatValue (text : String) : Except Fault Value :=
  match (lower (String.ofList (withoutUnderscores text.toList))).toList with
  | [] => .error .emptyNumber
  | c :: cs =>
    if c = '-' then (floatMagnitude cs).map fun x => .float x.negate
    else if c = '+' then (floatMagnitude cs).map .float
    else (floatMagnitude (c :: cs)).map .float

/-- The value of a scalar marked as a truth value. -/
def boolValue (text : String) : Except Fault Value :=
  let word := lower text
  match truthOf? word.toList with
  | some b => .ok (.bool b)
  | none => .error (.notTruth word)

/-- An offset in seconds. -/
def Zone.seconds (z : Zone) : Int :=
  let s : Int := (z.hours * 60 + z.minutes) * 60
  if z.negative then -s else s

/-- The moment of a date with a time of day. The offset is looked at first. -/
def Stamp.momentAt (s : Stamp) (c : Clock) : Except Fault Value := do
  let fields : Moment.Fields :=
    ⟨s.year, s.month, s.day, c.hour, c.minute, c.second, Moment.fractionMicros c.fraction⟩
  let offset ←
    match c.zone with
    | none => .ok none
    | some z =>
      match Offset.ofSeconds? z.seconds with
      | some o => .ok (some o)
      | none => .error (.impossibleOffset z.seconds)
  match Moment.ofFields? fields offset with
  | .ok m => .ok (.moment m)
  | .error fault => .error (.impossibleTime fault s.year)

/-- The value of a scalar marked as a date. -/
def timestampValue (text : String) : Except Fault Value :=
  match Stamp.read? (withoutBreak text.toList) with
  | none => .error .notTime
  | some s =>
    match s.clock with
    | some c => s.momentAt c
    | none =>
      match Moment.ofFields? ⟨s.year, s.month, s.day, 0, 0, 0, 0⟩ none with
      | .ok m => .ok (.date m)
      | .error fault => .error (.impossibleTime fault s.year)

/-- The value of a scalar marked as bytes. -/
def binaryValue (text : String) : Except Fault Value :=
  if text.toList.all fun c => c.toNat < 128 then
    match Base64.decode? text.toList with
    | some bs => .ok (.bytes bs)
    | none => .error .malformed
  else .error .malformed

/-- The value of a scalar. -/
def scalarValue (tag : Tag) (text : String) : Except Fault Value :=
  match tag with
  | .null => .ok .null
  | .bool => boolValue text
  | .int => intValue text
  | .float => floatValue text
  | .binary => binaryValue text
  | .timestamp => timestampValue text
  | .str => .ok (.text text)
  | _ => .error .malformed

/-! ## 2. Merged entries -/

/-- The entries of a mapping that are its own. -/
def ownEntries (es : List (Node × Node)) : List (Node × Node) :=
  es.filter fun e => e.1.tag != .merge

mutual

/-- The entries that the merge keys among some entries bring in. -/
def broughtIn : List (Node × Node) → Option (List (Node × Node))
  | [] => some []
  | (k, v) :: rest =>
    if k.tag = .merge then do
      let here ← mergedOf v
      let more ← broughtIn rest
      some (here ++ more)
    else broughtIn rest

/-- The entries that a node under a merge key brings in. -/
def mergedOf : Node → Option (List (Node × Node))
  | .map _ es => (broughtIn es).map fun brought => brought ++ ownEntries es
  | .seq _ items => mergedItems items
  | .scalar _ _ => none

/-- The entries of the mappings in a list, the last mapping first, so that the first one counts. -/
def mergedItems : List Node → Option (List (Node × Node))
  | [] => some []
  | .map _ es :: rest => do
    let brought ← broughtIn es
    let later ← mergedItems rest
    some (later ++ (brought ++ ownEntries es))
  | _ :: _ => none

end

/-- The entries of a mapping, the ones that are brought in first. -/
def merged (es : List (Node × Node)) : Option (List (Node × Node)) :=
  (broughtIn es).map fun brought => brought ++ ownEntries es

/-! ## 3. Nodes -/

/-- A value, or the fault that is met first and the level where it is met. -/
abbrev Outcome (α : Type) := Except (Nat × Fault) α

/-- Two outcomes side by side, the first of them written first. -/
def together (a : Outcome α) (b : Outcome β) : Outcome (α × β) :=
  match a, b with
  | .ok x, .ok y => .ok (x, y)
  | .error e, .ok _ => .error e
  | .ok _, .error e => .error e
  | .error d, .error e => .error (if e.1 < d.1 then e else d)

/-- Outcomes side by side. -/
def inRow : List (Outcome α) → Outcome (List α)
  | [] => .ok []
  | a :: as => (together a (inRow as)).map fun (x, xs) => x :: xs

/-- A malformed node on a level. -/
def malformedAt (level : Nat) : Outcome α := .error (level, .malformed)

/-- The value of a scalar on a level. -/
def scalarAt (level : Nat) (tag : Tag) (text : String) : Outcome Value :=
  match scalarValue tag text with
  | .ok v => .ok v
  | .error fault => .error (level, fault)

/-- The text of a node where a scalar is expected. A mapping may hold it under the key for its value. -/
def scalarText? : Nat → Node → Option String
  | _, .scalar _ text => some text
  | 0, _ => none
  | _, .seq _ _ => none
  | fuel + 1, .map _ es =>
    (es.find? fun e => e.1.tag == .value).bind fun e => scalarText? fuel e.2

/-- The value of a collection where a scalar is expected. -/
def heldScalar (level : Nat) (n : Node) : Outcome Value :=
  match scalarText? 64 n with
  | some text => scalarAt level n.tag text
  | none => malformedAt level

/-- The key of an entry. It is a scalar, and the mark for the value of a mapping is text there. -/
def keyAt (level : Nat) (n : Node) : Outcome Value :=
  if n.tag.isCollection then malformedAt level
  else
    match n with
    | .scalar .value text => .ok (.text text)
    | .scalar tag text => scalarAt level tag text
    | n => heldScalar level n

/-- The value of a node on a level. The nesting is bounded by the fuel. -/
def valueAt : Nat → Nat → Node → Outcome Value
  | 0, level, _ => malformedAt level
  | fuel + 1, level, n =>
    let below := level + 1
    let pair (e : Node × Node) : Outcome (Value × Value) :=
      together (keyAt below e.1) (valueAt fuel below e.2)
    let single (n : Node) : Outcome Value :=
      match n with
      | .map _ [(k, v)] =>
        (together (valueAt fuel below k) (valueAt fuel below v)).map fun (k, v) => .list [k, v]
      | _ => malformedAt below
    match n with
    | .scalar tag text =>
      if tag.isCollection then malformedAt below else scalarAt level tag text
    | .seq tag items =>
      match tag with
      | .seq => (inRow (items.map (valueAt fuel below))).map .list
      | .omap | .pairs => (inRow (items.map single)).map .list
      | .set | .map => malformedAt below
      | _ => malformedAt level
    | .map tag es =>
      match tag with
      | .map | .set =>
        match merged es with
        | none => malformedAt below
        | some es =>
          (inRow (es.map pair)).map fun kvs =>
            let kvs := Value.collect kvs
            if tag = .set then .members (kvs.map Prod.fst) else .map kvs
      | .omap | .pairs | .seq => malformedAt below
      | _ => heldScalar level n

mutual

/-- The number of levels of a node. -/
def depth : Node → Nat
  | .scalar _ _ => 1
  | .seq _ items => depthOfItems items + 1
  | .map _ es => depthOfEntries es + 1

/-- The largest number of levels among items. -/
def depthOfItems : List Node → Nat
  | [] => 0
  | n :: ns => max (depth n) (depthOfItems ns)

/-- The largest number of levels among entries. -/
def depthOfEntries : List (Node × Node) → Nat
  | [] => 0
  | (k, v) :: es => max (max (depth k) (depth v)) (depthOfEntries es)

end

/-- The value of a node. -/
def Node.value (n : Node) : Except Fault Value :=
  match valueAt (depth n) 0 n with
  | .ok v => .ok v
  | .error (_, fault) => .error fault

/-! ## 4. Texts -/

/-- Whether a token begins a collection. -/
def Token.opens : Token → Bool
  | .blockSequenceStart | .blockMappingStart | .flowSequenceStart | .flowMappingStart => true
  | _ => false

/-- Whether a token ends a collection. -/
def Token.closes : Token → Bool
  | .blockEnd | .flowSequenceEnd | .flowMappingEnd => true
  | _ => false

/-- The most collections that are open at once among tokens, after that many which are open already. -/
def nesting (opened : Nat) : List Token → Nat
  | [] => opened
  | t :: ts =>
    max opened (nesting (if t.opens then opened + 1 else if t.closes then opened - 1 else opened) ts)

/-- The levels up to which a node is sure to be read. A collection that is open may hold one more that no
    token begins, and an alias adds the levels of what it stands for. -/
def levelLimit : Nat := 2 * Value.nestingLimit + 1

/-- The value of the document that tokens hold. Nothing is null. -/
def valueOfTokens (ts : List Token) : Except Fault Value := do
  match ← Node.ofTokens ts with
  | none => .ok .null
  | some n => if levelLimit < depth n then .error .nested else n.value

/-- The value of a text. -/
def read? (text : String) : Except Fault Value :=
  let ts := tokens text
  if Value.nestingLimit < nesting 0 ts then .error .nested else valueOfTokens ts

end Dripline.Yaml
