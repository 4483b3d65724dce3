import Dripline.Document.Value
import Dripline.Number.Reading

/-!
# The shape of documents

Reading typed data out of document values. A reader does not stop at the first misfit: it collects
an issue with its place for every part that does not fit.

* `Shaped`: a result or the list of issues, combined side by side;
* `text`, `decimal`, `integer`, `truth`, `moment`: the scalars, with the written forms each accepts;
* `optional`, `listOf`, `field`: null, lists and the fields of a mapping;
* `Issue.inOrder`: the order in which issues are reported.
-/

namespace Dripline

namespace Shape

/-! ## 1. Issues -/

/-- One step into a document. -/
inductive Place where
  | key (name : String)
  | index (n : Int)
deriving DecidableEq, Repr

/-- The text of a step. -/
def Place.text : Place → String
  | .key name => name
  | .index n => toString n

/-- What does not fit. -/
inductive Misfit where
  | missing
  | extra
  | notTextKey
  | notText
  | notEncodedText
  | notModel
  | notList
  | notMapping
  | notDecimal
  | unreadableDecimal
  | notMoment
  | momentOutOfRange
  | unreadableMoment
  | notInteger
  | unreadableInteger
  | fractionalInteger
  | notFinite
  | tooSmall
  | notTruth
  | unreadableTruth
  | notAmong
deriving DecidableEq, Repr

/-- The name of a misfit. -/
def Misfit.name : Misfit → String
  | .missing => "missing"
  | .extra => "extra_forbidden"
  | .notTextKey => "invalid_key"
  | .notText => "string_type"
  | .notEncodedText => "string_unicode"
  | .notModel => "model_type"
  | .notList => "list_type"
  | .notMapping => "dict_type"
  | .notDecimal => "float_type"
  | .unreadableDecimal => "float_parsing"
  | .notMoment => "datetime_type"
  | .momentOutOfRange => "datetime_parsing"
  | .unreadableMoment => "datetime_from_date_parsing"
  | .notInteger => "int_type"
  | .unreadableInteger => "int_parsing"
  | .fractionalInteger => "int_from_float"
  | .notFinite => "finite_number"
  | .tooSmall => "greater_than_equal"
  | .notTruth => "bool_type"
  | .unreadableTruth => "bool_parsing"
  | .notAmong => "literal_error"

/-- A misfit and where it is. -/
structure Issue where
  path : List Place
  misfit : Misfit
deriving DecidableEq, Repr

/-- The path in one text. -/
def Issue.pathText (i : Issue) : String := ".".intercalate (i.path.map Place.text)

/-- Whether an issue is reported before another: by path, then by name. -/
def Issue.notAfter (a b : Issue) : Bool :=
  a.pathText < b.pathText || (a.pathText == b.pathText && !(b.misfit.name < a.misfit.name))

/-- Issues in the order of the report. -/
def Issue.inOrder (issues : List Issue) : List Issue := issues.mergeSort Issue.notAfter

/-! ## 2. Results with issues -/

end Shape

open Shape in
/-- A value that fits, or everything that does not. -/
inductive Shaped (α : Type) where
  | fits (a : α)
  | misfits (issues : List Issue)
deriving Repr

namespace Shaped

open Shape

variable {α β : Type}

/-- A single misfit at the place itself. -/
def misfit (m : Misfit) : Shaped α := .misfits [⟨[], m⟩]

/-- The result seen from one step further out. -/
def within (p : Place) : Shaped α → Shaped α
  | .fits a => .fits a
  | .misfits issues => .misfits (issues.map fun i => ⟨p :: i.path, i.misfit⟩)

/-- A function of a fitting result. -/
def map (f : α → β) : Shaped α → Shaped β
  | .fits a => .fits (f a)
  | .misfits issues => .misfits issues

/-- Two results side by side: the issues of both are kept. -/
def seq (f : Shaped (α → β)) (x : Unit → Shaped α) : Shaped β :=
  match f, x () with
  | .fits f, .fits a => .fits (f a)
  | .fits _, .misfits js => .misfits js
  | .misfits is, .fits _ => .misfits is
  | .misfits is, .misfits js => .misfits (is ++ js)

instance : Applicative Shaped where
  pure := .fits
  seq := seq

end Shaped

namespace Shape

/-! ## 3. Scalars -/

/-- The text that bytes encode. -/
def textOfBytes? (bs : List UInt8) : Option String := String.fromUTF8? ⟨bs.toArray⟩

/-- A text. -/
def text : Value → Shaped String
  | .text s => .fits s
  | .bytes bs =>
    match textOfBytes? bs with
    | some s => .fits s
    | none => .misfit .notEncodedText
  | _ => .misfit .notText

/-- A text as characters without blanks around it, where a value can be read from one. -/
def written? : Value → Option (List Char)
  | .text s => some (Text.trimBy Text.isWhiteSpace s.toList)
  | .bytes bs => (textOfBytes? bs).map fun s => Text.trimBy Text.isWhiteSpace s.toList
  | _ => none

/-- A number of double precision, or its decimal. -/
def decimal (v : Value) : Shaped Double :=
  match v with
  | .float x => .fits x
  | .bool b => .fits (.ofInt (if b then 1 else 0))
  | .int i => if (Double.ofInt i).isFinite then .fits (.ofInt i) else .misfit .notDecimal
  | v =>
    match written? v with
    | none => .misfit .notDecimal
    | some cs =>
      match Double.readDecimal? cs with
      | some x => .fits x
      | none => .misfit .unreadableDecimal

/-- A decimal of a whole number without its zeros after the point. -/
def dropZeroFraction (cs : List Char) : List Char :=
  match (cs.reverse.dropWhile (· == '0')) with
  | '.' :: whole => whole.reverse
  | _ => cs

/-- A whole number of double precision. One that does not fit a 64-bit word is not read. -/
def wholeDouble (negative : Bool) (units : Double.Units) : Shaped Int :=
  if !(Double.finite negative units).isWhole then .misfit .fractionalInteger
  else if units < Nat.pow 2 63 * Double.one then .fits (Double.truncUnits negative units)
  else .misfit .unreadableInteger

/-- A whole number, or its decimal. -/
def integer (v : Value) : Shaped Int :=
  match v with
  | .int i => .fits i
  | .bool b => .fits (if b then 1 else 0)
  | .float x =>
    match x with
    | .finite negative units => wholeDouble negative units
    | _ => .misfit .notFinite
  | v =>
    match written? v with
    | none => .misfit .notInteger
    | some cs =>
      match Double.readInteger? (dropZeroFraction cs) with
      | some i => .fits i
      | none => .misfit .unreadableInteger

/-- The words for the truth values, in lower case. -/
def truthWord? (word : List Char) : Option Bool :=
  if ["1", "on", "t", "true", "y", "yes"].any fun w => w.toList = word then some true
  else if ["0", "off", "f", "false", "n", "no"].any fun w => w.toList = word then some false
  else none

/-- A truth value, one of the numbers 0 and 1, or a word in any case. -/
def truth (v : Value) : Shaped Bool :=
  let ofUnits (n : Int) : Shaped Bool :=
    if n = 0 then .fits false
    else if n = Value.intUnits 1 then .fits true
    else .misfit .unreadableTruth
  match v with
  | .bool b => .fits b
  | .int i => ofUnits (Value.intUnits i)
  | .float x =>
    match x with
    | .finite negative units => ofUnits (Double.signedUnits negative units)
    | _ => .misfit .notTruth
  | .text s =>
    match truthWord? (s.toList.map Double.asciiLower) with
    | some b => .fits b
    | none => .misfit .unreadableTruth
  | .bytes bs =>
    match (textOfBytes? bs).bind fun s => truthWord? (s.toList.map Double.asciiLower) with
    | some b => .fits b
    | none => .misfit .unreadableTruth
  | _ => .misfit .notTruth

/-- A whole number that is not below a limit. -/
def integerFrom (least : Int) (v : Value) : Shaped Int :=
  match integer v with
  | .fits i => if i < least then .misfit .tooSmall else .fits i
  | .misfits issues => .misfits issues

/-! ## 4. Moments -/

/-- Days from year 1 to the first of January 1970. -/
def epochDays : Nat := 719162

/-- The moment at that many microseconds from the first of January 1970, from the year 1600 on. -/
def momentAtEpoch? (micros : Int) : Option Moment :=
  if micros < -11676096000 * 1000000 then none
  else Moment.ofTicks? (epochDays * dayMicros + micros) (some .utc)

/-- The number of seconds beyond which a count is one of milliseconds. -/
def secondsLimit : Nat := 20000000000

/-- A quotient rounded to the nearest whole number, a half up. -/
def roundHalfUp (num : Int) (den : Nat) : Int := Int.fdiv (2 * num + den) (2 * den)

/-- A count of seconds, or of milliseconds when it is large: `num / den`. -/
def momentOfCount? (num : Int) (den : Nat) : Option Moment :=
  if num.natAbs ≤ secondsLimit * den then momentAtEpoch? (roundHalfUp (num * 1000000) den)
  else momentAtEpoch? (roundHalfUp (num * 1000) den)

/-- A plain decimal number: sign, digits, and possibly a point with more digits. -/
def plainNumber? (cs : List Char) : Option (Int × Nat) :=
  let (negative, body) := Double.takeSign cs
  let whole := body.takeWhile Text.isDigit
  let signed (n : Nat) : Int := if negative then -n else n
  if whole.isEmpty then none
  else
    match body.dropWhile Text.isDigit with
    | [] => some (signed (Double.digitsValue whole), 1)
    | '.' :: fraction =>
      if fraction.all Text.isDigit then
        some (signed (Double.digitsValue (whole ++ fraction)), Nat.pow 10 fraction.length)
      else none
    | _ => none

/-- A date, a separator, a time of day and possibly an offset. -/
def dateTime? (cs : List Char) : Option Moment := do
  let ((y, mo, d), cs) ← Moment.takeDate cs
  match cs with
  | [] => (Moment.ofFields? ⟨y, mo, d, 0, 0, 0, 0⟩ none).toOption
  | sep :: cs =>
    guard (sep = 'T' || sep = 't' || sep = ' ' || sep = '_')
    let ((h, mi, s, f), cs) ← Moment.takeTime cs
    let o ← Moment.readOffset? cs
    (Moment.ofFields? ⟨y, mo, d, h, mi, s, f⟩ o).toOption

/-- The moment that a text stands for: a date with or without a time, or a count of seconds. -/
def momentText? (cs : List Char) : Option Moment :=
  match plainNumber? cs with
  | some (num, den) => momentOfCount? num den
  | none => dateTime? cs

/-- A moment, a date, a count of seconds, or a text for one of them. -/
def moment (v : Value) : Shaped Moment :=
  let ofCount (num : Int) (den : Nat) : Shaped Moment :=
    match momentOfCount? num den with
    | some m => .fits m
    | none => .misfit .momentOutOfRange
  let ofChars (cs : List Char) : Shaped Moment :=
    match momentText? cs with
    | some m => .fits m
    | none => .misfit .unreadableMoment
  match v with
  | .moment m => .fits m
  | .date d => .fits d
  | .int i => ofCount i 1
  | .float x =>
    match x with
    | .finite negative units => ofCount (Double.signedUnits negative units) Double.one
    | _ => .misfit .momentOutOfRange
  | .text s => ofChars s.toList
  | .bytes bs => ofChars (((textOfBytes? bs).map String.toList).getD [])
  | _ => .misfit .notMoment

/-! ## 5. Collections and fields -/

variable {α : Type}

/-- Null, or a value. -/
def optional (read : Value → Shaped α) : Value → Shaped (Option α)
  | .null => .fits none
  | v => (read v).map some

/-- The items of a list, the first of them having the given index. -/
def items (read : Value → Shaped α) : Nat → List Value → Shaped (List α)
  | _, [] => .fits []
  | n, v :: vs => List.cons <$> (read v).within (.index n) <*> items read (n + 1) vs

/-- A list. -/
def listOf (read : Value → Shaped α) : Value → Shaped (List α)
  | .list vs => items read 0 vs
  | .members vs => items read 0 vs
  | _ => .misfit .notList

/-- A mapping, by its entries. -/
def model (read : List (Value × Value) → Shaped α) : Value → Shaped α
  | .map entries => read entries
  | _ => .misfit .notModel

/-- A field that must be there. -/
def required (name : String) (read : Value → Shaped α) (entries : List (Value × Value)) :
    Shaped α :=
  match Value.entry? name entries with
  | some v => (read v).within (.key name)
  | none => .misfits [⟨[.key name], .missing⟩]

/-- A field with a default. -/
def withDefault (name : String) (read : Value → Shaped α) (default : α)
    (entries : List (Value × Value)) : Shaped α :=
  match Value.entry? name entries with
  | some v => (read v).within (.key name)
  | none => .fits default

/-- A field of two names with a default; the first name wins when both are there. -/
def eitherName (name second : String) (read : Value → Shaped α) (default : α)
    (entries : List (Value × Value)) : Shaped α :=
  match Value.entry? name entries with
  | some v => (read v).within (.key name)
  | none => withDefault second read default entries

/-- The place of a key that may be any scalar. -/
def keyPlace : Value → Place
  | .text s => .key s
  | .int i => .index i
  | .bool b => .index (if b then 1 else 0)
  | .float x => .key x.render
  | .date d => .key d.render
  | .moment m => .key m.render
  | _ => .key "None"

/-- A mapping whose keys are texts and whose values are not looked at. -/
def textKeyed : Value → Shaped Unit
  | .map entries =>
    let issues := entries.filterMap fun (k, _) =>
      match text k with
      | .fits _ => none
      | .misfits _ => some ⟨[keyPlace k, .key "[key]"], .notText⟩
    if issues.isEmpty then .fits () else .misfits issues
  | _ => .misfit .notMapping

/-- No entries beyond the fields of the given names. -/
def onlyFields (names : List String) (entries : List (Value × Value)) : Shaped Unit :=
  let issues := entries.filterMap fun (k, _) =>
    match k with
    | .text s => if s ∈ names then none else some ⟨[.key s], .extra⟩
    | k => some ⟨[keyPlace k], .notTextKey⟩
  if issues.isEmpty then .fits () else .misfits issues

end Shape

end Dripline
