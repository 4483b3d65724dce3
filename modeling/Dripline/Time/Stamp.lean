import Dripline.Time.Moment
import Dripline.Text.Digits

/-!
# Time stamps

The text of a moment and its reading:

* `Moment.render`: `YYYY-MM-DDTHH:MM:SS`, six digits of fraction when there is one, then the
  offset `+HH:MM`, with seconds only where the offset has them;
* `Moment.ofFields?`: a moment from the numbers of a date and a time, or the first of them that is
  impossible;
* `Moment.ofText?`: reads a stamp back. The seconds may be missing, and the offset may be `Z`.
-/

namespace Dripline.Moment

open Text

/-- The text of an offset. -/
def offsetChars (o : Offset) : List Char :=
  let s := o.seconds.natAbs
  (if o.seconds < 0 then '-' else '+') :: fixedDigits 2 (s / 3600) ++
    ':' :: fixedDigits 2 (s / 60 % 60) ++
    (if s % 60 = 0 then [] else ':' :: fixedDigits 2 (s % 60))

/-- The date part of a reading. -/
def dateChars (ticks : Nat) : List Char :=
  let d := Calendar.ofDays (ticks / dayMicros)
  fixedDigits 4 d.year ++ '-' :: fixedDigits 2 d.month ++ '-' :: fixedDigits 2 d.day

/-- The time part of a reading. -/
def timeChars (ticks : Nat) : List Char :=
  let s := ticks % dayMicros / secondMicros
  let fraction := ticks % secondMicros
  fixedDigits 2 (s / 3600) ++ ':' :: fixedDigits 2 (s / 60 % 60) ++
    ':' :: fixedDigits 2 (s % 60) ++
    (if fraction = 0 then [] else '.' :: fixedDigits 6 fraction)

/-- The characters of a time stamp. -/
def chars (m : Moment) : List Char :=
  dateChars m.ticks ++ 'T' :: timeChars m.ticks ++ (m.offset.map offsetChars).getD []

/-- The text of a moment. -/
def render (m : Moment) : String := String.ofList m.chars

/-- The first number of a date and time that is impossible. -/
inductive FieldFault where
  | year
  | month
  | day
  | hour
  | minute
  | second
deriving DecidableEq, Repr

/-- The wording of an impossible field. -/
def FieldFault.message : FieldFault → Nat → String
  | .year, n => s!"year {n} is out of range"
  | .month, _ => "month must be in 1..12"
  | .day, _ => "day is out of range for month"
  | .hour, _ => "hour must be in 0..23"
  | .minute, _ => "minute must be in 0..59"
  | .second, _ => "second must be in 0..59"

/-- The numbers of a date and a time of day. -/
structure Fields where
  year : Nat
  month : Nat
  day : Nat
  hour : Nat
  minute : Nat
  second : Nat
  micros : Nat
deriving DecidableEq, Repr

/-- The first impossible number, checked from the year to the second. -/
def Fields.fault? (f : Fields) : Option FieldFault :=
  if f.year < 1 || Calendar.lastYear < f.year then some .year
  else if f.month < 1 || 12 < f.month then some .month
  else if f.day < 1 || Calendar.daysInMonth f.year f.month < f.day then some .day
  else if 23 < f.hour then some .hour
  else if 59 < f.minute then some .minute
  else if 59 < f.second then some .second
  else none

/-- The reading of a date and a time. -/
def Fields.ticks (f : Fields) : Nat :=
  Calendar.Date.days ⟨f.year, f.month, f.day⟩ * dayMicros +
    ((f.hour * 60 + f.minute) * 60 + f.second) * secondMicros + f.micros

/-- The moment of a date and a time, if all its numbers are possible. -/
def ofFields? (f : Fields) (offset : Option Offset) : Except FieldFault Moment :=
  match f.fault? with
  | some fault => .error fault
  | none =>
    match ofTicks? f.ticks offset with
    | some m => .ok m
    | none => .error .year

/-- The value of exactly `width` digits at the front of a text, and the rest. -/
def takeFixed : Nat → Nat → List Char → Option (Nat × List Char)
  | 0, acc, cs => some (acc, cs)
  | w + 1, acc, c :: cs =>
    if isDigit c then takeFixed w (acc * 10 + (c.toNat - '0'.toNat)) cs else none
  | _ + 1, _, [] => none

/-- One given character at the front, and the rest. -/
def takeChar (x : Char) : List Char → Option (List Char)
  | c :: cs => if c = x then some cs else none
  | [] => none

/-- The first six digits of a fraction as microseconds. -/
def fractionMicros (digits : List Char) : Nat :=
  (readNatFrom? 10 0 ((digits ++ List.replicate 6 '0').take 6)).getD 0

/-- A date `YYYY-MM-DD` at the front of a text. -/
def takeDate (cs : List Char) : Option ((Nat × Nat × Nat) × List Char) := do
  let (y, cs) ← takeFixed 4 0 cs
  let cs ← takeChar '-' cs
  let (m, cs) ← takeFixed 2 0 cs
  let cs ← takeChar '-' cs
  let (d, cs) ← takeFixed 2 0 cs
  some ((y, m, d), cs)

/-- Seconds and fraction `:SS[.f…]` at the front of a text, when there are any. -/
def takeSeconds (cs : List Char) : Option ((Nat × Nat) × List Char) :=
  match cs with
  | ':' :: cs =>
    match takeFixed 2 0 cs with
    | none => none
    | some (s, '.' :: rest) =>
      let digits := rest.takeWhile isDigit
      if digits.isEmpty then none
      else some ((s, fractionMicros digits), rest.dropWhile isDigit)
    | some (s, rest) => some ((s, 0), rest)
  | _ => some ((0, 0), cs)

/-- A time of day `HH:MM[:SS[.f…]]` at the front of a text. -/
def takeTime (cs : List Char) : Option ((Nat × Nat × Nat × Nat) × List Char) := do
  let (h, cs) ← takeFixed 2 0 cs
  let cs ← takeChar ':' cs
  let (m, cs) ← takeFixed 2 0 cs
  let ((s, f), cs) ← takeSeconds cs
  some ((h, m, s, f), cs)

/-- The whole of a text as an offset: nothing, `Z`, `+HH:MM`, `+HHMM` or `+HH:MM:SS`. -/
def readOffset? (cs : List Char) : Option (Option Offset) :=
  match cs with
  | [] => some none
  | ['Z'] => some (some .utc)
  | ['z'] => some (some .utc)
  | c :: cs =>
    if c = '+' || c = '-' then do
      let (h, cs) ← takeFixed 2 0 cs
      let cs := (takeChar ':' cs).getD cs
      let (m, cs) ← takeFixed 2 0 cs
      let (s, cs) ←
        match cs with
        | [] => some (0, [])
        | _ => (takeChar ':' cs).bind (takeFixed 2 0)
      guard (cs.isEmpty && m < 60 && s < 60)
      let total : Int := (h * 60 + m) * 60 + s
      let o ← Offset.ofSeconds? (if c = '-' then -total else total)
      some (some o)
    else none

/-- Reads a time stamp. -/
def ofText? (s : String) : Option Moment := do
  let ((y, mo, d), cs) ← takeDate s.toList
  match cs with
  | [] => (ofFields? ⟨y, mo, d, 0, 0, 0, 0⟩ none).toOption
  | _ :: cs =>
    let ((h, mi, s, f), cs) ← takeTime cs
    let o ← readOffset? cs
    (ofFields? ⟨y, mo, d, h, mi, s, f⟩ o).toOption

end Dripline.Moment
