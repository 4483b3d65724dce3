import Dripline.Time.Calendar
import Dripline.Number.Double
import Dripline.Text.Digits

/-!
# Moments

A moment is a reading of a wall clock in the years 1 to 9999, to the microsecond, that may carry
its offset from universal time:

* `instant?`: the universal time of a moment with an offset; a moment without one has none;
* `before`, `atMost`, `since`: order and difference. Two moments with offsets are compared as
  instants and two without as they read; one of each kind cannot be compared;
* `addMillis`: a later reading with the same offset, or the reason why there is none;
* `render`: the text of a moment, with a fraction only where there is one.
-/

namespace Dripline

/-- Why a calculation with numbers or moments has no result. -/
inductive ArithFault where
  /-- A NaN has no whole part. -/
  | nanToWhole
  /-- An infinity has no whole part. -/
  | infinityToWhole
  /-- A date beyond the calendar. -/
  | dateOutOfRange
  /-- A span of more days than spans may have. -/
  | tooManyDays (days : Int)
  /-- A span whose day count does not fit a 32-bit word. -/
  | dayWordOverflow
  /-- Order between a moment with and one without an offset. -/
  | mixedOrder
  /-- Difference between a moment with and one without an offset. -/
  | mixedDifference
deriving DecidableEq, Repr

/-- The wording of a calculation without result. -/
def ArithFault.message : ArithFault → String
  | .nanToWhole => "cannot convert float NaN to integer"
  | .infinityToWhole => "cannot convert float infinity to integer"
  | .dateOutOfRange => "date value out of range"
  | .tooManyDays days => s!"days={days}; must have magnitude <= 999999999"
  | .dayWordOverflow => "Python int too large to convert to C int"
  | .mixedOrder => "can't compare offset-naive and offset-aware datetimes"
  | .mixedDifference => "can't subtract offset-naive and offset-aware datetimes"

/-- Microseconds in a day. -/
def dayMicros : Nat := 86400000000

/-- Microseconds in a second. -/
def secondMicros : Nat := 1000000

/-- An offset from universal time in seconds, of less than a day. -/
structure Offset where
  seconds : Int
  within : seconds.natAbs < 86400
deriving DecidableEq, Repr

/-- The offset of universal time itself. -/
def Offset.utc : Offset := ⟨0, by decide⟩

/-- An offset of that many seconds, if it is less than a day. -/
def Offset.ofSeconds? (s : Int) : Option Offset :=
  if h : s.natAbs < 86400 then some ⟨s, h⟩ else none

/-- A reading of a wall clock: microseconds since the first midnight of year 1, and the offset. -/
structure Moment where
  ticks : Nat
  offset : Option Offset
  within : ticks < Calendar.totalDays * dayMicros
deriving DecidableEq, Repr

namespace Moment

/-- The number of readings. -/
def span : Nat := Calendar.totalDays * dayMicros

/-- The moment with that reading, when it lies in the calendar. -/
def ofTicks? (ticks : Int) (offset : Option Offset) : Option Moment :=
  if h : ticks.toNat < Calendar.totalDays * dayMicros then
    if 0 ≤ ticks then some ⟨ticks.toNat, offset, h⟩ else none
  else none

/-- The last reading of the calendar, in universal time. -/
def last : Moment :=
  ⟨Calendar.totalDays * dayMicros - 1, some .utc, by decide⟩

/-- The first reading of the calendar, in universal time. -/
def first : Moment := ⟨0, some .utc, by decide⟩

/-- The reading in universal time of a reading with an offset, in microseconds. -/
def shifted (ticks : Nat) (offset : Offset) : Int := ticks - offset.seconds * secondMicros

/-- The universal time of a moment with an offset. -/
def instant? (m : Moment) : Option Int := m.offset.map (shifted m.ticks)

/-- Whether a moment carries its offset. -/
def isAnchored (m : Moment) : Bool := m.offset.isSome

/-- The two readings on one scale, when both moments carry an offset or neither does. -/
def aligned? (a b : Moment) : Option (Int × Int) :=
  match a.offset, b.offset with
  | some p, some q => some (shifted a.ticks p, shifted b.ticks q)
  | none, none => some (a.ticks, b.ticks)
  | _, _ => none

/-- Whether `a` is strictly before `b`. -/
def before (a b : Moment) : Except ArithFault Bool :=
  match aligned? a b with
  | some (x, y) => .ok (decide (x < y))
  | none => .error .mixedOrder

/-- Whether `a` is not after `b`. -/
def atMost (a b : Moment) : Except ArithFault Bool :=
  match aligned? a b with
  | some (x, y) => .ok (decide (x ≤ y))
  | none => .error .mixedOrder

/-- Microseconds from `b` to `a`. -/
def since (a b : Moment) : Except ArithFault Int :=
  match aligned? a b with
  | some (x, y) => .ok (x - y)
  | none => .error .mixedDifference

/-- The same moment: the same instant, or the same reading when neither has an offset. -/
def same (a b : Moment) : Bool :=
  match aligned? a b with
  | some (x, y) => x == y
  | none => false

/-- The same instant as a reading in universal time, when that lies in the calendar. A moment
    without an offset is taken to be in universal time. -/
def toUtc (m : Moment) : Except ArithFault Moment :=
  match m.offset with
  | none => .ok ⟨m.ticks, some .utc, m.within⟩
  | some o =>
    match ofTicks? (shifted m.ticks o) (some .utc) with
    | some u => .ok u
    | none => .error .dateOutOfRange

/-- The same reading taken in universal time when it carries no offset. -/
def assumeUtc (m : Moment) : Moment :=
  match m.offset with
  | none => ⟨m.ticks, some .utc, m.within⟩
  | some _ => m

/-- Milliseconds in a day. -/
def dayMillis : Nat := 86400000

/-- The reading that many milliseconds later, with the same offset. The span itself is checked
    first: its day count must fit a word, and then the range of spans. -/
def addMillis (m : Moment) (millis : Int) : Except ArithFault Moment :=
  let days := Int.fdiv millis dayMillis
  if 2147483647 < days || days < -2147483648 then .error .dayWordOverflow
  else if 999999999 < days.natAbs then .error (.tooManyDays days)
  else
    match ofTicks? (m.ticks + millis * 1000) m.offset with
    | some later => .ok later
    | none => .error .dateOutOfRange

/-- The reading that many microseconds later, the last reading of the calendar at most. -/
def addMicros (m : Moment) (micros : Nat) : Moment :=
  if h : m.ticks + micros < Calendar.totalDays * dayMicros then ⟨m.ticks + micros, m.offset, h⟩
  else ⟨Calendar.totalDays * dayMicros - 1, m.offset, by decide⟩

end Moment

end Dripline
