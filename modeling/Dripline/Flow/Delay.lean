import Dripline.Flow.Model
import Dripline.Number.Shortest
import Dripline.Time.Stamp

/-!
# Delays

How long a delay node waits, in whole milliseconds:

* an absolute delay waits for its time, not at all when that is past or missing;
* a relative delay waits an amount of a unit, not at all when either is missing, unknown or zero;
* the division and the product are rounded once to double precision and then cut toward zero, so
  that an amount that is no number or too large has no waiting time.
-/

namespace Dripline

/-- The units of a relative delay. -/
inductive DelayUnit where
  | minutes
  | hours
  | days
deriving DecidableEq, Repr

namespace DelayUnit

/-- The unit of a name. -/
def ofText? (s : String) : Option DelayUnit :=
  if s = "minutes" then some .minutes
  else if s = "hours" then some .hours
  else if s = "days" then some .days
  else none

/-- The milliseconds in a unit. -/
def millis : DelayUnit → Nat
  | .minutes => 60000
  | .hours => 3600000
  | .days => 86400000

end DelayUnit

/-- The whole part toward zero of a number. -/
def Double.truncate : Double → Except ArithFault Int
  | .nan => .error .nanToWhole
  | .infinite _ => .error .infinityToWhole
  | .finite negative units => .ok (truncUnits negative units)

/-- Milliseconds from `now` to a moment, as a double precision number. -/
def Moment.millisSince (m now : Moment) : Except ArithFault Double :=
  (m.since now).map fun micros => Double.ofQuotient micros 1000

namespace Delay

/-- Milliseconds to wait before the node after the delay may run. -/
def millis (d : Delay) (now : Moment) : Except ArithFault Int :=
  if d.mode = some "absolute" then
    match d.time with
    | none => .ok 0
    | some t => do
      let remaining ← (← t.millisSince now).truncate
      .ok (max 0 remaining)
  else if d.mode = some "relative" then
    match DelayUnit.ofText? (d.unit.getD ""), d.amount with
    | some u, some amount =>
      if amount.isZero then .ok 0
      else (amount.times u.millis).truncate.map (max 0)
    | _, _ => .ok 0
  else .ok 0

/-- The moment at which the node after the delay may run. -/
def resumeTime (d : Delay) (now : Moment) : Except ArithFault Moment := do
  now.addMillis (← d.millis now)

/-- The text of an amount: whole amounts without a fraction. -/
def amountText : Option Double → String
  | none => "None"
  | some (.finite negative units) =>
    if (Double.finite negative units).isWhole then toString (Double.truncUnits negative units)
    else (Double.finite negative units).render
  | some x => x.render

/-- What the delay waits for, in words. -/
def describe (d : Delay) : String :=
  if d.mode = some "absolute" then "until " ++ (d.time.map Moment.render).getD "unset"
  else "for " ++ amountText d.amount ++ " " ++ d.unit.getD "None"

end Delay

end Dripline
