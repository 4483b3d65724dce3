import Dripline.Keyed
import Dripline.Time.Moment

/-!
# Timers

The registry of armed timers, at most one for each execution. It is a disposable index over what the
store says about suspended executions:

* `arm` enters a timer under a serial number of its own, so that a later timer for the same execution
  is never taken for it;
* `isDue` looks at timers that still wait: a fired or cancelled timer stays in the registry until it
  is released, but does not fire again;
* `release` removes an entry only if it is still the same timer.
-/

namespace Dripline

/-- What becomes of a timer: it waits, has fired, or was cancelled. -/
inductive TimerPhase where
  | waiting
  | fired
  | cancelled
deriving DecidableEq, Repr

/-- A timer for an execution. -/
structure Timer where
  due : Moment
  serial : Nat
  phase : TimerPhase
deriving DecidableEq, Repr

/-- The timers by execution, and the next serial number. -/
structure Timers where
  entries : Keyed Timer
  nextSerial : Nat
deriving DecidableEq, Repr

namespace Timers

/-- No timers. -/
def empty : Timers := ⟨.empty, 0⟩

/-- The timer of an execution. -/
def get? (t : Timers) (id : String) : Option Timer := t.entries.get? id

/-- The number of timers in the registry. -/
def count (t : Timers) : Nat := t.entries.entries.length

/-- A new waiting timer for an execution. -/
def arm (t : Timers) (id : String) (due : Moment) : Timers :=
  ⟨t.entries.put id ⟨due, t.nextSerial, .waiting⟩, t.nextSerial + 1⟩

/-- The registry with another phase for the timer of an execution. -/
def setPhase (t : Timers) (id : String) (phase : TimerPhase) : Timers :=
  match t.get? id with
  | none => t
  | some timer => { t with entries := t.entries.put id { timer with phase := phase } }

/-- The timer of an execution never fires any more. -/
def cancel (t : Timers) (id : String) : Timers := t.setPhase id .cancelled

/-- The registry without the timer of an execution, if that is the one with the serial number. -/
def release (t : Timers) (id : String) (serial : Option Nat) : Timers :=
  match t.get? id, serial with
  | some timer, some n => if timer.serial = n then { t with entries := t.entries.erase id } else t
  | _, _ => t

/-- Whether a timer fires at a moment. -/
def isDue (now : Moment) (timer : Timer) : Bool :=
  timer.phase = .waiting && match timer.due.atMost now with
    | .ok b => b
    | .error _ => false

/-- Whether one timer fires before another: by the moment, then by the serial number. -/
def firesBefore (a b : String × Timer) : Bool :=
  match a.2.due.before b.2.due, b.2.due.before a.2.due with
  | .ok true, _ => true
  | _, .ok true => false
  | _, _ => decide (a.2.serial ≤ b.2.serial)

/-- The executions whose timers fire at a moment, in the order in which they fire. -/
def dueIds (t : Timers) (now : Moment) : List String :=
  ((t.entries.entries.filter fun e => isDue now e.2).mergeSort firesBefore).map Prod.fst

/-- The moment at which the next timer fires. -/
def nextDue? (t : Timers) : Option Moment :=
  (((t.entries.entries.filter fun e => e.2.phase = .waiting).mergeSort firesBefore).head?).map
    fun e => e.2.due

end Timers

end Dripline
