import Dripline.Delivery.Notifier

/-!
# The outbox

A notifier for rehearsals: it keeps every delivery together with what was known at that time about the
executions of its subject, and it can be told to fail. Deliveries are numbered per subject.
-/

namespace Dripline

/-- What an execution looked like: its id, status and current node. -/
structure Glimpse where
  id : String
  status : Status
  currentNode : Option String
deriving DecidableEq, Repr

/-- A delivery that was made. -/
structure Delivery where
  subject : String
  message : String
  seen : List Glimpse
deriving DecidableEq, Repr

/-- All deliveries in order, and the text of the failure when the outbox fails. -/
structure Outbox where
  failure : Option String
  deliveries : List Delivery
deriving DecidableEq, Repr

namespace Outbox

/-- The outbox without deliveries. -/
def empty : Outbox := ⟨none, []⟩

/-- What is known about the executions of a subject. -/
def glimpses (executions : List Execution) (subject : String) : List Glimpse :=
  (executions.filter fun e => e.subject = subject).map fun e => ⟨e.id, e.status, e.currentNode⟩

/-- The number of deliveries to a subject. -/
def countFor (o : Outbox) (subject : String) : Nat :=
  (o.deliveries.filter fun d => d.subject = subject).length

/-- Keeps a delivery, or fails. -/
def send (o : Outbox) (executions : List Execution) (subject message : String) : Sent Outbox :=
  match o.failure with
  | some text => ⟨.error (.undelivered text), o, []⟩
  | none =>
    ⟨.ok s!"msg-{o.countFor subject + 1}@{subject}",
      { o with deliveries := o.deliveries ++ [⟨subject, message, glimpses executions subject⟩] },
      []⟩

instance : Notifier Outbox where
  send := send

end Outbox

end Dripline
