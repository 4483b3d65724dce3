import Dripline.Flow.Model
import Dripline.Journal

/-!
# Notifiers

What the interpreter asks of a delivery service: to send a message to a subject. A delivery succeeds
with a delivery id, or fails with a text that ends up in the log of the execution. A notifier may
look at the executions as they stand at that moment, so that a rehearsal can show them.
-/

namespace Dripline

/-- Why a delivery failed. -/
inductive SendFault where
  /-- The delivery service says so. -/
  | undelivered (text : String)
  /-- Something that no delivery service should run into. -/
  | broken (label : String) (text : String)
deriving DecidableEq, Repr

/-- The name of a failed delivery in reports. -/
def SendFault.label : SendFault → String
  | .undelivered _ => "DeliveryError"
  | .broken label _ => label

/-- The wording of a failed delivery. -/
def SendFault.message : SendFault → String
  | .undelivered text => text
  | .broken _ text => text

/-- The outcome of a delivery, the notifier after it, and what it has to say, oldest first. -/
structure Sent (ν : Type) where
  outcome : Except SendFault String
  notifier : ν
  lines : List Line

/-- A delivery service. -/
class Notifier (ν : Type) where
  /-- Sends a message (last) to a subject, in view of the executions as they stand. -/
  send : ν → List Execution → String → String → Sent ν

end Dripline
