import Dripline.Run.Runner
import Dripline.Run.Report
import Dripline.Store.Memory
import Dripline.Store.Database
import Dripline.Delivery.Outbox
import Dripline.Delivery.Post
import Dripline.Authoring
import Dripline.Saving
import Dripline.Document.Json
import Dripline.Document.Written
import Dripline.Files
import Dripline.Logging
import Dripline.Settings.Load
import Dripline.Command.Performance
import Dripline.Main
import Dripline.Proofs.Flow.Index
import Dripline.Proofs.Flow.WellFormed
import Dripline.Proofs.Flow.Walk
import Dripline.Proofs.Flow.Condition
import Dripline.Proofs.Flow.Delay
import Dripline.Proofs.Flow.Report
import Dripline.Proofs.Flow.Stricter
import Dripline.Proofs.Flow.Reorder
import Dripline.Proofs.Outcome
import Dripline.Proofs.Number.Rounding
import Dripline.Proofs.Number.Nearest
import Dripline.Proofs.Number.Shortest
import Dripline.Proofs.Number.Written
import Dripline.Proofs.Number.Order
import Dripline.Proofs.Text.Case
import Dripline.Proofs.Text.Blank
import Dripline.Proofs.Time.Calendar
import Dripline.Proofs.Time.Stamp
import Dripline.Proofs.Time.Order
import Dripline.Proofs.Time.Sorting
import Dripline.Proofs.Document.Shape
import Dripline.Proofs.Document.Automation
import Dripline.Proofs.Document.Json
import Dripline.Proofs.Document.RoundTrip
import Dripline.Proofs.Store.Lawful
import Dripline.Proofs.Store.Ids
import Dripline.Proofs.Store.Automations
import Dripline.Proofs.Store.Names
import Dripline.Proofs.Store.Executions
import Dripline.Proofs.Store.Chronology
import Dripline.Proofs.Authoring.Plan
import Dripline.Proofs.Authoring.Refusal
import Dripline.Proofs.Authoring.Invariant
import Dripline.Proofs.Authoring.Interchange
import Dripline.Proofs.Authoring.Resave
import Dripline.Proofs.Run.Turn
import Dripline.Proofs.Run.Session
import Dripline.Proofs.Run.Lifecycle
import Dripline.Proofs.Run.Position
import Dripline.Proofs.Run.Course
import Dripline.Proofs.Run.Structure
import Dripline.Proofs.Run.Unraced
import Dripline.Proofs.Run.Crash
import Dripline.Proofs.Run.Audit
import Dripline.Proofs.Run.Operations
import Dripline.Proofs.Run.Timing
import Dripline.Proofs.Run.Pairing
import Dripline.Proofs.Run.Uniform
import Dripline.Proofs.Run.Registry
import Dripline.Proofs.Run.Firing
import Dripline.Proofs.Run.Shutdown
import Dripline.Proofs.Run.Drained
import Dripline.Proofs.Run.Reorder
import Dripline.Proofs.Run.Ending
import Dripline.Proofs.Run.Return
import Dripline.Proofs.Run.Failure
import Dripline.Proofs.Run.Independence
import Dripline.Proofs.Run.Refusal
import Dripline.Proofs.Run.Recovery
import Dripline.Proofs.Run.Listing
import Dripline.Proofs.Delivery.Outbox
import Dripline.Proofs.Delivery.Mailer
import Dripline.Proofs.Delivery.Markup
import Dripline.Proofs.Address
import Dripline.Proofs.Settings.Overlay
import Dripline.Proofs.Settings.Precedence
import Dripline.Proofs.Command.Faults
import Dripline.Proofs.Command.Ending
