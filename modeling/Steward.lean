import Steward.Main
import Steward.Record.Settings
import Steward.Rehearsal.Players
import Steward.Proofs.Trust.Calls
import Steward.Proofs.Trust.History
import Steward.Proofs.Service.Confinement
import Steward.Proofs.Service.Lifecycle
import Steward.Proofs.Service.Confirmation
import Steward.Proofs.Files.Siblings
import Steward.Proofs.Trust.Footprint
import Steward.Proofs.Trust.Archive
import Steward.Proofs.Files.Route
import Steward.Proofs.Trust.Sparing
import Steward.Proofs.Trust.Phases
import Steward.Proofs.Trust.Failures
import Steward.Proofs.Trust.WaitingAgain
import Steward.Proofs.Service.UnitLines
import Steward.Proofs.Service.StoredDescriptor
import Steward.Proofs.Settings.Saving
import Steward.Proofs.Trust.Redaction
import Steward.Proofs.Text.Markup
import Steward.Proofs.Service.PropertyList
import Steward.Proofs.Service.Preview
import Steward.Proofs.Trust.Standing
import Steward.Proofs.Trust.Cancelling
import Steward.Proofs.Session.Clocks
import Steward.Proofs.Trust.SingleQuery
import Steward.Proofs.Service.Neighbours
import Steward.Proofs.Service.UnitReading
import Steward.Proofs.Service.Building
import Steward.Proofs.Trust.OutOfOrder
import Steward.Proofs.Service.Listing
import Steward.Proofs.Service.Properties
import Steward.Proofs.Service.Uninstalling
import Steward.Proofs.Settings.Writing
import Steward.Proofs.Trust.Fields
import Steward.Proofs.Command.Tail
import Steward.Proofs.Trust.Deadline
import Steward.Proofs.Trust.RecordedStatuses
