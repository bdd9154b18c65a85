import Dashboard.Main
import Dashboard.Container.Session
import Dashboard.Container.Loop
import Dashboard.Host.Slots
import Dashboard.Store.Codec
import Dashboard.Text.Uppercase
import Dashboard.Proofs.Container.Attachment
import Dashboard.Proofs.Container.Echo
import Dashboard.Proofs.Container.Selection
import Dashboard.Proofs.Container.Tickets
import Dashboard.Proofs.Container.Confirmations
import Dashboard.Proofs.Container.Teardown
import Dashboard.Proofs.Container.Twins
import Dashboard.Proofs.Container.Superseded
import Dashboard.Proofs.Container.Attempts
import Dashboard.Proofs.Container.Failure
import Dashboard.Proofs.Container.Feedback
import Dashboard.Proofs.Plugin.Sharing
import Dashboard.Proofs.Command.Resolve
import Dashboard.Proofs.Plugin.Registry
import Dashboard.Proofs.Command.Startup
import Dashboard.Proofs.Data.Decode
import Dashboard.Proofs.Persistence
import Dashboard.Proofs.Config.Reload
import Dashboard.Proofs.Store.Agreement
import Dashboard.Proofs.Command.Listing
import Dashboard.Proofs.Plugin.Gates
import Dashboard.Proofs.Config.UnknownKey
import Dashboard.Proofs.Host.Entries
import Dashboard.Proofs.Plugin.Eligibility
import Dashboard.Proofs.Plugin.Label
import Dashboard.Proofs.Plugin.Acceptance
import Dashboard.Proofs.Config.Validation
import Dashboard.Proofs.Command.Flag
import Dashboard.Proofs.Config.Environment
import Dashboard.Proofs.Config.Layers
import Dashboard.Proofs.Config.KeySpan
import Dashboard.Proofs.Config.KeySection
