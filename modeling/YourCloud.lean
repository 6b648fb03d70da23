import YourCloud.App.Commands
import YourCloud.App.Vault
import YourCloud.Assistant.Replacement
import YourCloud.Auxiliary.Survival
import YourCloud.Controller.Reporting
import YourCloud.Observation.Offered
import YourCloud.Observation.Reopened
import YourCloud.Relay.Reader
import YourCloud.Relay.StateFile
import YourCloud.Controller.Backoff
import YourCloud.Controller.Projection
import YourCloud.Relay.Admission
import YourCloud.Auxiliary.ReadBack
import YourCloud.Auxiliary.RouteRuns
import YourCloud.App.RecoveryCode
import YourCloud.Controller.DispatchListing
import YourCloud.Controller.Anticipation
import YourCloud.Controller.DefinitionStore
import YourCloud.Controller.Readings
import YourCloud.App.PasteBlock
import YourCloud.App.Corrections
import YourCloud.Auxiliary.Secrets
import YourCloud.Auxiliary.Directories
import YourCloud.Identity.Limits
import YourCloud.App.BootstrapRuns
import YourCloud.Assistant.KeyAccepted
import YourCloud.Assistant.InstallLedger
