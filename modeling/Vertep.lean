import Vertep.Queue.RoundTrip
import Vertep.Queue.DeadLetters
import Vertep.Core.Leases
import Vertep.Core.Renders
import Vertep.Core.Holds
import Vertep.Core.Versions
import Vertep.Core.Redispatch
import Vertep.Workflow.Freshness
import Vertep.Orchestration.Runs
import Vertep.Rolling.Directives
import Vertep.Update.EnvFile
import Vertep.Media.Mp4
import Vertep.Media.Png
import Vertep.Update.Outcome
import Vertep.Trust.Roots
import Vertep.Registry.Accounts
import Vertep.Registry.Generations
import Vertep.Lab.Sharing
import Vertep.Lab.LifeCycle
import Vertep.Providers.Acknowledgements
import Vertep.MoneyPrinter.Download
import Vertep.MoneyPrinter.Narration
import Vertep.MoneyPrinter.Release
import Vertep.Callbacks.Runs
import Vertep.SecretStore.Rotation
import Vertep.Pulls.Cancelled
import Vertep.Placement.Delivered
import Vertep.Gpu.Reservations
import Vertep.Layout.Crashes
import Vertep.Backup.Snapshots
import Vertep.Backup.Parts
import Vertep.Governance.OneIssue
import Vertep.Modules.Restarts
import Vertep.Alerts.Runs
import Vertep.Core.Reassembly
import Vertep.Core.ScanRuns
import Vertep.Core.Revive
import Vertep.Core.VoiceBudget
import Vertep.Core.Overlaps
import Vertep.Core.Turns
import Vertep.Core.Inputs
import Vertep.Core.ReviewActions
import Vertep.Storyboard.Rejections
import Vertep.Workflow.Revisions
import Vertep.Workflow.Validation
import Vertep.Workflow.Polling
import Vertep.Update.Audit
