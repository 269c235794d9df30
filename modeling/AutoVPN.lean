import AutoVPN.Lib.Budget
import AutoVPN.Lib.Crew
import AutoVPN.Lib.CurlConfig
import AutoVPN.Lib.FirstMatch
import AutoVPN.Lib.Fold
import AutoVPN.Lib.Ini
import AutoVPN.Lib.Json
import AutoVPN.Lib.JsonLine
import AutoVPN.Lib.JsonText
import AutoVPN.Lib.Lease
import AutoVPN.Lib.Like
import AutoVPN.Lib.Lines
import AutoVPN.Lib.Mapping
import AutoVPN.Lib.Network
import AutoVPN.Lib.Nft
import AutoVPN.Lib.Pattern
import AutoVPN.Lib.Pool
import AutoVPN.Lib.Posix
import AutoVPN.Lib.Program
import AutoVPN.Lib.Sequence
import AutoVPN.Lib.Sql
import AutoVPN.Lib.Streak
import AutoVPN.Lib.Substitution
import AutoVPN.Lib.Text
import AutoVPN.Lib.Url
import AutoVPN.Lib.Value
import AutoVPN.Reporting.Delivery
import AutoVPN.Reporting.Exchange
import AutoVPN.Reporting.Formats
import AutoVPN.Reporting.Joint
import AutoVPN.Reporting.Refresh
import AutoVPN.Router.AwgHelper
import AutoVPN.Router.Bundle
import AutoVPN.Router.Closure
import AutoVPN.Router.Commit
import AutoVPN.Router.Controller
import AutoVPN.Router.DirectFiles
import AutoVPN.Router.DirectGuard
import AutoVPN.Router.DirectHelper
import AutoVPN.Router.DirectSafety
import AutoVPN.Router.DirectZapret
import AutoVPN.Router.GuardSafety
import AutoVPN.Router.Http
import AutoVPN.Router.Idempotency
import AutoVPN.Router.Journal
import AutoVPN.Router.JournalDecode
import AutoVPN.Router.JournalLoad
import AutoVPN.Router.JournalValid
import AutoVPN.Router.KillSwitch
import AutoVPN.Router.Ledger
import AutoVPN.Router.Leftover
import AutoVPN.Router.Lineage
import AutoVPN.Router.Machine
import AutoVPN.Router.Maintenance
import AutoVPN.Router.MaintenanceSafety
import AutoVPN.Router.NetworkAtomicity
import AutoVPN.Router.NetworkInstall
import AutoVPN.Router.NetworkPlan
import AutoVPN.Router.NetworkRange
import AutoVPN.Router.NetworkSafety
import AutoVPN.Router.NetworkScan
import AutoVPN.Router.Networks
import AutoVPN.Router.Policy
import AutoVPN.Router.Process
import AutoVPN.Router.Render
import AutoVPN.Router.Request
import AutoVPN.Router.RuDb
import AutoVPN.Router.Runs
import AutoVPN.Router.RuntimeHelper
import AutoVPN.Router.RuntimeLane
import AutoVPN.Router.RuntimeSlots
import AutoVPN.Router.Setup
import AutoVPN.Router.Snapshot
import AutoVPN.Router.SnapshotErrors
import AutoVPN.Router.Tracking
import AutoVPN.Router.Transitions
import AutoVPN.Router.UpdateHelper
import AutoVPN.Router.UpdateRuns
import AutoVPN.Router.UpdateWorld
import AutoVPN.Router.Zapret
import AutoVPN.Server.Addresses
import AutoVPN.Server.ApplyEndpoint
import AutoVPN.Server.ApplyResults
import AutoVPN.Server.ApplyService
import AutoVPN.Server.Artifacts
import AutoVPN.Server.BoxOnce
import AutoVPN.Server.BoxRotation
import AutoVPN.Server.BoxRuns
import AutoVPN.Server.BoxSafety
import AutoVPN.Server.Capture
import AutoVPN.Server.Cleanup
import AutoVPN.Server.CleanupOnce
import AutoVPN.Server.CleanupSafety
import AutoVPN.Server.Coordinator
import AutoVPN.Server.Course
import AutoVPN.Server.Credentials
import AutoVPN.Server.Database
import AutoVPN.Server.Histories
import AutoVPN.Server.Holds
import AutoVPN.Server.HysteriaAuth
import AutoVPN.Server.IpChange
import AutoVPN.Server.Leases
import AutoVPN.Server.LoginLimiter
import AutoVPN.Server.Lookup
import AutoVPN.Server.MigrationRuns
import AutoVPN.Server.Migrations
import AutoVPN.Server.Noninterference
import AutoVPN.Server.Operations
import AutoVPN.Server.Payload
import AutoVPN.Server.ProtocolStatus
import AutoVPN.Server.Publications
import AutoVPN.Server.Reboot
import AutoVPN.Server.RebootOnce
import AutoVPN.Server.Reset
import AutoVPN.Server.Revisions
import AutoVPN.Server.Rotation
import AutoVPN.Server.RotationOnce
import AutoVPN.Server.RotationSafety
import AutoVPN.Server.RouterSnapshot
import AutoVPN.Server.Rows
import AutoVPN.Server.Sanitization
import AutoVPN.Server.SnapshotStore
import AutoVPN.Server.SprintboxReview
import AutoVPN.Server.StartUp
import AutoVPN.Server.Store
import AutoVPN.Server.StoreMoves
import AutoVPN.Server.Subscriptions
import AutoVPN.Server.Transactions
import AutoVPN.Server.VpnConfig
import AutoVPN.Server.VpnState
