import RebooterHub.Support.Runs
import RebooterHub.Watchdog.Tick
import RebooterHub.Watchdog.Bindings
import RebooterHub.Sync.Replicator
import RebooterHub.Sync.Cursor
import RebooterHub.Commands.Queue
import RebooterHub.Commands.EventBus
import RebooterHub.Commands.ServiceApi
import RebooterHub.Commands.RelayAgent
import RebooterHub.Commands.HandOff
import RebooterHub.Auth.Accounts
import RebooterHub.Auth.Revocation
import RebooterHub.Support.Table
import RebooterHub.Sync.Tables
import RebooterHub.Sync.Applier
import RebooterHub.Support.LastWriter
import RebooterHub.Sync.Emission
import RebooterHub.Sync.Snapshots
import RebooterHub.Sync.Effects
import RebooterHub.Sync.Isolation
import RebooterHub.Sync.Reconciliation
import RebooterHub.Sync.Deletion
import RebooterHub.Support.Replicas
import RebooterHub.Sync.Convergence
import RebooterHub.Sync.Peering
import RebooterHub.Sync.Services
import RebooterHub.Watchdog.EdgeRules
import RebooterHub.Watchdog.Isolation
import RebooterHub.Data.Text
import RebooterHub.Schedules.Rows
import RebooterHub.Schedules.Isolation
import RebooterHub.Schedules.Recurrence
import RebooterHub.Schedules.Maintenance
import RebooterHub.Data.Number
import RebooterHub.Watchdog.Validation
import RebooterHub.Watchdog.Mutations
import RebooterHub.Watchdog.Enablement
import RebooterHub.Watchdog.Editing
import RebooterHub.Watchdog.Probes
import RebooterHub.Watchdog.Staleness
import RebooterHub.Commands.Groups
import RebooterHub.Commands.Lifecycle
import RebooterHub.Watchdog.Actions
import RebooterHub.Automation.Protection
import RebooterHub.Automation.HoldOff
import RebooterHub.Firmware.Deployments
import RebooterHub.Enrollment.Mac
import RebooterHub.Enrollment.Tables
import RebooterHub.Enrollment.Tokens
import RebooterHub.Enrollment.Announcements
import RebooterHub.Enrollment.Registration
import RebooterHub.Enrollment.Operations
import RebooterHub.Enrollment.Keys
import RebooterHub.Enrollment.Redemption
import RebooterHub.Support.Transaction
import RebooterHub.Support.Rows
import RebooterHub.Enrollment.Tenancy
import RebooterHub.Enrollment.Duplicates
import RebooterHub.Enrollment.Comparison
import RebooterHub.Enrollment.Lifecycle
import RebooterHub.Enrollment.Stages
import RebooterHub.Enrollment.HandedOut
import RebooterHub.Support.StableSort
import RebooterHub.Tenancy.ActiveOrganization
import RebooterHub.Auth.RoleBindings
import RebooterHub.Auth.ListFilters
import RebooterHub.Support.UnitOfWork
import RebooterHub.Tenancy.Scope
import RebooterHub.Tenancy.WriteGuard
import RebooterHub.Tenancy.Notifications
import RebooterHub.Support.Once
import RebooterHub.Auth.ResetRaces
import RebooterHub.Auth.Invitations
import RebooterHub.Auth.SignupReview
import RebooterHub.Backup.Tables
import RebooterHub.Backup.Export
import RebooterHub.Support.Dict
import RebooterHub.Backup.Sources
import RebooterHub.Backup.Credentials
import RebooterHub.Support.Logged
import RebooterHub.Support.NaturalKey
import RebooterHub.Backup.Plan
import RebooterHub.Backup.Apply
import RebooterHub.Backup.Announced
import RebooterHub.Backup.DryRun
import RebooterHub.Backup.Exported
import RebooterHub.Backup.Reimport
import RebooterHub.Backup.Restore
import RebooterHub.Backup.Encryption
import RebooterHub.Support.Pointers
import RebooterHub.Sync.PowerTopology
import RebooterHub.Support.Retry
import RebooterHub.Webhooks.Delivery
import RebooterHub.Setup.Picker
import RebooterHub.Setup.Configure
import RebooterHub.Firmware.Filenames
import RebooterHub.Firmware.Uploads
import RebooterHub.Firmware.Discovery
import RebooterHub.Devices.Contacts
import RebooterHub.Devices.RelayState
import RebooterHub.Devices.Replication
import RebooterHub.Devices.Reboots
import RebooterHub.Tenancy.Subscriptions
import RebooterHub.Data.Equality
import RebooterHub.Watchdog.Conflicts
import RebooterHub.Watchdog.Duplicates
import RebooterHub.Support.Pieces
import RebooterHub.Setup.Translation
import RebooterHub.Backup.Uploads
import RebooterHub.Data.Spelling
import RebooterHub.Setup.ConfigForms
import RebooterHub.Watchdog.RuleForms
import RebooterHub.Watchdog.Requests
import RebooterHub.Watchdog.NetworkProbes
import RebooterHub.Watchdog.SourceProbes
import RebooterHub.Watchdog.Faults
import RebooterHub.Watchdog.StoredAnswers
import RebooterHub.Watchdog.Agreement
import RebooterHub.Support.Latest
import RebooterHub.Power.Samples
import RebooterHub.Power.Series
import RebooterHub.Support.Buckets
import RebooterHub.Power.Sources
import RebooterHub.Watchdog.PowerWindow
import RebooterHub.Devices.OnlineStatus
import RebooterHub.Firmware.MassAction
import RebooterHub.Firmware.LatestStable
import RebooterHub.Support.TopRows
import RebooterHub.Feed.Unified
import RebooterHub.Outbound.Addresses
import RebooterHub.Outbound.Urls
import RebooterHub.Outbound.Guard
import RebooterHub.Guide.Episodes
import RebooterHub.Support.Refills
import RebooterHub.Guide.Refresh
import RebooterHub.Guide.Repeats
import RebooterHub.Sync.PowerParents
import RebooterHub.Audit.Conservation
import RebooterHub.Data.Calendar
import RebooterHub.Data.Stamps
import RebooterHub.Support.Marks
import RebooterHub.Support.Versions
import RebooterHub.Sources.Calendar
import RebooterHub.Sources.Stamps
import RebooterHub.Sources.Feeds
import RebooterHub.Sources.Airing
import RebooterHub.Sources.Polling
import RebooterHub.Sources.Freshness
import RebooterHub.Tenancy.ModeCache
import RebooterHub.Inbox.Attempts
import RebooterHub.Inbox.Acks
import RebooterHub.Inbox.Rejections
import RebooterHub.Support.Pools
import RebooterHub.Jobs.Leadership
import RebooterHub.Power.Rollups
import RebooterHub.Support.Extents
import RebooterHub.Power.Energy
import RebooterHub.Sync.PeerAuth
import RebooterHub.Sync.Federation
import RebooterHub.Support.Rotation
import RebooterHub.Diagnostics.Collector
import RebooterHub.Devices.Recovery
