import Clusteration.Framework.Coroutine
import Clusteration.Framework.Protocol
import Clusteration.Framework.Crew
import Clusteration.Framework.Table
import Clusteration.Framework.Reach
import Clusteration.Framework.Behaviour
import Clusteration.Panel.Json
import Clusteration.Panel.Entities
import Clusteration.Panel.Http
import Clusteration.Panel.Cluster
import Clusteration.Panel.Effects
import Clusteration.Panel.ProxmoxClient
import Clusteration.Panel.Lifecycle
import Clusteration.Panel.Worker
import Clusteration.Panel.Startup
import Clusteration.Panel.Routes
import Clusteration.Panel.System
import Clusteration.Protocol.Rows
import Clusteration.Protocol.Phases
import Clusteration.Protocol.Reading
import Clusteration.Protocol.Sessions
import Clusteration.Protocol.Tasks
import Clusteration.Protocol.Provision
import Clusteration.Protocol.Destroy
import Clusteration.Protocol.Jobs
import Clusteration.Protocol.Dispatch
import Clusteration.Protocol.Handlers
import Clusteration.Protocol.Refinement
import Clusteration.Invariants.Stages
import Clusteration.Invariants.View
import Clusteration.Invariants.Base
import Clusteration.Invariants.Origin
import Clusteration.Invariants.Ledger
import Clusteration.Invariants.Records
import Clusteration.Invariants.Acts
import Clusteration.Invariants.Guests
import Clusteration.Invariants.Observed
import Clusteration.Properties.Quiescence
import Clusteration.Properties.JobLife
import Clusteration.Properties.Acceptance
import Clusteration.Properties.SshPending
import Clusteration.Properties.Deletion
import Clusteration.Properties.Destruction
import Clusteration.Properties.Custody
import Clusteration.Properties.Ownership
import Clusteration.Properties.Exposure
import Clusteration.Properties.Addresses
import Clusteration.Properties.Readiness
import Clusteration.Properties.Hostnames
import Clusteration.Properties.RequeueOrder
import Clusteration.Auth.Accounts
import Clusteration.Auth.System
import Clusteration.Auth.Phases
import Clusteration.Properties.Logins
import Clusteration.Properties.ResetCodes
import Clusteration.Front.Handlers
import Clusteration.Front.System
import Clusteration.Front.Phases
import Clusteration.Properties.Terminals
import Clusteration.Properties.Slugs
import Clusteration.Properties.PowerState
import Clusteration.Framework.Runs
import Clusteration.Panel.Play
import Clusteration.Properties.NormalProxmox
import Clusteration.Properties.PowerJobs
import Clusteration.Properties.Recovery
import Clusteration.Protocol.Answers
import Clusteration.Protocol.Readable
import Clusteration.Properties.ClientErrors
import Clusteration.Properties.TemplateNodes
import Clusteration.Properties.DiskSizes
import Clusteration.Properties.DiskResize
import Clusteration.Properties.Resends
import Clusteration.Auth.Restarts
import Clusteration.Panel.Terminal
import Clusteration.Properties.Cleanup
import Clusteration.Framework.Charset
import Clusteration.Framework.Items
import Clusteration.Front.Proxy
import Clusteration.Properties.Transparency
import Clusteration.Framework.Markup
import Clusteration.Web.Pages
import Clusteration.Properties.Escaping
import Clusteration.Properties.Throttle
import Clusteration.Front.Resolve
import Clusteration.Properties.Staleness
import Clusteration.Properties.Seeding
import Clusteration.Properties.Hosts
import Clusteration.Storage.Database
import Clusteration.Properties.Durability
import Clusteration.Storage.Backup
import Clusteration.Properties.Backups
import Clusteration.Scripts.DokployRepair
import Clusteration.Properties.Redaction
import Clusteration.Scripts.RollingUpgrade
import Clusteration.Properties.Reboots
import Clusteration.Framework.Translate
import Clusteration.Panel.Audit
import Clusteration.Properties.Auditing
import Clusteration.Properties.Password
import Clusteration.Properties.Upstreams
import Clusteration.Properties.Finishing
import Clusteration.Framework.Masking
import Clusteration.Protocol.Hiding
import Clusteration.Properties.Secrecy
import Clusteration.Properties.Workload
import Clusteration.Framework.Steady
import Clusteration.Panel.Diagnostics
import Clusteration.Properties.Diagnosis
import Clusteration.Framework.Trail
import Clusteration.Auth.Warrants
import Clusteration.Properties.Takeover
import Clusteration.Framework.Duplex
import Clusteration.Front.Sockets
import Clusteration.Properties.Tunnels
import Clusteration.Panel.Progress
import Clusteration.Protocol.Progress
import Clusteration.Properties.Progress
import Clusteration.Scripts.CloudTemplates
import Clusteration.Properties.CloudTemplates
import Clusteration.Panel.Recording
import Clusteration.Properties.Accounting
import Clusteration.Framework.Keeping
import Clusteration.Protocol.Walks
import Clusteration.Panel.Listing
import Clusteration.Properties.Errors
