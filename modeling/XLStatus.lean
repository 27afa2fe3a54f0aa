import XLStatus.Net.Blocklist
import XLStatus.Auth.Nonces
import XLStatus.Auth.Middleware
import XLStatus.Auth.Rbac
import XLStatus.Auth.Login
import XLStatus.Auth.TotpSettings
import XLStatus.Agent.NatSessions
import XLStatus.Alerts.Engine
import XLStatus.Grpc.SessionRegistry
import XLStatus.Grpc.Placement
import XLStatus.Grpc.Connections
import XLStatus.Grpc.TaskResponses
import XLStatus.Tunnel.Download
import XLStatus.Tunnel.Policy
import XLStatus.Tunnel.Handling
import XLStatus.Tunnel.Reservations
import XLStatus.Transfers.Download
import XLStatus.Transfers.Uploads
import XLStatus.Terminal.Socket
import XLStatus.Terminal.Output
import XLStatus.Terminal.Tickets
import XLStatus.Tasks.Scheduler
import XLStatus.Tasks.Targets
import XLStatus.Tasks.ShellOutput
import XLStatus.Maintenance.Restore
import XLStatus.Servers.Metadata
import XLStatus.Services.Transitions
import XLStatus.Alerts.Offline
import XLStatus.Agent.Disk
import XLStatus.Tsdb.Store
import XLStatus.Tsdb.Payload
import XLStatus.Notifications.JsonTemplate
import XLStatus.Servers.OwnerTransfers
import XLStatus.Services.Windows
import XLStatus.Services.ErrorText
import XLStatus.Auth.Base32
import XLStatus.Db.Secrets
import XLStatus.Realtime.Hub
import XLStatus.Servers.Tags
import XLStatus.Scripts.Import
import XLStatus.Web.Redirect
import XLStatus.Web.ServerCache
import XLStatus.Auth.SessionCap
import XLStatus.Auth.Bans
import XLStatus.Grpc.Telemetry
