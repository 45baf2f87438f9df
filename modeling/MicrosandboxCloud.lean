import MicrosandboxCloud.Process.Pool
import MicrosandboxCloud.Data.Table
import MicrosandboxCloud.PortExclusivity
import MicrosandboxCloud.References
import MicrosandboxCloud.LeaseAccounting
import MicrosandboxCloud.LiveVm
import MicrosandboxCloud.Sessions
import MicrosandboxCloud.Proxy
import MicrosandboxCloud.UpdateMerge
import MicrosandboxCloud.LeaseRaces
import MicrosandboxCloud.Incarnations
import MicrosandboxCloud.SessionLifecycle
import MicrosandboxCloud.Volumes
import MicrosandboxCloud.Removal
import MicrosandboxCloud.SshBridge
import MicrosandboxCloud.CommandResults
import MicrosandboxCloud.BridgeProgress
import MicrosandboxCloud.Repetition
import MicrosandboxCloud.EmptyUpdate
import MicrosandboxCloud.Allocation
import MicrosandboxCloud.StopWait
import MicrosandboxCloud.Endpoints
import MicrosandboxCloud.Mounts
import MicrosandboxCloud.Pulls
import MicrosandboxCloud.Committed
import MicrosandboxCloud.Restart
import MicrosandboxCloud.Deletion
import MicrosandboxCloud.Convergence
import MicrosandboxCloud.StaleSaves
import MicrosandboxCloud.ShellQuoting
import MicrosandboxCloud.NormalForms
import MicrosandboxCloud.FailedCreation
import MicrosandboxCloud.SessionLimits
import MicrosandboxCloud.Bootstrap
import MicrosandboxCloud.AuthorizedKeys
import MicrosandboxCloud.ProxyToken
import MicrosandboxCloud.PreviewUrls
import MicrosandboxCloud.PortBindings
import MicrosandboxCloud.Secrecy
import MicrosandboxCloud.Admission
import MicrosandboxCloud.Connections
import MicrosandboxCloud.PreviewLinks
import MicrosandboxCloud.Crashes
import MicrosandboxCloud.Readiness
