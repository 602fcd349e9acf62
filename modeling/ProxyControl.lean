import ProxyControl.Lib.Program
import ProxyControl.CompiledInbounds
import ProxyControl.IrrelevantCredentials
import ProxyControl.Subscription
import ProxyControl.Storage.UsageAccounting
import ProxyControl.ControlPlane.AppState
import ProxyControl.ControlPlane.Handlers
import ProxyControl.ControlPlane.Runs
import ProxyControl.ControlPlane.NodeIsolation
import ProxyControl.ControlPlane.CommandDelivery
import ProxyControl.Runner.Replay
import ProxyControl.Runner.FailedDeployments
import ProxyControl.Runner.CoreFollowsActive
import ProxyControl.OpenNetwork
import ProxyControl.ExecutedCommands
import ProxyControl.ConfinedRunners
import ProxyControl.Runner.AtomicSwitch
import ProxyControl.Runner.ActivePath
import ProxyControl.ControlPlane.CompileReplies
import ProxyControl.ControlPlane.ResultReplay
import ProxyControl.ControlPlane.Readiness
import ProxyControl.ControlPlane.RollbackTargets
import ProxyControl.ControlPlane.ConcurrentCompiles
import ProxyControl.Storage.RegistrationTokens
import ProxyControl.Storage.SubscriptionTokens
import ProxyControl.Storage.AuditTrail
import ProxyControl.ControlPlane.DeploymentListing
import ProxyControl.ControlPlane.UsageReports
import ProxyControl.ControlPlane.ServedLinks
import ProxyControl.Storage.ConcurrentPolls
import ProxyControl.ControlPlane.AcceptedCommands
import ProxyControl.ControlPlane.IssuedTokens
import ProxyControl.ControlPlane.NodeKeys
import ProxyControl.Storage.CredentialTables
import ProxyControl.Storage.ArtifactBlobs
import ProxyControl.ControlPlane.References
import ProxyControl.ControlPlane.CompiledSecrets
import ProxyControl.Runner.Releases
import ProxyControl.RecordedReleases
import ProxyControl.SubscriptionRoundTrip
import ProxyControl.CompiledSecurity
import ProxyControl.RealityGate
import ProxyControl.Storage.UsageBuckets
import ProxyControl.Runner.PollingLoop
import ProxyControl.Storage.ProfileVersions
import ProxyControl.SignedBytes
import ProxyControl.Storage.SubscriptionHosts
import ProxyControl.ControlPlane.TokenGate
import ProxyControl.ControlPlane.SpentTokens
import ProxyControl.ControlPlane.IdempotentReplies
import ProxyControl.ControlPlane.UsageLedger
import ProxyControl.Storage.PairedDeployments
import ProxyControl.Storage.FailedCalls
