import ProxyControl.Lib.Table
import ProxyControl.Storage.Records

/-!
# The tables of the schema

One row type for each table that a query of the store reads or writes, with the
columns that some query uses.  A JSON column holds the value that was
serialized into it; a row type of the records is used for its table where the
columns are the same.
-/

namespace ProxyControl

open Calendar

namespace PostgresStore

structure NodeRow where
  id : String
  tenantId : String
  status : String
  createdAt : DateTime
deriving DecidableEq

structure NodeIdentityRow where
  nodeId : String
  publicKey : String
  registeredAt : Option DateTime
deriving DecidableEq

structure NodeCapabilitiesRow where
  nodeId : String
  xrayVersion : String
  capabilitiesJson : Json.Value
  createdAt : DateTime

structure RunnerSessionRow where
  id : String
  nodeId : String
deriving DecidableEq

structure HeartbeatRow where
  nodeId : String
  sessionId : String
  payloadJson : Json.Value
  createdAt : DateTime

structure RunnerCommandRow where
  id : ℕ
  tenantId : String
  nodeId : String
  sequence : Int64
  envelopeJson : SignedRunnerCommand
  status : String

structure ProfileRow where
  id : String
  tenantId : String
deriving DecidableEq

structure ProfileVersionRow where
  id : String
  tenantId : String
  profileId : String
  version : Int
  irJson : ProfileIr
  createdAt : DateTime

structure ClientRow where
  id : String
  tenantId : String
  displayName : String
  status : String
deriving DecidableEq

structure SecretRow where
  id : String
  tenantId : String
  kind : String
  ciphertext : CredentialMaterial
deriving DecidableEq

structure CredentialRow where
  id : String
  tenantId : String
  clientId : String
  clientGroupId : String
  kind : String
  secretRef : String
  status : String
  expiresAt : Option DateTime
  createdAt : DateTime
deriving DecidableEq

structure ProfileCredentialRow where
  profileId : String
  credentialId : String
deriving DecidableEq

structure CredentialQuotaRow where
  credentialId : String
  quotaBytes : Int64
deriving DecidableEq

structure ArtifactBlobRow where
  sha256 : String
  bytes : Bytes
deriving DecidableEq

structure DeploymentRow where
  id : String
  tenantId : String
  nodeId : String
  profileVersionId : String
  status : String
  compiledConfigArtifactId : String
  rollbackPointerId : Option String
  createdAt : DateTime
  finishedAt : Option DateTime
deriving DecidableEq

structure DeploymentSnapshotRow where
  id : String
  deploymentId : String
  snapshotJson : DeploymentSnapshotRecord
  createdAt : DateTime
deriving DecidableEq

structure HealthCheckRow where
  deploymentId : String
  status : String
  payloadJson : Json.Value
  createdAt : DateTime

structure IdempotencyKeyRow where
  tenantId : String
  key : String
  responseJson : Json.Value

end PostgresStore

structure Database where
  tenants : Table String
  nodes : Table PostgresStore.NodeRow
  nodeIdentities : Table PostgresStore.NodeIdentityRow
  nodeRegistrationTokens : Table NodeRegistrationTokenRecord
  nodeCapabilities : Table PostgresStore.NodeCapabilitiesRow
  runnerSessions : Table PostgresStore.RunnerSessionRow
  runnerCommands : Table PostgresStore.RunnerCommandRow
  nodeHeartbeats : Table PostgresStore.HeartbeatRow
  profiles : Table PostgresStore.ProfileRow
  profileVersions : Table PostgresStore.ProfileVersionRow
  clients : Table PostgresStore.ClientRow
  secrets : Table PostgresStore.SecretRow
  credentials : Table PostgresStore.CredentialRow
  profileCredentials : Table PostgresStore.ProfileCredentialRow
  credentialQuotas : Table PostgresStore.CredentialQuotaRow
  artifacts : Table Artifact
  artifactBlobs : Table PostgresStore.ArtifactBlobRow
  deployments : Table PostgresStore.DeploymentRow
  rollbackPointers : Table RollbackPointerRecord
  deploymentSnapshots : Table PostgresStore.DeploymentSnapshotRow
  deploymentHealthChecks : Table PostgresStore.HealthCheckRow
  eventOutbox : Table OutboxEventRecord
  idempotencyKeys : Table PostgresStore.IdempotencyKeyRow
  usageRecords : Table UsageSampleRecord
  usageRollups : Table UsageRollupRecord
  subscriptionTokens : Table SubscriptionTokenRecord
  subscriptionAccessLogs : Table SubscriptionAccessLogRecord
  auditEvents : Table AuditEventRecord

/-- The database after the migration. -/
def Database.empty : Database where
  tenants := []
  nodes := []
  nodeIdentities := []
  nodeRegistrationTokens := []
  nodeCapabilities := []
  runnerSessions := []
  runnerCommands := []
  nodeHeartbeats := []
  profiles := []
  profileVersions := []
  clients := []
  secrets := []
  credentials := []
  profileCredentials := []
  credentialQuotas := []
  artifacts := []
  artifactBlobs := []
  deployments := []
  rollbackPointers := []
  deploymentSnapshots := []
  deploymentHealthChecks := []
  eventOutbox := []
  idempotencyKeys := []
  usageRecords := []
  usageRollups := []
  subscriptionTokens := []
  subscriptionAccessLogs := []
  auditEvents := []

end ProxyControl
