import ProxyControl.Domain
import ProxyControl.Lib.HashTable

/-!
# The records of the storage crate

The rows a store keeps, the events it appends, and the decisions it hands out.
A constructor that reads the clock takes the reading as `now`.
-/

namespace ProxyControl

open Calendar

inductive StoreError
  | notFound (record : String)
  | conflict (reason : String)
  | artifactShaMismatch (expected actual : String)
  | sqlx (message : String)
  | serde (message : String)
  /-- An `expect` failed: the operation is aborted before it writes. -/
  | panicked (message : String)
deriving DecidableEq

abbrev StoreResult (α : Type) : Type :=
  Except StoreError α

def StoreError.message : StoreError → String
  | .notFound record => "record not found: " ++ record
  | .conflict reason => "conflict: " ++ reason
  | .artifactShaMismatch expected actual =>
      "artifact sha256 mismatch: expected " ++ expected ++ ", got " ++ actual
  | .sqlx message => "sqlx error: " ++ message
  | .serde message => "serialization error: " ++ message
  | .panicked message => message

structure NodeRecord where
  tenantId : String
  nodeId : String
  host : String
  xrayVersion : String
  runnerResultPublicKeyHex : String
  lastHeartbeatAt : DateTime
deriving DecidableEq

def NodeRecord.new
    (tenantId nodeId host xrayVersion : String) (now : DateTime) :
    NodeRecord where
  tenantId := tenantId
  nodeId := nodeId
  host := host
  xrayVersion := xrayVersion
  runnerResultPublicKeyHex := ""
  lastHeartbeatAt := now

def NodeRecord.withRunnerResultPublicKeyHex
    (self : NodeRecord) (publicKeyHex : String) : NodeRecord :=
  { self with runnerResultPublicKeyHex := publicKeyHex }

structure NodeRegistrationTokenRecord where
  tenantId : String
  tokenId : String
  token : String
  status : String
  createdAt : DateTime
  consumedAt : Option DateTime
  usedByNodeId : Option String
deriving DecidableEq

def NodeRegistrationTokenRecord.new
    (tenantId tokenId token : String) (now : DateTime) :
    NodeRegistrationTokenRecord where
  tenantId := tenantId
  tokenId := tokenId
  token := token
  status := "active"
  createdAt := now
  consumedAt := none
  usedByNodeId := none

def NodeRegistrationTokenRecord.markUsed
    (self : NodeRegistrationTokenRecord) (nodeId : String) (now : DateTime) :
    NodeRegistrationTokenRecord :=
  { self with
    status := "used"
    consumedAt := some now
    usedByNodeId := some nodeId }

structure HeartbeatRecord where
  tenantId : String
  nodeId : String
  capabilitySnapshot : Json.Value
  createdAt : DateTime

structure ProfileRecord where
  tenantId : String
  profileId : String
  ir : ProfileIr
  createdAt : DateTime

structure CredentialRecord where
  profileId : String
  credential : Credential
deriving DecidableEq

structure DeploymentPlanRecord where
  tenantId : String
  deploymentId : String
  nodeId : String
  profileId : String
  compiledConfigArtifactId : String
  createdAt : DateTime
deriving DecidableEq

structure RollbackPointerRecord where
  tenantId : String
  rollbackPointerId : String
  deploymentId : String
  previousDeploymentId : Option String
  previousCompiledConfigArtifactId : Option String
  targetCompiledConfigArtifactId : String
  previousCoreVersion : Option String
  previousAssetsVersion : Option String
  createdAt : DateTime
deriving DecidableEq

def RollbackPointerRecord.new
    (deployment : DeploymentPlanRecord)
    (previousDeploymentId previousCompiledConfigArtifactId : Option String)
    (now : DateTime) : RollbackPointerRecord where
  tenantId := deployment.tenantId
  rollbackPointerId := "rollback-" ++ deployment.deploymentId
  deploymentId := deployment.deploymentId
  previousDeploymentId := previousDeploymentId
  previousCompiledConfigArtifactId := previousCompiledConfigArtifactId
  targetCompiledConfigArtifactId := deployment.compiledConfigArtifactId
  previousCoreVersion := none
  previousAssetsVersion := none
  createdAt := now

structure DeploymentSnapshotRecord where
  tenantId : String
  snapshotId : String
  deploymentId : String
  nodeId : String
  profileId : String
  compiledConfigArtifactId : String
  resultStatus : DeploymentStatus
  resultMessage : String
  resultArtifactSha256 : String
  observedAt : DateTime
  createdAt : DateTime
deriving DecidableEq

def DeploymentSnapshotRecord.fromResult
    (deployment : DeploymentPlanRecord) (result : DeploymentResult)
    (now : DateTime) : DeploymentSnapshotRecord where
  tenantId := deployment.tenantId
  snapshotId := "snapshot-" ++ result.deploymentId
  deploymentId := result.deploymentId
  nodeId := deployment.nodeId
  profileId := deployment.profileId
  compiledConfigArtifactId := deployment.compiledConfigArtifactId
  resultStatus := result.status
  resultMessage := result.message
  resultArtifactSha256 := result.artifactSha256
  observedAt := result.observedAt
  createdAt := now

structure UsageSampleRecord where
  tenantId : String
  nodeId : String
  credentialId : Option String
  uplinkBytes : Int64
  downlinkBytes : Int64
  sampledAt : DateTime
deriving DecidableEq

structure UsageRollupRecord where
  tenantId : String
  credentialId : Option String
  bucket : String
  bucketStart : DateTime
  uplinkBytes : Int64
  downlinkBytes : Int64
deriving DecidableEq

structure CredentialQuotaDecision where
  credentialId : String
  quotaBytes : Int64
  usedBytes : Int64
  allowed : Bool
  reason : String
deriving DecidableEq

structure CredentialExpiryDecision where
  credentialId : String
  expiresAt : Option DateTime
  expired : Bool
  allowed : Bool
  reason : String
deriving DecidableEq

structure DeploymentHealthCheckRecord where
  tenantId : String
  deploymentId : String
  nodeId : String
  status : String
  payloadJson : Json.Value
  createdAt : DateTime

def healthStatusForDeploymentStatus : DeploymentStatus → String
  | .succeeded | .rolledBack => "healthy"
  | .pending | .failed => "unhealthy"

def DeploymentHealthCheckRecord.fromResult
    (crates : Crates)
    (deployment : DeploymentPlanRecord) (result : DeploymentResult)
    (now : DateTime) : DeploymentHealthCheckRecord where
  tenantId := deployment.tenantId
  deploymentId := result.deploymentId
  nodeId := deployment.nodeId
  status := healthStatusForDeploymentStatus result.status
  payloadJson := Json.mapOf [
    ("deployment_status", .string result.status.label),
    ("message", .string result.message),
    ("artifact_sha256", .string result.artifactSha256),
    ("observed_at", .string (crates.rfc3339 result.observedAt))]
  createdAt := now

structure AuditEventRecord where
  tenantId : String
  actor : String
  action : String
  subject : String
  createdAt : DateTime
deriving DecidableEq

structure OutboxEventRecord where
  tenantId : String
  eventType : String
  aggregateType : String
  aggregateId : String
  status : String
  createdAt : DateTime
deriving DecidableEq

structure SubscriptionTokenRecord where
  tenantId : String
  tokenId : String
  profileId : String
  tokenHash : String
  status : String
  createdAt : DateTime
  rotatedAt : Option DateTime
deriving DecidableEq

structure IssuedSubscriptionToken where
  tokenId : String
  profileId : String
  token : String
  status : String
deriving DecidableEq

structure SubscriptionAccessLogRecord where
  tokenId : String
  remoteAddr : Option String
  userAgent : Option String
  status : String
  createdAt : DateTime
deriving DecidableEq

/-! ## Decisions -/

def quotaDecision
    (credentialId : String) (quotaBytes usedBytes : Int64) :
    CredentialQuotaDecision :=
  let allowed := decide (usedBytes ≤ quotaBytes)
  { credentialId := credentialId
    quotaBytes := quotaBytes
    usedBytes := usedBytes
    allowed := allowed
    reason := if allowed then "within_quota" else "quota_exceeded" }

def expiryDecision
    (credentialId : String) (expiresAt : Option DateTime) (now : DateTime) :
    CredentialExpiryDecision :=
  let expired := expiresAt.any (fun t => t ≤ now)
  { credentialId := credentialId
    expiresAt := expiresAt
    expired := expired
    allowed := !expired
    reason :=
      match expiresAt, expired with
      | none, _ => "no_expiry"
      | some _, true => "expired"
      | some _, false => "not_expired" }

/-! ## Subscription tokens -/

/-- `id` and `secret` are fresh UUIDs. -/
def newSubscriptionToken
    (profileId id secret : String) : IssuedSubscriptionToken :=
  let tokenId := "subtok-" ++ id
  { tokenId := tokenId
    profileId := profileId
    token := tokenId ++ "." ++ secret
    status := "active" }

def subscriptionTokenHash (crates : Crates) (token : String) : String :=
  Hex.encode (crates.sha256 (utf8 token))

def subscriptionTokenRecord
    (crates : Crates) (tenantId : String) (issued : IssuedSubscriptionToken)
    (now : DateTime) : SubscriptionTokenRecord where
  tenantId := tenantId
  tokenId := issued.tokenId
  profileId := issued.profileId
  tokenHash := subscriptionTokenHash crates issued.token
  status := issued.status
  createdAt := now
  rotatedAt := none

/-! ## Usage buckets

A bucket is `none` where the `expect` of the source fails. -/

def hourBucketStart (sampledAt : DateTime) : Option DateTime :=
  let timestamp := sampledAt.timestamp
  fromTimestamp (timestamp - timestamp % 3600)

def dayBucketStart (sampledAt : DateTime) : Option DateTime :=
  let timestamp := sampledAt.timestamp
  fromTimestamp (timestamp - timestamp % 86400)

def monthBucketStart (sampledAt : DateTime) : Option DateTime := do
  let day ← withDay sampledAt.dateNaive 1
  andHms day 0 0 0

/-- The three buckets of one sample, in source order. -/
def usageBucketStarts (sampledAt : DateTime) :
    Option (List (String × DateTime)) := do
  let hour ← hourBucketStart sampledAt
  let day ← dayBucketStart sampledAt
  let month ← monthBucketStart sampledAt
  return [("hour", hour), ("day", day), ("month", month)]

end ProxyControl
