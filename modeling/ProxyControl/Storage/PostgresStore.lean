import ProxyControl.ReferenceCrates
import ProxyControl.Storage.PostgresStatements

/-!
# The Postgres store

Each method of the store is a program over SQL statements.  On the pool every
statement is a transaction of its own; one method wraps its statements in a
transaction, which is rolled back when the method fails.

`t` supplies the clock readings and identifiers that the method takes outside
the database.
-/

namespace ProxyControl

open Calendar Effects

namespace PostgresStore

abbrev Sql (α : Type) : Type :=
  ExceptT StoreError (Program Statement Statement.Ret) α

/-- One statement, whose failure ends the method. -/
def query (s : Statement) : Sql s.Value :=
  ExceptT.mk (.call s .done)

def ofResult {α : Type} (result : StoreResult α) : Sql α :=
  ExceptT.mk (.done result)

/-- The outcome of a part, failure included. -/
def attempt {α : Type} (part : Sql α) : Sql (StoreResult α) :=
  ExceptT.mk (part.run >>= fun result => .done (.ok result))

def orNotFound {α : Type} (record : String) (row : Option α) : Sql α :=
  ofResult (okOr row (.notFound record))

def recordEvent
    (tenantId actor action aggregateType aggregateId : String) : Sql Unit := do
  query (.insertAuditEvent tenantId actor action
    (aggregateType ++ ":" ++ aggregateId))
  query (.insertOutboxEvent tenantId action aggregateType aggregateId)

/-! ## Nodes and registration tokens -/

def registerIdentity (node : NodeRecord) : Sql Unit :=
  if node.runnerResultPublicKeyHex = "" then
    pure ()
  else
    query (.registerNodeIdentity node.nodeId node.runnerResultPublicKeyHex)

/-- The rows of a node; both registrations write them. -/
def registerNodeRows (node : NodeRecord) : Sql Unit := do
  query (.insertTenant node.tenantId)
  query (.upsertNode node.nodeId node.tenantId)
  query (.insertNodeCapabilities node.nodeId node.xrayVersion (Json.mapOf [
    ("host", .string node.host),
    ("xray_version", .string node.xrayVersion)]))
  registerIdentity node

def registerNode (node : NodeRecord) : Sql Unit := do
  registerNodeRows node
  recordEvent node.tenantId "runner" "node.registered" "node" node.nodeId

/-- Why a token could not be used. -/
def tokenRefusal : Option NodeRegistrationTokenRecord → StoreError
  | some _ => .conflict "registration token already consumed"
  | none => .notFound "node_registration_token"

def registerNodeWithRegistrationToken
    (node : NodeRecord) (registrationToken : String) :
    Sql NodeRegistrationTokenRecord := do
  query .begin
  registerNodeRows node
  match ← query (.useRegistrationToken registrationToken node.nodeId) with
  | none =>
      let existing ← query (.registrationToken registrationToken)
      throw (tokenRefusal existing)
  | some token =>
      recordEvent node.tenantId "runner" "node.registered" "node" node.nodeId
      recordEvent token.tenantId "runner" "node_registration_token.used"
        "node_registration_token" token.tokenId
      query .commit
      return token

def hostOf (row : NodeResult) : String :=
  match row.capabilitiesJson.bind (Json.Value.field? "host") with
  | some (.string host) => host
  | _ => row.nodeId ++ ".example"

def nodeRecordOf (row : NodeResult) : NodeRecord where
  tenantId := row.tenantId
  nodeId := row.nodeId
  host := hostOf row
  xrayVersion := row.xrayVersion.getD "unknown"
  runnerResultPublicKeyHex := row.runnerResultPublicKeyHex.getD ""
  lastHeartbeatAt := row.createdAt

def node (nodeId : String) : Sql NodeRecord := do
  let row ← query (.node nodeId)
  let row ← orNotFound ("node:" ++ nodeId) row
  return nodeRecordOf row

def listNodes : Sql (List NodeRecord) := do
  let rows ← query .nodes
  return rows.map nodeRecordOf

def createNodeRegistrationToken
    (token : NodeRegistrationTokenRecord) : Sql Unit := do
  query (.insertTenant token.tenantId)
  let rowsAffected ← query (.insertRegistrationToken token)
  if rowsAffected = 0 then
    return ()
  else
    recordEvent token.tenantId "admin" "node_registration_token.issued"
      "node_registration_token" token.tokenId

def listNodeRegistrationTokens : Sql (List NodeRegistrationTokenRecord) :=
  query .registrationTokens

def nodeRegistrationToken (token : String) : Sql NodeRegistrationTokenRecord := do
  let row ← query (.registrationToken token)
  orNotFound "node_registration_token" row

def consumeNodeRegistrationToken
    (token nodeId : String) : Sql NodeRegistrationTokenRecord := do
  let row ← query (.useRegistrationToken token nodeId)
  let record ← orNotFound "node_registration_token" row
  recordEvent record.tenantId "runner" "node_registration_token.used"
    "node_registration_token" record.tokenId
  return record

def updateNodeRunnerResultPublicKey
    (nodeId publicKeyHex : String) : Sql NodeRecord := do
  let record ← node nodeId
  query (.replaceNodeKey nodeId publicKeyHex)
  recordEvent record.tenantId "admin" "node.runner_result_key_rotated" "node"
    nodeId
  node nodeId

def recordHeartbeat (heartbeat : HeartbeatRecord) : Sql Unit := do
  let sessionId := heartbeat.nodeId ++ "-dev-session"
  query (.insertRunnerSession sessionId heartbeat.nodeId)
  query (.insertHeartbeat heartbeat.nodeId sessionId heartbeat.capabilitySnapshot)
  recordEvent heartbeat.tenantId "runner" "node.heartbeat" "node"
    heartbeat.nodeId

def latestHeartbeat (nodeId : String) : Sql HeartbeatRecord := do
  let row ← query (.latestHeartbeat nodeId)
  orNotFound ("heartbeat:" ++ nodeId) row

/-! ## Profiles and credentials -/

def profileRecordOf (row : ProfileVersionRow) : ProfileRecord where
  tenantId := row.tenantId
  profileId := row.profileId
  ir := row.irJson
  createdAt := row.createdAt

def createProfile (profile : ProfileRecord) : Sql Unit := do
  query (.insertTenant profile.tenantId)
  query (.insertProfile profile.profileId profile.tenantId)
  query (.insertProfileVersion (profile.profileId ++ "-v1") profile.tenantId
    profile.profileId profile.ir)
  recordEvent profile.tenantId "admin" "profile.created" "profile"
    profile.profileId

def listProfiles : Sql (List ProfileRecord) := do
  let rows ← query .latestProfileVersions
  return rows.map profileRecordOf

def profile (profileId : String) : Sql ProfileRecord := do
  let row ← query (.latestProfileVersion profileId)
  let row ← orNotFound ("profile:" ++ profileId) row
  return profileRecordOf row

/-- The lower-case debug form of a status. -/
def credentialStatusText : CredentialStatus → String
  | .active => "active"
  | .revoked => "revoked"
  | .expired => "expired"

/-- An unknown status is a revoked one. -/
def parseCredentialStatus (raw : String) : CredentialStatus :=
  if raw = "active" then .active
  else if raw = "expired" then .expired
  else .revoked

def materialKind : CredentialMaterial → String
  | .vlessUuid _ => "vless_uuid"
  | .shadowsocksPassword .. => "shadowsocks_password"
  | .trojanPassword _ => "trojan_password"

def addCredential (profileId : String) (credential : Credential) : Sql Unit := do
  let row ← query (.profileTenant profileId)
  let tenantId ← orNotFound ("profile:" ++ profileId) row
  let status := credentialStatusText credential.status
  let kind := materialKind credential.material
  let secretRef := "secret:" ++ credential.id
  query (.upsertClient ⟨credential.id, tenantId, credential.displayName, status⟩)
  query (.upsertSecret ⟨secretRef, tenantId, kind, credential.material⟩)
  query (.upsertCredential credential.id tenantId credential.id
    credential.clientGroupId kind secretRef status)
  query (.insertProfileCredential profileId credential.id)
  recordEvent tenantId "admin" "client.created" "client" credential.id

def credentialOf (row : CredentialResult) : Credential where
  id := row.id
  clientGroupId := row.clientGroupId
  displayName := row.displayName
  status := parseCredentialStatus row.status
  material := row.ciphertext

def listCredentials : Sql (List CredentialRecord) := do
  let rows ← query .credentials
  return rows.map (fun row => ⟨row.profileId, credentialOf row⟩)

def credentialsForProfile (profileId : String) : Sql (List Credential) := do
  let rows ← query (.credentialsOf profileId)
  return rows.map credentialOf

/-! ## Artifacts -/

def recordArtifact (artifact : Artifact) : Sql Unit := do
  query (.insertArtifact artifact)
  recordEvent artifact.tenantId "control-plane" "artifact.created" "artifact"
    artifact.id

def recordArtifactBlob
    (crates : Crates) (artifact : Artifact) (bytes : Bytes) : Sql Unit := do
  let actual := hexSha256 crates bytes
  if actual ≠ artifact.sha256 then
    throw (.artifactShaMismatch artifact.sha256 actual)
  else
    query (.insertArtifactBlob artifact.sha256 bytes)
    recordArtifact artifact

def artifactBytes (artifactId : String) : Sql Bytes := do
  let row ← query (.artifactBlob artifactId)
  orNotFound ("artifact:" ++ artifactId) row

def artifactBytesBySha256 (sha256 : String) : Sql Bytes := do
  let row ← query (.blob sha256)
  orNotFound ("artifact_blob:" ++ sha256) row

/-! ## Deployments -/

def recordDeploymentPlan
    (now : DateTime) (deployment : DeploymentPlanRecord) : Sql Unit := do
  let previous ←
    query (.previousDeployment deployment.tenantId deployment.nodeId)
  let row ← query (.latestProfileVersion deployment.profileId)
  let version ← orNotFound ("profile_version:" ++ deployment.profileId) row
  query (.insertDeployment deployment.deploymentId deployment.tenantId
    deployment.nodeId version.id deployment.compiledConfigArtifactId)
  let pointer := RollbackPointerRecord.new deployment
    (previous.map DeploymentRow.id)
    (previous.map DeploymentRow.compiledConfigArtifactId) now
  query (.insertRollbackPointer pointer)
  query (.setRollbackPointer deployment.deploymentId pointer.rollbackPointerId)
  recordEvent deployment.tenantId "admin" "deployment.planned" "deployment"
    deployment.deploymentId

def listDeploymentPlans : Sql (List DeploymentPlanRecord) :=
  query .deploymentPlans

def idempotencyResponse (tenantId key : String) : Sql (Option Json.Value) :=
  query (.idempotencyResponse tenantId key)

def recordIdempotencyResponse
    (tenantId key : String) (responseJson : Json.Value) : Sql Unit :=
  query (.insertIdempotencyKey tenantId key responseJson)

def recordDeploymentResult
    (crates : Crates) (now : DateTime) (result : DeploymentResult) :
    Sql Unit := do
  let row ← query (.deploymentPlan result.deploymentId)
  let deployment ← orNotFound ("deployment:" ++ result.deploymentId) row
  let rows ← query (.finishDeployment result.deploymentId result.status.label)
  if rows = 0 then
    throw (.notFound ("deployment:" ++ result.deploymentId))
  else
    let snapshot := DeploymentSnapshotRecord.fromResult deployment result now
    query (.upsertDeploymentSnapshot ⟨snapshot.snapshotId,
      snapshot.deploymentId, snapshot, snapshot.createdAt⟩)
    let health :=
      DeploymentHealthCheckRecord.fromResult crates deployment result now
    query (.insertHealthCheck ⟨health.deploymentId, health.status,
      health.payloadJson, health.createdAt⟩)
    recordEvent deployment.tenantId "runner" "deployment.result" "deployment"
      result.deploymentId

def parseDeploymentStatus (raw : String) : DeploymentStatus :=
  if raw ∈ ["Pending", "pending", "planned"] then .pending
  else if raw ∈ ["Succeeded", "succeeded"] then .succeeded
  else if raw ∈ ["RolledBack", "rolled_back"] then .rolledBack
  else .failed

def deploymentStatus (deploymentId : String) : Sql DeploymentStatus := do
  let row ← query (.deployment deploymentId)
  let row ← orNotFound ("deployment:" ++ deploymentId) row
  return parseDeploymentStatus row.status

def rollbackPointer (deploymentId : String) : Sql RollbackPointerRecord := do
  let row ← query (.rollbackPointer deploymentId)
  orNotFound ("rollback_pointer:" ++ deploymentId) row

def deploymentSnapshot (deploymentId : String) : Sql DeploymentSnapshotRecord := do
  let row ← query (.latestSnapshot deploymentId)
  orNotFound ("deployment_snapshot:" ++ deploymentId) row

def latestDeploymentHealth
    (deploymentId : String) : Sql DeploymentHealthCheckRecord := do
  let row ← query (.latestHealthCheck deploymentId)
  orNotFound ("deployment_health:" ++ deploymentId) row

def recordDeploymentHealthCheck
    (health : DeploymentHealthCheckRecord) : Sql Unit := do
  let row ← query (.deployment health.deploymentId)
  let deployment ← orNotFound ("deployment:" ++ health.deploymentId) row
  if deployment.nodeId ≠ health.nodeId then
    throw (.notFound
      ("deployment:" ++ health.deploymentId ++ ":node:" ++ health.nodeId))
  else
    query (.insertHealthCheck ⟨health.deploymentId, health.status,
      health.payloadJson, health.createdAt⟩)
    recordEvent deployment.tenantId "runner" "deployment.health" "deployment"
      health.deploymentId

def deploymentHealthChecks
    (deploymentId : String) : Sql (List DeploymentHealthCheckRecord) := do
  let row ← query (.deployment deploymentId)
  let _ ← orNotFound ("deployment:" ++ deploymentId) row
  query (.healthChecks deploymentId)

/-! ## Usage, quotas and expiry -/

/-- The rollup row that one sample adds to a bucket. -/
def rollupOf
    (usage : UsageSampleRecord) (bucket : String × DateTime) :
    UsageRollupRecord where
  tenantId := usage.tenantId
  credentialId := usage.credentialId
  bucket := bucket.1
  bucketStart := bucket.2
  uplinkBytes := usage.uplinkBytes
  downlinkBytes := usage.downlinkBytes

def recordUsageSample (usage : UsageSampleRecord) : Sql Unit := do
  query (.insertUsageRecord usage)
  let buckets ← ofResult
    (okOr (usageBucketStarts usage.sampledAt) (.panicked "valid unix bucket"))
  buckets.forM (fun bucket => query (.addUsageRollup (rollupOf usage bucket)))

def latestUsageSample (nodeId : String) : Sql UsageSampleRecord := do
  let row ← query (.latestUsage nodeId)
  orNotFound ("usage:" ++ nodeId) row

def latestUsageRollupForCredential
    (credentialId bucket : String) : Sql UsageRollupRecord := do
  let row ← query (.latestRollup credentialId bucket)
  orNotFound ("usage_rollup:" ++ credentialId ++ ":" ++ bucket) row

def setCredentialQuota (credentialId : String) (quotaBytes : Int64) : Sql Unit :=
  query (.upsertCredentialQuota credentialId quotaBytes)

def credentialQuotaDecision (credentialId : String) :
    Sql CredentialQuotaDecision := do
  let row ← query (.credentialQuota credentialId)
  let quotaBytes ← orNotFound ("credential_quota:" ++ credentialId) row
  let usedBytes ← query (.usedBytes credentialId)
  return quotaDecision credentialId quotaBytes usedBytes

def setCredentialExpiry
    (credentialId : String) (expiresAt : DateTime) : Sql Unit := do
  let rows ← query (.setCredentialExpiry credentialId expiresAt)
  if rows = 0 then
    throw (.notFound ("credential:" ++ credentialId))
  else
    return ()

def credentialExpiryDecision
    (now : DateTime) (credentialId : String) :
    Sql CredentialExpiryDecision := do
  let row ← query (.credentialExpiry credentialId)
  let expiresAt ← orNotFound ("credential:" ++ credentialId) row
  return expiryDecision credentialId expiresAt now

/-! ## Runner commands -/

def enqueueRunnerCommand
    (nodeId : String) (command : SignedRunnerCommand) : Sql Unit :=
  query (.insertRunnerCommand nodeId command)

def nextRunnerCommand
    (nodeId : String) (lastSequence : UInt64) :
    Sql (Option SignedRunnerCommand) := do
  query (.skipRunnerCommands nodeId lastSequence.toInt64)
  query (.leaseRunnerCommand nodeId lastSequence.toInt64)

/-! ## Subscriptions -/

/-- Whether a credential of the profile appears in the subscription. -/
def subscribed (now : DateTime) (credential : Credential) : Sql Bool := do
  match ← attempt (credentialQuotaDecision credential.id) with
  | .ok decision =>
      if !decision.allowed then
        return false
      else
        let decision ← credentialExpiryDecision now credential.id
        return decision.allowed
  | .error (.notFound _) =>
      let decision ← credentialExpiryDecision now credential.id
      return decision.allowed
  | .error error => throw error

def deployedProfileForSubscription
    (now : DateTime) (profileId : String) : Sql DeployedProfile := do
  let record ← profile profileId
  let row ← query .firstNode
  let nodeId ← orNotFound "node:any" row
  let first ← node nodeId
  let firstInbound ← orNotFound "profile inbound" record.ir.inbounds.head?
  let credentials ← credentialsForProfile profileId
  let credentials ← credentials.filterM (subscribed now)
  return {
    profileId := profileId
    host := first.host
    port := firstInbound.port
    realityServerName := MemoryStore.subscriptionServerName firstInbound first
    credentials := credentials }

def issueSubscriptionToken
    (crates : Crates) (id secret profileId : String) :
    Sql IssuedSubscriptionToken := do
  let record ← profile profileId
  let issued := newSubscriptionToken profileId id secret
  query (.insertSubscriptionToken issued.tokenId record.tenantId profileId
    (subscriptionTokenHash crates issued.token))
  recordEvent record.tenantId "admin" "subscription_token.issued" "profile"
    profileId
  return issued

def rotateSubscriptionToken
    (crates : Crates) (id secret profileId : String) :
    Sql IssuedSubscriptionToken := do
  let record ← profile profileId
  query (.rotateSubscriptionTokens profileId)
  let issued := newSubscriptionToken profileId id secret
  query (.insertSubscriptionToken issued.tokenId record.tenantId profileId
    (subscriptionTokenHash crates issued.token))
  recordEvent record.tenantId "admin" "subscription_token.rotated" "profile"
    profileId
  return issued

def verifySubscriptionToken
    (crates : Crates) (profileId token : String) :
    Sql SubscriptionTokenRecord := do
  let row ← query
    (.activeSubscriptionToken profileId (subscriptionTokenHash crates token))
  orNotFound ("subscription_token:" ++ profileId) row

def subscriptionTokenRequired (profileId : String) : Sql Bool := do
  let _ ← profile profileId
  let count ← query (.activeTokenCount profileId)
  return decide (0 < count)

def recordSubscriptionAccess
    (tokenId : String) (remoteAddr userAgent : Option String)
    (status : String) : Sql Unit :=
  query (.insertAccessLog tokenId remoteAddr userAgent status)

/-! ## The methods of the trait -/

/-- The statements of a method, as the database executes them. -/
def body (crates : Crates) (t : Tick) : (op : StoreCall) → Sql op.Value
  | .registerNode node => registerNode node
  | .registerNodeWithRegistrationToken node registrationToken =>
      registerNodeWithRegistrationToken node registrationToken
  | .listNodes => listNodes
  | .createNodeRegistrationToken token => createNodeRegistrationToken token
  | .listNodeRegistrationTokens => listNodeRegistrationTokens
  | .nodeRegistrationToken token => nodeRegistrationToken token
  | .consumeNodeRegistrationToken token nodeId =>
      consumeNodeRegistrationToken token nodeId
  | .recordHeartbeat heartbeat => recordHeartbeat heartbeat
  | .latestHeartbeat nodeId => latestHeartbeat nodeId
  | .createProfile profile => createProfile profile
  | .listProfiles => listProfiles
  | .addCredential profileId credential => addCredential profileId credential
  | .listCredentials => listCredentials
  | .recordArtifact artifact => recordArtifact artifact
  | .recordArtifactBlob artifact bytes =>
      recordArtifactBlob crates artifact bytes
  | .artifactBytes artifactId => artifactBytes artifactId
  | .artifactBytesBySha256 sha256 => artifactBytesBySha256 sha256
  | .recordDeploymentPlan deployment => recordDeploymentPlan t.now deployment
  | .listDeploymentPlans => listDeploymentPlans
  | .idempotencyResponse tenantId key => idempotencyResponse tenantId key
  | .recordIdempotencyResponse tenantId key responseJson =>
      recordIdempotencyResponse tenantId key responseJson
  | .recordDeploymentResult result =>
      recordDeploymentResult crates t.now result
  | .deploymentStatus deploymentId => deploymentStatus deploymentId
  | .rollbackPointer deploymentId => rollbackPointer deploymentId
  | .deploymentSnapshot deploymentId => deploymentSnapshot deploymentId
  | .latestDeploymentHealth deploymentId => latestDeploymentHealth deploymentId
  | .recordDeploymentHealthCheck health => recordDeploymentHealthCheck health
  | .deploymentHealthChecks deploymentId => deploymentHealthChecks deploymentId
  | .recordUsageSample usage => recordUsageSample usage
  | .latestUsageSample nodeId => latestUsageSample nodeId
  | .latestUsageRollupForCredential credentialId bucket =>
      latestUsageRollupForCredential credentialId bucket
  | .setCredentialQuota credentialId quotaBytes =>
      setCredentialQuota credentialId quotaBytes
  | .credentialQuotaDecision credentialId =>
      credentialQuotaDecision credentialId
  | .setCredentialExpiry credentialId expiresAt =>
      setCredentialExpiry credentialId expiresAt
  | .credentialExpiryDecision credentialId =>
      credentialExpiryDecision t.now credentialId
  | .enqueueRunnerCommand nodeId command => enqueueRunnerCommand nodeId command
  | .nextRunnerCommand nodeId lastSequence =>
      nextRunnerCommand nodeId lastSequence
  | .node nodeId => node nodeId
  | .updateNodeRunnerResultPublicKey nodeId publicKeyHex =>
      updateNodeRunnerResultPublicKey nodeId publicKeyHex
  | .profile profileId => profile profileId
  | .credentialsForProfile profileId => credentialsForProfile profileId
  | .auditCount => query .auditCount
  | .outboxCount => query .outboxCount
  | .deployedProfileForSubscription profileId =>
      deployedProfileForSubscription t.now profileId
  | .issueSubscriptionToken profileId =>
      issueSubscriptionToken crates (t.uuid 0) (t.uuid 1) profileId
  | .rotateSubscriptionToken profileId =>
      rotateSubscriptionToken crates (t.uuid 0) (t.uuid 1) profileId
  | .verifySubscriptionToken profileId token =>
      verifySubscriptionToken crates profileId token
  | .subscriptionTokenRequired profileId => subscriptionTokenRequired profileId
  | .recordSubscriptionAccess tokenId remoteAddr userAgent status =>
      recordSubscriptionAccess tokenId remoteAddr userAgent status
  | .subscriptionAccessLogCount tokenId => query (.accessLogCount tokenId)

/-- The method whose statements share one transaction. -/
def transactional : StoreCall → Bool
  | .registerNodeWithRegistrationToken .. => true
  | _ => false

/-- What the environment supplies to one call. -/
structure StoreTick where
  tick : Tick
  statement : ℕ → StatementTick

/-- No statement of the call is hit by a fault. -/
def StoreTick.Healthy (t : StoreTick) : Prop :=
  ∀ k, (t.statement k).fault = none

/-- One call that runs alone; a failed transaction is rolled back. -/
def exec
    (crates : Crates) (op : StoreCall) (t : StoreTick) (db : Database) :
    op.Ret × Database :=
  match (body crates t.tick op).run.run Statement.exec t.statement db with
  | (.ok value, db') => (.ok value, db')
  | (.error error, db') =>
      (.error error, if transactional op then db else db')

/-- The tick of a call whose statements all succeed, one nanosecond apart. -/
def referenceStoreTick (seconds : ℤ) (stem : String) : StoreTick where
  tick := referenceTick seconds stem
  statement := fun k => ⟨⟨seconds, k⟩, .entryOrder, none⟩

end PostgresStore
end ProxyControl
