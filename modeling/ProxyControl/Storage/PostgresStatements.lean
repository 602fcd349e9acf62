import Mathlib.Data.Prod.Lex
import ProxyControl.Lib.Wrapping
import ProxyControl.Storage.PostgresTables
import ProxyControl.Storage.ProxyStore

/-!
# The statements of the Postgres store

Every SQL text of the store is one constructor of `Statement`, with its bind
values.  `Statement.apply` is what the database answers and leaves; a statement
that violates a constraint, or that a fault hits, leaves the tables alone
(`exec_of_error`).

Where SQL leaves the order of rows open, a scan meets them in the order of the
`StatementTick`.
-/

namespace ProxyControl

open Calendar

namespace PostgresStore

/-- What the server supplies to one statement. -/
structure StatementTick where
  now : DateTime
  order : IterationOrder
  fault : Option String

/-! ## Refusals -/

def databaseError (message : String) : StoreError :=
  .sqlx ("error returned from database: " ++ message)

def references
    (table constraint : String) (present : Bool) : Except StoreError Unit :=
  if present then
    .ok ()
  else
    .error (databaseError ("insert or update on table \"" ++ table ++
      "\" violates foreign key constraint \"" ++ constraint ++ "\""))

def unique
    (constraint : String) (taken : Bool) : Except StoreError Unit :=
  if taken then
    .error (databaseError ("duplicate key value violates unique constraint \"" ++
      constraint ++ "\""))
  else
    .ok ()

theorem references_bind_eq_ok
    {α : Type} {table constraint : String} {present : Bool}
    {f : Unit → Except StoreError α} {a : α} :
    (references table constraint present >>= f) = .ok a ↔
      present = true ∧ f () = .ok a := by
  cases present
  · constructor
    · intro h
      cases h
    · rintro ⟨h, -⟩
      cases h
  · exact ⟨fun h => ⟨rfl, h⟩, fun h => h.2⟩

theorem unique_bind_eq_ok
    {α : Type} {constraint : String} {taken : Bool}
    {f : Unit → Except StoreError α} {a : α} :
    (unique constraint taken >>= f) = .ok a ↔
      taken = false ∧ f () = .ok a := by
  cases taken
  · exact ⟨fun h => ⟨rfl, h⟩, fun h => h.2⟩
  · constructor
    · intro h
      cases h
    · rintro ⟨h, -⟩
      cases h

/-- A `bigint` result. -/
def bigint (n : Int) : Except StoreError Int64 :=
  if Wrapping.Fits n then
    .ok (Int64.ofInt n)
  else
    .error (databaseError "bigint out of range")

namespace Database

variable (db : Database)

def hasTenant (id : String) : Bool :=
  db.tenants.contains id

def hasNode (id : String) : Bool :=
  Table.hasKey NodeRow.id id db.nodes

def hasProfile (id : String) : Bool :=
  Table.hasKey ProfileRow.id id db.profiles

def hasCredential (id : String) : Bool :=
  Table.hasKey CredentialRow.id id db.credentials

def hasArtifact (id : String) : Bool :=
  Table.hasKey Artifact.id id db.artifacts

def hasDeployment (id : String) : Bool :=
  Table.hasKey DeploymentRow.id id db.deployments

end Database

/-! ## Tenants, nodes and registration tokens -/

def insertTenant (tenantId : String) (db : Database) : Database :=
  if Database.hasTenant db tenantId then
    db
  else
    { db with tenants := db.tenants ++ [tenantId] }

def upsertNode
    (now : DateTime) (nodeId tenantId : String) (db : Database) :
    Except StoreError Database := do
  if !Database.hasNode db nodeId then
    references "nodes" "nodes_tenant_id_fkey" (Database.hasTenant db tenantId)
  return { db with
    nodes := Table.upsert NodeRow.id ⟨nodeId, tenantId, "registered", now⟩
      (fun row => { row with status := "registered" }) db.nodes }

def insertNodeCapabilities
    (now : DateTime) (nodeId xrayVersion : String)
    (capabilitiesJson : Json.Value) (db : Database) :
    Except StoreError Database := do
  references "node_capabilities" "node_capabilities_node_id_fkey"
    (Database.hasNode db nodeId)
  return { db with
    nodeCapabilities :=
      db.nodeCapabilities ++ [⟨nodeId, xrayVersion, capabilitiesJson, now⟩] }

/-- `f` is the update of an identity that the node already has. -/
def upsertNodeIdentity
    (now : DateTime) (nodeId publicKey : String)
    (f : NodeIdentityRow → NodeIdentityRow) (db : Database) :
    Except StoreError Database := do
  if !Table.hasKey NodeIdentityRow.nodeId nodeId db.nodeIdentities then
    references "node_identities" "node_identities_node_id_fkey"
      (Database.hasNode db nodeId)
  return { db with
    nodeIdentities := Table.upsert NodeIdentityRow.nodeId
      ⟨nodeId, publicKey, some now⟩ f db.nodeIdentities }

/-- A node with its identity and its latest capabilities, where it has them. -/
structure NodeResult where
  tenantId : String
  nodeId : String
  createdAt : DateTime
  xrayVersion : Option String
  capabilitiesJson : Option Json.Value
  runnerResultPublicKeyHex : Option String

def selectNode
    (order : IterationOrder) (db : Database) (node : NodeRow) : NodeResult :=
  let capabilities := Table.greatest NodeCapabilitiesRow.createdAt
    ((order.arrange db.nodeCapabilities).filter (fun row => row.nodeId = node.id))
  { tenantId := node.tenantId
    nodeId := node.id
    createdAt := node.createdAt
    xrayVersion := capabilities.map NodeCapabilitiesRow.xrayVersion
    capabilitiesJson := capabilities.map NodeCapabilitiesRow.capabilitiesJson
    runnerResultPublicKeyHex :=
      (Table.lookup NodeIdentityRow.nodeId node.id db.nodeIdentities).map
        NodeIdentityRow.publicKey }

/-- The node registered first. -/
def firstNode (order : IterationOrder) (db : Database) : Option String :=
  (Table.least NodeRow.createdAt (order.arrange db.nodes)).map NodeRow.id

/-- The number of rows inserted, and the database afterwards. -/
def insertRegistrationToken
    (token : NodeRegistrationTokenRecord) (db : Database) :
    Except StoreError (ℕ × Database) := do
  if Table.hasKey NodeRegistrationTokenRecord.token token.token
      db.nodeRegistrationTokens then
    return (0, db)
  else
    unique "node_registration_tokens_pkey"
      (Table.hasKey NodeRegistrationTokenRecord.tokenId token.tokenId
        db.nodeRegistrationTokens)
    references "node_registration_tokens"
      "node_registration_tokens_tenant_id_fkey"
      (Database.hasTenant db token.tenantId)
    references "node_registration_tokens"
      "node_registration_tokens_used_by_node_id_fkey"
      (token.usedByNodeId.all (Database.hasNode db))
    return (1, { db with
      nodeRegistrationTokens := db.nodeRegistrationTokens ++ [token] })

def registrationToken
    (token : String) (db : Database) : Option NodeRegistrationTokenRecord :=
  Table.lookup NodeRegistrationTokenRecord.token token db.nodeRegistrationTokens

/-- The token is unique, so at most one row is updated and returned. -/
def useRegistrationToken
    (now : DateTime) (token nodeId : String) (db : Database) :
    Except StoreError (Option NodeRegistrationTokenRecord × Database) := do
  match registrationToken token db with
  | none => return (none, db)
  | some row =>
      if row.status ≠ "active" then
        return (none, db)
      else
        references "node_registration_tokens"
          "node_registration_tokens_used_by_node_id_fkey"
          (Database.hasNode db nodeId)
        return (some (row.markUsed nodeId now), { db with
          nodeRegistrationTokens := Table.updateWhere
            (fun row => row.token = token && row.status = "active")
            (fun row => row.markUsed nodeId now) db.nodeRegistrationTokens })

/-! ## Heartbeats -/

def insertRunnerSession
    (sessionId nodeId : String) (db : Database) : Except StoreError Database := do
  if !Table.hasKey RunnerSessionRow.id sessionId db.runnerSessions then
    references "runner_sessions" "runner_sessions_node_id_fkey"
      (Database.hasNode db nodeId)
  return { db with
    runnerSessions := Table.insertNew RunnerSessionRow.id ⟨sessionId, nodeId⟩
      db.runnerSessions }

def insertHeartbeat
    (now : DateTime) (nodeId sessionId : String) (payloadJson : Json.Value)
    (db : Database) : Except StoreError Database := do
  references "node_heartbeats" "node_heartbeats_node_id_fkey"
    (Database.hasNode db nodeId)
  references "node_heartbeats" "node_heartbeats_session_id_fkey"
    (Table.hasKey RunnerSessionRow.id sessionId db.runnerSessions)
  return { db with
    nodeHeartbeats := db.nodeHeartbeats ++ [⟨nodeId, sessionId, payloadJson, now⟩] }

def latestHeartbeatRow
    (order : IterationOrder) (nodeId : String) (db : Database) :
    Option HeartbeatRecord := do
  let node ← Table.lookup NodeRow.id nodeId db.nodes
  let heartbeat ← Table.greatest HeartbeatRow.createdAt
    ((order.arrange db.nodeHeartbeats).filter (fun row => row.nodeId = nodeId))
  return {
    tenantId := node.tenantId
    nodeId := heartbeat.nodeId
    capabilitySnapshot := heartbeat.payloadJson
    createdAt := heartbeat.createdAt }

/-! ## Profiles and credentials -/

def insertProfile
    (profileId tenantId : String) (db : Database) : Except StoreError Database := do
  if !Database.hasProfile db profileId then
    references "profiles" "profiles_tenant_id_fkey"
      (Database.hasTenant db tenantId)
  return { db with
    profiles := Table.insertNew ProfileRow.id ⟨profileId, tenantId⟩ db.profiles }

/-- The version inserted is always the first. -/
def insertProfileVersion
    (now : DateTime) (versionId tenantId profileId : String)
    (irJson : ProfileIr) (db : Database) : Except StoreError Database := do
  if Table.hasKey (fun row : ProfileVersionRow => (row.profileId, row.version))
      (profileId, 1) db.profileVersions then
    return db
  else
    unique "profile_versions_pkey"
      (Table.hasKey ProfileVersionRow.id versionId db.profileVersions)
    references "profile_versions" "profile_versions_tenant_id_fkey"
      (Database.hasTenant db tenantId)
    references "profile_versions" "profile_versions_profile_id_fkey"
      (Database.hasProfile db profileId)
    return { db with
      profileVersions := db.profileVersions ++
        [⟨versionId, tenantId, profileId, 1, irJson, now⟩] }

def latestProfileVersion
    (profileId : String) (db : Database) : Option ProfileVersionRow :=
  Table.greatest ProfileVersionRow.version
    (db.profileVersions.filter (fun row => row.profileId = profileId))

/-- The latest version of each profile, by profile id. -/
def latestProfileVersions (db : Database) : List ProfileVersionRow :=
  ((db.profileVersions.map ProfileVersionRow.profileId).dedup.mergeSort
    (fun left right => left ≤ right)).filterMap
      (fun profileId => latestProfileVersion profileId db)

def upsertClient
    (row : ClientRow) (db : Database) : Except StoreError Database := do
  if !Table.hasKey ClientRow.id row.id db.clients then
    references "clients" "clients_tenant_id_fkey"
      (Database.hasTenant db row.tenantId)
  return { db with
    clients := Table.upsert ClientRow.id row
      (fun other => { other with
        displayName := row.displayName
        status := row.status }) db.clients }

def upsertSecret
    (row : SecretRow) (db : Database) : Except StoreError Database := do
  if !Table.hasKey SecretRow.id row.id db.secrets then
    references "secrets" "secrets_tenant_id_fkey"
      (Database.hasTenant db row.tenantId)
  return { db with
    secrets := Table.upsert SecretRow.id row
      (fun other => { other with ciphertext := row.ciphertext }) db.secrets }

def upsertCredential
    (row : CredentialRow) (db : Database) : Except StoreError Database := do
  if !Database.hasCredential db row.id then
    references "credentials" "credentials_tenant_id_fkey"
      (Database.hasTenant db row.tenantId)
    references "credentials" "credentials_client_id_fkey"
      (Table.hasKey ClientRow.id row.clientId db.clients)
  return { db with
    credentials := Table.upsert CredentialRow.id row
      (fun other => { other with status := row.status }) db.credentials }

def insertProfileCredential
    (profileId credentialId : String) (db : Database) :
    Except StoreError Database := do
  let row : ProfileCredentialRow := ⟨profileId, credentialId⟩
  if !Table.hasKey id row db.profileCredentials then
    references "profile_credentials" "profile_credentials_profile_id_fkey"
      (Database.hasProfile db profileId)
    references "profile_credentials" "profile_credentials_credential_id_fkey"
      (Database.hasCredential db credentialId)
  return { db with
    profileCredentials := Table.insertNew id row db.profileCredentials }

/-- A credential of a profile with its client and its secret. -/
structure CredentialResult where
  profileId : String
  id : String
  clientGroupId : String
  status : String
  displayName : String
  ciphertext : CredentialMaterial
  createdAt : DateTime

def joinCredential
    (db : Database) (link : ProfileCredentialRow) : Option CredentialResult := do
  let credential ← Table.lookup CredentialRow.id link.credentialId db.credentials
  let client ← Table.lookup ClientRow.id credential.clientId db.clients
  let secret ← Table.lookup SecretRow.id credential.secretRef db.secrets
  return {
    profileId := link.profileId
    id := credential.id
    clientGroupId := credential.clientGroupId
    status := credential.status
    displayName := client.displayName
    ciphertext := secret.ciphertext
    createdAt := credential.createdAt }

def selectCredentials
    (order : IterationOrder) (db : Database) : List CredentialResult :=
  ((order.arrange db.profileCredentials).filterMap (joinCredential db)).mergeSort
    (fun left right => left.profileId < right.profileId ||
      (left.profileId = right.profileId && left.createdAt ≤ right.createdAt))

def selectCredentialsOf
    (order : IterationOrder) (profileId : String) (db : Database) :
    List CredentialResult :=
  (((order.arrange db.profileCredentials).filter
    (fun link => link.profileId = profileId)).filterMap
      (joinCredential db)).mergeSort
    (fun left right => left.createdAt ≤ right.createdAt)

def expireCredential
    (credentialId : String) (expiresAt : DateTime) (db : Database) : Database :=
  { db with
    credentials := Table.updateWhere (fun row => row.id = credentialId)
      (fun row => { row with expiresAt := some expiresAt }) db.credentials }

def upsertCredentialQuota
    (credentialId : String) (quotaBytes : Int64) (db : Database) :
    Except StoreError Database := do
  if !Table.hasKey CredentialQuotaRow.credentialId credentialId
      db.credentialQuotas then
    references "credential_quotas" "credential_quotas_credential_id_fkey"
      (Database.hasCredential db credentialId)
  return { db with
    credentialQuotas := Table.upsert CredentialQuotaRow.credentialId
      ⟨credentialId, quotaBytes⟩
      (fun row => { row with quotaBytes := quotaBytes }) db.credentialQuotas }

/-! ## Artifacts -/

def insertArtifact
    (artifact : Artifact) (db : Database) : Except StoreError Database := do
  if Table.hasKey (fun row : Artifact => (row.tenantId, row.sha256))
      (artifact.tenantId, artifact.sha256) db.artifacts then
    return db
  else
    unique "artifacts_pkey" (Database.hasArtifact db artifact.id)
    references "artifacts" "artifacts_tenant_id_fkey"
      (Database.hasTenant db artifact.tenantId)
    return { db with artifacts := db.artifacts ++ [artifact] }

def insertArtifactBlob
    (sha256 : String) (bytes : Bytes) (db : Database) : Database :=
  { db with
    artifactBlobs := Table.insertNew ArtifactBlobRow.sha256 ⟨sha256, bytes⟩
      db.artifactBlobs }

def blobOf (sha256 : String) (db : Database) : Option Bytes :=
  (Table.lookup ArtifactBlobRow.sha256 sha256 db.artifactBlobs).map
    ArtifactBlobRow.bytes

/-! ## Deployments -/

/-- `finished_at DESC NULLS LAST, created_at DESC`. -/
def finishedFirst (row : DeploymentRow) : WithBot DateTime ×ₗ DateTime :=
  toLex (row.finishedAt, row.createdAt)

def previousDeployment
    (order : IterationOrder) (tenantId nodeId : String) (db : Database) :
    Option DeploymentRow :=
  Table.greatest finishedFirst ((order.arrange db.deployments).filter (fun row =>
    row.tenantId = tenantId && row.nodeId = nodeId && row.status = "Succeeded"))

/-- A new deployment is pending; one that is already there stays as it is. -/
def insertDeployment
    (now : DateTime)
    (deploymentId tenantId nodeId profileVersionId artifactId : String)
    (db : Database) : Except StoreError Database := do
  if Database.hasDeployment db deploymentId then
    return db
  else
    references "deployments" "deployments_tenant_id_fkey"
      (Database.hasTenant db tenantId)
    references "deployments" "deployments_node_id_fkey"
      (Database.hasNode db nodeId)
    references "deployments" "deployments_profile_version_id_fkey"
      (Table.hasKey ProfileVersionRow.id profileVersionId db.profileVersions)
    references "deployments" "deployments_compiled_config_artifact_id_fkey"
      (Database.hasArtifact db artifactId)
    return { db with
      deployments := db.deployments ++ [{
        id := deploymentId
        tenantId := tenantId
        nodeId := nodeId
        profileVersionId := profileVersionId
        status := "Pending"
        compiledConfigArtifactId := artifactId
        rollbackPointerId := none
        createdAt := now
        finishedAt := none }] }

def insertRollbackPointer
    (pointer : RollbackPointerRecord) (db : Database) :
    Except StoreError Database := do
  if Table.hasKey RollbackPointerRecord.rollbackPointerId
      pointer.rollbackPointerId db.rollbackPointers then
    return db
  else
    references "rollback_pointers" "rollback_pointers_tenant_id_fkey"
      (Database.hasTenant db pointer.tenantId)
    references "rollback_pointers" "rollback_pointers_deployment_id_fkey"
      (Database.hasDeployment db pointer.deploymentId)
    references "rollback_pointers" "rollback_pointers_previous_deployment_id_fkey"
      (pointer.previousDeploymentId.all (Database.hasDeployment db))
    references "rollback_pointers"
      "rollback_pointers_previous_compiled_config_artifact_id_fkey"
      (pointer.previousCompiledConfigArtifactId.all (Database.hasArtifact db))
    references "rollback_pointers"
      "rollback_pointers_target_compiled_config_artifact_id_fkey"
      (Database.hasArtifact db pointer.targetCompiledConfigArtifactId)
    return { db with rollbackPointers := db.rollbackPointers ++ [pointer] }

def setRollbackPointer
    (deploymentId rollbackPointerId : String) (db : Database) : Database :=
  { db with
    deployments := Table.updateWhere (fun row => row.id = deploymentId)
      (fun row => { row with rollbackPointerId := some rollbackPointerId })
      db.deployments }

/-- The deployment keeps the instant of its first result. -/
def finishDeployment
    (now : DateTime) (deploymentId status : String) (db : Database) : Database :=
  { db with
    deployments := Table.updateWhere (fun row => row.id = deploymentId)
      (fun row => { row with
        status := status
        finishedAt := row.finishedAt.or (some now) }) db.deployments }

def joinDeployment
    (db : Database) (row : DeploymentRow) : Option DeploymentPlanRecord := do
  let version ← Table.lookup ProfileVersionRow.id row.profileVersionId
    db.profileVersions
  return {
    tenantId := row.tenantId
    deploymentId := row.id
    nodeId := row.nodeId
    profileId := version.profileId
    compiledConfigArtifactId := row.compiledConfigArtifactId
    createdAt := row.createdAt }

def deploymentPlan
    (deploymentId : String) (db : Database) : Option DeploymentPlanRecord :=
  (Table.lookup DeploymentRow.id deploymentId db.deployments).bind
    (joinDeployment db)

def rollbackPointerOf
    (deploymentId : String) (db : Database) : Option RollbackPointerRecord :=
  Table.lookup RollbackPointerRecord.deploymentId deploymentId
    db.rollbackPointers

def upsertDeploymentSnapshot
    (row : DeploymentSnapshotRow) (db : Database) : Except StoreError Database := do
  if !Table.hasKey DeploymentSnapshotRow.id row.id db.deploymentSnapshots then
    references "deployment_snapshots" "deployment_snapshots_deployment_id_fkey"
      (Database.hasDeployment db row.deploymentId)
  return { db with
    deploymentSnapshots := Table.upsert DeploymentSnapshotRow.id row
      (fun other => { other with
        snapshotJson := row.snapshotJson
        createdAt := row.createdAt }) db.deploymentSnapshots }

def latestSnapshot
    (order : IterationOrder) (deploymentId : String) (db : Database) :
    Option DeploymentSnapshotRecord :=
  (Table.greatest DeploymentSnapshotRow.createdAt
    ((order.arrange db.deploymentSnapshots).filter
      (fun row => row.deploymentId = deploymentId))).map
        DeploymentSnapshotRow.snapshotJson

def insertHealthCheck
    (row : HealthCheckRow) (db : Database) : Except StoreError Database := do
  references "deployment_health_checks"
    "deployment_health_checks_deployment_id_fkey"
    (Database.hasDeployment db row.deploymentId)
  return { db with deploymentHealthChecks := db.deploymentHealthChecks ++ [row] }

def joinHealthCheck
    (db : Database) (row : HealthCheckRow) : Option DeploymentHealthCheckRecord := do
  let deployment ← Table.lookup DeploymentRow.id row.deploymentId db.deployments
  return {
    tenantId := deployment.tenantId
    deploymentId := row.deploymentId
    nodeId := deployment.nodeId
    status := row.status
    payloadJson := row.payloadJson
    createdAt := row.createdAt }

/-- The health checks of a deployment, in the order they were inserted. -/
def healthChecksOf
    (deploymentId : String) (db : Database) : List DeploymentHealthCheckRecord :=
  (db.deploymentHealthChecks.filter
    (fun row => row.deploymentId = deploymentId)).filterMap (joinHealthCheck db)

def latestHealthCheck
    (order : IterationOrder) (deploymentId : String) (db : Database) :
    Option DeploymentHealthCheckRecord :=
  Table.greatest DeploymentHealthCheckRecord.createdAt
    (order.arrange (healthChecksOf deploymentId db))

/-! ## Usage -/

def insertUsageRecord
    (usage : UsageSampleRecord) (db : Database) : Except StoreError Database := do
  references "usage_records" "usage_records_tenant_id_fkey"
    (Database.hasTenant db usage.tenantId)
  references "usage_records" "usage_records_node_id_fkey"
    (Database.hasNode db usage.nodeId)
  references "usage_records" "usage_records_credential_id_fkey"
    (usage.credentialId.all (Database.hasCredential db))
  return { db with usageRecords := db.usageRecords ++ [usage] }

/-- Two rollups of no credential are never in conflict: `NULL` is distinct. -/
def sameRollup (row other : UsageRollupRecord) : Bool :=
  row.credentialId.isSome && other.tenantId = row.tenantId &&
    other.credentialId = row.credentialId && other.bucket = row.bucket &&
    other.bucketStart = row.bucketStart

def addUsageRollup
    (row : UsageRollupRecord) (db : Database) : Except StoreError Database := do
  match db.usageRollups.find? (sameRollup row) with
  | some other =>
      let uplinkBytes ← bigint (other.uplinkBytes.toInt + row.uplinkBytes.toInt)
      let downlinkBytes ←
        bigint (other.downlinkBytes.toInt + row.downlinkBytes.toInt)
      return { db with
        usageRollups := Table.updateWhere (sameRollup row)
          (fun other => { other with
            uplinkBytes := uplinkBytes
            downlinkBytes := downlinkBytes }) db.usageRollups }
  | none =>
      references "usage_rollups" "usage_rollups_tenant_id_fkey"
        (Database.hasTenant db row.tenantId)
      references "usage_rollups" "usage_rollups_credential_id_fkey"
        (row.credentialId.all (Database.hasCredential db))
      return { db with usageRollups := db.usageRollups ++ [row] }

def latestUsage
    (order : IterationOrder) (nodeId : String) (db : Database) :
    Option UsageSampleRecord :=
  Table.greatest UsageSampleRecord.sampledAt
    ((order.arrange db.usageRecords).filter (fun row => row.nodeId = nodeId))

def latestRollup
    (order : IterationOrder) (credentialId bucket : String) (db : Database) :
    Option UsageRollupRecord :=
  Table.greatest UsageRollupRecord.bucketStart
    ((order.arrange db.usageRollups).filter (fun row =>
      row.credentialId = some credentialId && row.bucket = bucket))

/-- The sum is taken without bound, and cast at the end. -/
def usedBytesOf
    (credentialId : String) (db : Database) : Except StoreError Int64 := do
  let used ← (db.usageRollups.filter (fun row =>
      row.credentialId = some credentialId && row.bucket = "hour")).mapM
    (fun row => bigint (row.uplinkBytes.toInt + row.downlinkBytes.toInt))
  bigint (used.map Int64.toInt).sum

/-! ## Runner commands -/

/-- A command whose node and sequence are taken is not stored. -/
def insertRunnerCommand
    (nodeId : String) (command : SignedRunnerCommand) (db : Database) :
    Except StoreError Database := do
  let sequence := command.command.sequence.toInt64
  if Table.hasKey (fun row : RunnerCommandRow => (row.nodeId, row.sequence))
      (nodeId, sequence) db.runnerCommands then
    return db
  else
    references "runner_commands" "runner_commands_tenant_id_fkey"
      (Database.hasTenant db command.command.tenantId)
    references "runner_commands" "runner_commands_node_id_fkey"
      (Database.hasNode db nodeId)
    return { db with
      runnerCommands := db.runnerCommands ++ [{
        id := db.runnerCommands.length
        tenantId := command.command.tenantId
        nodeId := nodeId
        sequence := sequence
        envelopeJson := command
        status := "pending" }] }

/-- The row of a command that is stored. -/
def pendingRow
    (nodeId : String) (command : SignedRunnerCommand) (rowId : ℕ) :
    RunnerCommandRow where
  id := rowId
  tenantId := command.command.tenantId
  nodeId := nodeId
  sequence := command.command.sequence.toInt64
  envelopeJson := command
  status := "pending"

theorem insertRunnerCommand_ok
    {nodeId : String} {command : SignedRunnerCommand} {db db' : Database}
    (h : insertRunnerCommand nodeId command db = .ok db') :
    db' =
      if Table.hasKey (fun row : RunnerCommandRow => (row.nodeId, row.sequence))
          (nodeId, command.command.sequence.toInt64) db.runnerCommands then
        db
      else
        { db with runnerCommands := db.runnerCommands ++
            [pendingRow nodeId command db.runnerCommands.length] } := by
  simp only [insertRunnerCommand] at h
  split_ifs at h ⊢ with htaken
  · exact (Except.ok.inj h).symm
  · rw [references_bind_eq_ok, references_bind_eq_ok] at h
    exact (Except.ok.inj h.2.2).symm

def skipRunnerCommands
    (nodeId : String) (lastSequence : Int64) (db : Database) : Database :=
  { db with
    runnerCommands := Table.updateWhere
      (fun row => row.nodeId = nodeId && row.sequence ≤ lastSequence &&
        row.status = "pending")
      (fun row => { row with status := "skipped" }) db.runnerCommands }

/-- The sub-select of a lease. -/
def leaseCandidate
    (nodeId : String) (lastSequence : Int64) (db : Database) : Option ℕ :=
  (Table.least (fun row : RunnerCommandRow => row.sequence.toInt)
    (db.runnerCommands.filter (fun row => row.nodeId = nodeId &&
      lastSequence < row.sequence && row.status = "pending"))).map
        RunnerCommandRow.id

/-- The update of a lease, on the row that the sub-select has found. -/
def leaseRow
    (candidate : Option ℕ) (db : Database) :
    Option SignedRunnerCommand × Database :=
  match candidate with
  | none => (none, db)
  | some rowId =>
      ((Table.lookup RunnerCommandRow.id rowId db.runnerCommands).map
          RunnerCommandRow.envelopeJson,
        { db with
          runnerCommands := Table.updateWhere (fun row => row.id = rowId)
            (fun row => { row with status := "leased" }) db.runnerCommands })

/-! ## Subscription tokens -/

def insertSubscriptionToken
    (row : SubscriptionTokenRecord) (db : Database) :
    Except StoreError Database := do
  unique "subscription_tokens_pkey"
    (Table.hasKey SubscriptionTokenRecord.tokenId row.tokenId
      db.subscriptionTokens)
  references "subscription_tokens" "subscription_tokens_tenant_id_fkey"
    (Database.hasTenant db row.tenantId)
  references "subscription_tokens" "subscription_tokens_profile_id_fkey"
    (Database.hasProfile db row.profileId)
  return { db with subscriptionTokens := db.subscriptionTokens ++ [row] }

def isActive (profileId : String) (row : SubscriptionTokenRecord) : Bool :=
  row.profileId = profileId && row.status = "active"

def rotateSubscriptionTokens
    (now : DateTime) (profileId : String) (db : Database) : Database :=
  { db with
    subscriptionTokens := Table.updateWhere (isActive profileId)
      (fun row => { row with status := "rotated", rotatedAt := some now })
      db.subscriptionTokens }

def activeTokens (profileId : String) (db : Database) : ℕ :=
  db.subscriptionTokens.countP (isActive profileId)

def insertAccessLog
    (row : SubscriptionAccessLogRecord) (db : Database) :
    Except StoreError Database := do
  references "subscription_access_logs" "subscription_access_logs_token_id_fkey"
    (Table.hasKey SubscriptionTokenRecord.tokenId row.tokenId
      db.subscriptionTokens)
  return { db with subscriptionAccessLogs := db.subscriptionAccessLogs ++ [row] }

/-! ## Events and responses -/

def insertAuditEvent
    (row : AuditEventRecord) (db : Database) : Except StoreError Database := do
  references "audit_events" "audit_events_tenant_id_fkey"
    (Database.hasTenant db row.tenantId)
  return { db with auditEvents := db.auditEvents ++ [row] }

def insertOutboxEvent
    (row : OutboxEventRecord) (db : Database) : Except StoreError Database := do
  references "event_outbox" "event_outbox_tenant_id_fkey"
    (Database.hasTenant db row.tenantId)
  return { db with eventOutbox := db.eventOutbox ++ [row] }

def idempotencyKey (row : IdempotencyKeyRow) : String × String :=
  (row.tenantId, row.key)

def insertIdempotencyKey
    (row : IdempotencyKeyRow) (db : Database) : Except StoreError Database := do
  if !Table.hasKey idempotencyKey (idempotencyKey row) db.idempotencyKeys then
    references "idempotency_keys" "idempotency_keys_tenant_id_fkey"
      (Database.hasTenant db row.tenantId)
  return { db with
    idempotencyKeys := Table.insertNew idempotencyKey row db.idempotencyKeys }

/-! ## Statements -/

inductive Statement : Type
  | begin
  | commit
  | insertTenant (tenantId : String)
  | upsertNode (nodeId tenantId : String)
  | insertNodeCapabilities
      (nodeId xrayVersion : String) (capabilitiesJson : Json.Value)
  | registerNodeIdentity (nodeId publicKey : String)
  | replaceNodeKey (nodeId publicKey : String)
  | node (nodeId : String)
  | nodes
  | firstNode
  | insertRegistrationToken (token : NodeRegistrationTokenRecord)
  | registrationToken (token : String)
  | registrationTokens
  | useRegistrationToken (token nodeId : String)
  | insertRunnerSession (sessionId nodeId : String)
  | insertHeartbeat
      (nodeId sessionId : String) (payloadJson : Json.Value)
  | latestHeartbeat (nodeId : String)
  | insertProfile (profileId tenantId : String)
  | insertProfileVersion
      (versionId tenantId profileId : String) (irJson : ProfileIr)
  | latestProfileVersion (profileId : String)
  | latestProfileVersions
  | profileTenant (profileId : String)
  | upsertClient (row : ClientRow)
  | upsertSecret (row : SecretRow)
  | upsertCredential
      (id tenantId clientId clientGroupId kind secretRef status : String)
  | insertProfileCredential (profileId credentialId : String)
  | credentials
  | credentialsOf (profileId : String)
  | setCredentialExpiry (credentialId : String) (expiresAt : DateTime)
  | credentialExpiry (credentialId : String)
  | upsertCredentialQuota (credentialId : String) (quotaBytes : Int64)
  | credentialQuota (credentialId : String)
  | insertArtifact (artifact : Artifact)
  | insertArtifactBlob (sha256 : String) (bytes : Bytes)
  | artifactBlob (artifactId : String)
  | blob (sha256 : String)
  | previousDeployment (tenantId nodeId : String)
  | insertDeployment
      (deploymentId tenantId nodeId profileVersionId artifactId : String)
  | insertRollbackPointer (pointer : RollbackPointerRecord)
  | setRollbackPointer (deploymentId rollbackPointerId : String)
  | finishDeployment (deploymentId status : String)
  | deployment (deploymentId : String)
  | deploymentPlan (deploymentId : String)
  | deploymentPlans
  | rollbackPointer (deploymentId : String)
  | upsertDeploymentSnapshot (row : DeploymentSnapshotRow)
  | latestSnapshot (deploymentId : String)
  | insertHealthCheck (row : HealthCheckRow)
  | latestHealthCheck (deploymentId : String)
  | healthChecks (deploymentId : String)
  | insertUsageRecord (usage : UsageSampleRecord)
  | addUsageRollup (row : UsageRollupRecord)
  | latestUsage (nodeId : String)
  | latestRollup (credentialId bucket : String)
  | usedBytes (credentialId : String)
  | insertRunnerCommand (nodeId : String) (command : SignedRunnerCommand)
  | skipRunnerCommands (nodeId : String) (lastSequence : Int64)
  | leaseRunnerCommand (nodeId : String) (lastSequence : Int64)
  | insertSubscriptionToken
      (tokenId tenantId profileId tokenHash : String)
  | rotateSubscriptionTokens (profileId : String)
  | activeSubscriptionToken (profileId tokenHash : String)
  | activeTokenCount (profileId : String)
  | insertAccessLog
      (tokenId : String) (remoteAddr userAgent : Option String)
      (status : String)
  | accessLogCount (tokenId : String)
  | insertAuditEvent (tenantId actor action subject : String)
  | insertOutboxEvent
      (tenantId eventType aggregateType aggregateId : String)
  | auditCount
  | outboxCount
  | insertIdempotencyKey
      (tenantId key : String) (responseJson : Json.Value)
  | idempotencyResponse (tenantId key : String)

/-- What a statement fetches, or the number of rows it affects. -/
abbrev Statement.Value : Statement → Type
  | node _ => Option NodeResult
  | nodes => List NodeResult
  | firstNode => Option String
  | insertRegistrationToken _ => ℕ
  | registrationToken _ => Option NodeRegistrationTokenRecord
  | registrationTokens => List NodeRegistrationTokenRecord
  | useRegistrationToken .. => Option NodeRegistrationTokenRecord
  | latestHeartbeat _ => Option HeartbeatRecord
  | latestProfileVersion _ => Option ProfileVersionRow
  | latestProfileVersions => List ProfileVersionRow
  | profileTenant _ => Option String
  | credentials => List CredentialResult
  | credentialsOf _ => List CredentialResult
  | setCredentialExpiry .. => ℕ
  | credentialExpiry _ => Option (Option DateTime)
  | credentialQuota _ => Option Int64
  | artifactBlob _ => Option Bytes
  | blob _ => Option Bytes
  | previousDeployment .. => Option DeploymentRow
  | finishDeployment .. => ℕ
  | deployment _ => Option DeploymentRow
  | deploymentPlan _ => Option DeploymentPlanRecord
  | deploymentPlans => List DeploymentPlanRecord
  | rollbackPointer _ => Option RollbackPointerRecord
  | latestSnapshot _ => Option DeploymentSnapshotRecord
  | latestHealthCheck _ => Option DeploymentHealthCheckRecord
  | healthChecks _ => List DeploymentHealthCheckRecord
  | latestUsage _ => Option UsageSampleRecord
  | latestRollup .. => Option UsageRollupRecord
  | usedBytes _ => Int64
  | leaseRunnerCommand .. => Option SignedRunnerCommand
  | activeSubscriptionToken .. => Option SubscriptionTokenRecord
  | activeTokenCount _ => ℕ
  | accessLogCount _ => ℕ
  | auditCount => ℕ
  | outboxCount => ℕ
  | idempotencyResponse .. => Option Json.Value
  | _ => Unit

abbrev Statement.Ret (s : Statement) : Type :=
  StoreResult s.Value

/-- A query answers from the tables and leaves them alone. -/
def fetch {α : Type} (value : α) (db : Database) :
    Except StoreError (α × Database) :=
  .ok (value, db)

/-- A statement whose answer nobody looks at. -/
def execute (db : Except StoreError Database) :
    Except StoreError (Unit × Database) :=
  db.map (fun db => ((), db))

/-- The answer of a statement that no fault hits, and the tables it leaves. -/
def Statement.apply :
    (s : Statement) → StatementTick → Database →
      Except StoreError (s.Value × Database)
  | .begin, _, db => execute (.ok db)
  | .commit, _, db => execute (.ok db)
  | .insertTenant tenantId, _, db =>
      execute (.ok (PostgresStore.insertTenant tenantId db))
  | .upsertNode nodeId tenantId, t, db =>
      execute (PostgresStore.upsertNode t.now nodeId tenantId db)
  | .insertNodeCapabilities nodeId xrayVersion capabilitiesJson, t, db =>
      execute (PostgresStore.insertNodeCapabilities t.now nodeId xrayVersion
        capabilitiesJson db)
  | .registerNodeIdentity nodeId publicKey, t, db =>
      execute (upsertNodeIdentity t.now nodeId publicKey
        (fun row => { row with
          publicKey := publicKey
          registeredAt := row.registeredAt.or (some t.now) }) db)
  | .replaceNodeKey nodeId publicKey, t, db =>
      execute (upsertNodeIdentity t.now nodeId publicKey
        (fun row => { row with publicKey := publicKey }) db)
  | .node nodeId, t, db =>
      fetch ((Table.lookup NodeRow.id nodeId db.nodes).map
        (selectNode t.order db)) db
  | .nodes, t, db =>
      fetch (((t.order.arrange db.nodes).mergeSort
        (fun left right => left.id ≤ right.id)).map (selectNode t.order db)) db
  | .firstNode, t, db => fetch (PostgresStore.firstNode t.order db) db
  | .insertRegistrationToken token, _, db =>
      PostgresStore.insertRegistrationToken token db
  | .registrationToken token, _, db =>
      fetch (PostgresStore.registrationToken token db) db
  | .registrationTokens, t, db =>
      fetch ((t.order.arrange db.nodeRegistrationTokens).mergeSort
        (fun left right => left.createdAt ≤ right.createdAt)) db
  | .useRegistrationToken token nodeId, t, db =>
      PostgresStore.useRegistrationToken t.now token nodeId db
  | .insertRunnerSession sessionId nodeId, _, db =>
      execute (PostgresStore.insertRunnerSession sessionId nodeId db)
  | .insertHeartbeat nodeId sessionId payloadJson, t, db =>
      execute (PostgresStore.insertHeartbeat t.now nodeId sessionId payloadJson db)
  | .latestHeartbeat nodeId, t, db =>
      fetch (latestHeartbeatRow t.order nodeId db) db
  | .insertProfile profileId tenantId, _, db =>
      execute (PostgresStore.insertProfile profileId tenantId db)
  | .insertProfileVersion versionId tenantId profileId irJson, t, db =>
      execute (PostgresStore.insertProfileVersion t.now versionId tenantId
        profileId irJson db)
  | .latestProfileVersion profileId, _, db =>
      fetch (PostgresStore.latestProfileVersion profileId db) db
  | .latestProfileVersions, _, db =>
      fetch (PostgresStore.latestProfileVersions db) db
  | .profileTenant profileId, _, db =>
      fetch ((Table.lookup ProfileRow.id profileId db.profiles).map
        ProfileRow.tenantId) db
  | .upsertClient row, _, db => execute (PostgresStore.upsertClient row db)
  | .upsertSecret row, _, db => execute (PostgresStore.upsertSecret row db)
  | .upsertCredential id tenantId clientId clientGroupId kind secretRef status,
      t, db =>
      execute (PostgresStore.upsertCredential
        { id := id
          tenantId := tenantId
          clientId := clientId
          clientGroupId := clientGroupId
          kind := kind
          secretRef := secretRef
          status := status
          expiresAt := none
          createdAt := t.now } db)
  | .insertProfileCredential profileId credentialId, _, db =>
      execute (PostgresStore.insertProfileCredential profileId credentialId db)
  | .credentials, t, db => fetch (selectCredentials t.order db) db
  | .credentialsOf profileId, t, db =>
      fetch (selectCredentialsOf t.order profileId db) db
  | .setCredentialExpiry credentialId expiresAt, _, db =>
      .ok (db.credentials.countP (fun row => row.id = credentialId),
        expireCredential credentialId expiresAt db)
  | .credentialExpiry credentialId, _, db =>
      fetch ((Table.lookup CredentialRow.id credentialId db.credentials).map
        CredentialRow.expiresAt) db
  | .upsertCredentialQuota credentialId quotaBytes, _, db =>
      execute (PostgresStore.upsertCredentialQuota credentialId quotaBytes db)
  | .credentialQuota credentialId, _, db =>
      fetch ((Table.lookup CredentialQuotaRow.credentialId credentialId
        db.credentialQuotas).map CredentialQuotaRow.quotaBytes) db
  | .insertArtifact artifact, _, db =>
      execute (PostgresStore.insertArtifact artifact db)
  | .insertArtifactBlob sha256 bytes, _, db =>
      execute (.ok (PostgresStore.insertArtifactBlob sha256 bytes db))
  | .artifactBlob artifactId, _, db =>
      fetch ((Table.lookup Artifact.id artifactId db.artifacts).bind
        (fun artifact => blobOf artifact.sha256 db)) db
  | .blob sha256, _, db => fetch (blobOf sha256 db) db
  | .previousDeployment tenantId nodeId, t, db =>
      fetch (PostgresStore.previousDeployment t.order tenantId nodeId db) db
  | .insertDeployment deploymentId tenantId nodeId profileVersionId artifactId,
      t, db =>
      execute (PostgresStore.insertDeployment t.now deploymentId tenantId nodeId
        profileVersionId artifactId db)
  | .insertRollbackPointer pointer, _, db =>
      execute (PostgresStore.insertRollbackPointer pointer db)
  | .setRollbackPointer deploymentId rollbackPointerId, _, db =>
      execute (.ok (PostgresStore.setRollbackPointer deploymentId
        rollbackPointerId db))
  | .finishDeployment deploymentId status, t, db =>
      .ok (db.deployments.countP (fun row => row.id = deploymentId),
        PostgresStore.finishDeployment t.now deploymentId status db)
  | .deployment deploymentId, _, db =>
      fetch (Table.lookup DeploymentRow.id deploymentId db.deployments) db
  | .deploymentPlan deploymentId, _, db =>
      fetch (PostgresStore.deploymentPlan deploymentId db) db
  | .deploymentPlans, _, db =>
      fetch ((db.deployments.filterMap (joinDeployment db)).mergeSort
        MemoryStore.deploymentPlanLe) db
  | .rollbackPointer deploymentId, _, db =>
      fetch (rollbackPointerOf deploymentId db) db
  | .upsertDeploymentSnapshot row, _, db =>
      execute (PostgresStore.upsertDeploymentSnapshot row db)
  | .latestSnapshot deploymentId, t, db =>
      fetch (PostgresStore.latestSnapshot t.order deploymentId db) db
  | .insertHealthCheck row, _, db =>
      execute (PostgresStore.insertHealthCheck row db)
  | .latestHealthCheck deploymentId, t, db =>
      fetch (PostgresStore.latestHealthCheck t.order deploymentId db) db
  | .healthChecks deploymentId, _, db =>
      fetch ((healthChecksOf deploymentId db).mergeSort
        (fun left right => left.createdAt ≤ right.createdAt)) db
  | .insertUsageRecord usage, _, db =>
      execute (PostgresStore.insertUsageRecord usage db)
  | .addUsageRollup row, _, db => execute (PostgresStore.addUsageRollup row db)
  | .latestUsage nodeId, t, db =>
      fetch (PostgresStore.latestUsage t.order nodeId db) db
  | .latestRollup credentialId bucket, t, db =>
      fetch (PostgresStore.latestRollup t.order credentialId bucket db) db
  | .usedBytes credentialId, _, db =>
      (usedBytesOf credentialId db).map (fun used => (used, db))
  | .insertRunnerCommand nodeId command, _, db =>
      execute (PostgresStore.insertRunnerCommand nodeId command db)
  | .skipRunnerCommands nodeId lastSequence, _, db =>
      execute (.ok (PostgresStore.skipRunnerCommands nodeId lastSequence db))
  | .leaseRunnerCommand nodeId lastSequence, _, db =>
      .ok (leaseRow (leaseCandidate nodeId lastSequence db) db)
  | .insertSubscriptionToken tokenId tenantId profileId tokenHash, t, db =>
      execute (PostgresStore.insertSubscriptionToken
        { tenantId := tenantId
          tokenId := tokenId
          profileId := profileId
          tokenHash := tokenHash
          status := "active"
          createdAt := t.now
          rotatedAt := none } db)
  | .rotateSubscriptionTokens profileId, t, db =>
      execute (.ok (PostgresStore.rotateSubscriptionTokens t.now profileId db))
  | .activeSubscriptionToken profileId tokenHash, t, db =>
      fetch ((t.order.arrange db.subscriptionTokens).find? (fun row =>
        row.profileId = profileId && row.tokenHash = tokenHash &&
          row.status = "active")) db
  | .activeTokenCount profileId, _, db => fetch (activeTokens profileId db) db
  | .insertAccessLog tokenId remoteAddr userAgent status, t, db =>
      execute (PostgresStore.insertAccessLog
        { tokenId := tokenId
          remoteAddr := remoteAddr
          userAgent := userAgent
          status := status
          createdAt := t.now } db)
  | .accessLogCount tokenId, _, db =>
      fetch (db.subscriptionAccessLogs.countP (fun row => row.tokenId = tokenId)) db
  | .insertAuditEvent tenantId actor action subject, t, db =>
      execute (PostgresStore.insertAuditEvent
        { tenantId := tenantId
          actor := actor
          action := action
          subject := subject
          createdAt := t.now } db)
  | .insertOutboxEvent tenantId eventType aggregateType aggregateId, t, db =>
      execute (PostgresStore.insertOutboxEvent
        { tenantId := tenantId
          eventType := eventType
          aggregateType := aggregateType
          aggregateId := aggregateId
          status := "pending"
          createdAt := t.now } db)
  | .auditCount, _, db => fetch db.auditEvents.length db
  | .outboxCount, _, db => fetch db.eventOutbox.length db
  | .insertIdempotencyKey tenantId key responseJson, _, db =>
      execute (PostgresStore.insertIdempotencyKey
        { tenantId := tenantId
          key := key
          responseJson := responseJson } db)
  | .idempotencyResponse tenantId key, _, db =>
      fetch ((Table.lookup idempotencyKey (tenantId, key) db.idempotencyKeys).map
        IdempotencyKeyRow.responseJson) db

/-- One statement against the database: a refused one changes nothing. -/
def Statement.exec
    (s : Statement) (t : StatementTick) (db : Database) : s.Ret × Database :=
  match t.fault with
  | some message => (.error (.sqlx message), db)
  | none =>
      match s.apply t db with
      | .ok (value, db') => (.ok value, db')
      | .error error => (.error error, db)

theorem Statement.exec_of_apply
    {s : Statement} {t : StatementTick} {db db' : Database} {value : s.Value}
    (hfault : t.fault = none) (h : s.apply t db = .ok (value, db')) :
    s.exec t db = (.ok value, db') := by
  simp only [exec, hfault, h]

/-- What a statement that succeeds has answered and left. -/
theorem Statement.apply_of_exec
    {s : Statement} {t : StatementTick} {db : Database} {value : s.Value}
    (h : (s.exec t db).1 = .ok value) :
    t.fault = none ∧ s.apply t db = .ok (value, (s.exec t db).2) := by
  unfold exec at h ⊢
  split at h
  · cases h
  · rename_i hfault
    refine ⟨hfault, ?_⟩
    split at h
    · rename_i value' db' happly
      obtain rfl := Except.ok.inj h
      rw [happly]
    · cases h

/-- A statement that fails leaves the database as it was. -/
theorem Statement.exec_of_error
    {s : Statement} {t : StatementTick} {db : Database} {error : StoreError}
    (h : (s.exec t db).1 = .error error) :
    (s.exec t db).2 = db := by
  unfold exec at h ⊢
  split
  · rfl
  · rename_i hfault
    rw [hfault] at h
    split
    · rename_i value db' happly
      rw [happly] at h
      cases h
    · rfl

end PostgresStore
end ProxyControl
