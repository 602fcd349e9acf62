import ProxyControl.Storage.Records

/-!
# The in-memory store

`MemoryState` holds the tables behind the mutex of `MemoryStore`; every
operation takes the lock once and is one function here.  A reading operation
returns its result, a writing one the result and the new tables.

`tenantId` is the tenant of the store, `now` the clock reading of the
operation, and `order` the order in which it traverses a hash map.
-/

namespace ProxyControl

open Calendar

/-- The last of the elements with the greatest key. -/
def maxByKey {α κ : Type} [LinearOrder κ] (key : α → κ) : List α → Option α
  | [] => none
  | a :: rest =>
      match maxByKey key rest with
      | none => some a
      | some b => if key b < key a then some a else some b

theorem maxByKey_mem
    {α κ : Type} [LinearOrder κ] {key : α → κ} {l : List α} {a : α}
    (h : maxByKey key l = some a) :
    a ∈ l := by
  induction l generalizing a with
  | nil => cases h
  | cons b l ih =>
      simp only [maxByKey] at h
      split at h
      · simp_all
      · rename_i c hc
        split at h <;> obtain rfl := Option.some.inj h
        · exact List.mem_cons_self ..
        · exact List.mem_cons_of_mem _ (ih hc)

/-- In a sorted list the last element is the last of the greatest. -/
theorem maxByKey_eq_getLast?
    {α κ : Type} [LinearOrder κ] {key : α → κ} {l : List α}
    (h : (l.map key).Pairwise (· ≤ ·)) :
    maxByKey key l = l.getLast? := by
  induction l with
  | nil => rfl
  | cons a l ih =>
      rw [List.map_cons, List.pairwise_cons] at h
      obtain ⟨hle, hrest⟩ := h
      simp only [maxByKey, ih hrest]
      cases l with
      | nil => rfl
      | cons b l =>
          rw [List.getLast?_cons_cons]
          cases hlast : (b :: l).getLast? with
          | none => simp at hlast
          | some c =>
              have hc := List.mem_map_of_mem (f := key)
                (List.mem_of_getLast? hlast)
              simp [not_lt.mpr (hle _ hc)]

/-- The element as a result, with the error of its absence. -/
def okOr {α : Type} (value : Option α) (error : StoreError) : StoreResult α :=
  match value with
  | some a => .ok a
  | none => .error error

/-- The rollups are keyed by credential, bucket name and bucket start. -/
abbrev RollupKey : Type :=
  Option String × String × DateTime

structure MemoryState where
  nodes : HashTable String NodeRecord
  nodeRegistrationTokens : HashTable String NodeRegistrationTokenRecord
  heartbeats : HashTable String HeartbeatRecord
  profiles : HashTable String ProfileRecord
  credentialsByProfile : HashTable String (List Credential)
  artifacts : HashTable String Artifact
  artifactBlobsBySha256 : HashTable String Bytes
  idempotencyResponses : HashTable String Json.Value
  deployments : HashTable String DeploymentPlanRecord
  deploymentStatuses : HashTable String DeploymentStatus
  rollbackPointers : HashTable String RollbackPointerRecord
  deploymentSnapshots : HashTable String DeploymentSnapshotRecord
  deploymentHealthChecks : List DeploymentHealthCheckRecord
  usageSamples : List UsageSampleRecord
  usageRollups : HashTable RollupKey UsageRollupRecord
  credentialQuotas : HashTable String Int64
  credentialExpirations : HashTable String DateTime
  runnerCommands : HashTable String (List SignedRunnerCommand)
  subscriptionTokens : HashTable String SubscriptionTokenRecord
  subscriptionAccessLogs : List SubscriptionAccessLogRecord
  auditEvents : List AuditEventRecord
  outbox : List OutboxEventRecord

def MemoryState.default : MemoryState where
  nodes := ∅
  nodeRegistrationTokens := ∅
  heartbeats := ∅
  profiles := ∅
  credentialsByProfile := ∅
  artifacts := ∅
  artifactBlobsBySha256 := ∅
  idempotencyResponses := ∅
  deployments := ∅
  deploymentStatuses := ∅
  rollbackPointers := ∅
  deploymentSnapshots := ∅
  deploymentHealthChecks := []
  usageSamples := []
  usageRollups := ∅
  credentialQuotas := ∅
  credentialExpirations := ∅
  runnerCommands := ∅
  subscriptionTokens := ∅
  subscriptionAccessLogs := []
  auditEvents := []
  outbox := []

namespace MemoryStore

/-- One audit event and one outbox event of the same action. -/
def record
    (tenantId actor action aggregateType aggregateId : String)
    (now : DateTime) (state : MemoryState) : MemoryState :=
  { state with
    auditEvents := state.auditEvents ++ [{
      tenantId := tenantId
      actor := actor
      action := action
      subject := aggregateType ++ ":" ++ aggregateId
      createdAt := now }]
    outbox := state.outbox ++ [{
      tenantId := tenantId
      eventType := action
      aggregateType := aggregateType
      aggregateId := aggregateId
      status := "pending"
      createdAt := now }] }

/-! ## Nodes and registration tokens -/

def registerNode
    (tenantId : String) (now : DateTime) (node : NodeRecord)
    (state : MemoryState) : StoreResult Unit × MemoryState :=
  (.ok (),
    record tenantId "runner" "node.registered" "node" node.nodeId now
      { state with nodes := state.nodes.insert node.nodeId node })

/-- The first record met with the given token text. -/
def findRegistrationToken
    (order : IterationOrder) (token : String) (state : MemoryState) :
    Option NodeRegistrationTokenRecord :=
  (order.arrange state.nodeRegistrationTokens.values).find?
    (fun record => record.token = token)

def registerNodeWithRegistrationToken
    (tenantId : String) (now : DateTime) (order : IterationOrder)
    (node : NodeRecord) (registrationToken : String)
    (state : MemoryState) :
    StoreResult NodeRegistrationTokenRecord × MemoryState :=
  match findRegistrationToken order registrationToken state with
  | none => (.error (.notFound "node_registration_token"), state)
  | some existing =>
      if existing.status ≠ "active" then
        (.error (.conflict "registration token already consumed"), state)
      else
        let state := record tenantId "runner" "node.registered" "node"
          node.nodeId now
          { state with nodes := state.nodes.insert node.nodeId node }
        let updated := existing.markUsed node.nodeId now
        (.ok updated,
          record updated.tenantId "runner" "node_registration_token.used"
            "node_registration_token" updated.tokenId now
            { state with
              nodeRegistrationTokens :=
                state.nodeRegistrationTokens.insert updated.tokenId updated })

def listNodes (order : IterationOrder) (state : MemoryState) :
    StoreResult (List NodeRecord) :=
  .ok ((order.arrange state.nodes.values).mergeSort
    (fun left right => left.nodeId ≤ right.nodeId))

def createNodeRegistrationToken
    (now : DateTime) (token : NodeRegistrationTokenRecord)
    (state : MemoryState) : StoreResult Unit × MemoryState :=
  if state.nodeRegistrationTokens.values.any
      (fun record => record.token = token.token) then
    (.ok (), state)
  else
    (.ok (),
      record token.tenantId "admin" "node_registration_token.issued"
        "node_registration_token" token.tokenId now
        { state with
          nodeRegistrationTokens :=
            state.nodeRegistrationTokens.insert token.tokenId token })

def listNodeRegistrationTokens
    (order : IterationOrder) (state : MemoryState) :
    StoreResult (List NodeRegistrationTokenRecord) :=
  .ok ((order.arrange state.nodeRegistrationTokens.values).mergeSort
    (fun left right => left.createdAt ≤ right.createdAt))

def nodeRegistrationToken
    (order : IterationOrder) (token : String) (state : MemoryState) :
    StoreResult NodeRegistrationTokenRecord :=
  okOr (findRegistrationToken order token state)
    (.notFound "node_registration_token")

def consumeNodeRegistrationToken
    (now : DateTime) (order : IterationOrder) (token nodeId : String)
    (state : MemoryState) :
    StoreResult NodeRegistrationTokenRecord × MemoryState :=
  match findRegistrationToken order token state with
  | none => (.error (.notFound "node_registration_token"), state)
  | some existing =>
      let updated := existing.markUsed nodeId now
      (.ok updated,
        record updated.tenantId "runner" "node_registration_token.used"
          "node_registration_token" updated.tokenId now
          { state with
            nodeRegistrationTokens :=
              state.nodeRegistrationTokens.insert updated.tokenId updated })

def recordHeartbeat
    (tenantId : String) (now : DateTime) (heartbeat : HeartbeatRecord)
    (state : MemoryState) : StoreResult Unit × MemoryState :=
  if state.nodes.containsKey heartbeat.nodeId then
    (.ok (),
      record tenantId "runner" "node.heartbeat" "node" heartbeat.nodeId now
        { state with
          heartbeats := state.heartbeats.insert heartbeat.nodeId heartbeat })
  else
    (.error (.notFound ("node:" ++ heartbeat.nodeId)), state)

def latestHeartbeat (nodeId : String) (state : MemoryState) :
    StoreResult HeartbeatRecord :=
  okOr (state.heartbeats.get nodeId) (.notFound ("heartbeat:" ++ nodeId))

def node (nodeId : String) (state : MemoryState) : StoreResult NodeRecord :=
  okOr (state.nodes.get nodeId) (.notFound ("node:" ++ nodeId))

def updateNodeRunnerResultPublicKey
    (tenantId : String) (now : DateTime) (nodeId publicKeyHex : String)
    (state : MemoryState) : StoreResult NodeRecord × MemoryState :=
  match state.nodes.get nodeId with
  | none => (.error (.notFound ("node:" ++ nodeId)), state)
  | some node =>
      let node := { node with runnerResultPublicKeyHex := publicKeyHex }
      (.ok node,
        record tenantId "admin" "node.runner_result_key_rotated" "node"
          nodeId now
          { state with nodes := state.nodes.insert nodeId node })

/-! ## Profiles and credentials -/

def createProfile
    (tenantId : String) (now : DateTime) (profile : ProfileRecord)
    (state : MemoryState) : StoreResult Unit × MemoryState :=
  (.ok (),
    record tenantId "admin" "profile.created" "profile" profile.profileId now
      { state with
        profiles := state.profiles.insert profile.profileId profile })

def listProfiles (order : IterationOrder) (state : MemoryState) :
    StoreResult (List ProfileRecord) :=
  .ok ((order.arrange state.profiles.values).mergeSort
    (fun left right => left.profileId ≤ right.profileId))

def profile (profileId : String) (state : MemoryState) :
    StoreResult ProfileRecord :=
  okOr (state.profiles.get profileId) (.notFound ("profile:" ++ profileId))

def credentialsOf (profileId : String) (state : MemoryState) :
    List Credential :=
  (state.credentialsByProfile.get profileId).getD []

def addCredential
    (tenantId : String) (now : DateTime)
    (profileId : String) (credential : Credential)
    (state : MemoryState) : StoreResult Unit × MemoryState :=
  if state.profiles.containsKey profileId then
    (.ok (),
      record tenantId "admin" "client.created" "client" credential.id now
        { state with
          credentialsByProfile :=
            state.credentialsByProfile.insert profileId
              (credentialsOf profileId state ++ [credential]) })
  else
    (.error (.notFound ("profile:" ++ profileId)), state)

/-- The lexicographic order of profile and credential ids. -/
def credentialRecordLe (left right : CredentialRecord) : Bool :=
  left.profileId < right.profileId ||
    (left.profileId = right.profileId &&
      left.credential.id ≤ right.credential.id)

def listCredentials (order : IterationOrder) (state : MemoryState) :
    StoreResult (List CredentialRecord) :=
  .ok (((order.arrange state.credentialsByProfile.entries).flatMap
    (fun entry => entry.2.map (fun credential => ⟨entry.1, credential⟩))).mergeSort
      credentialRecordLe)

def credentialsForProfile (profileId : String) (state : MemoryState) :
    StoreResult (List Credential) :=
  .ok (credentialsOf profileId state)

/-! ## Artifacts -/

def recordArtifact
    (tenantId : String) (now : DateTime) (artifact : Artifact)
    (state : MemoryState) : StoreResult Unit × MemoryState :=
  (.ok (),
    record tenantId "control-plane" "artifact.created" "artifact"
      artifact.id now
      { state with artifacts := state.artifacts.insert artifact.id artifact })

def recordArtifactBlob
    (crates : Crates) (tenantId : String) (now : DateTime)
    (artifact : Artifact) (bytes : Bytes)
    (state : MemoryState) : StoreResult Unit × MemoryState :=
  let actual := hexSha256 crates bytes
  if actual ≠ artifact.sha256 then
    (.error (.artifactShaMismatch artifact.sha256 actual), state)
  else
    (.ok (),
      record tenantId "control-plane" "artifact.created" "artifact"
        artifact.id now
        { state with
          artifactBlobsBySha256 :=
            state.artifactBlobsBySha256.insert artifact.sha256 bytes
          artifacts := state.artifacts.insert artifact.id artifact })

def artifactBytesBySha256 (sha256 : String) (state : MemoryState) :
    StoreResult Bytes :=
  okOr (state.artifactBlobsBySha256.get sha256)
    (.notFound ("artifact_blob:" ++ sha256))

def artifactBytes (artifactId : String) (state : MemoryState) :
    StoreResult Bytes := do
  let artifact ← okOr (state.artifacts.get artifactId)
    (.notFound ("artifact:" ++ artifactId))
  artifactBytesBySha256 artifact.sha256 state

/-! ## Deployments -/

/-- Whether the last recorded status of a deployment is a success. -/
def hasSucceeded (state : MemoryState) (deploymentId : String) : Bool :=
  state.deploymentStatuses.get deploymentId = some .succeeded

/-- The newest succeeded deployment of a node. -/
def previousDeployment
    (order : IterationOrder) (nodeId : String) (state : MemoryState) :
    Option DeploymentPlanRecord :=
  maxByKey (fun candidate => candidate.createdAt)
    ((order.arrange state.deployments.values).filter (fun candidate =>
      candidate.nodeId = nodeId && hasSucceeded state candidate.deploymentId))

def recordDeploymentPlan
    (tenantId : String) (now : DateTime) (order : IterationOrder)
    (deployment : DeploymentPlanRecord)
    (state : MemoryState) : StoreResult Unit × MemoryState :=
  let previous := previousDeployment order deployment.nodeId state
  let rollbackPointer :=
    RollbackPointerRecord.new deployment
      (previous.map (fun candidate => candidate.deploymentId))
      (previous.map (fun candidate => candidate.compiledConfigArtifactId))
      now
  (.ok (),
    record tenantId "admin" "deployment.planned" "deployment"
      deployment.deploymentId now
      { state with
        deployments :=
          state.deployments.insert deployment.deploymentId deployment
        deploymentStatuses :=
          state.deploymentStatuses.insert deployment.deploymentId .pending
        rollbackPointers :=
          state.rollbackPointers.insert deployment.deploymentId
            rollbackPointer })

/-- Newest first; equal instants are ordered by id. -/
def deploymentPlanLe (left right : DeploymentPlanRecord) : Bool :=
  right.createdAt < left.createdAt ||
    (left.createdAt = right.createdAt &&
      left.deploymentId ≤ right.deploymentId)

def listDeploymentPlans (order : IterationOrder) (state : MemoryState) :
    StoreResult (List DeploymentPlanRecord) :=
  .ok ((order.arrange state.deployments.values).mergeSort deploymentPlanLe)

/-- The cache is keyed by the idempotency key alone. -/
def idempotencyResponse (key : String) (state : MemoryState) :
    StoreResult (Option Json.Value) :=
  .ok (state.idempotencyResponses.get key)

def recordIdempotencyResponse
    (key : String) (responseJson : Json.Value)
    (state : MemoryState) : StoreResult Unit × MemoryState :=
  if state.idempotencyResponses.containsKey key then
    (.ok (), state)
  else
    (.ok (),
      { state with
        idempotencyResponses :=
          state.idempotencyResponses.insert key responseJson })

def recordDeploymentResult
    (crates : Crates) (tenantId : String) (now : DateTime)
    (result : DeploymentResult)
    (state : MemoryState) : StoreResult Unit × MemoryState :=
  match state.deployments.get result.deploymentId with
  | none =>
      (.error (.notFound ("deployment:" ++ result.deploymentId)), state)
  | some deployment =>
      (.ok (),
        record tenantId "runner" "deployment.result" "deployment"
          result.deploymentId now
          { state with
            deploymentStatuses :=
              state.deploymentStatuses.insert result.deploymentId
                result.status
            deploymentSnapshots :=
              state.deploymentSnapshots.insert result.deploymentId
                (.fromResult deployment result now)
            deploymentHealthChecks :=
              state.deploymentHealthChecks ++
                [.fromResult crates deployment result now] })

def deploymentStatus (deploymentId : String) (state : MemoryState) :
    StoreResult DeploymentStatus :=
  okOr (state.deploymentStatuses.get deploymentId)
    (.notFound ("deployment:" ++ deploymentId))

def rollbackPointer (deploymentId : String) (state : MemoryState) :
    StoreResult RollbackPointerRecord :=
  okOr (state.rollbackPointers.get deploymentId)
    (.notFound ("rollback_pointer:" ++ deploymentId))

def deploymentSnapshot (deploymentId : String) (state : MemoryState) :
    StoreResult DeploymentSnapshotRecord :=
  okOr (state.deploymentSnapshots.get deploymentId)
    (.notFound ("deployment_snapshot:" ++ deploymentId))

/-- The health checks recorded for one deployment, oldest first. -/
def healthChecksOf (deploymentId : String) (state : MemoryState) :
    List DeploymentHealthCheckRecord :=
  state.deploymentHealthChecks.filter
    (fun health => health.deploymentId = deploymentId)

def latestDeploymentHealth (deploymentId : String) (state : MemoryState) :
    StoreResult DeploymentHealthCheckRecord :=
  okOr
    (maxByKey (fun health => health.createdAt)
      (healthChecksOf deploymentId state))
    (.notFound ("deployment_health:" ++ deploymentId))

def recordDeploymentHealthCheck
    (tenantId : String) (now : DateTime)
    (health : DeploymentHealthCheckRecord)
    (state : MemoryState) : StoreResult Unit × MemoryState :=
  match state.deployments.get health.deploymentId with
  | none =>
      (.error (.notFound ("deployment:" ++ health.deploymentId)), state)
  | some deployment =>
      if deployment.nodeId ≠ health.nodeId then
        (.error (.notFound
          ("deployment:" ++ health.deploymentId ++ ":node:" ++ health.nodeId)),
          state)
      else
        (.ok (),
          record tenantId "runner" "deployment.health" "deployment"
            health.deploymentId now
            { state with
              deploymentHealthChecks :=
                state.deploymentHealthChecks ++ [health] })

def deploymentHealthChecks (deploymentId : String) (state : MemoryState) :
    StoreResult (List DeploymentHealthCheckRecord) :=
  if state.deployments.containsKey deploymentId then
    .ok (healthChecksOf deploymentId state)
  else
    .error (.notFound ("deployment:" ++ deploymentId))

/-! ## Usage, quotas and expiry -/

/-- One sample added to the rollup of one bucket. -/
def addToRollup
    (usage : UsageSampleRecord)
    (rollups : HashTable RollupKey UsageRollupRecord)
    (bucket : String × DateTime) : HashTable RollupKey UsageRollupRecord :=
  let key : RollupKey := (usage.credentialId, bucket.1, bucket.2)
  let rollup := (rollups.get key).getD {
    tenantId := usage.tenantId
    credentialId := usage.credentialId
    bucket := bucket.1
    bucketStart := bucket.2
    uplinkBytes := 0
    downlinkBytes := 0 }
  rollups.insert key
    { rollup with
      uplinkBytes := rollup.uplinkBytes + usage.uplinkBytes
      downlinkBytes := rollup.downlinkBytes + usage.downlinkBytes }

def recordUsageSample
    (usage : UsageSampleRecord)
    (state : MemoryState) : StoreResult Unit × MemoryState :=
  if state.nodes.containsKey usage.nodeId then
    match usageBucketStarts usage.sampledAt with
    | none => (.error (.panicked "valid unix bucket"), state)
    | some buckets =>
        (.ok (),
          { state with
            usageRollups := buckets.foldl (addToRollup usage) state.usageRollups
            usageSamples := state.usageSamples ++ [usage] })
  else
    (.error (.notFound ("node:" ++ usage.nodeId)), state)

def latestUsageSample (nodeId : String) (state : MemoryState) :
    StoreResult UsageSampleRecord :=
  okOr
    (maxByKey (fun usage => usage.sampledAt)
      (state.usageSamples.filter (fun usage => usage.nodeId = nodeId)))
    (.notFound ("usage:" ++ nodeId))

def latestUsageRollupForCredential
    (order : IterationOrder) (credentialId bucket : String)
    (state : MemoryState) : StoreResult UsageRollupRecord :=
  okOr
    (maxByKey (fun rollup => rollup.bucketStart)
      ((order.arrange state.usageRollups.values).filter (fun rollup =>
        rollup.credentialId = some credentialId && rollup.bucket = bucket)))
    (.notFound ("usage_rollup:" ++ credentialId ++ ":" ++ bucket))

def setCredentialQuota
    (credentialId : String) (quotaBytes : Int64)
    (state : MemoryState) : StoreResult Unit × MemoryState :=
  (.ok (),
    { state with
      credentialQuotas := state.credentialQuotas.insert credentialId quotaBytes })

/-- Sums wrap at 64 bits, as in a release build. -/
def usedBytes (rollups : List UsageRollupRecord) : Int64 :=
  (rollups.map (fun rollup => rollup.uplinkBytes + rollup.downlinkBytes)).foldl
    (· + ·) 0

/-- The quota decision looks at the hour rollups of the credential. -/
def credentialQuotaDecision (credentialId : String) (state : MemoryState) :
    StoreResult CredentialQuotaDecision := do
  let quotaBytes ← okOr (state.credentialQuotas.get credentialId)
    (.notFound ("credential_quota:" ++ credentialId))
  return quotaDecision credentialId quotaBytes
    (usedBytes (state.usageRollups.values.filter (fun rollup =>
      rollup.credentialId = some credentialId && rollup.bucket = "hour")))

/-- The subscription filter looks at every rollup of the credential. -/
def credentialQuotaExceededInMemory
    (state : MemoryState) (credentialId : String) : Bool :=
  match state.credentialQuotas.get credentialId with
  | none => false
  | some quotaBytes =>
      quotaBytes < usedBytes (state.usageRollups.values.filter (fun rollup =>
        rollup.credentialId = some credentialId))

def setCredentialExpiry
    (credentialId : String) (expiresAt : DateTime)
    (state : MemoryState) : StoreResult Unit × MemoryState :=
  (.ok (),
    { state with
      credentialExpirations :=
        state.credentialExpirations.insert credentialId expiresAt })

def credentialExpiryDecision
    (now : DateTime) (credentialId : String) (state : MemoryState) :
    StoreResult CredentialExpiryDecision :=
  if state.credentialsByProfile.values.flatten.any
      (fun credential => credential.id = credentialId) then
    .ok (expiryDecision credentialId
      (state.credentialExpirations.get credentialId) now)
  else
    .error (.notFound ("credential:" ++ credentialId))

def credentialExpiredInMemory
    (state : MemoryState) (credentialId : String) (now : DateTime) : Bool :=
  (expiryDecision credentialId
    (state.credentialExpirations.get credentialId) now).expired

/-! ## Runner commands -/

/-- The queue of a node; a node without an entry has none. -/
def queueOf (nodeId : String) (state : MemoryState) :
    List SignedRunnerCommand :=
  (state.runnerCommands.get nodeId).getD []

def enqueueRunnerCommand
    (nodeId : String) (command : SignedRunnerCommand)
    (state : MemoryState) : StoreResult Unit × MemoryState :=
  (.ok (),
    { state with
      runnerCommands :=
        state.runnerCommands.insert nodeId (queueOf nodeId state ++ [command]) })

/-- Stale commands at the front are dropped, then the front is delivered. -/
def nextRunnerCommand
    (nodeId : String) (lastSequence : UInt64)
    (state : MemoryState) :
    StoreResult (Option SignedRunnerCommand) × MemoryState :=
  match state.runnerCommands.get nodeId with
  | none => (.ok none, state)
  | some queue =>
      let queue := queue.dropWhile
        (fun front => front.command.sequence ≤ lastSequence)
      (.ok queue.head?,
        { state with
          runnerCommands := state.runnerCommands.insert nodeId queue.tail })

/-! ## Subscriptions -/

def auditCount (state : MemoryState) : StoreResult Nat :=
  .ok state.auditEvents.length

def outboxCount (state : MemoryState) : StoreResult Nat :=
  .ok state.outbox.length

/-- The server name of the first inbound; without security, the node's host. -/
def subscriptionServerName (inbound : Inbound) (node : NodeRecord) : String :=
  match inbound.security with
  | .reality serverName _ _ => serverName
  | .tls serverName => serverName
  | .none => node.host

def deployedProfileForSubscription
    (now : DateTime) (order : IterationOrder) (profileId : String)
    (state : MemoryState) : StoreResult DeployedProfile := do
  let profile ← profile profileId state
  let node ← okOr (order.arrange state.nodes.values).head?
    (.notFound "node:any")
  let firstInbound ← okOr profile.ir.inbounds.head?
    (.notFound "profile inbound")
  return {
    profileId := profileId
    host := node.host
    port := firstInbound.port
    realityServerName := subscriptionServerName firstInbound node
    credentials := (credentialsOf profileId state).filter (fun credential =>
      !credentialQuotaExceededInMemory state credential.id &&
        !credentialExpiredInMemory state credential.id now) }

/-- `id` and `secret` are the fresh UUIDs of the new token. -/
def issueSubscriptionToken
    (crates : Crates) (tenantId : String) (now : DateTime)
    (id secret : String) (profileId : String)
    (state : MemoryState) :
    StoreResult IssuedSubscriptionToken × MemoryState :=
  if state.profiles.containsKey profileId then
    let issued := newSubscriptionToken profileId id secret
    (.ok issued,
      record tenantId "admin" "subscription_token.issued" "profile"
        profileId now
        { state with
          subscriptionTokens :=
            state.subscriptionTokens.insert issued.tokenId
              (subscriptionTokenRecord crates tenantId issued now) })
  else
    (.error (.notFound ("profile:" ++ profileId)), state)

/-- An active token of the profile becomes a rotated one. -/
def rotateToken
    (profileId : String) (now : DateTime)
    (token : SubscriptionTokenRecord) : SubscriptionTokenRecord :=
  if token.profileId = profileId ∧ token.status = "active" then
    { token with status := "rotated", rotatedAt := some now }
  else
    token

def rotateSubscriptionToken
    (crates : Crates) (tenantId : String) (now : DateTime)
    (id secret : String) (profileId : String)
    (state : MemoryState) :
    StoreResult IssuedSubscriptionToken × MemoryState :=
  if state.profiles.containsKey profileId then
    let issued := newSubscriptionToken profileId id secret
    (.ok issued,
      record tenantId "admin" "subscription_token.rotated" "profile"
        profileId now
        { state with
          subscriptionTokens :=
            (state.subscriptionTokens.mapValues
              (rotateToken profileId now)).insert issued.tokenId
                (subscriptionTokenRecord crates tenantId issued now) })
  else
    (.error (.notFound ("profile:" ++ profileId)), state)

def verifySubscriptionToken
    (crates : Crates) (order : IterationOrder) (profileId token : String)
    (state : MemoryState) : StoreResult SubscriptionTokenRecord :=
  okOr
    ((order.arrange state.subscriptionTokens.values).find? (fun record =>
      record.profileId = profileId &&
        record.tokenHash = subscriptionTokenHash crates token &&
        record.status = "active"))
    (.notFound ("subscription_token:" ++ profileId))

def subscriptionTokenRequired (profileId : String) (state : MemoryState) :
    StoreResult Bool :=
  if state.profiles.containsKey profileId then
    .ok (state.subscriptionTokens.values.any (fun token =>
      token.profileId = profileId && token.status = "active"))
  else
    .error (.notFound ("profile:" ++ profileId))

def recordSubscriptionAccess
    (now : DateTime)
    (tokenId : String) (remoteAddr userAgent : Option String) (status : String)
    (state : MemoryState) : StoreResult Unit × MemoryState :=
  if state.subscriptionTokens.containsKey tokenId then
    (.ok (),
      { state with
        subscriptionAccessLogs := state.subscriptionAccessLogs ++ [{
          tokenId := tokenId
          remoteAddr := remoteAddr
          userAgent := userAgent
          status := status
          createdAt := now }] })
  else
    (.error (.notFound ("subscription_token:" ++ tokenId)), state)

def subscriptionAccessLogCount (tokenId : String) (state : MemoryState) :
    StoreResult Nat :=
  .ok (state.subscriptionAccessLogs.countP (fun log => log.tokenId = tokenId))

end MemoryStore
end ProxyControl
