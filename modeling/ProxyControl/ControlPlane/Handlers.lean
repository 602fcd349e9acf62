import ProxyControl.CompilerXray
import ProxyControl.ControlPlane.AppState
import ProxyControl.Subscription

/-!
# The handlers of the control plane

One handler for each route, in the order of the router; the static routes
answer a constant and are left out.  Every `await` of the source is one call.
-/

namespace ProxyControl

open Calendar

/-- Request headers; a value that is no visible ASCII text is `none`. -/
abbrev Headers : Type :=
  List (String × Option String)

/-- The text of a header, if it is present and readable. -/
def headerText (headers : Headers) (name : String) : Option String :=
  (headers.lookup name).join

def devRealityPrivateKey : String :=
  "qKQ2RRX4uDMX5W-8JbyE8lcl3TVGeM5KAwkbTnEX1VM"

namespace AppState

def runnerTokenValid (state : AppState) (headers : Headers) : Bool :=
  headerText headers "x-runner-token" = some state.runnerApiToken

def optionalHeaderValue (headers : Headers) (name : String) :
    Handler (Option String) :=
  match headers.lookup name with
  | none => return none
  | some none => throw ⟨400, "invalid " ++ name ++ " header"⟩
  | some (some value) => return some value

def parseRunnerResultPublicKeyHex
    (crates : Crates) (publicKeyHex : String) : Except String VerifyingKey :=
  match Hex.decode publicKeyHex with
  | none => .error "invalid runner result public key hex"
  | some bytes =>
      if bytes.length ≠ 32 then
        .error "invalid runner result public key length"
      else
        match crates.verifyingKeyFromBytes bytes with
        | none => .error "invalid runner result public key"
        | some key => .ok key

/-- A node without a key of its own has the default key. -/
def runnerResultVerifyKeyForNode
    (crates : Crates) (state : AppState) (node : NodeRecord) :
    Except String VerifyingKey :=
  if node.runnerResultPublicKeyHex.isEmpty then
    .ok state.runnerResultVerifyKey
  else
    parseRunnerResultPublicKeyHex crates node.runnerResultPublicKeyHex

/-- A request without the runner token is answered with a bare 401. -/
def requireRunnerToken (state : AppState) (headers : Headers) : Handler Unit :=
  if state.runnerTokenValid headers then
    return ()
  else
    throw ⟨401, ""⟩

/-! ## Nodes and registration tokens -/

def ensureDefaultRegistrationToken (state : AppState) : Handler Unit := do
  let record := NodeRegistrationTokenRecord.new state.tenantId "regtok-dev"
    state.defaultRegistrationToken (← Handler.now)
  Handler.store (.createNodeRegistrationToken record)

structure RegisterNodeRequest where
  registrationToken : String
  nodeId : String
  xrayVersion : String
  runnerResultPublicKeyHex : Option String
deriving DecidableEq

structure RegisterNodeResponse where
  nodeId : String
  status : String
deriving DecidableEq

def registerNode (state : AppState) (req : RegisterNodeRequest) :
    Handler RegisterNodeResponse := do
  state.ensureDefaultRegistrationToken
  let publicKeyHex := req.runnerResultPublicKeyHex.getD
    (Hex.encode state.runnerResultVerifyKey.bytes)
  let node := (NodeRecord.new state.tenantId req.nodeId
    (req.nodeId ++ ".example") req.xrayVersion
    (← Handler.now)).withRunnerResultPublicKeyHex publicKeyHex
  match ← Handler.perform
      (.store (.registerNodeWithRegistrationToken node
        req.registrationToken)) with
  | .ok _ => return ⟨req.nodeId, "registered"⟩
  | .error (.notFound _) => throw ⟨401, "invalid registration token"⟩
  | .error other => throw (toHttpError other)

def listNodes : Handler (List NodeRecord) :=
  Handler.store .listNodes

def listRegistrationTokens (state : AppState) :
    Handler (List NodeRegistrationTokenRecord) := do
  state.ensureDefaultRegistrationToken
  Handler.store .listNodeRegistrationTokens

def issueRegistrationToken (state : AppState) (token : Option String) :
    Handler NodeRegistrationTokenRecord := do
  state.ensureDefaultRegistrationToken
  let token ← match token with
    | some token => pure token
    | none => (fun id => "node-reg-" ++ id) <$> Handler.uuid
  match ← Handler.perform (.store (.nodeRegistrationToken token)) with
  | .ok _ => throw ⟨409, "registration token already exists"⟩
  | .error (.notFound _) => do
      let record := NodeRegistrationTokenRecord.new state.tenantId
        ("regtok-" ++ (← Handler.uuid)) token (← Handler.now)
      Handler.store (.createNodeRegistrationToken record)
      return record
  | .error other => throw (toHttpError other)

structure RotateRunnerResultKeyResponse where
  nodeId : String
  status : String
  runnerResultPublicKeyHex : String
deriving DecidableEq

def rotateRunnerResultKey
    (crates : Crates) (nodeId publicKeyHex : String) :
    Handler RotateRunnerResultKeyResponse := do
  let _ ← Handler.orStatus 400 (parseRunnerResultPublicKeyHex crates publicKeyHex)
  let node ← Handler.store (.updateNodeRunnerResultPublicKey nodeId publicKeyHex)
  return ⟨nodeId, "rotated", node.runnerResultPublicKeyHex⟩

/-! ## Heartbeats and usage -/

structure RunnerAccepted where
  nodeId : String
  accepted : Bool
deriving DecidableEq

def runnerHeartbeat
    (state : AppState) (nodeId : String) (headers : Headers)
    (capabilitySnapshot : Json.Value) : Handler RunnerAccepted := do
  state.requireRunnerToken headers
  let heartbeat : HeartbeatRecord :=
    ⟨state.tenantId, nodeId, capabilitySnapshot, ← Handler.now⟩
  Handler.store (.recordHeartbeat heartbeat)
  return ⟨nodeId, true⟩

structure NodeHeartbeatResponse where
  nodeId : String
  capabilitySnapshot : Json.Value
  observedAt : DateTime

def getNodeHeartbeat (nodeId : String) : Handler NodeHeartbeatResponse := do
  let heartbeat ← Handler.store (.latestHeartbeat nodeId)
  return ⟨heartbeat.nodeId, heartbeat.capabilitySnapshot, heartbeat.createdAt⟩

structure RunnerUsageRequest where
  credentialId : Option String
  uplinkBytes : Int64
  downlinkBytes : Int64
  sampledAt : Option DateTime
deriving DecidableEq

def runnerUsage
    (state : AppState) (nodeId : String) (headers : Headers)
    (req : RunnerUsageRequest) : Handler RunnerAccepted := do
  state.requireRunnerToken headers
  let sampledAt ← match req.sampledAt with
    | some sampledAt => pure sampledAt
    | none => Handler.now
  Handler.store (.recordUsageSample
    ⟨state.tenantId, nodeId, req.credentialId, req.uplinkBytes,
      req.downlinkBytes, sampledAt⟩)
  return ⟨nodeId, true⟩

def getLatestUsage (nodeId : String) : Handler UsageSampleRecord :=
  Handler.store (.latestUsageSample nodeId)

def getLatestUsageRollup (credentialId : String) (bucket : Option String) :
    Handler UsageRollupRecord :=
  Handler.store (.latestUsageRollupForCredential credentialId
    (bucket.getD "hour"))

/-! ## Profiles and clients -/

structure ProfileInventoryItem where
  profileId : String
  protocol : String
  core : String
  inboundCount : Nat
  credentialCount : Nat
  createdAt : DateTime
deriving DecidableEq

def profileProtocolLabel (ir : ProfileIr) : String :=
  match ir.inbounds.head? with
  | none => "unknown"
  | some inbound =>
      match inbound.protocol, inbound.security with
      | .vless, .reality .. => "vless-reality"
      | .vless, .tls _ => "vless-tls"
      | .vless, .none => "vless"
      | .shadowsocks, _ => "shadowsocks"
      | .trojan, _ => "trojan"

def listProfiles : Handler (List ProfileInventoryItem) := do
  let profiles ← Handler.store .listProfiles
  profiles.mapM fun profile => do
    let credentials ←
      Handler.store (.credentialsForProfile profile.profileId)
    return {
      profileId := profile.profileId
      protocol := profileProtocolLabel profile.ir
      core := profile.ir.runtime.core
      inboundCount := profile.ir.inbounds.length
      credentialCount := credentials.length
      createdAt := profile.createdAt }

structure CreateProfileResponse where
  profileId : String
  status : String
deriving DecidableEq

/-- The common end of the three profile endpoints. -/
def storeProfile (state : AppState) (profileId : String) (ir : ProfileIr) :
    Handler CreateProfileResponse := do
  let profile : ProfileRecord :=
    ⟨state.tenantId, profileId, ir, ← Handler.now⟩
  Handler.store (.createProfile profile)
  return ⟨profileId, "created"⟩

/-- The example profile with the server name of its first inbound replaced. -/
def vlessRealityIr (serverName : String) : ProfileIr :=
  let ir := ProfileIr.vlessRealityExample "group_default" "sec_reality_private"
  { ir with
    inbounds := ir.inbounds.modifyHead fun inbound =>
      match inbound.security with
      | .reality _ privateKeyRef shortIds =>
          { inbound with
            security := .reality serverName privateKeyRef shortIds }
      | _ => inbound }

def createVlessRealityProfile
    (state : AppState) (profileId serverName : String) :
    Handler CreateProfileResponse := do
  let ir := vlessRealityIr serverName
  Handler.orStatus 400 (ir.validate.mapError DomainError.message)
  state.storeProfile profileId ir

/-- The one-inbound profile of the two password protocols. -/
def passwordIr
    (inbound : Inbound) (credentialPolicy : String) : ProfileIr where
  schemaVersion := "0.1"
  runtime := { core := "xray", coreVersion := "1.x" }
  inbounds := [inbound]
  clientGroups := [{
    id := "group_default"
    credentialPolicy := credentialPolicy
    quotaPolicyRef := none }]
  routes := []
  dns := { mode := "system" }

def createShadowsocksProfile
    (state : AppState) (profileId : String) (port : Option UInt16) :
    Handler CreateProfileResponse :=
  state.storeProfile profileId (passwordIr
    { id := "in_ss"
      protocol := .shadowsocks
      listen := "0.0.0.0"
      port := port.getD 8388
      security := .none
      clientGroupRefs := ["group_default"] }
    "shadowsocks_password")

def createTrojanProfile
    (state : AppState) (profileId serverName : String)
    (port : Option UInt16) : Handler CreateProfileResponse :=
  state.storeProfile profileId (passwordIr
    { id := "in_trojan"
      protocol := .trojan
      listen := "0.0.0.0"
      port := port.getD 443
      security := .tls serverName
      clientGroupRefs := ["group_default"] }
    "trojan_password")

structure ClientInventoryItem where
  clientId : String
  profileId : String
  displayName : String
  kind : String
  status : String
deriving DecidableEq

def credentialKindLabel : CredentialMaterial → String
  | .vlessUuid _ => "vless"
  | .shadowsocksPassword .. => "shadowsocks"
  | .trojanPassword _ => "trojan"

def credentialStatusLabel : CredentialStatus → String
  | .active => "active"
  | .revoked => "revoked"
  | .expired => "expired"

def listClients : Handler (List ClientInventoryItem) := do
  let credentials ← Handler.store .listCredentials
  return credentials.map fun record => {
    clientId := record.credential.id
    profileId := record.profileId
    displayName := record.credential.displayName
    kind := credentialKindLabel record.credential.material
    status := credentialStatusLabel record.credential.status }

structure CreateClientRequest where
  clientId : String
  profileId : String
  displayName : String
  uuid : Option String
  kind : Option String
  method : Option String
  password : Option String
  quotaBytes : Option Int64
  expiresAt : Option DateTime
deriving DecidableEq

/-- The credential a client request asks for, or why it is refused. -/
def requestedCredential (req : CreateClientRequest) :
    Except String Credential :=
  let required (value : Option String) (name : String) :
      Except String String :=
    match value with
    | some value => .ok value
    | none => .error (name ++ " is required")
  let credential (material : CredentialMaterial) : Credential :=
    ⟨req.clientId, "group_default", req.displayName, .active, material⟩
  let kind := req.kind.getD "vless"
  if kind = "vless" then do
    return .activeVless req.clientId "group_default"
      (← required req.uuid "uuid") req.displayName
  else if kind = "shadowsocks" then do
    return credential (.shadowsocksPassword
      (← required req.method "method")
      (← required req.password "password"))
  else if kind = "trojan" then do
    return credential (.trojanPassword (← required req.password "password"))
  else
    .error ("unsupported client kind: " ++ kind)

structure CreateClientResponse where
  clientId : String
  status : String
deriving DecidableEq

def createClient (req : CreateClientRequest) :
    Handler CreateClientResponse := do
  let credential ← Handler.orStatus 400 (requestedCredential req)
  Handler.store (.addCredential req.profileId credential)
  match req.quotaBytes with
  | some quotaBytes =>
      Handler.store (.setCredentialQuota req.clientId quotaBytes)
  | none => pure ()
  match req.expiresAt with
  | some expiresAt =>
      Handler.store (.setCredentialExpiry req.clientId expiresAt)
  | none => pure ()
  return ⟨req.clientId, "created"⟩

def getClientQuota (clientId : String) : Handler CredentialQuotaDecision :=
  Handler.store (.credentialQuotaDecision clientId)

def getClientExpiry (clientId : String) : Handler CredentialExpiryDecision :=
  Handler.store (.credentialExpiryDecision clientId)

/-! ## Deployments -/

structure DeploymentInventoryItem where
  deploymentId : String
  nodeId : String
  profileId : String
  compiledConfigArtifactId : String
  status : String
  createdAt : DateTime
deriving DecidableEq

def listDeployments : Handler (List DeploymentInventoryItem) := do
  let plans ← Handler.store .listDeploymentPlans
  plans.mapM fun plan => do
    let status ← Handler.store (.deploymentStatus plan.deploymentId)
    return {
      deploymentId := plan.deploymentId
      nodeId := plan.nodeId
      profileId := plan.profileId
      compiledConfigArtifactId := plan.compiledConfigArtifactId
      status := status.label
      createdAt := plan.createdAt }

structure CompileDeploymentRequest where
  profileId : String
  nodeId : String
deriving DecidableEq

structure CompileDeploymentResponse where
  status : String
  artifact : Artifact
  deploymentPlan : DeploymentPlan
  auditCount : Nat
  outboxCount : Nat
deriving DecidableEq

/-- An artifact of a compile response as a JSON map. -/
def artifactValue (crates : Crates) (artifact : Artifact) : Json.Value :=
  Json.mapOf [
    ("id", .string artifact.id),
    ("tenant_id", .string artifact.tenantId),
    ("kind", .string artifact.kind.label),
    ("schema_version", .string artifact.schemaVersion),
    ("media_type", .string artifact.mediaType),
    ("sha256", .string artifact.sha256),
    ("storage_uri", .string artifact.storageUri),
    ("redaction_status", .string artifact.redactionStatus.label),
    ("created_by", .string artifact.createdBy),
    ("created_at", .string (crates.rfc3339 artifact.createdAt))]

def deploymentPlanValue (crates : Crates) (plan : DeploymentPlan) :
    Json.Value :=
  Json.mapOf [
    ("target_node_id", .string plan.targetNodeId),
    ("target_profile_version_id", .string plan.targetProfileVersionId),
    ("compiled_config_artifact_id", .string plan.compiledConfigArtifactId),
    ("core_kind", .string plan.coreKind),
    ("core_version", .string plan.coreVersion),
    ("assets_version", .string plan.assetsVersion),
    ("rollback_pointer_id", .string plan.rollbackPointerId),
    ("created_by", .string plan.createdBy),
    ("created_at", .string (crates.rfc3339 plan.createdAt))]

def CompileDeploymentResponse.toValue
    (crates : Crates) (self : CompileDeploymentResponse) : Json.Value :=
  Json.mapOf [
    ("status", .string self.status),
    ("artifact", artifactValue crates self.artifact),
    ("deployment_plan", deploymentPlanValue crates self.deploymentPlan),
    ("audit_count", .number (.posInt self.auditCount.toUInt64)),
    ("outbox_count", .number (.posInt self.outboxCount.toUInt64))]

/-- The two bodies of a 201 response: an earlier one replayed, or a new one. -/
inductive CompileReply
  | cached (body : Json.Value)
  | compiled (response : CompileDeploymentResponse)

/-- The context of a compilation for a node. -/
def compileContextFor
    (node : NodeRecord) (credentials : List Credential) : CompileContext :=
  credentials.foldl CompileContext.withCredential
    ((CompileContext.new node.xrayVersion).withSecret
      "sec_reality_private" devRealityPrivateKey)

/-- The deployment id of a content digest. -/
def deploymentIdOf (sha256 : String) : String :=
  "dep-" ++ takeBytes 12 sha256

/-- Sign a command for a node under a fresh nonce and put it into its queue. -/
def signAndEnqueue
    (crates : Crates) (state : AppState) (nodeId : String)
    (sequence : UInt64) (kind : RunnerCommandKind) : Handler Unit := do
  let expiresAt := (← Handler.now).addSeconds 60
  let command : RunnerCommand :=
    ⟨state.tenantId, nodeId, sequence, ← Handler.uuid, expiresAt, kind⟩
  let envelope ← Handler.orStatus 500
    ((SignedRunnerCommand.sign crates command state.signingKey).mapError
      DomainError.message)
  Handler.store (.enqueueRunnerCommand nodeId envelope)

/-- The compilation proper: everything after the look into the cache. -/
def compileFresh
    (crates : Crates) (state : AppState) (req : CompileDeploymentRequest) :
    Handler CompileDeploymentResponse := do
  let profile ← Handler.store (.profile req.profileId)
  let node ← Handler.store (.node req.nodeId)
  let credentials ← Handler.store (.credentialsForProfile req.profileId)
  let ctx := compileContextFor node credentials
  let compiled ← Handler.orStatus 400
    ((compileProfileToXray crates profile.ir ctx).mapError CompileError.message)
  let bytes ← Handler.orStatus 500 (crates.toVecPretty compiled.configJson)
  let artifact := Artifact.fromBytes crates (← Handler.uuid) (← Handler.now)
    state.tenantId .compiledXrayConfig "application/json" bytes "admin"
  Handler.store (.recordArtifactBlob artifact bytes)
  let deploymentId := deploymentIdOf artifact.sha256
  Handler.store (.recordDeploymentPlan
    ⟨state.tenantId, deploymentId, req.nodeId, req.profileId, artifact.id,
      ← Handler.now⟩)
  let deploymentPlan : DeploymentPlan := {
    targetNodeId := req.nodeId
    targetProfileVersionId := req.profileId
    compiledConfigArtifactId := artifact.id
    coreKind := "xray"
    coreVersion := node.xrayVersion
    assetsVersion := "dev"
    rollbackPointerId := "rollback-" ++ artifact.sha256
    createdBy := "admin"
    createdAt := ← Handler.now }
  let sequence ← Handler.nextSequence req.nodeId
  signAndEnqueue crates state req.nodeId sequence
    (.applyDeploymentPlan deploymentId artifact.sha256 compiled.configJson none)
  return {
    status := "compiled"
    artifact := artifact
    deploymentPlan := deploymentPlan
    auditCount := ← Handler.store .auditCount
    outboxCount := ← Handler.store .outboxCount }

def compileDeployment
    (crates : Crates) (state : AppState) (headers : Headers)
    (req : CompileDeploymentRequest) : Handler CompileReply := do
  match ← optionalHeaderValue headers "idempotency-key" with
  | none => return .compiled (← compileFresh crates state req)
  | some key =>
      match ← Handler.store (.idempotencyResponse state.tenantId key) with
      | some cached => return .cached cached
      | none => do
          let response ← compileFresh crates state req
          Handler.store (.recordIdempotencyResponse state.tenantId key
            (response.toValue crates))
          return .compiled response

/-- `none` is the 204 response of an empty queue. -/
def nextRunnerCommand
    (state : AppState) (nodeId : String) (lastSequence : Option UInt64)
    (headers : Headers) : Handler (Option SignedRunnerCommand) := do
  state.requireRunnerToken headers
  Handler.store (.nextRunnerCommand nodeId (lastSequence.getD 0))

def submitRunnerResult
    (crates : Crates) (state : AppState) (nodeId : String)
    (headers : Headers) (signedResult : SignedDeploymentResult) :
    Handler Unit := do
  state.requireRunnerToken headers
  let node ← Handler.store (.node nodeId)
  let verifyKey ← Handler.orStatus 401
    (runnerResultVerifyKeyForNode crates state node)
  let result ← Handler.orStatus 401
    ((signedResult.verify crates verifyKey nodeId).mapError
      DomainError.message)
  Handler.store (.recordDeploymentResult result)
  Handler.perform (.pushRunnerResult result)

def runnerResultCount : Handler Nat :=
  Handler.perform .runnerResultCount

def getDeployment (deploymentId : String) : Handler DeploymentStatus :=
  Handler.store (.deploymentStatus deploymentId)

structure RollbackQueuedResponse where
  deploymentId : String
  rollbackToDeploymentId : String
  sequence : UInt64
  status : String
deriving DecidableEq

/-- A field of the rollback pointer that a rollback cannot do without. -/
def requirePrevious (value : Option String) (message : String) :
    Handler String :=
  match value with
  | some value => return value
  | none => throw ⟨400, message⟩

def enqueueRollbackCommand
    (crates : Crates) (state : AppState) (deploymentId : String) :
    Handler RollbackQueuedResponse := do
  let rollbackPointer ← Handler.store (.rollbackPointer deploymentId)
  let rollbackToDeploymentId ← requirePrevious
    rollbackPointer.previousDeploymentId
    "deployment has no previous deployment to roll back to"
  let previousArtifactId ← requirePrevious
    rollbackPointer.previousCompiledConfigArtifactId
    "deployment has no previous compiled config artifact"
  let snapshot ← Handler.store (.deploymentSnapshot deploymentId)
  let previousBytes ← Handler.store (.artifactBytes previousArtifactId)
  let sequence ← Handler.nextSequence snapshot.nodeId
  signAndEnqueue crates state snapshot.nodeId sequence
    (.rollbackDeployment deploymentId rollbackToDeploymentId
      (hexSha256 crates previousBytes))
  return ⟨deploymentId, rollbackToDeploymentId, sequence, "queued"⟩

def getRollbackPointer (deploymentId : String) :
    Handler RollbackPointerRecord :=
  Handler.store (.rollbackPointer deploymentId)

def getDeploymentSnapshot (deploymentId : String) :
    Handler DeploymentSnapshotRecord :=
  Handler.store (.deploymentSnapshot deploymentId)

def getDeploymentHealth (deploymentId : String) :
    Handler DeploymentHealthCheckRecord :=
  Handler.store (.latestDeploymentHealth deploymentId)

def recordRunnerDeploymentHealth
    (state : AppState) (nodeId deploymentId : String) (headers : Headers)
    (status : String) (payloadJson : Json.Value) : Handler Unit := do
  state.requireRunnerToken headers
  if status ≠ "healthy" ∧ status ≠ "unhealthy" then
    throw ⟨400, "deployment health status must be healthy or unhealthy"⟩
  Handler.store (.recordDeploymentHealthCheck
    ⟨state.tenantId, deploymentId, nodeId, status, payloadJson,
      ← Handler.now⟩)

structure DeploymentReadinessResponse where
  deploymentId : String
  status : String
  reason : String
  healthySamples : Nat
  requiredHealthySamples : Nat
  latestHealthStatus : Option String
deriving DecidableEq

def requiredHealthyDeploymentSamples : Nat := 2

/-- The verdict on a status and its health samples. -/
def readinessOf
    (deploymentId : String) (status : DeploymentStatus)
    (samples : List DeploymentHealthCheckRecord) :
    DeploymentReadinessResponse :=
  let healthySamples := samples.countP (fun health => health.status = "healthy")
  let latest := (maxByKey (fun health => health.createdAt) samples).map
    (fun health => health.status)
  let verdict : String × String :=
    if status ≠ .succeeded then
      ("blocked", "waiting_for_successful_deployment")
    else if latest.any (fun status => status ≠ "healthy") then
      ("blocked", "latest_health_unhealthy")
    else if healthySamples < requiredHealthyDeploymentSamples then
      ("blocked", "waiting_for_healthy_samples")
    else
      ("ready", "ready")
  ⟨deploymentId, verdict.1, verdict.2, healthySamples,
    requiredHealthyDeploymentSamples, latest⟩

def computeDeploymentReadiness (deploymentId : String) :
    Handler DeploymentReadinessResponse := do
  let status ← Handler.store (.deploymentStatus deploymentId)
  let samples ← Handler.store (.deploymentHealthChecks deploymentId)
  return readinessOf deploymentId status samples

structure DeploymentAdvanceResponse where
  deploymentId : String
  action : String
  readiness : DeploymentReadinessResponse
  rollbackToDeploymentId : Option String
  sequence : Option UInt64
deriving DecidableEq

def advanceDeploymentRollout
    (crates : Crates) (state : AppState) (deploymentId : String) :
    Handler DeploymentAdvanceResponse := do
  let readiness ← computeDeploymentReadiness deploymentId
  if readiness.status = "ready" then
    return ⟨deploymentId, "promoted", readiness, none, none⟩
  else if readiness.reason = "latest_health_unhealthy" then
    let rollback ← enqueueRollbackCommand crates state deploymentId
    return ⟨deploymentId, "rollback_queued", readiness,
      some rollback.rollbackToDeploymentId, some rollback.sequence⟩
  else
    return ⟨deploymentId, "waiting", readiness, none, none⟩

def getArtifactBytes (artifactId : String) : Handler Bytes :=
  Handler.store (.artifactBytes artifactId)

/-! ## Subscriptions -/

def getSubscription
    (crates : Crates) (state : AppState) (profileId : String)
    (token : Option String) (headers : Headers) :
    Handler SubscriptionArtifact := do
  match token with
  | some token =>
      match ← Handler.perform
          (.store (.verifySubscriptionToken profileId token)) with
      | .error _ => throw ⟨401, "invalid subscription token"⟩
      | .ok verified =>
          Handler.store (.recordSubscriptionAccess verified.tokenId none
            (headerText headers "user-agent") "ok")
  | none =>
      let required : Bool ←
        Handler.store (.subscriptionTokenRequired profileId)
      if required then
        throw ⟨401, "subscription token is required"⟩
  let deployed ← Handler.store (.deployedProfileForSubscription profileId)
  return generateSubscriptionArtifact crates (← Handler.uuid) (← Handler.now)
    state.tenantId deployed "subscription-service"

def issueSubscriptionToken (profileId : String) :
    Handler IssuedSubscriptionToken :=
  Handler.store (.issueSubscriptionToken profileId)

def rotateSubscriptionToken (profileId : String) :
    Handler IssuedSubscriptionToken :=
  Handler.store (.rotateSubscriptionToken profileId)

end AppState
end ProxyControl
