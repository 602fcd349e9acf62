import ProxyControl.Lib.Calendar
import ProxyControl.Lib.Hex
import ProxyControl.Lib.Json
import Mathlib.Data.Finset.Basic

/-!
# The domain crate

Records shared by the control plane and the runner, signed envelopes, and their
verification.

`Crates` collects what the code takes from third-party crates: hashing and
signatures, JSON text, base64 text and the text of instants.  Clock readings
and fresh identifiers are arguments of the functions that draw them.
-/

namespace ProxyControl

open Calendar

abbrev Bytes : Type := List UInt8

/-- An Ed25519 signing key, given by its 32-byte seed. -/
structure SigningKey where
  seed : Bytes
deriving DecidableEq

/-- An Ed25519 public key. -/
structure VerifyingKey where
  bytes : Bytes
deriving DecidableEq

/-- The functions of third-party crates that the code calls. -/
structure Crates where
  sha256 : Bytes → Bytes
  verifyingKey : SigningKey → VerifyingKey
  verifyingKeyFromBytes : Bytes → Option VerifyingKey
  sign : SigningKey → Bytes → Bytes
  verify : VerifyingKey → Bytes → Bytes → Bool
  toVec : Json.Value → Except String Bytes
  toVecPretty : Json.Value → Except String Bytes
  base64Encode : Bytes → String
  base64EncodeNoPad : Bytes → String
  base64Decode : String → Option Bytes
  rfc3339 : DateTime → String

/-- The UTF-8 bytes of a string. -/
def utf8 (s : String) : Bytes :=
  s.toUTF8.data.toList

/-- The first `n` bytes of a string that has one byte for each character. -/
def takeBytes (n : Nat) (s : String) : String :=
  String.ofList (((utf8 s).take n).map (fun b => Char.ofNat b.toNat))

inductive DomainError
  | inlineSecretRef (id : String)
  | commandExpired
  | nodeScope
  | sequence
  | nonceReplay
  | signature
  | serialization (message : String)
deriving DecidableEq

def DomainError.message : DomainError → String
  | .inlineSecretRef id =>
      "secret references must not contain inline material: " ++ id
  | .commandExpired => "runner command expired"
  | .nodeScope => "runner command node scope mismatch"
  | .sequence =>
      "runner command sequence must be greater than previous sequence"
  | .nonceReplay => "runner command nonce replay"
  | .signature => "runner command signature invalid"
  | .serialization message => "canonical serialization failed: " ++ message

/-! ## Artifacts -/

inductive ArtifactKind
  | profileIR
  | profilePatch
  | compiledXrayConfig
  | compiledSingBoxConfig
  | subscriptionArtifact
  | validationReport
  | deploymentPlan
  | deploymentResult
  | rollbackPointer
  | diagnosisReport
deriving DecidableEq

inductive RedactionStatus
  | containsNoSecrets
  | redacted
  | sealedContainsSecrets
deriving DecidableEq

def ArtifactKind.label : ArtifactKind → String
  | profileIR => "ProfileIR"
  | profilePatch => "ProfilePatch"
  | compiledXrayConfig => "CompiledXrayConfig"
  | compiledSingBoxConfig => "CompiledSingBoxConfig"
  | subscriptionArtifact => "SubscriptionArtifact"
  | validationReport => "ValidationReport"
  | deploymentPlan => "DeploymentPlan"
  | deploymentResult => "DeploymentResult"
  | rollbackPointer => "RollbackPointer"
  | diagnosisReport => "DiagnosisReport"

def RedactionStatus.label : RedactionStatus → String
  | containsNoSecrets => "ContainsNoSecrets"
  | redacted => "Redacted"
  | sealedContainsSecrets => "SealedContainsSecrets"

structure Artifact where
  id : String
  tenantId : String
  kind : ArtifactKind
  schemaVersion : String
  mediaType : String
  sha256 : String
  storageUri : String
  redactionStatus : RedactionStatus
  createdBy : String
  createdAt : DateTime
deriving DecidableEq

/-- The lower-case hexadecimal SHA-256 digest. -/
def hexSha256 (crates : Crates) (bytes : Bytes) : String :=
  Hex.encode (crates.sha256 bytes)

/-- `id` is a fresh UUID and `now` the clock reading. -/
def Artifact.fromBytes
    (crates : Crates)
    (id : String) (now : DateTime)
    (tenantId : String)
    (kind : ArtifactKind)
    (mediaType : String)
    (bytes : Bytes)
    (createdBy : String) : Artifact where
  id := id
  tenantId := tenantId
  kind := kind
  schemaVersion := "0.1"
  mediaType := mediaType
  sha256 := hexSha256 crates bytes
  storageUri := "artifact://sha256/" ++ hexSha256 crates bytes
  redactionStatus := .containsNoSecrets
  createdBy := createdBy
  createdAt := now

/-! ## Profiles -/

inductive SecretKind
  | clientUuid
  | shadowsocksPassword
  | trojanPassword
  | realityPrivateKey
  | subscriptionTokenSecret
  | runnerNodeKey
  | modelProviderApiKey
deriving DecidableEq

structure SecretRef where
  id : String
  kind : SecretKind
deriving DecidableEq

/-- `to_ascii_lowercase` on the characters of a string. -/
def asciiLowercase (s : String) : List Char :=
  s.toList.map fun c =>
    if 'A' ≤ c ∧ c ≤ 'Z' then Char.ofNat (c.toNat + 32) else c

/-- Whether `needle` occurs in a list of characters. -/
def containsChars (needle : List Char) : List Char → Bool
  | [] => needle.isEmpty
  | c :: cs => needle.isPrefixOf (c :: cs) || containsChars needle cs

def SecretRef.validateReferenceOnly
    (self : SecretRef) : Except DomainError Unit :=
  let lowered := asciiLowercase self.id
  if "inline:".toList.isPrefixOf lowered ||
      (containsChars "private_key".toList lowered &&
        48 < self.id.utf8ByteSize) then
    .error (.inlineSecretRef self.id)
  else
    .ok ()

structure Runtime where
  core : String
  coreVersion : String
deriving DecidableEq

inductive InboundProtocol
  | vless
  | shadowsocks
  | trojan
deriving DecidableEq

inductive Security
  | reality
      (serverName : String)
      (privateKeyRef : SecretRef)
      (shortIds : List String)
  | tls (serverName : String)
  | none
deriving DecidableEq

structure Inbound where
  id : String
  protocol : InboundProtocol
  listen : String
  port : UInt16
  security : Security
  clientGroupRefs : List String
deriving DecidableEq

structure ClientGroup where
  id : String
  credentialPolicy : String
  quotaPolicyRef : Option String
deriving DecidableEq

structure DnsConfig where
  mode : String
deriving DecidableEq

structure ProfileIr where
  schemaVersion : String
  runtime : Runtime
  inbounds : List Inbound
  clientGroups : List ClientGroup
  routes : List Json.Value
  dns : DnsConfig

def ProfileIr.vlessRealityExample
    (groupId privateKeyRef : String) : ProfileIr where
  schemaVersion := "0.1"
  runtime := { core := "xray", coreVersion := "1.x" }
  inbounds := [{
    id := "in_reality_443"
    protocol := .vless
    listen := "0.0.0.0"
    port := 443
    security :=
      .reality "example.com" ⟨privateKeyRef, .realityPrivateKey⟩ ["abcd"]
    clientGroupRefs := [groupId] }]
  clientGroups := [{
    id := groupId
    credentialPolicy := "vless_uuid"
    quotaPolicyRef := Option.none }]
  routes := []
  dns := { mode := "system" }

/-- The first inline secret reference among the REALITY inbounds. -/
def ProfileIr.validate (self : ProfileIr) : Except DomainError Unit :=
  self.inbounds.forM fun inbound =>
    match inbound.security with
    | .reality _ privateKeyRef _ => privateKeyRef.validateReferenceOnly
    | .tls _ | .none => .ok ()

inductive CredentialStatus
  | active
  | revoked
  | expired
deriving DecidableEq

inductive CredentialMaterial
  | vlessUuid (uuid : String)
  | shadowsocksPassword (method password : String)
  | trojanPassword (password : String)
deriving DecidableEq

structure Credential where
  id : String
  clientGroupId : String
  displayName : String
  status : CredentialStatus
  material : CredentialMaterial
deriving DecidableEq

def Credential.activeVless
    (id group uuid displayName : String) : Credential where
  id := id
  clientGroupId := group
  displayName := displayName
  status := .active
  material := .vlessUuid uuid

def Credential.isActive (self : Credential) : Bool :=
  self.status = .active

/-! ## Runner commands -/

inductive RunnerCommandKind
  | registerNode (registrationToken : String)
  | heartbeat (capabilitySnapshot : Json.Value)
  | applyDeploymentPlan
      (deploymentId artifactSha256 : String)
      (configJson : Json.Value)
      (rollbackJson : Option Json.Value)
  | validateConfig (configJson : Json.Value)
  | reloadCore
  | restartCore
  | rollbackDeployment
      (deploymentId rollbackToDeploymentId artifactSha256 : String)
  | collectMetrics
  | collectLogWindow (lines : UInt32)

structure RunnerCommand where
  tenantId : String
  nodeId : String
  sequence : UInt64
  nonce : String
  expiresAt : DateTime
  kind : RunnerCommandKind

/-- The serialized kind: the tag `command` first, then the variant's fields. -/
def RunnerCommandKind.toJson : RunnerCommandKind → Json.Value
  | registerNode registrationToken => .object [
      ("command", .string "register_node"),
      ("registration_token", .string registrationToken)]
  | heartbeat capabilitySnapshot => .object [
      ("command", .string "heartbeat"),
      ("capability_snapshot", capabilitySnapshot)]
  | applyDeploymentPlan deploymentId artifactSha256 configJson rollbackJson =>
      .object [
        ("command", .string "apply_deployment_plan"),
        ("deployment_id", .string deploymentId),
        ("artifact_sha256", .string artifactSha256),
        ("config_json", configJson),
        ("rollback_json", rollbackJson.getD .null)]
  | validateConfig configJson => .object [
      ("command", .string "validate_config"),
      ("config_json", configJson)]
  | reloadCore => .object [("command", .string "reload_core")]
  | restartCore => .object [("command", .string "restart_core")]
  | rollbackDeployment deploymentId rollbackToDeploymentId artifactSha256 =>
      .object [
        ("command", .string "rollback_deployment"),
        ("deployment_id", .string deploymentId),
        ("rollback_to_deployment_id", .string rollbackToDeploymentId),
        ("artifact_sha256", .string artifactSha256)]
  | collectMetrics => .object [("command", .string "collect_metrics")]
  | collectLogWindow lines => .object [
      ("command", .string "collect_log_window"),
      ("lines", .number (.posInt lines.toUInt64))]

def RunnerCommand.toJson (crates : Crates) (self : RunnerCommand) :
    Json.Value :=
  .object [
    ("tenant_id", .string self.tenantId),
    ("node_id", .string self.nodeId),
    ("sequence", .number (.posInt self.sequence)),
    ("nonce", .string self.nonce),
    ("expires_at", .string (crates.rfc3339 self.expiresAt)),
    ("kind", self.kind.toJson)]

structure SignedRunnerCommand where
  command : RunnerCommand
  signatureHex : String

/-- Serialization for signing, with the error it is reported as. -/
def canonicalBytes
    (crates : Crates) (value : Json.Value) : Except DomainError Bytes :=
  match crates.toVec value with
  | .ok bytes => .ok bytes
  | .error message => .error (.serialization message)

def SignedRunnerCommand.sign
    (crates : Crates)
    (command : RunnerCommand) (signingKey : SigningKey) :
    Except DomainError SignedRunnerCommand := do
  let canonical ← canonicalBytes crates (command.toJson crates)
  return {
    command := command
    signatureHex := Hex.encode (crates.sign signingKey canonical) }

/-- A signature is 64 bytes in hexadecimal. -/
def parseSignature (signatureHex : String) : Except DomainError Bytes :=
  match Hex.decode signatureHex with
  | none => .error .signature
  | some bytes =>
      if bytes.length = 64 then .ok bytes else .error .signature

/-- The signature part shared by both envelopes. -/
def verifySignature
    (crates : Crates) (verifyingKey : VerifyingKey)
    (signatureHex : String) (value : Json.Value) :
    Except DomainError Unit := do
  let sig ← parseSignature signatureHex
  let canonical ← canonicalBytes crates value
  if crates.verify verifyingKey canonical sig then
    return ()
  else
    throw .signature

/--
The verified command, and the nonces seen afterwards.  The nonce is recorded
before the signature is looked at.
-/
def SignedRunnerCommand.verify
    (crates : Crates)
    (self : SignedRunnerCommand)
    (verifyingKey : VerifyingKey)
    (expectedNodeId : String)
    (lastSequence : UInt64)
    (seenNonces : Finset String)
    (now : DateTime) :
    Except DomainError RunnerCommand × Finset String :=
  if self.command.nodeId ≠ expectedNodeId then
    (.error .nodeScope, seenNonces)
  else if self.command.expiresAt ≤ now then
    (.error .commandExpired, seenNonces)
  else if self.command.sequence ≤ lastSequence then
    (.error .sequence, seenNonces)
  else if self.command.nonce ∈ seenNonces then
    (.error .nonceReplay, seenNonces)
  else
    let seenNonces := insert self.command.nonce seenNonces
    match verifySignature crates verifyingKey self.signatureHex
        (self.command.toJson crates) with
    | .ok () => (.ok self.command, seenNonces)
    | .error error => (.error error, seenNonces)

/-! ## Deployment results -/

inductive DeploymentStatus
  | pending
  | succeeded
  | failed
  | rolledBack
deriving DecidableEq

def DeploymentStatus.label : DeploymentStatus → String
  | pending => "Pending"
  | succeeded => "Succeeded"
  | failed => "Failed"
  | rolledBack => "RolledBack"

structure DeploymentResult where
  deploymentId : String
  status : DeploymentStatus
  message : String
  artifactSha256 : String
  observedAt : DateTime
deriving DecidableEq

def DeploymentResult.toJson (crates : Crates) (self : DeploymentResult) :
    Json.Value :=
  .object [
    ("deployment_id", .string self.deploymentId),
    ("status", .string self.status.label),
    ("message", .string self.message),
    ("artifact_sha256", .string self.artifactSha256),
    ("observed_at", .string (crates.rfc3339 self.observedAt))]

structure SignedDeploymentResult where
  nodeId : String
  result : DeploymentResult
  signatureHex : String
deriving DecidableEq

/-- The signed pair of node and result. -/
def resultPayload
    (crates : Crates) (nodeId : String) (result : DeploymentResult) :
    Json.Value :=
  .array [.string nodeId, result.toJson crates]

def SignedDeploymentResult.sign
    (crates : Crates)
    (nodeId : String) (result : DeploymentResult)
    (signingKey : SigningKey) :
    Except DomainError SignedDeploymentResult := do
  let canonical ← canonicalBytes crates (resultPayload crates nodeId result)
  return {
    nodeId := nodeId
    result := result
    signatureHex := Hex.encode (crates.sign signingKey canonical) }

def SignedDeploymentResult.verify
    (crates : Crates)
    (self : SignedDeploymentResult)
    (verifyingKey : VerifyingKey)
    (expectedNodeId : String) :
    Except DomainError DeploymentResult :=
  if self.nodeId ≠ expectedNodeId then
    .error .nodeScope
  else
    match verifySignature crates verifyingKey self.signatureHex
        (resultPayload crates self.nodeId self.result) with
    | .ok () => .ok self.result
    | .error error => .error error

structure DeploymentPlan where
  targetNodeId : String
  targetProfileVersionId : String
  compiledConfigArtifactId : String
  coreKind : String
  coreVersion : String
  assetsVersion : String
  rollbackPointerId : String
  createdBy : String
  createdAt : DateTime
deriving DecidableEq

structure DeployedProfile where
  profileId : String
  host : String
  port : UInt16
  realityServerName : String
  credentials : List Credential
deriving DecidableEq

end ProxyControl
