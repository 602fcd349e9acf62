import ProxyControl.CompiledInbounds
import ProxyControl.Lib.JsonDecode
import ProxyControl.Storage.Records

/-!
# What goes over the wire

The JSON form of the records that travel between the parties or lie in JSON
columns, and their readers.  Instants are read by a function of the crates.

A reader gives back the record, whatever carrier is in between: an HTTP body, or
a column that keeps the fields of objects in an order of its own.
-/

namespace ProxyControl

open Calendar Json

/-! ## Scalars and labels -/

def readInstant (instant : String → Option DateTime) (value : Json.Value) :
    Option DateTime :=
  (readString value).bind instant

def DeploymentStatus.ofJson : Json.Value → Option DeploymentStatus :=
  readVariant DeploymentStatus.label [.pending, .succeeded, .failed, .rolledBack]

def SecretKind.label : SecretKind → String
  | clientUuid => "ClientUuid"
  | shadowsocksPassword => "ShadowsocksPassword"
  | trojanPassword => "TrojanPassword"
  | realityPrivateKey => "RealityPrivateKey"
  | subscriptionTokenSecret => "SubscriptionTokenSecret"
  | runnerNodeKey => "RunnerNodeKey"
  | modelProviderApiKey => "ModelProviderApiKey"

def SecretKind.ofJson : Json.Value → Option SecretKind :=
  readVariant SecretKind.label [.clientUuid, .shadowsocksPassword,
    .trojanPassword, .realityPrivateKey, .subscriptionTokenSecret,
    .runnerNodeKey, .modelProviderApiKey]

def InboundProtocol.ofJson : Json.Value → Option InboundProtocol :=
  readVariant InboundProtocol.label [.vless, .shadowsocks, .trojan]

/-! ## Profiles -/

def SecretRef.toJson (self : SecretRef) : Json.Value :=
  .object [
    ("id", .string self.id),
    ("kind", .string self.kind.label)]

def SecretRef.ofJson (value : Json.Value) : Option SecretRef := do
  let record ← value.record ["id", "kind"]
  return {
    id := ← record.required "id" readString
    kind := ← record.required "kind" SecretKind.ofJson }

def Security.toJson : Security → Json.Value
  | reality serverName privateKeyRef shortIds => .object [
      ("type", .string "reality"),
      ("server_name", .string serverName),
      ("private_key_ref", privateKeyRef.toJson),
      ("short_ids", strings shortIds)]
  | tls serverName => .object [
      ("type", .string "tls"),
      ("server_name", .string serverName)]
  | none => .object [("type", .string "none")]

def Security.ofTag (tag : String) (value : Json.Value) : Option Security :=
  if tag = "reality" then do
    let record ← value.record ["server_name", "private_key_ref", "short_ids"]
    return .reality
      (← record.required "server_name" readString)
      (← record.required "private_key_ref" SecretRef.ofJson)
      (← record.required "short_ids" (readList readString))
  else if tag = "tls" then do
    let record ← value.record ["server_name"]
    return .tls (← record.required "server_name" readString)
  else if tag = "none" then
    (readUnit value).map fun _ => .none
  else
    Option.none

def Security.ofJson (value : Json.Value) : Option Security := do
  let tagged ← value.tagged "type"
  Security.ofTag tagged.1 tagged.2

def Inbound.toJson (self : Inbound) : Json.Value :=
  .object [
    ("id", .string self.id),
    ("protocol", .string self.protocol.label),
    ("listen", .string self.listen),
    ("port", .number (.posInt self.port.toUInt64)),
    ("security", self.security.toJson),
    ("client_group_refs", strings self.clientGroupRefs)]

def Inbound.ofJson (value : Json.Value) : Option Inbound := do
  let record ← value.record
    ["id", "protocol", "listen", "port", "security", "client_group_refs"]
  return {
    id := ← record.required "id" readString
    protocol := ← record.required "protocol" InboundProtocol.ofJson
    listen := ← record.required "listen" readString
    port := ← record.required "port" readU16
    security := ← record.required "security" Security.ofJson
    clientGroupRefs :=
      ← record.required "client_group_refs" (readList readString) }

def ClientGroup.toJson (self : ClientGroup) : Json.Value :=
  .object [
    ("id", .string self.id),
    ("credential_policy", .string self.credentialPolicy),
    ("quota_policy_ref", optionalString self.quotaPolicyRef)]

def ClientGroup.ofJson (value : Json.Value) : Option ClientGroup := do
  let record ← value.record ["id", "credential_policy", "quota_policy_ref"]
  return {
    id := ← record.required "id" readString
    credentialPolicy := ← record.required "credential_policy" readString
    quotaPolicyRef := ← record.optional "quota_policy_ref" readString }

def Runtime.toJson (self : Runtime) : Json.Value :=
  .object [
    ("core", .string self.core),
    ("core_version", .string self.coreVersion)]

def Runtime.ofJson (value : Json.Value) : Option Runtime := do
  let record ← value.record ["core", "core_version"]
  return {
    core := ← record.required "core" readString
    coreVersion := ← record.required "core_version" readString }

def DnsConfig.toJson (self : DnsConfig) : Json.Value :=
  .object [("mode", .string self.mode)]

def DnsConfig.ofJson (value : Json.Value) : Option DnsConfig := do
  let record ← value.record ["mode"]
  return { mode := ← record.required "mode" readString }

def ProfileIr.toJson (self : ProfileIr) : Json.Value :=
  .object [
    ("schema_version", .string self.schemaVersion),
    ("runtime", self.runtime.toJson),
    ("inbounds", .array (self.inbounds.map Inbound.toJson)),
    ("client_groups", .array (self.clientGroups.map ClientGroup.toJson)),
    ("routes", .array self.routes),
    ("dns", self.dns.toJson)]

/-- Without routes there are none. -/
def ProfileIr.ofJson (value : Json.Value) : Option ProfileIr := do
  let record ← value.record
    ["schema_version", "runtime", "inbounds", "client_groups", "routes", "dns"]
  return {
    schemaVersion := ← record.required "schema_version" readString
    runtime := ← record.required "runtime" Runtime.ofJson
    inbounds := ← record.required "inbounds" (readList Inbound.ofJson)
    clientGroups :=
      ← record.required "client_groups" (readList ClientGroup.ofJson)
    routes := ← record.defaulted "routes" [] (readList readValue)
    dns := ← record.required "dns" DnsConfig.ofJson }

/-! ## Credentials -/

def CredentialMaterial.toJson : CredentialMaterial → Json.Value
  | vlessUuid uuid => .object [
      ("kind", .string "vless_uuid"),
      ("uuid", .string uuid)]
  | shadowsocksPassword method password => .object [
      ("kind", .string "shadowsocks_password"),
      ("method", .string method),
      ("password", .string password)]
  | trojanPassword password => .object [
      ("kind", .string "trojan_password"),
      ("password", .string password)]

def CredentialMaterial.ofTag (tag : String) (value : Json.Value) :
    Option CredentialMaterial :=
  if tag = "vless_uuid" then do
    let record ← value.record ["uuid"]
    return .vlessUuid (← record.required "uuid" readString)
  else if tag = "shadowsocks_password" then do
    let record ← value.record ["method", "password"]
    return .shadowsocksPassword
      (← record.required "method" readString)
      (← record.required "password" readString)
  else if tag = "trojan_password" then do
    let record ← value.record ["password"]
    return .trojanPassword (← record.required "password" readString)
  else
    none

def CredentialMaterial.ofJson (value : Json.Value) :
    Option CredentialMaterial := do
  let tagged ← value.tagged "kind"
  CredentialMaterial.ofTag tagged.1 tagged.2

/-! ## Commands -/

def RunnerCommandKind.ofTag (tag : String) (value : Json.Value) :
    Option RunnerCommandKind :=
  if tag = "register_node" then do
    let record ← value.record ["registration_token"]
    return .registerNode (← record.required "registration_token" readString)
  else if tag = "heartbeat" then do
    let record ← value.record ["capability_snapshot"]
    return .heartbeat (← record.required "capability_snapshot" readValue)
  else if tag = "apply_deployment_plan" then do
    let record ← value.record
      ["deployment_id", "artifact_sha256", "config_json", "rollback_json"]
    return .applyDeploymentPlan
      (← record.required "deployment_id" readString)
      (← record.required "artifact_sha256" readString)
      (← record.required "config_json" readValue)
      (← record.optional "rollback_json" readValue)
  else if tag = "validate_config" then do
    let record ← value.record ["config_json"]
    return .validateConfig (← record.required "config_json" readValue)
  else if tag = "reload_core" then
    (readUnit value).map fun _ => .reloadCore
  else if tag = "restart_core" then
    (readUnit value).map fun _ => .restartCore
  else if tag = "rollback_deployment" then do
    let record ← value.record
      ["deployment_id", "rollback_to_deployment_id", "artifact_sha256"]
    return .rollbackDeployment
      (← record.required "deployment_id" readString)
      (← record.required "rollback_to_deployment_id" readString)
      (← record.required "artifact_sha256" readString)
  else if tag = "collect_metrics" then
    (readUnit value).map fun _ => .collectMetrics
  else if tag = "collect_log_window" then do
    let record ← value.record ["lines"]
    return .collectLogWindow (← record.required "lines" readU32)
  else
    none

def RunnerCommandKind.ofJson (value : Json.Value) :
    Option RunnerCommandKind := do
  let tagged ← value.tagged "command"
  RunnerCommandKind.ofTag tagged.1 tagged.2

def RunnerCommand.ofJson
    (instant : String → Option DateTime) (value : Json.Value) :
    Option RunnerCommand := do
  let record ← value.record
    ["tenant_id", "node_id", "sequence", "nonce", "expires_at", "kind"]
  return {
    tenantId := ← record.required "tenant_id" readString
    nodeId := ← record.required "node_id" readString
    sequence := ← record.required "sequence" readU64
    nonce := ← record.required "nonce" readString
    expiresAt := ← record.required "expires_at" (readInstant instant)
    kind := ← record.required "kind" RunnerCommandKind.ofJson }

def SignedRunnerCommand.toJson (crates : Crates) (self : SignedRunnerCommand) :
    Json.Value :=
  .object [
    ("command", self.command.toJson crates),
    ("signature_hex", .string self.signatureHex)]

def SignedRunnerCommand.ofJson
    (instant : String → Option DateTime) (value : Json.Value) :
    Option SignedRunnerCommand := do
  let record ← value.record ["command", "signature_hex"]
  return {
    command := ← record.required "command" (RunnerCommand.ofJson instant)
    signatureHex := ← record.required "signature_hex" readString }

/-! ## Results -/

def DeploymentResult.ofJson
    (instant : String → Option DateTime) (value : Json.Value) :
    Option DeploymentResult := do
  let record ← value.record
    ["deployment_id", "status", "message", "artifact_sha256", "observed_at"]
  return {
    deploymentId := ← record.required "deployment_id" readString
    status := ← record.required "status" DeploymentStatus.ofJson
    message := ← record.required "message" readString
    artifactSha256 := ← record.required "artifact_sha256" readString
    observedAt := ← record.required "observed_at" (readInstant instant) }

def SignedDeploymentResult.toJson
    (crates : Crates) (self : SignedDeploymentResult) : Json.Value :=
  .object [
    ("node_id", .string self.nodeId),
    ("result", self.result.toJson crates),
    ("signature_hex", .string self.signatureHex)]

def SignedDeploymentResult.ofJson
    (instant : String → Option DateTime) (value : Json.Value) :
    Option SignedDeploymentResult := do
  let record ← value.record ["node_id", "result", "signature_hex"]
  return {
    nodeId := ← record.required "node_id" readString
    result := ← record.required "result" (DeploymentResult.ofJson instant)
    signatureHex := ← record.required "signature_hex" readString }

def DeploymentSnapshotRecord.toJson
    (crates : Crates) (self : DeploymentSnapshotRecord) : Json.Value :=
  .object [
    ("tenant_id", .string self.tenantId),
    ("snapshot_id", .string self.snapshotId),
    ("deployment_id", .string self.deploymentId),
    ("node_id", .string self.nodeId),
    ("profile_id", .string self.profileId),
    ("compiled_config_artifact_id", .string self.compiledConfigArtifactId),
    ("result_status", .string self.resultStatus.label),
    ("result_message", .string self.resultMessage),
    ("result_artifact_sha256", .string self.resultArtifactSha256),
    ("observed_at", .string (crates.rfc3339 self.observedAt)),
    ("created_at", .string (crates.rfc3339 self.createdAt))]

def DeploymentSnapshotRecord.ofJson
    (instant : String → Option DateTime) (value : Json.Value) :
    Option DeploymentSnapshotRecord := do
  let record ← value.record
    ["tenant_id", "snapshot_id", "deployment_id", "node_id", "profile_id",
      "compiled_config_artifact_id", "result_status", "result_message",
      "result_artifact_sha256", "observed_at", "created_at"]
  return {
    tenantId := ← record.required "tenant_id" readString
    snapshotId := ← record.required "snapshot_id" readString
    deploymentId := ← record.required "deployment_id" readString
    nodeId := ← record.required "node_id" readString
    profileId := ← record.required "profile_id" readString
    compiledConfigArtifactId :=
      ← record.required "compiled_config_artifact_id" readString
    resultStatus := ← record.required "result_status" DeploymentStatus.ofJson
    resultMessage := ← record.required "result_message" readString
    resultArtifactSha256 :=
      ← record.required "result_artifact_sha256" readString
    observedAt := ← record.required "observed_at" (readInstant instant)
    createdAt := ← record.required "created_at" (readInstant instant) }

end ProxyControl
