import ProxyControl.Domain

/-!
# The xray compiler

`compileProfileToXray` turns a profile and a compile context into the JSON
configuration of xray-core.  Inbounds are compiled in order, and the first
error of any of them is the error of the compilation.
-/

namespace ProxyControl

open Json (mapOf setField strings)

inductive CompileError
  | invalidIr (error : DomainError)
  | unsupportedReality (version : String)
  | missingSecret (id : String)
  | missingCredential (inbound : String)
  | mixedShadowsocksMethods (inbound : String)
  | invalidShadowsocks2022Psk (method : String) (expectedBytes : Nat)
  | unsupportedProtocol
deriving DecidableEq

def CompileError.message : CompileError → String
  | .invalidIr error => "Profile IR invalid: " ++ error.message
  | .unsupportedReality version =>
      "REALITY requires xray-core >= 1.8.0, got " ++ version
  | .missingSecret id => "missing secret material for " ++ id
  | .missingCredential inbound =>
      "missing active credential for inbound " ++ inbound
  | .mixedShadowsocksMethods inbound =>
      "mixed shadowsocks methods for inbound " ++ inbound
  | .invalidShadowsocks2022Psk method expectedBytes =>
      method ++ " requires a base64-encoded " ++ toString expectedBytes ++
        "-byte psk"
  | .unsupportedProtocol =>
      "unsupported inbound protocol for this compiler"

structure CompileContext where
  coreVersion : String
  secrets : List (String × String)
  credentials : List Credential

def CompileContext.new (coreVersion : String) : CompileContext where
  coreVersion := coreVersion
  secrets := []
  credentials := []

/-- The newest secret of an id is met first. -/
def CompileContext.withSecret
    (self : CompileContext) (id value : String) : CompileContext :=
  { self with secrets := (id, value) :: self.secrets }

def CompileContext.withCredential
    (self : CompileContext) (credential : Credential) : CompileContext :=
  { self with credentials := self.credentials ++ [credential] }

structure CompiledXrayConfig where
  configJson : Json.Value

/-- A component that is a decimal number of 64 bits, with an optional plus. -/
def parseU64 (s : List Char) : Option Nat :=
  let digits := match s with
    | '+' :: rest => rest
    | _ => s
  if digits.isEmpty ∨ ¬ digits.all Char.isDigit then none
  else
    let n := digits.foldl (fun acc c => 10 * acc + (c.toNat - 48)) 0
    if n < UInt64.size then some n else none

def supportsReality (version : String) : Bool :=
  let parts := (version.toList.splitOn '.').filterMap parseU64
  let major := parts.getD 0 0
  let minor := parts.getD 1 0
  1 < major || (major = 1 && 8 ≤ minor)

def validateShadowsocksMethodPassword
    (crates : Crates) (method password : String) :
    Except CompileError Unit :=
  let check (expectedBytes : Nat) : Except CompileError Unit :=
    match crates.base64Decode password with
    | none => .error (.invalidShadowsocks2022Psk method expectedBytes)
    | some decoded =>
        if decoded.length ≠ expectedBytes then
          .error (.invalidShadowsocks2022Psk method expectedBytes)
        else
          .ok ()
  if method = "2022-blake3-aes-128-gcm" then check 16
  else if method = "2022-blake3-aes-256-gcm" then check 32
  else .ok ()

/-- The active credentials of one group, in context order. -/
def activeInGroup (ctx : CompileContext) (group : String) : List Credential :=
  ctx.credentials.filter fun c =>
    c.clientGroupId = group ∧ c.status = .active

/-- The active credentials met by an inbound, group after group. -/
def servedCredentials
    (ctx : CompileContext) (inbound : Inbound) : List Credential :=
  inbound.clientGroupRefs.flatMap (activeInGroup ctx)

def applyStreamSecurity
    (inboundJson : Json.Value) : Security → Except CompileError Json.Value
  | .tls serverName =>
      .ok (setField "streamSettings"
        (mapOf [
          ("network", .string "tcp"),
          ("security", .string "tls"),
          ("tlsSettings", mapOf [("serverName", .string serverName)])])
        inboundJson)
  | .none => .ok inboundJson
  | .reality .. => .error .unsupportedProtocol

def vlessClient (credential : Credential) : Option Json.Value :=
  match credential.material with
  | .vlessUuid uuid => some (mapOf [
      ("id", .string uuid),
      ("email", .string credential.displayName),
      ("flow", .string "xtls-rprx-vision")])
  | _ => none

/-- The VLESS branch of the compiler. -/
def compileVless
    (ctx : CompileContext) (inbound : Inbound) :
    Except CompileError Json.Value :=
  let clients := (servedCredentials ctx inbound).filterMap vlessClient
  let inboundJson := mapOf [
    ("tag", .string inbound.id),
    ("listen", .string inbound.listen),
    ("port", .number (.posInt inbound.port.toUInt64)),
    ("protocol", .string "vless"),
    ("settings", mapOf [
      ("clients", .array clients),
      ("decryption", .string "none")])]
  match inbound.security with
  | .reality serverName privateKeyRef shortIds =>
      if ¬ supportsReality ctx.coreVersion then
        .error (.unsupportedReality ctx.coreVersion)
      else
        match ctx.secrets.lookup privateKeyRef.id with
        | none => .error (.missingSecret privateKeyRef.id)
        | some privateKey =>
            .ok (setField "streamSettings"
              (mapOf [
                ("network", .string "tcp"),
                ("security", .string "reality"),
                ("realitySettings", mapOf [
                  ("show", .bool false),
                  ("dest", .string (serverName ++ ":443")),
                  ("serverNames", strings [serverName]),
                  ("privateKey", .string privateKey),
                  ("shortIds", strings shortIds)])])
              inboundJson)
  | .tls serverName =>
      .ok (setField "streamSettings"
        (mapOf [
          ("network", .string "tcp"),
          ("security", .string "tls"),
          ("tlsSettings", mapOf [("serverName", .string serverName)])])
        inboundJson)
  | .none => .ok inboundJson

/--
The scan for one Shadowsocks method: the first credential is selected, and a
later one with another method is an error.
-/
def selectShadowsocks (inboundId : String) :
    Option (String × String) → List Credential →
      Except CompileError (Option (String × String))
  | selected, [] => .ok selected
  | selected, credential :: rest =>
      match credential.material with
      | .shadowsocksPassword method password =>
          match selected with
          | some (existingMethod, existingPassword) =>
              if existingMethod ≠ method then
                .error (.mixedShadowsocksMethods inboundId)
              else
                selectShadowsocks inboundId
                  (some (existingMethod, existingPassword)) rest
          | none =>
              selectShadowsocks inboundId (some (method, password)) rest
      | _ => selectShadowsocks inboundId selected rest

/-- The Shadowsocks branch of the compiler. -/
def compileShadowsocks
    (crates : Crates) (ctx : CompileContext) (inbound : Inbound) :
    Except CompileError Json.Value := do
  match ← selectShadowsocks inbound.id none (servedCredentials ctx inbound) with
  | none => throw (.missingCredential inbound.id)
  | some (method, password) =>
      validateShadowsocksMethodPassword crates method password
      return mapOf [
        ("tag", .string inbound.id),
        ("listen", .string inbound.listen),
        ("port", .number (.posInt inbound.port.toUInt64)),
        ("protocol", .string "shadowsocks"),
        ("settings", mapOf [
          ("method", .string method),
          ("password", .string password),
          ("network", .string "tcp,udp")])]

def trojanClient (credential : Credential) : Option Json.Value :=
  match credential.material with
  | .trojanPassword password => some (mapOf [
      ("password", .string password),
      ("email", .string credential.displayName)])
  | _ => none

/-- The Trojan branch of the compiler. -/
def compileTrojan
    (ctx : CompileContext) (inbound : Inbound) :
    Except CompileError Json.Value :=
  let clients := (servedCredentials ctx inbound).filterMap trojanClient
  if clients.isEmpty then
    .error (.missingCredential inbound.id)
  else
    applyStreamSecurity
      (mapOf [
        ("tag", .string inbound.id),
        ("listen", .string inbound.listen),
        ("port", .number (.posInt inbound.port.toUInt64)),
        ("protocol", .string "trojan"),
        ("settings", mapOf [("clients", .array clients)])])
      inbound.security

def compileInbound
    (crates : Crates) (ctx : CompileContext) (inbound : Inbound) :
    Except CompileError Json.Value :=
  match inbound.protocol with
  | .vless => compileVless ctx inbound
  | .shadowsocks => compileShadowsocks crates ctx inbound
  | .trojan => compileTrojan ctx inbound

/-- The configuration around the compiled inbounds. -/
def xrayConfig (inbounds : List Json.Value) : Json.Value :=
  mapOf [
    ("log", mapOf [("loglevel", .string "warning")]),
    ("inbounds", .array inbounds),
    ("outbounds", .array [
      mapOf [("tag", .string "direct"), ("protocol", .string "freedom")],
      mapOf [("tag", .string "block"), ("protocol", .string "blackhole")]]),
    ("routing", mapOf [("rules", .array [])]),
    ("stats", mapOf []),
    ("api", mapOf [
      ("tag", .string "api"),
      ("services", strings ["StatsService"])]),
    ("policy", mapOf [
      ("system", mapOf [
        ("statsInboundUplink", .bool true),
        ("statsInboundDownlink", .bool true)])])]

def compileProfileToXray
    (crates : Crates) (ir : ProfileIr) (ctx : CompileContext) :
    Except CompileError CompiledXrayConfig :=
  match ir.validate with
  | .error error => .error (.invalidIr error)
  | .ok _ => do
      let inbounds ← ir.inbounds.mapM (compileInbound crates ctx)
      return { configJson := xrayConfig inbounds }

end ProxyControl
