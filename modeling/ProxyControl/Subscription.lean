import ProxyControl.Domain

/-!
# The subscription crate

One link for each active credential of a deployed profile, joined by newlines
and encoded in base64.
-/

namespace ProxyControl

/-- The percent-encoded form of one byte. -/
def percentByte (b : UInt8) : List Char :=
  let hex (n : Nat) : Char :=
    if n < 10 then Char.ofNat (48 + n) else Char.ofNat (55 + n)
  ['%', hex (b.toNat / 16), hex (b.toNat % 16)]

/-- Every byte that is not an ASCII letter or digit is percent-encoded. -/
def utf8PercentEncode (s : String) : String :=
  String.ofList ((utf8 s).flatMap fun b =>
    let c := Char.ofNat b.toNat
    if c.isAlphanum then [c] else percentByte b)

structure SubscriptionArtifact where
  artifact : Artifact
  bodyBase64 : String
deriving DecidableEq

/-- The link of one credential. -/
def subscriptionLink
    (crates : Crates) (profile : DeployedProfile)
    (credential : Credential) : String :=
  let name := utf8PercentEncode credential.displayName
  let address := profile.host ++ ":" ++ toString profile.port.toNat
  match credential.material with
  | .vlessUuid uuid =>
      "vless://" ++ uuid ++ "@" ++ address ++
        "?encryption=none&flow=xtls-rprx-vision&security=reality&sni=" ++
        profile.realityServerName ++ "&fp=chrome&type=tcp#" ++ name
  | .trojanPassword password =>
      "trojan://" ++ password ++ "@" ++ address ++ "?security=tls&sni=" ++
        profile.realityServerName ++ "#" ++ name
  | .shadowsocksPassword method password =>
      let userinfo := crates.base64EncodeNoPad (utf8 (method ++ ":" ++ password))
      "ss://" ++ userinfo ++ "@" ++ address ++ "#" ++ name

/-- The links of the active credentials, in stored order. -/
def subscriptionLinks
    (crates : Crates) (profile : DeployedProfile) : List String :=
  (profile.credentials.filter Credential.isActive).map
    (subscriptionLink crates profile)

/-- `id` is a fresh UUID and `now` the clock reading of the artifact. -/
def generateSubscriptionArtifact
    (crates : Crates)
    (id : String) (now : Calendar.DateTime)
    (tenantId : String) (profile : DeployedProfile) (actor : String) :
    SubscriptionArtifact :=
  let plaintext := "\n".intercalate (subscriptionLinks crates profile)
  let bodyBase64 := crates.base64Encode (utf8 plaintext)
  { artifact :=
      Artifact.fromBytes crates id now tenantId .subscriptionArtifact
        "text/plain+base64" (utf8 bodyBase64) actor
    bodyBase64 := bodyBase64 }

end ProxyControl
