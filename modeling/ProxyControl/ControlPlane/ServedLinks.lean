import ProxyControl.ControlPlane.History
import ProxyControl.CompiledInbounds

/-!
# Subscription links and the compiled configuration

The credentials of a profile are translated twice: into the accounts of the
inbounds, and into the links of a subscription.  `Link` is what a link says and
`Accepts` when an inbound of the configuration lets it in.

A profile of the three endpoints has one inbound of one protocol, while a
client may be of any kind; and an inbound of Shadowsocks has one account, that
of the first client.  So all links are served exactly when all clients are of
the profile's own kind and, for Shadowsocks, share method and password.
-/

namespace ProxyControl

open Calendar Effects HashTable MemoryStore
open Json (mapOf setField strings field?_mapOf field?_setField)

/-! ## What a link says -/

structure Link where
  scheme : String
  host : String
  port : UInt16
  security : String
  serverName : String
  material : CredentialMaterial
  name : String

/-- The security mode that the links of a protocol name. -/
def InboundProtocol.linkSecurity : InboundProtocol → String
  | .vless => "reality"
  | .shadowsocks => "none"
  | .trojan => "tls"

/-- What the link of a credential says. -/
def linkOf (profile : DeployedProfile) (credential : Credential) : Link where
  scheme := match credential.material with
    | .vlessUuid _ => "vless"
    | .shadowsocksPassword .. => "ss"
    | .trojanPassword _ => "trojan"
  host := profile.host
  port := profile.port
  security := credential.material.protocol.linkSecurity
  serverName := profile.realityServerName
  material := credential.material
  name := utf8PercentEncode credential.displayName

/-- The text of a link. -/
def Link.render (crates : Crates) (link : Link) : String :=
  let address := link.host ++ ":" ++ toString link.port.toNat
  match link.material with
  | .vlessUuid uuid =>
      link.scheme ++ "://" ++ uuid ++ "@" ++ address ++
        "?encryption=none&flow=xtls-rprx-vision&security=" ++ link.security ++
        "&sni=" ++ link.serverName ++ "&fp=chrome&type=tcp#" ++ link.name
  | .trojanPassword password =>
      link.scheme ++ "://" ++ password ++ "@" ++ address ++ "?security=" ++
        link.security ++ "&sni=" ++ link.serverName ++ "#" ++ link.name
  | .shadowsocksPassword method password =>
      link.scheme ++ "://" ++
        crates.base64EncodeNoPad (utf8 (method ++ ":" ++ password)) ++ "@" ++
        address ++ "#" ++ link.name

/-- The links of a subscription, in stored order. -/
def linksOf (profile : DeployedProfile) : List Link :=
  (profile.credentials.filter Credential.isActive).map (linkOf profile)

theorem append_append_append
    (s a b c : String) :
    s ++ a ++ b ++ c = s ++ (a ++ (b ++ c)) := by
  rw [String.append_assoc, String.append_assoc]

theorem subscriptionLink_eq_render
    (crates : Crates) (profile : DeployedProfile) (credential : Credential) :
    subscriptionLink crates profile credential =
      (linkOf profile credential).render crates := by
  unfold subscriptionLink Link.render linkOf
  cases credential.material with
  | vlessUuid uuid =>
      simp only [CredentialMaterial.protocol, InboundProtocol.linkSecurity]
      rw [append_append_append _ "?encryption=none&flow=xtls-rprx-vision&security="]
      rfl
  | trojanPassword password =>
      simp only [CredentialMaterial.protocol, InboundProtocol.linkSecurity]
      rw [append_append_append _ "?security="]
      rfl
  | shadowsocksPassword method password => rfl

/-- The text of a subscription consists of its links. -/
theorem subscriptionLinks_eq_render
    (crates : Crates) (profile : DeployedProfile) :
    subscriptionLinks crates profile =
      (linksOf profile).map (Link.render crates) := by
  rw [subscriptionLinks, linksOf, List.map_map]
  apply List.map_congr_left
  intro credential _
  exact subscriptionLink_eq_render crates profile credential

/-! ## What the configuration accepts -/

/-- The security mode of an inbound; without stream settings there is none. -/
def inboundSecurity (inbound : Json.Value) : String :=
  match (inbound.field? "streamSettings").bind (Json.Value.field? "security")
      with
  | some (.string security) => security
  | _ => "none"

/-- The inbound lets in whoever follows the link. -/
structure Accepts (inbound : Json.Value) (link : Link) : Prop where
  protocol : inbound.field? "protocol" =
    some (.string link.material.protocol.label)
  port : inbound.field? "port" = some (.number (.posInt link.port.toUInt64))
  security : inboundSecurity inbound = link.security
  account : HasAccount inbound link.material

/-! ## The compiled inbounds -/

/-- The profiles of the endpoints: one inbound, for the default group. -/
structure EndpointIr (ir : ProfileIr) (inbound : Inbound) : Prop where
  inbounds : ir.inbounds = [inbound]
  groups : inbound.clientGroupRefs = ["group_default"]
  security : match inbound.protocol, inbound.security with
    | .vless, .reality .. | .shadowsocks, .none | .trojan, .tls _ => True
    | _, _ => False

/-- A credential of the default group that is active. -/
def IsDefault (credential : Credential) : Prop :=
  credential.clientGroupId = "group_default" ∧ credential.status = .active

theorem servedCredentials_eq
    {ctx : CompileContext} {inbound : Inbound}
    (hgroups : inbound.clientGroupRefs = ["group_default"])
    (hdefault : ∀ c ∈ ctx.credentials, IsDefault c) :
    servedCredentials ctx inbound = ctx.credentials := by
  simp only [servedCredentials, hgroups, List.flatMap_cons, List.flatMap_nil,
    List.append_nil, activeInGroup, List.filter_eq_self]
  intro c hc
  obtain ⟨hgroup, hstatus⟩ := hdefault c hc
  simp [hgroup, hstatus]

/-- What a compiled inbound says about its protocol, port and security. -/
structure Serves (json : Json.Value) (inbound : Inbound) : Prop where
  protocol : json.field? "protocol" = some (.string inbound.protocol.label)
  port : json.field? "port" = some (.number (.posInt inbound.port.toUInt64))
  security : inboundSecurity json = inbound.protocol.linkSecurity

/-- An inbound without stream settings serves its protocol in plain text. -/
theorem serves_mapOf
    {inbound : Inbound} (settings : Json.Value)
    (hplain : inbound.protocol.linkSecurity = "none") :
    Serves (mapOf (inboundFields inbound settings)) inbound ∧
      (mapOf (inboundFields inbound settings)).field? "settings" =
        some settings := by
  refine ⟨⟨?_, ?_, ?_⟩, ?_⟩
  · rw [field?_mapOf]
    rfl
  · rw [field?_mapOf]
    rfl
  · rw [inboundSecurity, field?_mapOf, hplain]
    rfl
  · rw [field?_mapOf]
    rfl

/-- Stream settings give an inbound its security mode. -/
theorem serves_setField
    {inbound : Inbound} (settings : Json.Value)
    {stream : List (String × Json.Value)}
    (hmode : stream.reverse.lookup "security" =
      some (.string inbound.protocol.linkSecurity)) :
    Serves (setField "streamSettings" (mapOf stream)
        (mapOf (inboundFields inbound settings))) inbound ∧
      (setField "streamSettings" (mapOf stream)
        (mapOf (inboundFields inbound settings))).field? "settings" =
          some settings := by
  refine ⟨⟨?_, ?_, ?_⟩, ?_⟩
  · rw [field?_setField, if_neg (by decide), field?_mapOf]
    rfl
  · rw [field?_setField, if_neg (by decide), field?_mapOf]
    rfl
  · rw [inboundSecurity, field?_setField, if_pos rfl, Option.bind_some,
      field?_mapOf, hmode]
  · rw [field?_setField, if_neg (by decide), field?_mapOf]
    rfl

theorem compileVless_serves
    {ctx : CompileContext} {inbound : Inbound} {json : Json.Value}
    (hprotocol : inbound.protocol = .vless)
    (hsecurity : ∃ serverName key ids,
      inbound.security = .reality serverName key ids)
    (h : compileVless ctx inbound = .ok json) :
    Serves json inbound ∧
      inboundClients json =
        (servedCredentials ctx inbound).filterMap vlessClient := by
  obtain ⟨serverName, key, ids, hreality⟩ := hsecurity
  have hlabel : inbound.protocol.label = "vless" := by
    rw [hprotocol]
    rfl
  have hmode : inbound.protocol.linkSecurity = "reality" := by
    rw [hprotocol]
    rfl
  simp only [compileVless, hreality, ← hlabel] at h
  split at h
  · cases h
  · split at h
    · cases h
    · obtain rfl := Except.ok.inj h
      refine ⟨(serves_setField _ ?_).1,
        inboundClients_of_settings (serves_setField _ ?_).2 rfl⟩
      · rw [hmode]
        rfl
      · rw [hmode]
        rfl

theorem compileTrojan_serves
    {ctx : CompileContext} {inbound : Inbound} {json : Json.Value}
    (hprotocol : inbound.protocol = .trojan)
    (hsecurity : ∃ serverName, inbound.security = .tls serverName)
    (h : compileTrojan ctx inbound = .ok json) :
    Serves json inbound ∧
      inboundClients json =
        (servedCredentials ctx inbound).filterMap trojanClient := by
  obtain ⟨serverName, htls⟩ := hsecurity
  have hlabel : inbound.protocol.label = "trojan" := by
    rw [hprotocol]
    rfl
  have hmode : inbound.protocol.linkSecurity = "tls" := by
    rw [hprotocol]
    rfl
  simp only [compileTrojan, htls, applyStreamSecurity, ← hlabel] at h
  split at h
  · cases h
  · obtain rfl := Except.ok.inj h
    refine ⟨(serves_setField _ ?_).1,
      inboundClients_of_settings (serves_setField _ ?_).2 rfl⟩
    · rw [hmode]
      rfl
    · rw [hmode]
      rfl

theorem compileShadowsocks_serves
    {crates : Crates} {ctx : CompileContext} {inbound : Inbound}
    {json : Json.Value} (hprotocol : inbound.protocol = .shadowsocks)
    (h : compileShadowsocks crates ctx inbound = .ok json) :
    Serves json inbound ∧
      ∃ method password,
        (∃ c ∈ servedCredentials ctx inbound,
          c.material = .shadowsocksPassword method password) ∧
        ∀ method' password',
          HasAccount json (.shadowsocksPassword method' password') ↔
            method' = method ∧ password' = password := by
  have hlabel : inbound.protocol.label = "shadowsocks" := by
    rw [hprotocol]
    rfl
  have hmode : inbound.protocol.linkSecurity = "none" := by
    rw [hprotocol]
    rfl
  simp only [compileShadowsocks, ← hlabel, bind, Except.bind] at h
  split at h
  · cases h
  · rename_i selected hselected
    split at h
    · cases h
    · rename_i method password
      split at h
      · cases h
      · obtain rfl := Except.ok.inj h
        obtain ⟨hserves, hsettings⟩ := @serves_mapOf inbound
          (mapOf [("method", .string method), ("password", .string password),
            ("network", .string "tcp,udp")]) hmode
        refine ⟨hserves, method, password,
          selectShadowsocks_none hselected, ?_⟩
        intro method' password'
        have hmethod : (mapOf [("method", .string method),
            ("password", .string password),
            ("network", .string "tcp,udp")]).field? "method" =
              some (.string method) := by
          rw [field?_mapOf]
          rfl
        have hpassword : (mapOf [("method", .string method),
            ("password", .string password),
            ("network", .string "tcp,udp")]).field? "password" =
              some (.string password) := by
          rw [field?_mapOf]
          rfl
        simp only [inboundFields] at hsettings
        simp only [HasAccount, hsettings, Option.bind_some, hmethod, hpassword,
          Option.some.injEq, Json.Value.string.injEq, eq_comm]

/-! ## All links of a profile -/

/-- Every link of the subscription is let in by an inbound. -/
structure LinksServed
    (crates : Crates) (deployed : DeployedProfile)
    (config : CompiledXrayConfig) : Prop where
  body : ∀ id now tenantId actor,
    (generateSubscriptionArtifact crates id now tenantId deployed
      actor).bodyBase64 =
      crates.base64Encode (utf8 ("\n".intercalate
        ((linksOf deployed).map (Link.render crates))))
  served : ∀ link ∈ linksOf deployed,
    ∃ inbound ∈ configInbounds config, Accepts inbound link

/-- The clients are of the kind of the profile and fit into its accounts. -/
structure OfOneKind
    (ir : ProfileIr) (credentials : List Credential) : Prop where
  kind : ∀ inbound ∈ ir.inbounds, ∀ c ∈ credentials,
    c.material.protocol = inbound.protocol
  account : ∀ inbound ∈ ir.inbounds, inbound.protocol = .shadowsocks →
    ∀ c ∈ credentials, ∀ c' ∈ credentials, c.material = c'.material

/-- One client of a profile that is not one of Shadowsocks. -/
theorem ofOneKind_single
    {ir : ProfileIr} {credentials : List Credential}
    {protocol protocol' : InboundProtocol}
    (h : ir.inbounds.map (fun inbound => inbound.protocol) = [protocol])
    (h' : credentials.map (fun c => c.material.protocol) = [protocol'])
    (hother : protocol ≠ .shadowsocks) :
    OfOneKind ir credentials ↔ protocol' = protocol := by
  obtain ⟨inbound, hinbounds, rfl⟩ := List.map_eq_singleton_iff.mp h
  obtain ⟨c, hcredentials, rfl⟩ := List.map_eq_singleton_iff.mp h'
  constructor
  · intro hone
    apply hone.kind
    · rw [hinbounds]
      exact List.mem_singleton_self _
    · rw [hcredentials]
      exact List.mem_singleton_self _
  · intro hsame
    constructor <;> rw [hinbounds] <;> intro i hi <;>
      obtain rfl := List.mem_singleton.mp hi
    · intro c' hc'
      rw [hcredentials] at hc'
      obtain rfl := List.mem_singleton.mp hc'
      exact hsame
    · intro hshadowsocks
      exact absurd hshadowsocks hother

theorem hasAccount_vless
    {json : Json.Value} {credentials : List Credential}
    (h : inboundClients json = credentials.filterMap vlessClient)
    {c : Credential} (hc : c ∈ credentials)
    (hprotocol : c.material.protocol = .vless) :
    HasAccount json c.material := by
  cases hmaterial : c.material with
  | vlessUuid uuid =>
      refine ⟨_, h ▸ List.mem_filterMap.mpr ⟨c, hc, by
        simp only [vlessClient, hmaterial]; rfl⟩, ?_⟩
      rw [field?_mapOf]
      rfl
  | shadowsocksPassword | trojanPassword =>
      rw [hmaterial] at hprotocol
      cases hprotocol

theorem hasAccount_trojan
    {json : Json.Value} {credentials : List Credential}
    (h : inboundClients json = credentials.filterMap trojanClient)
    {c : Credential} (hc : c ∈ credentials)
    (hprotocol : c.material.protocol = .trojan) :
    HasAccount json c.material := by
  cases hmaterial : c.material with
  | trojanPassword password =>
      refine ⟨_, h ▸ List.mem_filterMap.mpr ⟨c, hc, by
        simp only [trojanClient, hmaterial]; rfl⟩, ?_⟩
      rw [field?_mapOf]
      rfl
  | shadowsocksPassword | vlessUuid =>
      rw [hmaterial] at hprotocol
      cases hprotocol

/-- The links are served when the one inbound has an account for each. -/
theorem accepts_iff
    {json : Json.Value} {inbound : Inbound} {deployed : DeployedProfile}
    (hserves : Serves json inbound) (hport : deployed.port = inbound.port)
    (hactive : ∀ c ∈ deployed.credentials, c.status = .active) :
    (∀ link ∈ linksOf deployed, ∃ i ∈ [json], Accepts i link) ↔
      ∀ c ∈ deployed.credentials,
        c.material.protocol = inbound.protocol ∧
          HasAccount json c.material := by
  have hfilter : deployed.credentials.filter Credential.isActive =
      deployed.credentials := by
    rw [List.filter_eq_self]
    intro c hc
    exact decide_eq_true (hactive c hc)
  constructor
  · intro h c hc
    have hlink : linkOf deployed c ∈ linksOf deployed := by
      rw [linksOf, hfilter]
      exact List.mem_map_of_mem hc
    obtain ⟨i, hi, haccepts⟩ := h _ hlink
    obtain rfl := List.mem_singleton.mp hi
    refine ⟨?_, haccepts.account⟩
    have hlabel := hserves.protocol.symm.trans haccepts.protocol
    simp only [Option.some.injEq, Json.Value.string.injEq] at hlabel
    exact (InboundProtocol.label_injective hlabel).symm
  · intro h link hlink
    rw [linksOf, hfilter] at hlink
    obtain ⟨c, hc, rfl⟩ := List.mem_map.mp hlink
    obtain ⟨hprotocol, haccount⟩ := h c hc
    refine ⟨json, List.mem_singleton_self _, ?_, ?_, ?_, haccount⟩
    · rw [hserves.protocol]
      exact congrArg (fun p => some (Json.Value.string p.label))
        hprotocol.symm
    · rw [hserves.port, ← hport]
      rfl
    · rw [hserves.security, ← hprotocol]
      rfl

theorem compileProfileToXray_endpoint
    {crates : Crates} {ir : ProfileIr} {inbound : Inbound}
    {ctx : CompileContext} {config : CompiledXrayConfig}
    (hir : EndpointIr ir inbound)
    (h : compileProfileToXray crates ir ctx = .ok config) :
    ∃ json, compileInbound crates ctx inbound = .ok json ∧
      configInbounds config = [json] := by
  unfold compileProfileToXray at h
  split at h
  · cases h
  · rw [hir.inbounds, List.mapM_cons, List.mapM_nil] at h
    cases hinbound : compileInbound crates ctx inbound with
    | error error =>
        rw [hinbound] at h
        cases h
    | ok json =>
        rw [hinbound] at h
        obtain rfl := Except.ok.inj h
        exact ⟨json, rfl, configInbounds_xrayConfig [json]⟩

/-- A profile of an endpoint serves all links of clients of one kind only. -/
theorem linksServed_iff
    {crates : Crates} {ir : ProfileIr} {inbound : Inbound}
    {ctx : CompileContext} {config : CompiledXrayConfig}
    {deployed : DeployedProfile} (hir : EndpointIr ir inbound)
    (hport : deployed.port = inbound.port)
    (hdefault : ∀ c ∈ deployed.credentials, IsDefault c)
    (hctx : ctx.credentials = deployed.credentials)
    (h : compileProfileToXray crates ir ctx = .ok config) :
    LinksServed crates deployed config ↔ OfOneKind ir deployed.credentials := by
  obtain ⟨json, hjson, hconfig⟩ := compileProfileToXray_endpoint hir h
  have hserved : servedCredentials ctx inbound = deployed.credentials := by
    rw [servedCredentials_eq hir.groups (hctx ▸ hdefault), hctx]
  have hactive : ∀ c ∈ deployed.credentials, c.status = .active :=
    fun c hc => (hdefault c hc).2
  have hbody : LinksServed crates deployed config ↔
      ∀ link ∈ linksOf deployed, ∃ i ∈ [json], Accepts i link := by
    rw [← hconfig]
    refine ⟨fun h => h.served, fun h => ⟨?_, h⟩⟩
    intro id now tenantId actor
    rw [← subscriptionLinks_eq_render]
    rfl
  have hkind : OfOneKind ir deployed.credentials ↔
      (∀ c ∈ deployed.credentials, c.material.protocol = inbound.protocol) ∧
        (inbound.protocol = .shadowsocks → ∀ c ∈ deployed.credentials,
          ∀ c' ∈ deployed.credentials, c.material = c'.material) := by
    constructor
    · rintro ⟨hkind, haccount⟩
      rw [hir.inbounds] at hkind haccount
      exact ⟨hkind inbound (List.mem_singleton_self _),
        haccount inbound (List.mem_singleton_self _)⟩
    · rintro ⟨hkind, haccount⟩
      constructor <;> rw [hir.inbounds] <;> intro i hi <;>
        obtain rfl := List.mem_singleton.mp hi
      · exact hkind
      · exact haccount
  rw [hbody, hkind]
  have hsecurity := hir.security
  unfold compileInbound at hjson
  cases hprotocol : inbound.protocol with
  | vless =>
      rw [hprotocol] at hjson hsecurity
      have hreality : ∃ serverName key ids,
          inbound.security = .reality serverName key ids := by
        cases hmode : inbound.security with
        | reality serverName key ids => exact ⟨_, _, _, rfl⟩
        | tls | none =>
            rw [hmode] at hsecurity
            exact hsecurity.elim
      obtain ⟨hserves, hclients⟩ :=
        compileVless_serves hprotocol hreality hjson
      rw [hserved] at hclients
      rw [accepts_iff hserves hport hactive, hprotocol]
      constructor
      · intro hall
        exact ⟨fun c hc => (hall c hc).1, fun hne => nomatch hne⟩
      · rintro ⟨hall, -⟩ c hc
        exact ⟨hall c hc, hasAccount_vless hclients hc (hall c hc)⟩
  | trojan =>
      rw [hprotocol] at hjson hsecurity
      have htls : ∃ serverName, inbound.security = .tls serverName := by
        cases hmode : inbound.security with
        | tls serverName => exact ⟨_, rfl⟩
        | reality | none =>
            rw [hmode] at hsecurity
            exact hsecurity.elim
      obtain ⟨hserves, hclients⟩ := compileTrojan_serves hprotocol htls hjson
      rw [hserved] at hclients
      rw [accepts_iff hserves hport hactive, hprotocol]
      constructor
      · intro hall
        exact ⟨fun c hc => (hall c hc).1, fun hne => nomatch hne⟩
      · rintro ⟨hall, -⟩ c hc
        exact ⟨hall c hc, hasAccount_trojan hclients hc (hall c hc)⟩
  | shadowsocks =>
      rw [hprotocol] at hjson
      obtain ⟨hserves, method, password, ⟨c₀, hc₀, hmaterial₀⟩, haccount⟩ :=
        compileShadowsocks_serves hprotocol hjson
      rw [hserved] at hc₀
      rw [accepts_iff hserves hport hactive, hprotocol]
      -- the one account of the inbound is that of `c₀`
      have hone : ∀ c : Credential, c.material.protocol = .shadowsocks →
          (HasAccount json c.material ↔ c.material = c₀.material) := by
        intro c hc
        rw [hmaterial₀]
        cases hmaterial : c.material with
        | shadowsocksPassword method' password' =>
            rw [haccount, CredentialMaterial.shadowsocksPassword.injEq]
        | vlessUuid | trojanPassword =>
            rw [hmaterial] at hc
            cases hc
      constructor
      · intro hall
        refine ⟨fun c hc => (hall c hc).1, ?_⟩
        intro _ c hc c' hc'
        have hcm := (hone c (hall c hc).1).mp (hall c hc).2
        have hcm' := (hone c' (hall c' hc').1).mp (hall c' hc').2
        rw [hcm, hcm']
      · rintro ⟨hall, hsame⟩ c hc
        exact ⟨hall c hc, (hone c (hall c hc)).mpr (hsame rfl c hc c₀ hc₀)⟩

/-! ## Profiles and clients of the control plane -/

/-- Profiles come from the endpoints, and clients are default credentials. -/
structure EndpointRecords (s : MemoryState) : Prop where
  profiles : ∀ profileId profile, get s.profiles profileId = some profile →
    ∃ inbound, EndpointIr profile.ir inbound
  credentials : ∀ profileId, ∀ c ∈ credentialsOf profileId s, IsDefault c

/-- A call creates an endpoint's profile or a default credential at most. -/
def CreatesDefaults : Call → Prop
  | .store (.createProfile profile) => ∃ inbound, EndpointIr profile.ir inbound
  | .store (.addCredential _ credential) => IsDefault credential
  | _ => True

theorem EndpointRecords.exec
    {crates : Crates} {tenantId : String} {op : StoreCall} {s : MemoryState}
    (h : EndpointRecords s) (hop : CreatesDefaults (.store op)) (t : Tick) :
    EndpointRecords (exec crates tenantId op t s).2 := by
  constructor
  · cases op with
    | createProfile profile =>
        intro profileId other hother
        change get (s.profiles.insert profile.profileId profile) profileId =
          some other at hother
        rw [get_insert] at hother
        split_ifs at hother with hid
        · obtain rfl := Option.some.inj hother
          exact hop
        · exact h.profiles profileId other hother
    | _ =>
        intro profileId other hother
        rw [exec_frame crates tenantId (g := .profiles) rfl t s] at hother
        exact h.profiles profileId other hother
  · cases op with
    | addCredential profileId credential =>
        intro other c hc
        simp only [MemoryStore.exec, addCredential] at hc
        split at hc
        · change c ∈ (get (s.credentialsByProfile.insert profileId
            (credentialsOf profileId s ++ [credential])) other).getD [] at hc
          rw [get_insert] at hc
          split_ifs at hc with hid
          · rw [Option.getD_some] at hc
            rcases List.mem_append.mp hc with hc | hc
            · exact h.credentials profileId c hc
            · obtain rfl := List.mem_singleton.mp hc
              exact hop
          · exact h.credentials other c hc
        · exact h.credentials other c hc
    | _ =>
        intro other c hc
        unfold credentialsOf at hc
        rw [(exec_credentialTables crates tenantId _ t s).1 rfl] at hc
        exact h.credentials other c hc

/-- The endpoints that create profiles and clients. -/
def isCreation : Request → Bool
  | .createVlessRealityProfile .. | .createShadowsocksProfile ..
  | .createTrojanProfile .. | .createClient _ => true
  | _ => false

theorem createsDefaults_of_makes
    {request : Request} (h : isCreation request = false) {op : Call}
    (hop : request.Makes op) :
    CreatesDefaults op := by
  cases op with
  | store op =>
      cases op with
      | createProfile profile =>
          cases request with
          | createVlessRealityProfile | createShadowsocksProfile
          | createTrojanProfile => cases h
          | _ => cases hop
      | addCredential profileId credential =>
          cases request with
          | createClient => cases h
          | _ => cases hop
      | _ => trivial
  | _ => trivial

theorem isDefault_of_requested
    {req : AppState.CreateClientRequest} {credential : Credential}
    (h : AppState.requestedCredential req = .ok credential) :
    IsDefault credential := by
  unfold AppState.requestedCredential at h
  simp only [bind, Except.bind] at h
  split at h
  · split at h
    · cases h
    · obtain rfl := Except.ok.inj h
      exact ⟨rfl, rfl⟩
  · split at h
    · split at h
      · cases h
      · split at h
        · cases h
        · obtain rfl := Except.ok.inj h
          exact ⟨rfl, rfl⟩
    · split at h
      · split at h
        · cases h
        · obtain rfl := Except.ok.inj h
          exact ⟨rfl, rfl⟩
      · cases h

open Handler in
/-- Every handler creates endpoint profiles and default credentials only. -/
theorem serve_createsDefaults
    (crates : Crates) (app : AppState) (request : Request) :
    (app.serve crates request).Calls CreatesDefaults := by
  cases request with
  | createVlessRealityProfile profileId serverName =>
      refine calls_orStatus_bind fun _ _ => ?_
      refine calls_perform_bind trivial fun now => ?_
      exact calls_store_bind ⟨_, rfl, rfl, trivial⟩ (fun _ => calls_pure _)
  | createShadowsocksProfile profileId port =>
      refine calls_perform_bind trivial fun now => ?_
      exact calls_store_bind ⟨_, rfl, rfl, trivial⟩ (fun _ => calls_pure _)
  | createTrojanProfile profileId serverName port =>
      refine calls_perform_bind trivial fun now => ?_
      exact calls_store_bind ⟨_, rfl, rfl, trivial⟩ (fun _ => calls_pure _)
  | createClient req =>
      refine calls_orStatus_bind fun credential hcredential => ?_
      refine calls_store_bind (isDefault_of_requested hcredential) fun _ => ?_
      cases req.quotaBytes with
      | some quotaBytes =>
          refine calls_store_bind trivial fun _ => ?_
          cases req.expiresAt with
          | some expiresAt => exact calls_store_bind trivial fun _ => calls_pure _
          | none => exact calls_pure _
      | none =>
          cases req.expiresAt with
          | some expiresAt => exact calls_store_bind trivial fun _ => calls_pure _
          | none => exact calls_pure _
  | _ =>
      exact Program.All.mono (AppState.serve_makes crates app _)
        (fun op hop => createsDefaults_of_makes rfl hop)

theorem History.endpointRecords
    {crates : Crates} {app : AppState} {history : List Exchange} {s : Shared}
    (h : History crates app history s) :
    EndpointRecords s.store := by
  have hnew : EndpointRecords MemoryState.default := by
    constructor
    · intro profileId profile hget
      cases hget
    · intro profileId c hc
      cases hc
  refine @History.invariant crates app (fun _ s => EndpointRecords s.store)
    hnew ?_ history s h
  intro request log s hs
  refine Handler.Calls.ensures (serve_createsDefaults crates app request) ?_ hs
  intro op t log s hop hs
  cases op with
  | store op => exact hs.exec hop t
  | nextSequence | pushRunnerResult | runnerResultCount | now | uuid =>
      exact hs

/-- What a subscription is made from. -/
theorem deployedProfile_port
    {now : DateTime} {order : IterationOrder} {profileId : String}
    {s : MemoryState} {profile : ProfileRecord} {deployed : DeployedProfile}
    {inbound : Inbound} (hprofile : get s.profiles profileId = some profile)
    (hinbounds : profile.ir.inbounds = [inbound])
    (h : deployedProfileForSubscription now order profileId s = .ok deployed) :
    deployed.port = inbound.port := by
  simp only [deployedProfileForSubscription, MemoryStore.profile, okOr,
    hprofile, hinbounds, bind, Except.bind, List.head?_cons] at h
  split at h
  · cases h
  · obtain rfl := Except.ok.inj h
    rfl

/-! ## A VLESS profile and one client -/

/-- A node, a VLESS profile, and one client of a kind. -/
def oneClient (kind : String) : List (Request × (ℕ → Tick)) :=
  [ (registration "dev-registration-token" "node-a" 1,
      referenceEnv 1700000000 "a"),
    (.createVlessRealityProfile "profile" "example.com",
      referenceEnv 1700000100 "b"),
    (.createClient {
        clientId := "client"
        profileId := "profile"
        displayName := "Client"
        uuid := some "uuid"
        kind := some kind
        method := none
        password := some "password"
        quotaBytes := none
        expiresAt := none }, referenceEnv 1700000200 "c") ]

def oneClientState (kind : String) : MemoryState :=
  (referenceApp.serveAll referenceCrates (oneClient kind) .new).store

/-- The context in which the profile is compiled for the node. -/
def oneClientContext (kind : String) : CompileContext where
  coreVersion := "1.8.0"
  secrets := [("sec_reality_private", "key")]
  credentials := credentialsOf "profile" (oneClientState kind)

/-- The profile is shown and compiled with all its credentials. -/
def shownAndCompiled (kind : String) : Bool :=
  match (oneClientState kind).profiles.get "profile",
      deployedProfileForSubscription ⟨1700000300, 0⟩ IterationOrder.entryOrder
        "profile" (oneClientState kind) with
  | some profile, .ok deployed =>
      deployed.credentials = credentialsOf "profile" (oneClientState kind) ∧
        (compileProfileToXray referenceCrates profile.ir
          (oneClientContext kind)).isOk = true ∧
        profile.ir.inbounds.map (fun inbound => inbound.protocol) = [.vless]
  | _, _ => false

theorem exists_compiled
    {kind : String} (h : shownAndCompiled kind = true) :
    ∃ profile deployed config,
      get (oneClientState kind).profiles "profile" = some profile ∧
        deployedProfileForSubscription ⟨1700000300, 0⟩
          IterationOrder.entryOrder "profile" (oneClientState kind) =
            .ok deployed ∧
        deployed.credentials = credentialsOf "profile" (oneClientState kind) ∧
        compileProfileToXray referenceCrates profile.ir
          (oneClientContext kind) = .ok config ∧
        profile.ir.inbounds.map (fun inbound => inbound.protocol) =
          [.vless] := by
  unfold shownAndCompiled at h
  split at h
  · rename_i profile deployed hprofile hdeployed
    obtain ⟨hshown, hcompiled, hprotocol⟩ := of_decide_eq_true h
    cases hconfig : compileProfileToXray referenceCrates profile.ir
        (oneClientContext kind) with
    | error error =>
        rw [hconfig] at hcompiled
        cases hcompiled
    | ok config =>
        exact ⟨profile, deployed, config, hprofile, hdeployed, hshown,
          hconfig, hprotocol⟩
  · cases h

theorem oneClient_compiled :
    shownAndCompiled "vless" = true ∧ shownAndCompiled "trojan" = true ∧
      (credentialsOf "profile" (oneClientState "vless")).map
        (fun c => c.material.protocol) = [.vless] ∧
      (credentialsOf "profile" (oneClientState "trojan")).map
        (fun c => c.material.protocol) = [.trojan] := by
  decide +kernel

/--
When no credential is hidden, all links of a profile are served by its compiled
configuration exactly when its clients are of one kind.
-/
theorem links_served_iff
    (crates : Crates) (app : AppState)
    {history : List Exchange} {s : Shared}
    (h : History crates app history s)
    {profileId : String} {profile : ProfileRecord}
    (hprofile : get s.store.profiles profileId = some profile)
    {now : DateTime} {order : IterationOrder} {deployed : DeployedProfile}
    (hdeployed : deployedProfileForSubscription now order profileId s.store =
      .ok deployed)
    (hshown : deployed.credentials = credentialsOf profileId s.store)
    {ctx : CompileContext} {config : CompiledXrayConfig}
    (hctx : ctx.credentials = credentialsOf profileId s.store)
    (hcompile : compileProfileToXray crates profile.ir ctx = .ok config) :
    LinksServed crates deployed config ↔
      OfOneKind profile.ir (credentialsOf profileId s.store) := by
  have hrecords := h.endpointRecords
  obtain ⟨inbound, hir⟩ := hrecords.profiles profileId profile hprofile
  have hport := deployedProfile_port hprofile hir.inbounds hdeployed
  rw [← hshown] at hctx ⊢
  refine linksServed_iff hir hport ?_ hctx hcompile
  rw [hshown]
  exact hrecords.credentials profileId

theorem links_served_iff_vless :
    ∃ deployed config,
      deployedProfileForSubscription ⟨1700000300, 0⟩ IterationOrder.entryOrder
        "profile" (oneClientState "vless") = .ok deployed ∧
      LinksServed referenceCrates deployed config := by
  obtain ⟨hcompiled, -, hkinds, -⟩ := oneClient_compiled
  obtain ⟨profile, deployed, config, hprofile, hdeployed, hshown, hcompile,
    hprotocol⟩ := exists_compiled hcompiled
  refine ⟨deployed, config, hdeployed, ?_⟩
  refine (links_served_iff referenceCrates referenceApp
    (History.new.serveAll (oneClient "vless")) hprofile hdeployed hshown rfl
    hcompile).mpr ?_
  exact (ofOneKind_single hprotocol hkinds (by decide)).mpr rfl

/-- The link of a Trojan client of a VLESS profile is served by no inbound. -/
theorem foreign_client_not_served :
    ¬ ∀ (crates : Crates) (app : AppState)
      (history : List Exchange) (s : Shared),
      History crates app history s →
      ∀ (profileId : String) (profile : ProfileRecord),
        get s.store.profiles profileId = some profile →
      ∀ (now : DateTime) (order : IterationOrder) (deployed : DeployedProfile),
        deployedProfileForSubscription now order profileId s.store =
          .ok deployed →
        deployed.credentials = credentialsOf profileId s.store →
      ∀ (ctx : CompileContext) (config : CompiledXrayConfig),
        ctx.credentials = credentialsOf profileId s.store →
        compileProfileToXray crates profile.ir ctx = .ok config →
        LinksServed crates deployed config := by
  intro h
  obtain ⟨-, hcompiled, -, hkinds⟩ := oneClient_compiled
  obtain ⟨profile, deployed, config, hprofile, hdeployed, hshown, hcompile,
    hprotocol⟩ := exists_compiled hcompiled
  have hhistory : History referenceCrates referenceApp _ _ :=
    History.new.serveAll (oneClient "trojan")
  have hserved := h referenceCrates referenceApp _ _ hhistory "profile" profile
    hprofile _ _ deployed hdeployed hshown (oneClientContext "trojan") config
    rfl hcompile
  have hrecords := hhistory.endpointRecords
  obtain ⟨inbound, hir⟩ := hrecords.profiles "profile" profile hprofile
  have hone := (linksServed_iff hir
    (deployedProfile_port hprofile hir.inbounds hdeployed)
    (hshown ▸ hrecords.credentials "profile") hshown.symm hcompile).mp hserved
  rw [hshown] at hone
  have hkind := (ofOneKind_single hprotocol hkinds (by decide)).mp hone
  exact absurd hkind (by decide)

end ProxyControl
