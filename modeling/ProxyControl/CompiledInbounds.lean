import ProxyControl.CompilerXray
import ProxyControl.ReferenceCrates

/-!
# The clients of a compiled configuration

The inbounds of the configuration are those of the profile, in order.  An
inbound of VLESS or Trojan has an account for each of its active clients.  An
inbound of Shadowsocks has one account, that of its first client, and a later
client with the same method is passed over.
-/

namespace ProxyControl

open Json (mapOf setField field?_mapOf field?_setField)

def CredentialMaterial.protocol : CredentialMaterial → InboundProtocol
  | .vlessUuid _ => .vless
  | .shadowsocksPassword .. => .shadowsocks
  | .trojanPassword _ => .trojan

def InboundProtocol.label : InboundProtocol → String
  | .vless => "vless"
  | .shadowsocks => "shadowsocks"
  | .trojan => "trojan"

theorem InboundProtocol.label_injective
    {protocol protocol' : InboundProtocol}
    (h : protocol.label = protocol'.label) :
    protocol = protocol' := by
  cases protocol <;> cases protocol' <;>
    first | rfl | exact absurd h (by decide)

/-! ## What a configuration accepts -/

def configInbounds (config : CompiledXrayConfig) : List Json.Value :=
  match config.configJson.field? "inbounds" with
  | some (.array inbounds) => inbounds
  | _ => []

def inboundClients (inbound : Json.Value) : List Json.Value :=
  match (inbound.field? "settings").bind (Json.Value.field? "clients") with
  | some (.array clients) => clients
  | _ => []

/-- The inbound has an account for the credential. -/
def HasAccount (inbound : Json.Value) : CredentialMaterial → Prop
  | .vlessUuid uuid =>
      ∃ client ∈ inboundClients inbound,
        client.field? "id" = some (.string uuid)
  | .trojanPassword password =>
      ∃ client ∈ inboundClients inbound,
        client.field? "password" = some (.string password)
  | .shadowsocksPassword method password =>
      (inbound.field? "settings").bind (Json.Value.field? "method") =
          some (.string method) ∧
        (inbound.field? "settings").bind (Json.Value.field? "password") =
          some (.string password)

theorem configInbounds_xrayConfig
    (inbounds : List Json.Value) :
    configInbounds ⟨xrayConfig inbounds⟩ = inbounds := by
  have hfield : (xrayConfig inbounds).field? "inbounds" =
      some (.array inbounds) := by
    rw [xrayConfig, field?_mapOf]
    rfl
  rw [configInbounds, hfield]

/-- The inbound lets a client with the material in. -/
structure Admits (json : Json.Value) (material : CredentialMaterial) : Prop where
  protocol : json.field? "protocol" = some (.string material.protocol.label)
  account : HasAccount json material

/-- The materials of the active clients of an inbound, of its own kind. -/
def clientMaterials (ctx : CompileContext) (inbound : Inbound) :
    Set CredentialMaterial :=
  {material | material.protocol = inbound.protocol ∧
    ∃ c ∈ ctx.credentials, c.status = .active ∧
      c.clientGroupId ∈ inbound.clientGroupRefs ∧ c.material = material}

/-- The compiled inbound is the given one and admits exactly its clients. -/
structure ServesInbound
    (ctx : CompileContext) (inbound : Inbound) (json : Json.Value) : Prop where
  tag : json.field? "tag" = some (.string inbound.id)
  listen : json.field? "listen" = some (.string inbound.listen)
  port : json.field? "port" = some (.number (.posInt inbound.port.toUInt64))
  protocol : json.field? "protocol" = some (.string inbound.protocol.label)
  clients : {material | Admits json material} = clientMaterials ctx inbound

/-- The inbounds of the configuration are those of the profile, in order. -/
def ServesExactly
    (ir : ProfileIr) (ctx : CompileContext) (config : CompiledXrayConfig) :
    Prop :=
  List.Forall₂ (ServesInbound ctx) ir.inbounds (configInbounds config)

/-- No Shadowsocks inbound has clients with different materials. -/
def OneShadowsocksClient (ir : ProfileIr) (ctx : CompileContext) : Prop :=
  ∀ inbound ∈ ir.inbounds, inbound.protocol = .shadowsocks →
    (clientMaterials ctx inbound).Subsingleton

variable {crates : Crates} {ctx ctx' : CompileContext} {inbound : Inbound}
variable {json : Json.Value}

theorem mem_servedCredentials
    {c : Credential} :
    c ∈ servedCredentials ctx inbound ↔
      c ∈ ctx.credentials ∧ c.clientGroupId ∈ inbound.clientGroupRefs ∧
        c.status = .active := by
  simp only [servedCredentials, activeInGroup, List.mem_flatMap,
    List.mem_filter, decide_eq_true_eq]
  constructor
  · rintro ⟨group, hgroup, hc, rfl, hactive⟩
    exact ⟨hc, hgroup, hactive⟩
  · rintro ⟨hc, hgroup, hactive⟩
    exact ⟨_, hgroup, hc, rfl, hactive⟩

theorem mem_clientMaterials
    {material : CredentialMaterial} :
    material ∈ clientMaterials ctx inbound ↔
      material.protocol = inbound.protocol ∧
        ∃ c ∈ servedCredentials ctx inbound, c.material = material := by
  simp only [clientMaterials, Set.mem_ofPred_eq, mem_servedCredentials]
  refine and_congr_right fun _ => exists_congr fun c => ?_
  constructor
  · rintro ⟨hc, hactive, hgroup, hmaterial⟩
    exact ⟨⟨hc, hgroup, hactive⟩, hmaterial⟩
  · rintro ⟨⟨hc, hgroup, hactive⟩, hmaterial⟩
    exact ⟨hc, hactive, hgroup, hmaterial⟩

/-! ## The shape of a compiled inbound -/

/-- The fields of every compiled inbound. -/
def inboundFields (inbound : Inbound) (settings : Json.Value) :
    List (String × Json.Value) :=
  [ ("tag", .string inbound.id),
    ("listen", .string inbound.listen),
    ("port", .number (.posInt inbound.port.toUInt64)),
    ("protocol", .string inbound.protocol.label),
    ("settings", settings) ]

/-- All but the stream settings of a compiled inbound. -/
def Framed (inbound : Inbound) (settings json : Json.Value) : Prop :=
  ∀ key, key ≠ "streamSettings" →
    json.field? key = (mapOf (inboundFields inbound settings)).field? key

theorem framed_mapOf
    (inbound : Inbound) (settings : Json.Value) :
    Framed inbound settings (mapOf (inboundFields inbound settings)) :=
  fun _ _ => rfl

theorem framed_setField
    (inbound : Inbound) (settings stream : Json.Value) :
    Framed inbound settings
      (setField "streamSettings" stream
        (mapOf (inboundFields inbound settings))) := by
  intro key hkey
  rw [field?_setField, if_neg hkey]

theorem Framed.settings
    {settings : Json.Value} (h : Framed inbound settings json) :
    json.field? "settings" = some settings := by
  rw [h _ (by decide), field?_mapOf]
  rfl

theorem Framed.protocol
    {settings : Json.Value} (h : Framed inbound settings json) :
    json.field? "protocol" = some (.string inbound.protocol.label) := by
  rw [h _ (by decide), field?_mapOf]
  rfl

/-- A framed inbound serves its clients if it has accounts for just them. -/
theorem Framed.servesInbound_iff
    {settings : Json.Value} (h : Framed inbound settings json) :
    ServesInbound ctx inbound json ↔
      ∀ material, material.protocol = inbound.protocol →
        (HasAccount json material ↔ material ∈ clientMaterials ctx inbound) := by
  have hadmits : ∀ material, Admits json material ↔
      material.protocol = inbound.protocol ∧ HasAccount json material := by
    intro material
    constructor
    · rintro ⟨hprotocol, haccount⟩
      rw [h.protocol] at hprotocol
      simp only [Option.some.injEq, Json.Value.string.injEq] at hprotocol
      exact ⟨(InboundProtocol.label_injective hprotocol).symm, haccount⟩
    · rintro ⟨hprotocol, haccount⟩
      exact ⟨by rw [hprotocol, h.protocol], haccount⟩
  constructor
  · rintro ⟨-, -, -, -, hclients⟩ material hprotocol
    rw [← hclients, Set.mem_ofPred_eq, hadmits]
    exact (and_iff_right hprotocol).symm
  · intro hall
    refine ⟨?_, ?_, ?_, h.protocol, ?_⟩
    · rw [h _ (by decide), field?_mapOf]
      rfl
    · rw [h _ (by decide), field?_mapOf]
      rfl
    · rw [h _ (by decide), field?_mapOf]
      rfl
    · ext material
      rw [Set.mem_ofPred_eq, hadmits]
      constructor
      · rintro ⟨hprotocol, haccount⟩
        exact (hall material hprotocol).mp haccount
      · intro hmem
        have hprotocol := (mem_clientMaterials.mp hmem).1
        exact ⟨hprotocol, (hall material hprotocol).mpr hmem⟩

theorem compileVless_framed
    (hprotocol : inbound.protocol = .vless)
    (h : compileVless ctx inbound = .ok json) :
    Framed inbound
      (mapOf [
        ("clients",
          .array ((servedCredentials ctx inbound).filterMap vlessClient)),
        ("decryption", .string "none")])
      json := by
  have hlabel : inbound.protocol.label = "vless" := by
    rw [hprotocol]
    rfl
  simp only [compileVless, ← hlabel] at h
  split at h
  · split at h
    · cases h
    · split at h
      · cases h
      · obtain rfl := Except.ok.inj h
        exact framed_setField _ _ _
  · obtain rfl := Except.ok.inj h
    exact framed_setField _ _ _
  · obtain rfl := Except.ok.inj h
    exact framed_mapOf _ _

theorem compileTrojan_framed
    (hprotocol : inbound.protocol = .trojan)
    (h : compileTrojan ctx inbound = .ok json) :
    Framed inbound
      (mapOf [
        ("clients",
          .array ((servedCredentials ctx inbound).filterMap trojanClient))])
      json := by
  have hlabel : inbound.protocol.label = "trojan" := by
    rw [hprotocol]
    rfl
  simp only [compileTrojan, ← hlabel] at h
  split at h
  · cases h
  · unfold applyStreamSecurity at h
    split at h
    · obtain rfl := Except.ok.inj h
      exact framed_setField _ _ _
    · obtain rfl := Except.ok.inj h
      exact framed_mapOf _ _
    · cases h

/-- A selected account stays selected. -/
theorem selectShadowsocks_some
    {inboundId : String} {account : String × String}
    {credentials : List Credential} {selected : Option (String × String)}
    (h : selectShadowsocks inboundId (some account) credentials =
      .ok selected) :
    selected = some account := by
  induction credentials with
  | nil => exact (Except.ok.inj h).symm
  | cons c credentials ih =>
      cases hmaterial : c.material with
      | shadowsocksPassword method password =>
          simp only [selectShadowsocks, hmaterial] at h
          split at h
          · cases h
          · exact ih h
      | vlessUuid uuid =>
          simp only [selectShadowsocks, hmaterial] at h
          exact ih h
      | trojanPassword password =>
          simp only [selectShadowsocks, hmaterial] at h
          exact ih h

/-- The account that is selected is that of a credential. -/
theorem selectShadowsocks_none
    {inboundId : String} {credentials : List Credential}
    {account : String × String}
    (h : selectShadowsocks inboundId none credentials = .ok (some account)) :
    ∃ c ∈ credentials,
      c.material = .shadowsocksPassword account.1 account.2 := by
  induction credentials with
  | nil => cases h
  | cons c credentials ih =>
      cases hmaterial : c.material with
      | shadowsocksPassword method password =>
          simp only [selectShadowsocks, hmaterial] at h
          obtain rfl := Option.some.inj (selectShadowsocks_some h)
          exact ⟨c, List.mem_cons_self, hmaterial⟩
      | vlessUuid uuid =>
          simp only [selectShadowsocks, hmaterial] at h
          obtain ⟨c', hc', heq⟩ := ih h
          exact ⟨c', List.mem_cons_of_mem _ hc', heq⟩
      | trojanPassword password =>
          simp only [selectShadowsocks, hmaterial] at h
          obtain ⟨c', hc', heq⟩ := ih h
          exact ⟨c', List.mem_cons_of_mem _ hc', heq⟩

theorem compileShadowsocks_framed
    (hprotocol : inbound.protocol = .shadowsocks)
    (h : compileShadowsocks crates ctx inbound = .ok json) :
    ∃ method password,
      selectShadowsocks inbound.id none (servedCredentials ctx inbound) =
          .ok (some (method, password)) ∧
        Framed inbound
          (mapOf [
            ("method", .string method),
            ("password", .string password),
            ("network", .string "tcp,udp")])
          json := by
  have hlabel : inbound.protocol.label = "shadowsocks" := by
    rw [hprotocol]
    rfl
  simp only [compileShadowsocks, ← hlabel, bind, Except.bind] at h
  split at h
  · cases h
  · rename_i selected hselected
    split at h
    · cases h
    · rename_i method password
      split at h
      · cases h
      · obtain rfl := Except.ok.inj h
        exact ⟨method, password, hselected, framed_mapOf _ _⟩

/-! ## Its accounts -/

theorem inboundClients_of_settings
    {fields : List (String × Json.Value)} {clients : List Json.Value}
    (h : json.field? "settings" = some (mapOf fields))
    (hclients : fields.reverse.lookup "clients" = some (.array clients)) :
    inboundClients json = clients := by
  rw [inboundClients, h, Option.bind_some, field?_mapOf, hclients]

theorem vlessClient_id
    {c : Credential} {client : Json.Value} {uuid : String}
    (h : vlessClient c = some client) :
    client.field? "id" = some (.string uuid) ↔ c.material = .vlessUuid uuid := by
  unfold vlessClient at h
  split at h
  · next uuid' hmaterial =>
      obtain rfl := Option.some.inj h
      rw [hmaterial, field?_mapOf]
      simp [List.lookup_cons]
  · cases h

theorem trojanClient_password
    {c : Credential} {client : Json.Value} {password : String}
    (h : trojanClient c = some client) :
    client.field? "password" = some (.string password) ↔
      c.material = .trojanPassword password := by
  unfold trojanClient at h
  split at h
  · next password' hmaterial =>
      obtain rfl := Option.some.inj h
      rw [hmaterial, field?_mapOf]
      simp [List.lookup_cons]
  · cases h

/-- The clients of a list with a material, among those that are translated. -/
theorem exists_client_iff
    {credentials : List Credential} {translate : Credential → Option Json.Value}
    {hasText : Json.Value → Prop} {material : CredentialMaterial}
    (htext : ∀ c client, translate c = some client →
      (hasText client ↔ c.material = material))
    (hall : ∀ c, c.material = material → translate c ≠ none) :
    (∃ client ∈ credentials.filterMap translate, hasText client) ↔
      ∃ c ∈ credentials, c.material = material := by
  constructor
  · rintro ⟨client, hclient, htexts⟩
    obtain ⟨c, hc, htranslate⟩ := List.mem_filterMap.mp hclient
    exact ⟨c, hc, (htext c client htranslate).mp htexts⟩
  · rintro ⟨c, hc, hmaterial⟩
    obtain ⟨client, hclient⟩ := Option.ne_none_iff_exists'.mp (hall c hmaterial)
    exact ⟨client, List.mem_filterMap.mpr ⟨c, hc, hclient⟩,
      (htext c client hclient).mpr hmaterial⟩

theorem compileVless_servesInbound
    (hprotocol : inbound.protocol = .vless)
    (h : compileVless ctx inbound = .ok json) :
    ServesInbound ctx inbound json := by
  have hframed := compileVless_framed hprotocol h
  rw [hframed.servesInbound_iff, hprotocol]
  intro material hkind
  rw [mem_clientMaterials, hprotocol, and_iff_right hkind]
  cases material with
  | vlessUuid uuid =>
      rw [HasAccount, inboundClients_of_settings hframed.settings rfl]
      refine exists_client_iff (fun c client => vlessClient_id) ?_
      intro c hmaterial
      simp [vlessClient, hmaterial]
  | shadowsocksPassword | trojanPassword => cases hkind

theorem compileTrojan_servesInbound
    (hprotocol : inbound.protocol = .trojan)
    (h : compileTrojan ctx inbound = .ok json) :
    ServesInbound ctx inbound json := by
  have hframed := compileTrojan_framed hprotocol h
  rw [hframed.servesInbound_iff, hprotocol]
  intro material hkind
  rw [mem_clientMaterials, hprotocol, and_iff_right hkind]
  cases material with
  | trojanPassword password =>
      rw [HasAccount, inboundClients_of_settings hframed.settings rfl]
      refine exists_client_iff (fun c client => trojanClient_password) ?_
      intro c hmaterial
      simp [trojanClient, hmaterial]
  | shadowsocksPassword | vlessUuid => cases hkind

/-- The one account of a Shadowsocks inbound is that of one of its clients. -/
theorem compileShadowsocks_servesInbound_iff
    (hprotocol : inbound.protocol = .shadowsocks)
    (h : compileShadowsocks crates ctx inbound = .ok json) :
    ServesInbound ctx inbound json ↔
      (clientMaterials ctx inbound).Subsingleton := by
  obtain ⟨method, password, hselected, hframed⟩ :=
    compileShadowsocks_framed hprotocol h
  obtain ⟨c, hc, hmaterial⟩ := selectShadowsocks_none hselected
  have hclient : .shadowsocksPassword method password ∈
      clientMaterials ctx inbound :=
    mem_clientMaterials.mpr ⟨hprotocol.symm, c, hc, hmaterial⟩
  have haccount : ∀ material, material.protocol = inbound.protocol →
      (HasAccount json material ↔
        material = .shadowsocksPassword method password) := by
    intro material hkind
    rw [hprotocol] at hkind
    cases material with
    | shadowsocksPassword method' password' =>
        simp only [HasAccount, hframed.settings, Option.bind_some, field?_mapOf]
        simp [List.lookup_cons, eq_comm]
    | vlessUuid | trojanPassword => cases hkind
  rw [hframed.servesInbound_iff]
  constructor
  · intro hall
    have hone : ∀ material ∈ clientMaterials ctx inbound,
        material = .shadowsocksPassword method password := by
      intro material hmem
      have hkind := (mem_clientMaterials.mp hmem).1
      exact (haccount material hkind).mp ((hall material hkind).mpr hmem)
    intro material hmem material' hmem'
    rw [hone material hmem, hone material' hmem']
  · intro hone material hkind
    rw [haccount material hkind]
    constructor
    · rintro rfl
      exact hclient
    · exact fun hmem => hone hmem hclient

theorem compileInbound_servesInbound_iff
    (h : compileInbound crates ctx inbound = .ok json) :
    ServesInbound ctx inbound json ↔
      (inbound.protocol = .shadowsocks →
        (clientMaterials ctx inbound).Subsingleton) := by
  unfold compileInbound at h
  cases hprotocol : inbound.protocol with
  | vless =>
      rw [hprotocol] at h
      exact iff_of_true (compileVless_servesInbound hprotocol h) nofun
  | trojan =>
      rw [hprotocol] at h
      exact iff_of_true (compileTrojan_servesInbound hprotocol h) nofun
  | shadowsocks =>
      rw [hprotocol] at h
      rw [compileShadowsocks_servesInbound_iff hprotocol h]
      exact ⟨fun hone _ => hone, fun hone => hone rfl⟩

/-! ## The whole configuration -/

/-- The results of a list of computations, one for one. -/
theorem mapM_eq_ok_iff
    {ε α β : Type} {f : α → Except ε β} {as : List α} {bs : List β} :
    as.mapM f = .ok bs ↔ List.Forall₂ (fun a b => f a = .ok b) as bs := by
  induction as generalizing bs with
  | nil =>
      rw [List.mapM_nil, List.forall₂_nil_left_iff]
      exact ⟨fun h => (Except.ok.inj h).symm, fun h => h ▸ rfl⟩
  | cons a as ih =>
      rw [List.mapM_cons, List.forall₂_cons_left_iff]
      cases ha : f a with
      | error e =>
          refine iff_of_false (fun h => by cases h) ?_
          rintro ⟨b, bs', hb, -⟩
          cases hb
      | ok b =>
          cases has : as.mapM f with
          | error e =>
              refine iff_of_false (fun h => by cases h) ?_
              rintro ⟨b', bs', -, hbs', -⟩
              rw [← ih, has] at hbs'
              cases hbs'
          | ok bs' =>
              have hrest := (@ih bs').mp has
              constructor
              · intro h
                obtain rfl := Except.ok.inj h
                exact ⟨b, bs', rfl, hrest, rfl⟩
              · rintro ⟨b', bs'', hb, hbs, rfl⟩
                obtain rfl := Except.ok.inj hb
                rw [← ih, has] at hbs
                obtain rfl := Except.ok.inj hbs
                rfl

/-- A configuration consists of its compiled inbounds. -/
theorem compileProfileToXray_eq_ok_iff
    {ir : ProfileIr} {config : CompiledXrayConfig} :
    compileProfileToXray crates ir ctx = .ok config ↔
      ir.validate = .ok () ∧ ∃ inbounds,
        List.Forall₂
          (fun inbound json => compileInbound crates ctx inbound = .ok json)
          ir.inbounds inbounds ∧
        config = ⟨xrayConfig inbounds⟩ := by
  unfold compileProfileToXray
  cases ir.validate with
  | error e =>
      refine iff_of_false (fun h => by cases h) ?_
      rintro ⟨hvalid, -⟩
      cases hvalid
  | ok u =>
      rw [and_iff_right rfl]
      cases hinbounds : ir.inbounds.mapM (compileInbound crates ctx) with
      | error e =>
          refine iff_of_false (fun h => by cases h) ?_
          rintro ⟨inbounds, hcompiled, -⟩
          rw [← mapM_eq_ok_iff, hinbounds] at hcompiled
          cases hcompiled
      | ok inbounds =>
          constructor
          · intro h
            exact ⟨inbounds, mapM_eq_ok_iff.mp hinbounds, (Except.ok.inj h).symm⟩
          · rintro ⟨inbounds', hcompiled, rfl⟩
            rw [← mapM_eq_ok_iff, hinbounds] at hcompiled
            obtain rfl := Except.ok.inj hcompiled
            rfl

/-- Equal results follow from equal inbounds, for contexts of one profile. -/
theorem compileProfileToXray_congr
    {ir : ProfileIr}
    (h : ∀ inbound ∈ ir.inbounds,
      compileInbound crates ctx inbound = compileInbound crates ctx' inbound) :
    compileProfileToXray crates ir ctx = compileProfileToXray crates ir ctx' := by
  have hmapM : ir.inbounds.mapM (compileInbound crates ctx) =
      ir.inbounds.mapM (compileInbound crates ctx') := by
    generalize ir.inbounds = inbounds at h ⊢
    induction inbounds with
    | nil => rfl
    | cons inbound inbounds ih =>
        rw [List.forall_mem_cons] at h
        rw [List.mapM_cons, List.mapM_cons, h.1, ih h.2]
  unfold compileProfileToXray
  rw [hmapM]

/--
A compiled configuration serves exactly the clients of its profile if and only
if no Shadowsocks inbound has two clients with different materials.
-/
theorem compiled_clients_exact_iff
    (crates : Crates) (ir : ProfileIr) (ctx : CompileContext)
    {config : CompiledXrayConfig}
    (h : compileProfileToXray crates ir ctx = .ok config) :
    ServesExactly ir ctx config ↔ OneShadowsocksClient ir ctx := by
  obtain ⟨-, inbounds, hcompiled, rfl⟩ := compileProfileToXray_eq_ok_iff.mp h
  unfold ServesExactly OneShadowsocksClient
  rw [configInbounds_xrayConfig]
  clear h
  generalize ir.inbounds = sources at hcompiled ⊢
  induction hcompiled with
  | nil => simp
  | cons hjson _ ih =>
      rw [List.forall₂_cons, List.forall_mem_cons, ih,
        compileInbound_servesInbound_iff hjson]

/-! ### A Shadowsocks inbound -/

/-- A profile with one Shadowsocks inbound. -/
def shadowsocksIr : ProfileIr where
  schemaVersion := "0.1"
  runtime := { core := "xray", coreVersion := "1.x" }
  inbounds := [{
    id := "in_ss_8388"
    protocol := .shadowsocks
    listen := "0.0.0.0"
    port := 8388
    security := .none
    clientGroupRefs := ["group_default"] }]
  clientGroups := []
  routes := []
  dns := { mode := "system" }

/-- Shadowsocks clients with the given passwords. -/
def shadowsocksContext (passwords : List String) : CompileContext where
  coreVersion := "1.8.0"
  secrets := []
  credentials := passwords.map fun password =>
    ⟨password, "group_default", password, .active,
      .shadowsocksPassword "aes-256-gcm" password⟩

theorem exists_config
    {ir : ProfileIr} {ctx : CompileContext}
    (h : (compileProfileToXray referenceCrates ir ctx).toOption.isSome = true) :
    ∃ config, compileProfileToXray referenceCrates ir ctx = .ok config := by
  cases hcompiled : compileProfileToXray referenceCrates ir ctx with
  | ok config => exact ⟨config, rfl⟩
  | error e =>
      rw [hcompiled] at h
      cases h

/-- A second client with the password of the first one. -/
def sharedContext : CompileContext :=
  (shadowsocksContext ["first"]).withCredential
    ⟨"second", "group_default", "second", .active,
      .shadowsocksPassword "aes-256-gcm" "first"⟩

/-- Two clients that share a password are served exactly. -/
theorem compiled_clients_exact_iff_shared :
    ∃ config,
      compileProfileToXray referenceCrates shadowsocksIr sharedContext =
        .ok config ∧
      ServesExactly shadowsocksIr sharedContext config := by
  obtain ⟨config, hconfig⟩ := @exists_config shadowsocksIr sharedContext (by decide)
  refine ⟨config, hconfig,
    (compiled_clients_exact_iff referenceCrates _ _ hconfig).mpr ?_⟩
  have hshared : ∀ c ∈ sharedContext.credentials,
      c.material = .shadowsocksPassword "aes-256-gcm" "first" := by
    decide
  intro inbound _ _
  rintro _ ⟨-, c, hc, -, -, rfl⟩ _ ⟨-, c', hc', -, -, rfl⟩
  rw [hshared c hc, hshared c' hc']

/-- The second client of a Shadowsocks inbound is dropped. -/
theorem second_client_dropped :
    ¬ ∀ (crates : Crates) (ir : ProfileIr) (ctx : CompileContext)
      (config : CompiledXrayConfig),
      compileProfileToXray crates ir ctx = .ok config →
        ServesExactly ir ctx config := by
  intro h
  obtain ⟨config, hconfig⟩ :=
    @exists_config shadowsocksIr (shadowsocksContext ["first", "second"])
      (by decide)
  obtain ⟨-, inbounds, hcompiled, rfl⟩ :=
    compileProfileToXray_eq_ok_iff.mp hconfig
  have hexact := h _ _ _ _ hconfig
  rw [ServesExactly, configInbounds_xrayConfig] at hexact
  cases hcompiled with
  | cons hjson _ =>
  cases hexact with
  | cons hserves _ =>
  have hone := (compileInbound_servesInbound_iff hjson).mp hserves rfl
  have hclient : ∀ password ∈ ["first", "second"],
      .shadowsocksPassword "aes-256-gcm" password ∈ clientMaterials
        (shadowsocksContext ["first", "second"])
        (shadowsocksIr.inbounds.head (by simp [shadowsocksIr])) := by
    intro password hpassword
    exact ⟨rfl, _, List.mem_map_of_mem hpassword, rfl,
      List.mem_singleton_self _, rfl⟩
  have hsame := hone (hclient "first" (by simp)) (hclient "second" (by simp))
  simp at hsame

end ProxyControl
