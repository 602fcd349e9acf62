import ProxyControl.CompiledInbounds
import ProxyControl.ControlPlane.Compilation

/-!
# Secrets in compiled artifacts

A compiled configuration holds private keys, uuids and passwords in clear, and
the artifact made of it is marked as free of secrets.  The mark is right only
for profiles that use no secret: all inbounds are of VLESS, without REALITY, and
have no client.

Two contexts with other secrets are compared.  `scrambled` changes every value
in a context and keeps the kinds of the materials; it shows up in each inbound
that holds a value.
-/

namespace ProxyControl

open Json (mapOf setField field?_mapOf field?_setField)

/-- The context has the same secrets and credentials, with other values. -/
structure SameButSecrets (ctx ctx' : CompileContext) : Prop where
  coreVersion : ctx.coreVersion = ctx'.coreVersion
  secrets : ∀ id,
    (ctx.secrets.lookup id).isSome = (ctx'.secrets.lookup id).isSome
  credentials : List.Forall₂
    (fun c c' => ∃ material, c' = { c with material := material })
    ctx.credentials ctx'.credentials

/-- The bytes of an artifact marked free of secrets are the same for others. -/
def MarkedBytesAgree
    (crates : Crates) (ir : ProfileIr) (ctx : CompileContext) : Prop :=
  ∀ ctx' config config' bytes bytes', SameButSecrets ctx ctx' →
    compileProfileToXray crates ir ctx = .ok config →
    compileProfileToXray crates ir ctx' = .ok config' →
    crates.toVecPretty config.configJson = .ok bytes →
    crates.toVecPretty config'.configJson = .ok bytes' →
    ∀ (app : AppState) (c : Compilation), c.bytes = bytes →
      (c.artifact crates app).redactionStatus = .containsNoSecrets →
      bytes = bytes'

/-- The compilation of an inbound uses no secret. -/
structure WithoutSecrets (ctx : CompileContext) (inbound : Inbound) : Prop where
  protocol : inbound.protocol = .vless
  security : ∀ serverName key ids,
    inbound.security ≠ .reality serverName key ids
  clients : servedCredentials ctx inbound = []

variable {crates : Crates} {ctx ctx' : CompileContext} {inbound : Inbound}
variable {json json' : Json.Value}

/-! ## Where nothing is used -/

theorem SameButSecrets.servedCredentials_eq_nil
    (h : SameButSecrets ctx ctx') (hnone : servedCredentials ctx inbound = []) :
    servedCredentials ctx' inbound = [] := by
  rw [List.eq_nil_iff_forall_not_mem] at hnone ⊢
  intro c' hc'
  rw [mem_servedCredentials] at hc'
  obtain ⟨hmem, hgroup, hactive⟩ := hc'
  obtain ⟨c, hc, material, rfl⟩ :
      ∃ c ∈ ctx.credentials, ∃ material, c' = { c with material := material } := by
    have hall := h.credentials
    clear h hnone
    generalize ctx.credentials = left at hall ⊢
    generalize ctx'.credentials = right at hall hmem
    induction hall with
    | nil => cases hmem
    | @cons c other left right hsame _ ih =>
        rcases List.mem_cons.mp hmem with rfl | hmem
        · exact ⟨c, List.mem_cons_self, hsame⟩
        · obtain ⟨c, hc, hsame⟩ := ih hmem
          exact ⟨c, List.mem_cons_of_mem _ hc, hsame⟩
  exact hnone c (mem_servedCredentials.mpr ⟨hc, hgroup, hactive⟩)

theorem WithoutSecrets.compileInbound_eq
    (h : WithoutSecrets ctx inbound) (hsame : SameButSecrets ctx ctx') :
    compileInbound crates ctx inbound = compileInbound crates ctx' inbound := by
  have hclients := hsame.servedCredentials_eq_nil h.clients
  simp only [compileInbound, h.protocol, compileVless, h.clients, hclients]
  cases hsecurity : inbound.security with
  | reality serverName key ids => exact absurd hsecurity (h.security _ _ _)
  | tls | none => rfl

/-! ## Other values of the same kinds -/

/-- Another material of the same kind, under a method that checks nothing. -/
def CredentialMaterial.scrambled : CredentialMaterial → CredentialMaterial
  | .vlessUuid uuid => .vlessUuid (uuid ++ "x")
  | .shadowsocksPassword _ password =>
      .shadowsocksPassword "aes-256-gcm" (password ++ "x")
  | .trojanPassword password => .trojanPassword (password ++ "x")

def Credential.withMaterial
    (f : CredentialMaterial → CredentialMaterial) (c : Credential) : Credential :=
  { c with material := f c.material }

def CompileContext.mapMaterials
    (f : CredentialMaterial → CredentialMaterial) (ctx : CompileContext) :
    CompileContext :=
  { ctx with
    secrets := ctx.secrets.map (fun secret => (secret.1, secret.2 ++ "x"))
    credentials := ctx.credentials.map (Credential.withMaterial f) }

theorem append_x_ne (s : String) : s ++ "x" ≠ s := by
  intro h
  have hlength := congrArg String.length h
  simp at hlength

theorem lookup_map_snd
    (f : String → String) (secrets : List (String × String)) (id : String) :
    (secrets.map (fun secret => (secret.1, f secret.2))).lookup id =
      (secrets.lookup id).map f := by
  induction secrets with
  | nil => rfl
  | cons secret secrets ih =>
      obtain ⟨key, value⟩ := secret
      simp only [List.map_cons, List.lookup_cons, ih]
      cases id == key <;> rfl

theorem sameButSecrets_mapMaterials
    (f : CredentialMaterial → CredentialMaterial) (ctx : CompileContext) :
    SameButSecrets ctx (ctx.mapMaterials f) where
  coreVersion := rfl
  secrets := fun id => by
    simp only [CompileContext.mapMaterials, lookup_map_snd (· ++ "x"),
      Option.isSome_map]
  credentials := by
    simp only [CompileContext.mapMaterials, List.forall₂_map_right_iff]
    exact List.forall₂_same.mpr (fun c _ => ⟨f c.material, rfl⟩)

theorem servedCredentials_mapMaterials
    (f : CredentialMaterial → CredentialMaterial) (ctx : CompileContext)
    (inbound : Inbound) :
    servedCredentials (ctx.mapMaterials f) inbound =
      (servedCredentials ctx inbound).map (Credential.withMaterial f) := by
  simp only [servedCredentials, List.map_flatMap]
  congr 1
  funext group
  simp only [activeInGroup, CompileContext.mapMaterials, List.filter_map]
  rfl

/-! ### Clients -/

section Scrambles

variable {α β : Type}

/-- The function keeps what is translated, and changes each translation. -/
structure Scrambles (translate : α → Option β) (f : α → α) : Prop where
  changed : ∀ a b, translate a = some b → ∃ b', translate (f a) = some b' ∧ b' ≠ b
  absent : ∀ a, translate a = none → translate (f a) = none

variable {translate : α → Option β} {f : α → α} {l : List α}

theorem Scrambles.filterMap_ne_nil
    (h : Scrambles translate f) (hl : l.filterMap translate ≠ []) :
    (l.map f).filterMap translate ≠ [] := by
  obtain ⟨b, hb⟩ := List.exists_mem_of_ne_nil _ hl
  obtain ⟨a, ha, htranslate⟩ := List.mem_filterMap.mp hb
  obtain ⟨b', hb', -⟩ := h.changed a b htranslate
  exact List.ne_nil_of_mem
    (List.mem_filterMap.mpr ⟨f a, List.mem_map_of_mem ha, hb'⟩)

/-- Scrambled lists differ, unless nothing is translated. -/
theorem Scrambles.eq_nil
    (h : Scrambles translate f)
    (heq : (l.map f).filterMap translate = l.filterMap translate) :
    l.filterMap translate = [] := by
  induction l with
  | nil => rfl
  | cons a l ih =>
      cases htranslate : translate a with
      | none =>
          rw [List.map_cons, List.filterMap_cons_none htranslate,
            List.filterMap_cons_none (h.absent a htranslate)] at heq
          rw [List.filterMap_cons_none htranslate]
          exact ih heq
      | some b =>
          obtain ⟨b', hb', hne⟩ := h.changed a b htranslate
          rw [List.map_cons, List.filterMap_cons_some htranslate,
            List.filterMap_cons_some hb'] at heq
          exact absurd (List.cons.inj heq).1 hne

end Scrambles

theorem scrambles_vlessClient :
    Scrambles vlessClient (Credential.withMaterial .scrambled) where
  changed := by
    intro c client hclient
    cases hmaterial : c.material with
    | vlessUuid uuid =>
        refine ⟨_, by
          simp only [vlessClient, Credential.withMaterial, hmaterial,
            CredentialMaterial.scrambled]; rfl, ?_⟩
        rintro rfl
        have hid := (vlessClient_id hclient).mpr hmaterial
        simp [field?_mapOf, List.lookup_cons] at hid
    | _ => simp [vlessClient, hmaterial] at hclient
  absent := by
    intro c hnone
    cases hmaterial : c.material with
    | vlessUuid uuid => simp [vlessClient, hmaterial] at hnone
    | _ =>
        simp [vlessClient, Credential.withMaterial, hmaterial,
          CredentialMaterial.scrambled]

theorem scrambles_trojanClient :
    Scrambles trojanClient (Credential.withMaterial .scrambled) where
  changed := by
    intro c client hclient
    cases hmaterial : c.material with
    | trojanPassword password =>
        refine ⟨_, by
          simp only [trojanClient, Credential.withMaterial, hmaterial,
            CredentialMaterial.scrambled]; rfl, ?_⟩
        rintro rfl
        have hpassword := (trojanClient_password hclient).mpr hmaterial
        simp [field?_mapOf, List.lookup_cons] at hpassword
    | _ => simp [trojanClient, hmaterial] at hclient
  absent := by
    intro c hnone
    cases hmaterial : c.material with
    | trojanPassword password => simp [trojanClient, hmaterial] at hnone
    | _ =>
        simp [trojanClient, Credential.withMaterial, hmaterial,
          CredentialMaterial.scrambled]

/-! ### The inbounds -/

/-- The private key of an inbound with REALITY. -/
def privateKey? (json : Json.Value) : Option Json.Value :=
  ((json.field? "streamSettings").bind (Json.Value.field? "realitySettings")).bind
    (Json.Value.field? "privateKey")

theorem compileVless_reality
    {serverName : String} {key : SecretRef} {ids : List String}
    (hsecurity : inbound.security = .reality serverName key ids)
    (h : compileVless ctx inbound = .ok json) :
    privateKey? json = (ctx.secrets.lookup key.id).map .string := by
  simp only [compileVless, hsecurity] at h
  split at h
  · cases h
  · split at h
    · cases h
    · next value hvalue =>
        obtain rfl := Except.ok.inj h
        rw [hvalue, privateKey?, field?_setField, if_pos rfl]
        simp [field?_mapOf, List.lookup_cons]

/-- Whether a VLESS inbound compiles does not depend on the values. -/
theorem SameButSecrets.compileVless_isOk
    (h : SameButSecrets ctx ctx') (hok : ∃ json, compileVless ctx inbound = .ok json) :
    ∃ json', compileVless ctx' inbound = .ok json' := by
  obtain ⟨json, hok⟩ := hok
  simp only [compileVless, ← h.coreVersion] at hok ⊢
  split at hok
  · split at hok
    · cases hok
    · next serverName key ids hsecurity hversion =>
        split at hok
        · cases hok
        · next value hvalue =>
            have hsome := h.secrets key.id
            rw [hvalue] at hsome
            obtain ⟨value', hvalue'⟩ := Option.isSome_iff_exists.mp hsome.symm
            rw [if_neg hversion, hvalue']
            exact ⟨_, rfl⟩
  · exact ⟨_, rfl⟩
  · exact ⟨_, rfl⟩

/-- Scrambling shows up in a VLESS inbound that uses a key or has a client. -/
theorem compileVless_scrambled
    (hprotocol : inbound.protocol = .vless)
    (h : compileVless ctx inbound = .ok json)
    (h' : compileVless (ctx.mapMaterials .scrambled) inbound = .ok json) :
    (∀ serverName key ids, inbound.security ≠ .reality serverName key ids) ∧
      (servedCredentials ctx inbound).filterMap vlessClient = [] := by
  constructor
  · intro serverName key ids hsecurity
    have hkey := compileVless_reality hsecurity h
    rw [compileVless_reality hsecurity h'] at hkey
    simp only [CompileContext.mapMaterials, lookup_map_snd (· ++ "x")] at hkey
    cases hvalue : ctx.secrets.lookup key.id with
    | none =>
        simp only [compileVless, hsecurity, hvalue] at h
        split at h <;> cases h
    | some value => simp [hvalue] at hkey
  · have hclients := inboundClients_of_settings
      (compileVless_framed hprotocol h).settings rfl
    rw [inboundClients_of_settings (compileVless_framed hprotocol h').settings
      rfl, servedCredentials_mapMaterials] at hclients
    exact scrambles_vlessClient.eq_nil hclients

/-- A Trojan inbound compiles with other values, to something else. -/
theorem compileTrojan_scrambled
    (hprotocol : inbound.protocol = .trojan)
    (h : compileTrojan ctx inbound = .ok json) :
    ∃ json', compileTrojan (ctx.mapMaterials .scrambled) inbound = .ok json' ∧
      json' ≠ json := by
  have hclients := inboundClients_of_settings
    (compileTrojan_framed hprotocol h).settings rfl
  have hsome : (servedCredentials ctx inbound).filterMap trojanClient ≠ [] := by
    intro hnil
    simp only [compileTrojan, hnil, List.isEmpty_nil, if_true] at h
    cases h
  have hsome' : (servedCredentials (ctx.mapMaterials .scrambled)
      inbound).filterMap trojanClient ≠ [] := by
    rw [servedCredentials_mapMaterials]
    exact scrambles_trojanClient.filterMap_ne_nil hsome
  have hok : ∃ json',
      compileTrojan (ctx.mapMaterials .scrambled) inbound = .ok json' := by
    simp only [compileTrojan, List.isEmpty_iff, hsome, hsome', if_false] at h ⊢
    cases hsecurity : inbound.security with
    | reality serverName key ids =>
        rw [hsecurity] at h
        cases h
    | tls | none => exact ⟨_, rfl⟩
  obtain ⟨json', hjson'⟩ := hok
  refine ⟨json', hjson', ?_⟩
  rintro rfl
  rw [inboundClients_of_settings (compileTrojan_framed hprotocol hjson').settings
    rfl, servedCredentials_mapMaterials] at hclients
  exact hsome (scrambles_trojanClient.eq_nil hclients)

/-- The selection among scrambled clients is the scrambled selection. -/
theorem selectShadowsocks_scrambled
    {inboundId : String} {credentials : List Credential}
    {method password : String}
    (h : selectShadowsocks inboundId none credentials =
      .ok (some (method, password))) :
    selectShadowsocks inboundId none
        (credentials.map (Credential.withMaterial .scrambled)) =
      .ok (some ("aes-256-gcm", password ++ "x")) := by
  have hsome : ∀ (credentials : List Credential) (account : String),
      selectShadowsocks inboundId (some ("aes-256-gcm", account))
          (credentials.map (Credential.withMaterial .scrambled)) =
        .ok (some ("aes-256-gcm", account)) := by
    intro credentials account
    induction credentials with
    | nil => rfl
    | cons c credentials ih =>
        cases hmaterial : c.material <;>
          simp [selectShadowsocks, Credential.withMaterial, hmaterial,
            CredentialMaterial.scrambled, ih]
  induction credentials with
  | nil => cases h
  | cons c credentials ih =>
      cases hmaterial : c.material with
      | shadowsocksPassword method' password' =>
          simp only [selectShadowsocks, hmaterial] at h
          cases selectShadowsocks_some h
          simp only [List.map_cons, selectShadowsocks, Credential.withMaterial,
            hmaterial, CredentialMaterial.scrambled]
          exact hsome credentials _
      | vlessUuid | trojanPassword =>
          simp only [selectShadowsocks, hmaterial] at h
          simp only [List.map_cons, selectShadowsocks, Credential.withMaterial,
            hmaterial, CredentialMaterial.scrambled]
          exact ih h

/-- A Shadowsocks inbound compiles with other values, to something else. -/
theorem compileShadowsocks_scrambled
    (hprotocol : inbound.protocol = .shadowsocks)
    (h : compileShadowsocks crates ctx inbound = .ok json) :
    ∃ json',
      compileShadowsocks crates (ctx.mapMaterials .scrambled) inbound =
          .ok json' ∧
        json' ≠ json := by
  obtain ⟨method, password, hselected, hframed⟩ :=
    compileShadowsocks_framed hprotocol h
  have hselected' := selectShadowsocks_scrambled hselected
  rw [← servedCredentials_mapMaterials] at hselected'
  have hvalid : ∀ password : String,
      validateShadowsocksMethodPassword crates "aes-256-gcm" password =
        .ok () := by
    intro password
    simp [validateShadowsocksMethodPassword]
  have hok : ∃ json', compileShadowsocks crates (ctx.mapMaterials .scrambled)
      inbound = .ok json' := by
    simp only [compileShadowsocks, hselected', bind, Except.bind, hvalid]
    exact ⟨_, rfl⟩
  obtain ⟨json', hjson'⟩ := hok
  refine ⟨json', hjson', ?_⟩
  rintro rfl
  obtain ⟨method', password', hother, hframed'⟩ :=
    compileShadowsocks_framed hprotocol hjson'
  rw [hselected'] at hother
  obtain ⟨rfl, rfl⟩ := Prod.mk.inj (Option.some.inj (Except.ok.inj hother))
  have hsettings := hframed.settings.symm.trans hframed'.settings
  have hpassword := congrArg (Json.Value.field? "password")
    (Option.some.inj hsettings)
  simp [field?_mapOf, List.lookup_cons] at hpassword
  exact append_x_ne password hpassword.symm

/-- With scrambled values, an inbound compiles to something else if it uses any. -/
theorem compileInbound_scrambled
    (h : compileInbound crates ctx inbound = .ok json) :
    ∃ json', compileInbound crates (ctx.mapMaterials .scrambled) inbound =
        .ok json' ∧
      (json' = json → inbound.protocol = .vless ∧
        (∀ serverName key ids,
          inbound.security ≠ .reality serverName key ids) ∧
        (servedCredentials ctx inbound).filterMap vlessClient = []) := by
  unfold compileInbound at h ⊢
  cases hprotocol : inbound.protocol with
  | vless =>
      rw [hprotocol] at h
      obtain ⟨json', hjson'⟩ :=
        (sameButSecrets_mapMaterials .scrambled ctx).compileVless_isOk ⟨json, h⟩
      refine ⟨json', hjson', ?_⟩
      rintro rfl
      exact ⟨rfl, compileVless_scrambled hprotocol h hjson'⟩
  | trojan =>
      rw [hprotocol] at h
      obtain ⟨json', hjson', hne⟩ := compileTrojan_scrambled hprotocol h
      exact ⟨json', hjson', fun heq => absurd heq hne⟩
  | shadowsocks =>
      rw [hprotocol] at h
      obtain ⟨json', hjson', hne⟩ := compileShadowsocks_scrambled hprotocol h
      exact ⟨json', hjson', fun heq => absurd heq hne⟩

/-! ## The bytes of two contexts -/

/-- Equal results come from equal inbounds. -/
theorem compileInbound_eq_of_config_eq
    {ir : ProfileIr} {config : CompiledXrayConfig}
    (h : compileProfileToXray crates ir ctx = .ok config)
    (h' : compileProfileToXray crates ir ctx' = .ok config) :
    ∀ inbound ∈ ir.inbounds, ∃ json,
      compileInbound crates ctx inbound = .ok json ∧
        compileInbound crates ctx' inbound = .ok json := by
  obtain ⟨-, inbounds, hcompiled, rfl⟩ := compileProfileToXray_eq_ok_iff.mp h
  obtain ⟨-, inbounds', hcompiled', hconfig⟩ :=
    compileProfileToXray_eq_ok_iff.mp h'
  have hsame := congrArg configInbounds hconfig
  rw [configInbounds_xrayConfig, configInbounds_xrayConfig] at hsame
  subst hsame
  clear h h' hconfig
  generalize ir.inbounds = sources at hcompiled hcompiled' ⊢
  induction hcompiled with
  | nil => simp
  | @cons inbound json sources inbounds hjson _ ih =>
      rw [List.forall₂_cons] at hcompiled'
      rw [List.forall_mem_cons]
      exact ⟨⟨json, hjson, hcompiled'.1⟩, ih hcompiled'.2⟩

/-- A profile compiles for another context if all its inbounds do. -/
theorem compileProfileToXray_isOk
    {ir : ProfileIr} {config : CompiledXrayConfig}
    (h : compileProfileToXray crates ir ctx = .ok config)
    (hall : ∀ inbound ∈ ir.inbounds, ∀ json,
      compileInbound crates ctx inbound = .ok json →
        ∃ json', compileInbound crates ctx' inbound = .ok json') :
    ∃ config', compileProfileToXray crates ir ctx' = .ok config' := by
  obtain ⟨hvalid, inbounds, hcompiled, -⟩ := compileProfileToXray_eq_ok_iff.mp h
  suffices hinbounds : ∃ inbounds', List.Forall₂
      (fun inbound json => compileInbound crates ctx' inbound = .ok json)
      ir.inbounds inbounds' by
    obtain ⟨inbounds', hcompiled'⟩ := hinbounds
    exact ⟨_, compileProfileToXray_eq_ok_iff.mpr
      ⟨hvalid, inbounds', hcompiled', rfl⟩⟩
  clear h hvalid
  generalize ir.inbounds = sources at hcompiled hall ⊢
  induction hcompiled with
  | nil => exact ⟨[], .nil⟩
  | cons hjson _ ih =>
      rw [List.forall_mem_cons] at hall
      obtain ⟨json', hjson'⟩ := hall.1 _ hjson
      obtain ⟨inbounds', hrest⟩ := ih hall.2
      exact ⟨json' :: inbounds', .cons hjson' hrest⟩

/-- Marked bytes that agree come from inbounds that agree. -/
theorem MarkedBytesAgree.compileInbound_eq
    {ir : ProfileIr} {config : CompiledXrayConfig}
    (hagree : MarkedBytesAgree crates ir ctx)
    (parse : Bytes → Option Json.Value)
    (hprints : ∀ value, ∃ bytes, crates.toVecPretty value = .ok bytes)
    (hparses : ∀ ctx config bytes,
      compileProfileToXray crates ir ctx = .ok config →
      crates.toVecPretty config.configJson = .ok bytes →
      parse bytes = some config.configJson)
    (h : compileProfileToXray crates ir ctx = .ok config)
    (hsame : SameButSecrets ctx ctx')
    (hall : ∀ inbound ∈ ir.inbounds, ∀ json,
      compileInbound crates ctx inbound = .ok json →
        ∃ json', compileInbound crates ctx' inbound = .ok json') :
    ∀ inbound ∈ ir.inbounds, ∃ json,
      compileInbound crates ctx inbound = .ok json ∧
        compileInbound crates ctx' inbound = .ok json := by
  obtain ⟨config', h'⟩ := compileProfileToXray_isOk h hall
  obtain ⟨bytes, hbytes⟩ := hprints config.configJson
  obtain ⟨bytes', hbytes'⟩ := hprints config'.configJson
  have hequal : bytes = bytes' :=
    hagree ctx' config config' bytes bytes' hsame h h' hbytes hbytes'
      referenceApp ⟨⟨"", ""⟩, config.configJson, bytes, "", referenceEnv 0 "",
        .new⟩ rfl rfl
  have hjson := hparses ctx config bytes h hbytes
  rw [hequal, hparses ctx' config' bytes' h' hbytes', Option.some.injEq] at hjson
  have hconfig : config' = config := by
    cases config
    cases config'
    exact congrArg CompiledXrayConfig.mk hjson
  exact compileInbound_eq_of_config_eq h (hconfig ▸ h')

/--
The bytes marked as free of secrets are the same for all secrets if and only if
no inbound uses a secret.  The printer prints every value, and the text of a
compiled configuration is read back.
-/
theorem marked_bytes_agree_iff
    (crates : Crates) (parse : Bytes → Option Json.Value)
    (ir : ProfileIr) (ctx : CompileContext) {config : CompiledXrayConfig}
    (h : compileProfileToXray crates ir ctx = .ok config)
    (hprints : ∀ value, ∃ bytes, crates.toVecPretty value = .ok bytes)
    (hparses : ∀ ctx config bytes,
      compileProfileToXray crates ir ctx = .ok config →
      crates.toVecPretty config.configJson = .ok bytes →
      parse bytes = some config.configJson) :
    MarkedBytesAgree crates ir ctx ↔
      ∀ inbound ∈ ir.inbounds, WithoutSecrets ctx inbound := by
  constructor
  · intro hagree
    have hscrambled := hagree.compileInbound_eq parse hprints hparses h
      (sameButSecrets_mapMaterials .scrambled ctx) (by
        intro inbound _ json hjson
        obtain ⟨json', hjson', -⟩ := compileInbound_scrambled hjson
        exact ⟨json', hjson'⟩)
    have hplain : ∀ inbound ∈ ir.inbounds, inbound.protocol = .vless ∧
        (∀ serverName key ids,
          inbound.security ≠ .reality serverName key ids) ∧
        (servedCredentials ctx inbound).filterMap vlessClient = [] := by
      intro inbound hinbound
      obtain ⟨json, hjson, hjson'⟩ := hscrambled inbound hinbound
      obtain ⟨other, hother, himplies⟩ := compileInbound_scrambled hjson
      rw [hjson'] at hother
      exact himplies (Except.ok.inj hother).symm
    -- no inbound has a VLESS client, so every client is made one
    have hclients := hagree.compileInbound_eq parse hprints hparses h
      (sameButSecrets_mapMaterials (fun _ => .vlessUuid "") ctx) (by
        intro inbound hinbound json hjson
        obtain ⟨hprotocol, -, -⟩ := hplain inbound hinbound
        simp only [compileInbound, hprotocol] at hjson ⊢
        exact (sameButSecrets_mapMaterials _ ctx).compileVless_isOk ⟨json, hjson⟩)
    intro inbound hinbound
    obtain ⟨hprotocol, hsecurity, hnone⟩ := hplain inbound hinbound
    refine ⟨hprotocol, hsecurity, ?_⟩
    obtain ⟨json, hjson, hjson'⟩ := hclients inbound hinbound
    simp only [compileInbound, hprotocol] at hjson hjson'
    have hlist := inboundClients_of_settings
      (compileVless_framed hprotocol hjson).settings rfl
    rw [inboundClients_of_settings (compileVless_framed hprotocol hjson').settings
      rfl, servedCredentials_mapMaterials, hnone] at hlist
    rw [List.eq_nil_iff_forall_not_mem]
    intro c hc
    have hclient : vlessClient (c.withMaterial fun _ => .vlessUuid "") ≠ none := by
      simp [vlessClient, Credential.withMaterial]
    obtain ⟨client, hclient⟩ := Option.ne_none_iff_exists'.mp hclient
    have hmem := List.mem_filterMap.mpr
      ⟨_, List.mem_map_of_mem (f := Credential.withMaterial _) hc, hclient⟩
    rw [hlist] at hmem
    cases hmem
  · intro hwithout ctx' config₁ config' bytes bytes' hsame h₁ h' hbytes hbytes'
      _ _ _ _
    have hconfigs : compileProfileToXray crates ir ctx =
        compileProfileToXray crates ir ctx' :=
      compileProfileToXray_congr fun inbound hinbound =>
        (hwithout inbound hinbound).compileInbound_eq hsame
    rw [h₁, h'] at hconfigs
    obtain rfl := Except.ok.inj hconfigs
    rw [hbytes] at hbytes'
    exact Except.ok.inj hbytes'

/-! ### A profile with a key, and one without -/

/-- A VLESS inbound over TLS for no group. -/
def closedIr : ProfileIr where
  schemaVersion := "0.1"
  runtime := { core := "xray", coreVersion := "1.x" }
  inbounds := [{
    id := "in_tls_443"
    protocol := .vless
    listen := "0.0.0.0"
    port := 443
    security := .tls "example.com"
    clientGroupRefs := [] }]
  clientGroups := []
  routes := []
  dns := { mode := "system" }

/-- It compiles to the same configuration in every context. -/
theorem closedIr_config
    (ctx ctx' : CompileContext) :
    compileProfileToXray referenceCrates closedIr ctx =
      compileProfileToXray referenceCrates closedIr ctx' :=
  rfl

/-- A secret, and an active credential of a group that the inbound has not. -/
def closedContext : CompileContext :=
  ((CompileContext.new "1.8.0").withSecret "sec_reality_private"
    "one").withCredential
      (.activeVless "credential" "group_default" "uuid" "client")

/-- Its bytes are the same for all secrets. -/
theorem marked_bytes_agree_iff_closed :
    ∃ config,
      compileProfileToXray referenceCrates closedIr closedContext =
        .ok config ∧
      MarkedBytesAgree referenceCrates closedIr closedContext := by
  obtain ⟨config, hconfig⟩ := @exists_config closedIr closedContext (by decide)
  refine ⟨config, hconfig, (marked_bytes_agree_iff referenceCrates
    (fun _ => some config.configJson) closedIr closedContext hconfig
    (fun value => ⟨_, rfl⟩) ?_).mpr ?_⟩
  · intro ctx config' bytes hconfig' _
    rw [closedIr_config ctx closedContext, hconfig] at hconfig'
    rw [Except.ok.inj hconfig']
  · intro inbound hinbound
    obtain rfl := List.mem_singleton.mp hinbound
    refine ⟨rfl, ?_, rfl⟩
    intro serverName key ids hsecurity
    cases hsecurity

/-- The bytes of the example profile compiled with a private key. -/
def bytesWithKey (value : String) : Option Bytes :=
  (compileProfileToXray referenceCrates
      (.vlessRealityExample "group_default" "sec_reality_private")
      ((CompileContext.new "1.8.0").withSecret "sec_reality_private"
        value)).toOption.bind
    fun config => (referenceCrates.toVecPretty config.configJson).toOption

theorem exists_bytes
    {value : String} (h : (bytesWithKey value).isSome = true) :
    ∃ config bytes,
      compileProfileToXray referenceCrates
          (.vlessRealityExample "group_default" "sec_reality_private")
          ((CompileContext.new "1.8.0").withSecret "sec_reality_private"
            value) = .ok config ∧
        referenceCrates.toVecPretty config.configJson = .ok bytes ∧
        bytesWithKey value = some bytes := by
  unfold bytesWithKey at h ⊢
  cases hconfig : compileProfileToXray referenceCrates
      (.vlessRealityExample "group_default" "sec_reality_private")
      ((CompileContext.new "1.8.0").withSecret "sec_reality_private"
        value) with
  | error e =>
      rw [hconfig] at h
      cases h
  | ok config => exact ⟨config, _, rfl, rfl, rfl⟩

/-- Two private keys give two artifacts, both marked free of secrets. -/
theorem marked_artifact_holds_key :
    ¬ ∀ (crates : Crates) (ir : ProfileIr) (ctx : CompileContext),
      MarkedBytesAgree crates ir ctx := by
  intro h
  obtain ⟨config, bytes, hconfig, hbytes, hsome⟩ :=
    @exists_bytes "one" (by decide +kernel)
  obtain ⟨config', bytes', hconfig', hbytes', hsome'⟩ :=
    @exists_bytes "two" (by decide +kernel)
  have hsame : SameButSecrets
      ((CompileContext.new "1.8.0").withSecret "sec_reality_private" "one")
      ((CompileContext.new "1.8.0").withSecret "sec_reality_private" "two") := by
    refine ⟨rfl, fun id => ?_, .nil⟩
    simp only [CompileContext.withSecret, List.lookup_cons]
    split <;> rfl
  have hequal := h _ _ _ _ config config' bytes bytes' hsame hconfig hconfig'
    hbytes hbytes' referenceApp
    ⟨⟨"", ""⟩, config.configJson, bytes, "", referenceEnv 0 "", .new⟩ rfl rfl
  have hne : bytesWithKey "one" ≠ bytesWithKey "two" := by
    decide +kernel
  rw [hsome, hsome', hequal] at hne
  exact hne rfl

end ProxyControl
