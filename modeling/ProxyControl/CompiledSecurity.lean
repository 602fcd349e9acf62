import ProxyControl.CompiledInbounds

/-!
# The security of compiled inbounds

VLESS carries REALITY and TLS, and Trojan carries TLS; the compiler refuses
REALITY for Trojan.  For Shadowsocks it does not look at the security of the
inbound at all, so a Shadowsocks inbound with TLS or REALITY is compiled to one
without either.
-/

namespace ProxyControl

open Json (strings path?_nil path?_mapOf path?_setField)

/-- The combinations of a protocol and a security that the compiler writes. -/
def Expressible : InboundProtocol → Security → Prop
  | .vless, _ => True
  | .trojan, .reality .. => False
  | .trojan, _ => True
  | .shadowsocks, security => security = .none

/-- The stream settings of the compiled inbound are the security of the given one. -/
def KeepsSecurity
    (ctx : CompileContext) (inbound : Inbound) (json : Json.Value) : Prop :=
  match inbound.security with
  | .reality serverName privateKeyRef shortIds =>
      ∃ privateKey, ctx.secrets.lookup privateKeyRef.id = some privateKey ∧
        json.path? ["streamSettings", "security"] = some (.string "reality") ∧
        json.path? ["streamSettings", "realitySettings", "serverNames"] =
          some (strings [serverName]) ∧
        json.path? ["streamSettings", "realitySettings", "shortIds"] =
          some (strings shortIds) ∧
        json.path? ["streamSettings", "realitySettings", "privateKey"] =
          some (.string privateKey)
  | .tls serverName =>
      json.path? ["streamSettings", "security"] = some (.string "tls") ∧
        json.path? ["streamSettings", "tlsSettings", "serverName"] =
          some (.string serverName)
  | .none => json.path? ["streamSettings"] = none

/-- Each compiled inbound has the security of its source, and all are expressible. -/
structure SecurityKept
    (ir : ProfileIr) (ctx : CompileContext) (config : CompiledXrayConfig) :
    Prop where
  kept : List.Forall₂ (KeepsSecurity ctx) ir.inbounds (configInbounds config)
  expressible : ∀ inbound ∈ ir.inbounds,
    Expressible inbound.protocol inbound.security

variable {crates : Crates} {ctx : CompileContext} {inbound : Inbound}
variable {json : Json.Value}

/-! ## One inbound -/

theorem compileVless_keepsSecurity
    (h : compileVless ctx inbound = .ok json) :
    KeepsSecurity ctx inbound json := by
  unfold compileVless at h
  unfold KeepsSecurity
  cases hsecurity : inbound.security with
  | reality serverName privateKeyRef shortIds =>
      simp only [hsecurity] at h
      split at h
      · cases h
      · split at h
        · cases h
        · next privateKey hkey =>
            obtain rfl := Except.ok.inj h
            refine ⟨privateKey, hkey, ?_⟩
            simp [path?_setField, path?_mapOf, path?_nil, List.lookup_cons]
  | tls serverName =>
      simp only [hsecurity] at h
      obtain rfl := Except.ok.inj h
      simp [path?_setField, path?_mapOf, path?_nil, List.lookup_cons]
  | none =>
      simp only [hsecurity] at h
      obtain rfl := Except.ok.inj h
      simp [path?_mapOf, List.lookup_cons]

theorem compileTrojan_keepsSecurity
    (h : compileTrojan ctx inbound = .ok json) :
    KeepsSecurity ctx inbound json ∧ Expressible .trojan inbound.security := by
  simp only [compileTrojan] at h
  unfold KeepsSecurity
  split at h
  · cases h
  · cases hsecurity : inbound.security with
    | reality serverName privateKeyRef shortIds =>
        rw [hsecurity] at h
        cases h
    | tls serverName =>
        rw [hsecurity] at h
        obtain rfl := Except.ok.inj h
        simp [path?_setField, path?_mapOf, path?_nil, List.lookup_cons,
          Expressible]
    | none =>
        rw [hsecurity] at h
        obtain rfl := Except.ok.inj h
        simp [path?_mapOf, List.lookup_cons, Expressible]

/-- A Shadowsocks inbound never has stream settings. -/
theorem compileShadowsocks_streamSettings
    (h : compileShadowsocks crates ctx inbound = .ok json) (keys : List String) :
    json.path? ("streamSettings" :: keys) = none := by
  simp only [compileShadowsocks, bind, Except.bind] at h
  split at h
  · cases h
  · split at h
    · cases h
    · split at h
      · cases h
      · obtain rfl := Except.ok.inj h
        simp [path?_mapOf, List.lookup_cons]

theorem compileShadowsocks_keepsSecurity_iff
    (h : compileShadowsocks crates ctx inbound = .ok json) :
    KeepsSecurity ctx inbound json ↔ inbound.security = .none := by
  have hnone := compileShadowsocks_streamSettings h
  unfold KeepsSecurity
  cases hsecurity : inbound.security with
  | reality serverName privateKeyRef shortIds => simp [hnone]
  | tls serverName => simp [hnone]
  | none => simp [hnone]

/-- A compiled inbound keeps its security unless it is one of Shadowsocks. -/
theorem compileInbound_keepsSecurity_iff
    (h : compileInbound crates ctx inbound = .ok json) :
    KeepsSecurity ctx inbound json ∧
        Expressible inbound.protocol inbound.security ↔
      (inbound.protocol = .shadowsocks → inbound.security = .none) := by
  unfold compileInbound at h
  cases hprotocol : inbound.protocol with
  | vless =>
      rw [hprotocol] at h
      exact iff_of_true ⟨compileVless_keepsSecurity h, trivial⟩ nofun
  | trojan =>
      rw [hprotocol] at h
      exact iff_of_true (compileTrojan_keepsSecurity h) nofun
  | shadowsocks =>
      rw [hprotocol] at h
      rw [compileShadowsocks_keepsSecurity_iff h]
      constructor
      · rintro ⟨hnone, -⟩ _
        exact hnone
      · intro hnone
        exact ⟨hnone rfl, hnone rfl⟩

/-! ## The whole configuration -/

/--
A compiled configuration keeps the security of every inbound, and only
expressible inbounds compile, if and only if no Shadowsocks inbound asks for
security.
-/
theorem security_kept_iff
    (crates : Crates) (ir : ProfileIr) (ctx : CompileContext)
    {config : CompiledXrayConfig}
    (h : compileProfileToXray crates ir ctx = .ok config) :
    SecurityKept ir ctx config ↔
      ∀ inbound ∈ ir.inbounds, inbound.protocol = .shadowsocks →
        inbound.security = .none := by
  obtain ⟨-, inbounds, hcompiled, rfl⟩ := compileProfileToXray_eq_ok_iff.mp h
  have hiff : List.Forall₂ (KeepsSecurity ctx) ir.inbounds inbounds ∧
      (∀ inbound ∈ ir.inbounds,
        Expressible inbound.protocol inbound.security) ↔
      ∀ inbound ∈ ir.inbounds, inbound.protocol = .shadowsocks →
        inbound.security = .none := by
    clear h
    generalize ir.inbounds = sources at hcompiled ⊢
    induction hcompiled with
    | nil => simp
    | cons hjson _ ih =>
        rw [List.forall₂_cons, List.forall_mem_cons, List.forall_mem_cons, ← ih,
          ← compileInbound_keepsSecurity_iff hjson]
        exact and_and_and_comm
  rw [← hiff]
  constructor
  · rintro ⟨hkept, hexpressible⟩
    rw [configInbounds_xrayConfig] at hkept
    exact ⟨hkept, hexpressible⟩
  · rintro ⟨hkept, hexpressible⟩
    refine ⟨?_, hexpressible⟩
    rw [configInbounds_xrayConfig]
    exact hkept

/-- The example profile keeps REALITY. -/
theorem security_kept_iff_reality :
    ∃ config,
      compileProfileToXray referenceCrates
          (.vlessRealityExample "group_default" "sec_reality_private")
          ((CompileContext.new "1.8.0").withSecret "sec_reality_private"
            "key") = .ok config ∧
        SecurityKept
          (.vlessRealityExample "group_default" "sec_reality_private")
          ((CompileContext.new "1.8.0").withSecret "sec_reality_private" "key")
          config := by
  obtain ⟨config, hconfig⟩ := @exists_config
    (.vlessRealityExample "group_default" "sec_reality_private")
    ((CompileContext.new "1.8.0").withSecret "sec_reality_private" "key")
    (by decide)
  refine ⟨config, hconfig,
    (security_kept_iff referenceCrates _ _ hconfig).mpr ?_⟩
  intro inbound hinbound hprotocol
  obtain rfl := List.mem_singleton.mp hinbound
  cases hprotocol

/-- A profile with one Shadowsocks inbound over TLS. -/
def shadowsocksTlsIr : ProfileIr :=
  { shadowsocksIr with
    inbounds := shadowsocksIr.inbounds.map
      (fun inbound => { inbound with security := .tls "example.com" }) }

/-- The TLS of a Shadowsocks inbound is dropped. -/
theorem shadowsocks_tls_dropped :
    ¬ ∀ (crates : Crates) (ir : ProfileIr) (ctx : CompileContext)
      (config : CompiledXrayConfig),
      compileProfileToXray crates ir ctx = .ok config →
        SecurityKept ir ctx config := by
  intro h
  obtain ⟨config, hconfig⟩ :=
    @exists_config shadowsocksTlsIr (shadowsocksContext ["first"]) (by decide)
  have hnever := (h _ _ _ _ hconfig).expressible _ (List.mem_singleton_self _)
  cases hnever

end ProxyControl
