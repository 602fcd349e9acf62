import ProxyControl.CompiledInbounds

/-!
# Credentials that a compilation ignores

A credential matters to a profile if it is active and some inbound for its group
is of its kind.  Compilation reads the other credentials and drops them: two
contexts that agree on the credentials that matter give the same configuration,
or the same error.
-/

namespace ProxyControl

/-- The credential is active, and some inbound for its group is of its kind. -/
structure Matters (ir : ProfileIr) (c : Credential) : Prop where
  active : c.status = .active
  used : ∃ inbound ∈ ir.inbounds,
    c.clientGroupId ∈ inbound.clientGroupRefs ∧
      c.material.protocol = inbound.protocol

instance (ir : ProfileIr) (c : Credential) : Decidable (Matters ir c) :=
  decidable_of_iff
    (c.status = .active ∧ ∃ inbound ∈ ir.inbounds,
      c.clientGroupId ∈ inbound.clientGroupRefs ∧
        c.material.protocol = inbound.protocol)
    ⟨fun h => ⟨h.1, h.2⟩, fun h => ⟨h.active, h.used⟩⟩

/-- The credentials of a context that matter to a profile, in context order. -/
def mattering (ir : ProfileIr) (ctx : CompileContext) : List Credential :=
  ctx.credentials.filter (fun c => Matters ir c)

/-- The served credentials of the inbound's own kind. -/
def usedCredentials
    (ctx : CompileContext) (inbound : Inbound) : List Credential :=
  (servedCredentials ctx inbound).filter
    (fun c => c.material.protocol = inbound.protocol)

variable {crates : Crates} {ir : ProfileIr} {ctx ctx' : CompileContext}
variable {inbound : Inbound}

/-! ## What an inbound uses -/

/-- The credentials that an inbound uses are among those that matter. -/
theorem usedCredentials_mattering
    (hinbound : inbound ∈ ir.inbounds) :
    usedCredentials { ctx with credentials := mattering ir ctx } inbound =
      usedCredentials ctx inbound := by
  simp only [usedCredentials, servedCredentials, List.filter_flatMap]
  apply List.flatMap_congr
  intro group hgroup
  simp only [activeInGroup, mattering, List.filter_filter]
  apply List.filter_congr
  intro c _
  have hmatters :
      c.material.protocol = inbound.protocol →
        c.clientGroupId = group ∧ c.status = .active → Matters ir c := by
    rintro hprotocol ⟨rfl, hactive⟩
    exact ⟨hactive, inbound, hinbound, hgroup, hprotocol⟩
  by_cases hprotocol : c.material.protocol = inbound.protocol
  · by_cases hserved : c.clientGroupId = group ∧ c.status = .active
    · simp [hprotocol, hserved, hmatters hprotocol hserved]
    · simp [hprotocol, hserved]
  · simp [hprotocol]

/-- A translation of one kind passes over the other kinds. -/
theorem filterMap_filter_protocol
    {β : Type} {translate : Credential → Option β} {protocol : InboundProtocol}
    (hkind : ∀ c, c.material.protocol ≠ protocol → translate c = none)
    (credentials : List Credential) :
    (credentials.filter (fun c => c.material.protocol = protocol)).filterMap
        translate =
      credentials.filterMap translate := by
  induction credentials with
  | nil => rfl
  | cons c credentials ih =>
      by_cases hprotocol : c.material.protocol = protocol
      · rw [List.filter_cons_of_pos (by simpa using hprotocol),
          List.filterMap_cons, List.filterMap_cons, ih]
      · rw [List.filter_cons_of_neg (by simpa using hprotocol),
          List.filterMap_cons_none (hkind c hprotocol), ih]

/-- So does the selection of a Shadowsocks account. -/
theorem selectShadowsocks_filter_protocol
    (inboundId : String) (credentials : List Credential) :
    ∀ selected : Option (String × String),
      selectShadowsocks inboundId selected
          (credentials.filter (fun c => c.material.protocol = .shadowsocks)) =
        selectShadowsocks inboundId selected credentials := by
  induction credentials with
  | nil =>
      intro selected
      rfl
  | cons c credentials ih =>
      intro selected
      cases hmaterial : c.material with
      | shadowsocksPassword method password =>
          rw [List.filter_cons_of_pos
            (by simp [hmaterial, CredentialMaterial.protocol])]
          cases selected with
          | none =>
              simp only [selectShadowsocks, hmaterial]
              exact ih _
          | some account =>
              simp only [selectShadowsocks, hmaterial]
              split
              · rfl
              · exact ih _
      | vlessUuid | trojanPassword =>
          rw [List.filter_cons_of_neg
            (by simp [hmaterial, CredentialMaterial.protocol])]
          simp only [selectShadowsocks, hmaterial]
          exact ih _

/-- An inbound is compiled from the core version, its key and what it uses. -/
theorem compileInbound_congr
    (hversion : ctx.coreVersion = ctx'.coreVersion)
    (hsecrets : ∀ id, ctx.secrets.lookup id = ctx'.secrets.lookup id)
    (hused : usedCredentials ctx inbound = usedCredentials ctx' inbound) :
    compileInbound crates ctx inbound = compileInbound crates ctx' inbound := by
  unfold usedCredentials at hused
  cases hprotocol : inbound.protocol with
  | vless =>
      have hkind : ∀ c : Credential, c.material.protocol ≠ .vless →
          vlessClient c = none := by
        intro c hne
        cases hmaterial : c.material with
        | vlessUuid uuid =>
            rw [hmaterial] at hne
            exact absurd rfl hne
        | _ => simp [vlessClient, hmaterial]
      rw [hprotocol] at hused
      have hclients := congrArg (List.filterMap vlessClient) hused
      rw [filterMap_filter_protocol hkind, filterMap_filter_protocol hkind]
        at hclients
      simp only [compileInbound, hprotocol, compileVless, hclients, hversion,
        hsecrets]
  | trojan =>
      have hkind : ∀ c : Credential, c.material.protocol ≠ .trojan →
          trojanClient c = none := by
        intro c hne
        cases hmaterial : c.material with
        | trojanPassword password =>
            rw [hmaterial] at hne
            exact absurd rfl hne
        | _ => simp [trojanClient, hmaterial]
      rw [hprotocol] at hused
      have hclients := congrArg (List.filterMap trojanClient) hused
      rw [filterMap_filter_protocol hkind, filterMap_filter_protocol hkind]
        at hclients
      simp only [compileInbound, hprotocol, compileTrojan, hclients]
  | shadowsocks =>
      rw [hprotocol] at hused
      have hselected :
          selectShadowsocks inbound.id none (servedCredentials ctx inbound) =
            selectShadowsocks inbound.id none
              (servedCredentials ctx' inbound) := by
        rw [← selectShadowsocks_filter_protocol, hused,
          selectShadowsocks_filter_protocol]
      simp only [compileInbound, hprotocol, compileShadowsocks, hselected]

/-! ## Two contexts -/

/--
Contexts with the same core version, the same secrets and the same credentials
that matter to a profile give the same result.
-/
theorem irrelevant_credentials_ignored
    (crates : Crates) (ir : ProfileIr) (ctx ctx' : CompileContext)
    (hversion : ctx.coreVersion = ctx'.coreVersion)
    (hsecrets : ∀ id, ctx.secrets.lookup id = ctx'.secrets.lookup id)
    (hmattering : mattering ir ctx = mattering ir ctx') :
    compileProfileToXray crates ir ctx =
      compileProfileToXray crates ir ctx' := by
  apply compileProfileToXray_congr
  intro inbound hinbound
  apply compileInbound_congr hversion hsecrets
  rw [← usedCredentials_mattering hinbound,
    ← @usedCredentials_mattering ir ctx' inbound hinbound, hmattering]
  rfl

/-- A revoked client, a client of another group and one of another kind. -/
def idleCredentials : List Credential :=
  [ ⟨"revoked", "group_default", "Revoked", .revoked,
      .shadowsocksPassword "chacha20-ietf-poly1305" "old"⟩,
    ⟨"foreign", "group_other", "Foreign", .active,
      .shadowsocksPassword "chacha20-ietf-poly1305" "other"⟩,
    ⟨"trojan", "group_default", "Trojan", .active, .trojanPassword "word"⟩ ]

theorem irrelevant_credentials_ignored_idle :
    compileProfileToXray referenceCrates shadowsocksIr
        { shadowsocksContext ["first"] with
          credentials := idleCredentials ++
            (shadowsocksContext ["first"]).credentials ++ idleCredentials } =
      compileProfileToXray referenceCrates shadowsocksIr
        (shadowsocksContext ["first"]) :=
  irrelevant_credentials_ignored referenceCrates shadowsocksIr _ _ rfl
    (fun _ => rfl) (by decide)

end ProxyControl
