import ProxyControl.ReferenceCrates
import ProxyControl.SignedBytes
import ProxyControl.Wire

/-!
# Records come back from the wire

What is read of the JSON form of a record is the record, for every carrier.  JSON
values inside a record come back if their fields are sorted, and a rollback to
`null` comes back as none.  So a signed command has the same verdict before and
after the wire, and a signed result too.
-/

namespace ProxyControl

open Calendar Json

/-! ## Readers do not depend on the order of fields -/

@[simp] theorem stable_readInstant (instant : String → Option DateTime) :
    Stable (readInstant instant) := by
  intro v hv
  rw [readInstant, readInstant, stable_readString v hv]

@[simp] theorem DeploymentStatus.stable_ofJson :
    Stable DeploymentStatus.ofJson :=
  stable_readVariant _ _

@[simp] theorem SecretKind.stable_ofJson : Stable SecretKind.ofJson :=
  stable_readVariant _ _

@[simp] theorem InboundProtocol.stable_ofJson : Stable InboundProtocol.ofJson :=
  stable_readVariant _ _

@[simp] theorem SecretRef.stable_ofJson : Stable SecretRef.ofJson := by
  refine stable_record _ fun record record' h => ?_
  simp [h.required]

@[simp] theorem Security.stable_ofJson : Stable Security.ofJson := by
  refine stable_tagged "type" fun tag => ?_
  intro v hv
  simp only [Security.ofTag]
  split_ifs
  · refine stable_record _ (fun record record' h => ?_) v hv
    simp [h.required]
  · refine stable_record _ (fun record record' h => ?_) v hv
    simp [h.required]
  · rw [stable_readUnit v hv]
  · rfl

@[simp] theorem Inbound.stable_ofJson : Stable Inbound.ofJson := by
  refine stable_record _ fun record record' h => ?_
  simp [h.required]

@[simp] theorem ClientGroup.stable_ofJson : Stable ClientGroup.ofJson := by
  refine stable_record _ fun record record' h => ?_
  simp [h.required, h.optional]

@[simp] theorem Runtime.stable_ofJson : Stable Runtime.ofJson := by
  refine stable_record _ fun record record' h => ?_
  simp [h.required]

@[simp] theorem DnsConfig.stable_ofJson : Stable DnsConfig.ofJson := by
  refine stable_record _ fun record record' h => ?_
  simp [h.required]

theorem ProfileIr.stable_ofJson : Stable ProfileIr.ofJson := by
  refine stable_record _ fun record record' h => ?_
  simp [h.required, h.defaulted]

theorem CredentialMaterial.stable_ofJson : Stable CredentialMaterial.ofJson := by
  refine stable_tagged "kind" fun tag => ?_
  intro v hv
  simp only [CredentialMaterial.ofTag]
  split_ifs
  · refine stable_record _ (fun record record' h => ?_) v hv
    simp [h.required]
  · refine stable_record _ (fun record record' h => ?_) v hv
    simp [h.required]
  · refine stable_record _ (fun record record' h => ?_) v hv
    simp [h.required]
  · rfl

@[simp] theorem RunnerCommandKind.stable_ofJson :
    Stable RunnerCommandKind.ofJson := by
  refine stable_tagged "command" fun tag => ?_
  intro v hv
  simp only [RunnerCommandKind.ofTag, stable_readUnit v hv]
  split_ifs
  · refine stable_record _ (fun record record' h => ?_) v hv
    simp [h.required]
  · refine stable_record _ (fun record record' h => ?_) v hv
    simp [h.required]
  · refine stable_record _ (fun record record' h => ?_) v hv
    simp [h.required, h.optional]
  · refine stable_record _ (fun record record' h => ?_) v hv
    simp [h.required]
  · rfl
  · rfl
  · refine stable_record _ (fun record record' h => ?_) v hv
    simp [h.required]
  · rfl
  · refine stable_record _ (fun record record' h => ?_) v hv
    simp [h.required]
  · rfl

section Instants

variable (instant : String → Option DateTime)

@[simp] theorem RunnerCommand.stable_ofJson :
    Stable (RunnerCommand.ofJson instant) := by
  refine stable_record _ fun record record' h => ?_
  simp [h.required]

theorem SignedRunnerCommand.stable_ofJson :
    Stable (SignedRunnerCommand.ofJson instant) := by
  refine stable_record _ fun record record' h => ?_
  simp [h.required]

@[simp] theorem DeploymentResult.stable_ofJson :
    Stable (DeploymentResult.ofJson instant) := by
  refine stable_record _ fun record record' h => ?_
  simp [h.required]

theorem SignedDeploymentResult.stable_ofJson :
    Stable (SignedDeploymentResult.ofJson instant) := by
  refine stable_record _ fun record record' h => ?_
  simp [h.required]

theorem DeploymentSnapshotRecord.stable_ofJson :
    Stable (DeploymentSnapshotRecord.ofJson instant) := by
  refine stable_record _ fun record record' h => ?_
  simp [h.required]

end Instants

/-! ## Reading what was written -/

theorem DeploymentStatus.ofJson_label (status : DeploymentStatus) :
    DeploymentStatus.ofJson (.string status.label) = some status := by
  cases status <;> decide

theorem SecretKind.ofJson_label (kind : SecretKind) :
    SecretKind.ofJson (.string kind.label) = some kind := by
  cases kind <;> decide

theorem InboundProtocol.ofJson_label (protocol : InboundProtocol) :
    InboundProtocol.ofJson (.string protocol.label) = some protocol := by
  cases protocol <;> decide

theorem SecretRef.ofJson_toJson (ref : SecretRef) :
    SecretRef.ofJson ref.toJson = some ref := by
  obtain ⟨id, kind⟩ := ref
  simp [SecretRef.ofJson, SecretRef.toJson, record_object, keys,
    lookup_skip, Record.required, readString, SecretKind.ofJson_label]

theorem Security.ofJson_toJson (security : Security) :
    Security.ofJson security.toJson = some security := by
  cases security with
  | reality serverName privateKeyRef shortIds =>
      simp [Security.ofJson, Security.toJson, tagged_object, Security.ofTag,
        record_object, keys, lookup_skip,
        Record.required, readString, readList_strings,
        SecretRef.ofJson_toJson]
  | tls serverName =>
      simp [Security.ofJson, Security.toJson, tagged_object, Security.ofTag,
        record_object, keys, lookup_skip,
        Record.required, readString]
  | none =>
      simp [Security.ofJson, Security.toJson, tagged_object, Security.ofTag,
        keys, readString, readUnit]

theorem Inbound.ofJson_toJson (inbound : Inbound) :
    Inbound.ofJson inbound.toJson = some inbound := by
  obtain ⟨id, protocol, listen, port, security, clientGroupRefs⟩ := inbound
  simp [Inbound.ofJson, Inbound.toJson, record_object, keys, lookup_skip,
        Record.required,
    readString, readU16_toUInt64, readList_strings,
    InboundProtocol.ofJson_label, Security.ofJson_toJson]

theorem ClientGroup.ofJson_toJson (group : ClientGroup) :
    ClientGroup.ofJson group.toJson = some group := by
  obtain ⟨id, credentialPolicy, quotaPolicyRef⟩ := group
  cases quotaPolicyRef <;>
    simp [ClientGroup.ofJson, ClientGroup.toJson, optionalString,
      record_object, keys, lookup_skip,
        Record.required, Record.optional, readString]

theorem Runtime.ofJson_toJson (runtime : Runtime) :
    Runtime.ofJson runtime.toJson = some runtime := by
  obtain ⟨core, coreVersion⟩ := runtime
  simp [Runtime.ofJson, Runtime.toJson, record_object, keys, lookup_skip,
        Record.required,
    readString]

theorem DnsConfig.ofJson_toJson (dns : DnsConfig) :
    DnsConfig.ofJson dns.toJson = some dns := by
  obtain ⟨mode⟩ := dns
  simp [DnsConfig.ofJson, DnsConfig.toJson, record_object, keys,
    Record.required, readString]

/-- Routes come back if they are tidy. -/
theorem ProfileIr.ofJson_toJson
    {ir : ProfileIr} (h : ∀ route ∈ ir.routes, route.Tidy) :
    ProfileIr.ofJson ir.toJson = some ir := by
  obtain ⟨schemaVersion, runtime, inbounds, clientGroups, routes, dns⟩ := ir
  have hinbounds : readList Inbound.ofJson (.array (inbounds.map Inbound.toJson)) =
      some inbounds :=
    readList_map fun inbound _ => Inbound.ofJson_toJson inbound
  have hgroups : readList ClientGroup.ofJson
      (.array (clientGroups.map ClientGroup.toJson)) = some clientGroups :=
    readList_map fun group _ => ClientGroup.ofJson_toJson group
  have hroutes : readList readValue (.array routes) = some routes := by
    have hread : readList readValue (.array (routes.map id)) = some routes :=
      readList_map fun route hroute => congrArg some (h route hroute).sorted_eq
    rwa [List.map_id] at hread
  simp [ProfileIr.ofJson, ProfileIr.toJson, record_object, keys,
    lookup_skip, Record.required, Record.defaulted, readString, hinbounds, hgroups, hroutes,
    Runtime.ofJson_toJson, DnsConfig.ofJson_toJson]

theorem CredentialMaterial.ofJson_toJson (material : CredentialMaterial) :
    CredentialMaterial.ofJson material.toJson = some material := by
  cases material <;>
    simp [CredentialMaterial.ofJson, CredentialMaterial.toJson, tagged_object,
      CredentialMaterial.ofTag, record_object, keys, lookup_skip,
        Record.required, readString]

namespace RunnerCommandKind

/-- The JSON values that a command carries are tidy. -/
def TidyJson : RunnerCommandKind → Prop
  | heartbeat capabilitySnapshot => capabilitySnapshot.Tidy
  | applyDeploymentPlan _ _ configJson rollbackJson =>
      configJson.Tidy ∧ ∀ value ∈ rollbackJson, value.Tidy
  | validateConfig configJson => configJson.Tidy
  | _ => True

theorem ofJson_toJson
    {kind : RunnerCommandKind} (h : kind.TidyJson) :
    RunnerCommandKind.ofJson kind.toJson = some kind.withoutNull := by
  cases kind with
  | heartbeat capabilitySnapshot =>
      have hsnapshot : capabilitySnapshot.sorted = capabilitySnapshot :=
        Value.Tidy.sorted_eq h
      simp [RunnerCommandKind.ofJson, toJson, tagged_object, ofTag,
        record_object, keys, lookup_skip,
        Record.required, readString, readValue, hsnapshot,
        withoutNull]
  | validateConfig configJson =>
      have hconfig : configJson.sorted = configJson := Value.Tidy.sorted_eq h
      simp [RunnerCommandKind.ofJson, toJson, tagged_object, ofTag,
        record_object, keys, lookup_skip,
        Record.required, readString, readValue, hconfig,
        withoutNull]
  | applyDeploymentPlan deploymentId artifactSha256 configJson rollbackJson =>
      obtain ⟨hconfig, hrollback⟩ := h
      have hconfig := hconfig.sorted_eq
      rcases rollbackJson with _ | value
      · simp [RunnerCommandKind.ofJson, toJson, tagged_object, ofTag,
          record_object, keys, lookup_skip, Record.required, Record.optional,
          readString, readValue, hconfig, withoutNull]
      have hvalue := (hrollback value rfl).sorted_eq
      cases value <;>
        simp [RunnerCommandKind.ofJson, toJson, tagged_object, ofTag,
          record_object, keys, lookup_skip, Record.required, Record.optional,
          readString, readValue, hconfig, hvalue, withoutNull]
  | _ =>
      simp [RunnerCommandKind.ofJson, toJson, tagged_object, ofTag,
        record_object, keys, lookup_skip,
        Record.required, readString, readUnit,
        readU32_toUInt64, withoutNull]

theorem portable_toJson
    {kind : RunnerCommandKind} (h : kind.TidyJson) :
    kind.toJson.Portable := by
  have hstring := Value.Portable.string
  have hnumber : ∀ n, (Value.number (.posInt n)).Portable := fun n =>
    .number trivial
  cases kind with
  | heartbeat capabilitySnapshot =>
      have hsnapshot : capabilitySnapshot.Portable := Value.Tidy.portable h
      refine .object (by simp [keys]) ?_
      simp [hstring, hsnapshot]
  | applyDeploymentPlan deploymentId artifactSha256 configJson rollbackJson =>
      obtain ⟨hconfig, hrollback⟩ := h
      have hvalue : (rollbackJson.getD .null).Portable := by
        cases rollbackJson with
        | none => exact .null
        | some value => exact (hrollback value rfl).portable
      refine .object (by simp [keys]) ?_
      simp [hstring, hconfig.portable, hvalue]
  | validateConfig configJson =>
      have hconfig : configJson.Portable := Value.Tidy.portable h
      refine .object (by simp [keys]) ?_
      simp [hstring, hconfig]
  | _ =>
      refine .object (by simp [keys]) ?_
      simp [hstring, hnumber]

theorem TidyJson.valid
    {kind : RunnerCommandKind} (h : kind.TidyJson) :
    kind.ValidJson := by
  cases kind with
  | heartbeat capabilitySnapshot => exact (Value.Tidy.portable h).valid
  | applyDeploymentPlan deploymentId artifactSha256 configJson rollbackJson =>
      exact ⟨h.1.portable.valid, fun value hvalue =>
        (h.2 value hvalue).portable.valid⟩
  | validateConfig configJson => exact (Value.Tidy.portable h).valid
  | _ => trivial

end RunnerCommandKind

/-- The instants that the crates write are read back. -/
def ReadsInstants (crates : Crates) (instant : String → Option DateTime) : Prop :=
  ∀ t : DateTime, t.Representable → instant (crates.rfc3339 t) = some t

open Classical in
/-- The instant that a text was written for. -/
noncomputable def instantOf (crates : Crates) (text : String) :
    Option DateTime :=
  if h : ∃ t : DateTime, t.Representable ∧ crates.rfc3339 t = text then
    some h.choose
  else
    none

/-- Texts that tell the instant can be read. -/
theorem SerializesCompactly.readsInstants
    {crates : Crates} {doubleText : UInt64 → List Char}
    (h : SerializesCompactly crates doubleText) :
    ReadsInstants crates (instantOf crates) := by
  intro t ht
  have hexists : ∃ t' : DateTime,
      t'.Representable ∧ crates.rfc3339 t' = crates.rfc3339 t :=
    ⟨t, ht, rfl⟩
  rw [instantOf, dif_pos hexists]
  exact congrArg some
    ((h.rfc3339_eq_iff hexists.choose_spec.1 ht).mp hexists.choose_spec.2)

section Records

variable {crates : Crates} {instant : String → Option DateTime}
variable (hinstant : ReadsInstants crates instant)
include hinstant

theorem readInstant_rfc3339
    {t : DateTime} (ht : t.Representable) :
    readInstant instant (.string (crates.rfc3339 t)) = some t := by
  rw [readInstant, readString, Option.bind_some, hinstant t ht]

theorem RunnerCommand.ofJson_toJson
    {command : RunnerCommand} (hexpires : command.expiresAt.Representable)
    (htidy : command.kind.TidyJson) :
    RunnerCommand.ofJson instant (command.toJson crates) =
      some { command with kind := command.kind.withoutNull } := by
  obtain ⟨tenantId, nodeId, sequence, nonce, expiresAt, kind⟩ := command
  simp [RunnerCommand.ofJson, RunnerCommand.toJson, record_object, keys,
    lookup_skip, Record.required, readString, readU64,
    readInstant_rfc3339 hinstant hexpires,
    RunnerCommandKind.ofJson_toJson htidy]

theorem SignedRunnerCommand.ofJson_toJson
    {signed : SignedRunnerCommand}
    (hexpires : signed.command.expiresAt.Representable)
    (htidy : signed.command.kind.TidyJson) :
    SignedRunnerCommand.ofJson instant (signed.toJson crates) =
      some ⟨{ signed.command with kind := signed.command.kind.withoutNull },
        signed.signatureHex⟩ := by
  simp [SignedRunnerCommand.ofJson, SignedRunnerCommand.toJson, record_object,
    keys, lookup_skip, Record.required, readString,
    RunnerCommand.ofJson_toJson hinstant hexpires htidy]

theorem DeploymentResult.ofJson_toJson
    {result : DeploymentResult} (hobserved : result.observedAt.Representable) :
    DeploymentResult.ofJson instant (result.toJson crates) = some result := by
  obtain ⟨deploymentId, status, message, artifactSha256, observedAt⟩ := result
  simp [DeploymentResult.ofJson, DeploymentResult.toJson, record_object, keys,
    lookup_skip, Record.required, readString, DeploymentStatus.ofJson_label,
    readInstant_rfc3339 hinstant hobserved]

theorem SignedDeploymentResult.ofJson_toJson
    {signedResult : SignedDeploymentResult}
    (hobserved : signedResult.result.observedAt.Representable) :
    SignedDeploymentResult.ofJson instant (signedResult.toJson crates) =
      some signedResult := by
  simp [SignedDeploymentResult.ofJson, SignedDeploymentResult.toJson,
    record_object, keys, lookup_skip, Record.required, readString,
    DeploymentResult.ofJson_toJson hinstant hobserved]

theorem DeploymentSnapshotRecord.ofJson_toJson
    {snapshot : DeploymentSnapshotRecord}
    (hobserved : snapshot.observedAt.Representable)
    (hcreated : snapshot.createdAt.Representable) :
    DeploymentSnapshotRecord.ofJson instant (snapshot.toJson crates) =
      some snapshot := by
  simp [DeploymentSnapshotRecord.ofJson, DeploymentSnapshotRecord.toJson,
    record_object, keys, lookup_skip, Record.required, readString,
    DeploymentStatus.ofJson_label, readInstant_rfc3339 hinstant hobserved,
    readInstant_rfc3339 hinstant hcreated]

end Records

/-! ## Portable forms -/

theorem strings_portable (l : List String) : (strings l).Portable :=
  (strings_tidy l).portable

theorem Security.portable_toJson (security : Security) :
    security.toJson.Portable := by
  have hstring := Value.Portable.string
  cases security with
  | reality serverName privateKeyRef shortIds =>
      have href : privateKeyRef.toJson.Portable := by
        refine .object (by simp [keys]) ?_
        simp [hstring]
      refine .object (by simp [keys]) ?_
      simp [hstring, href, strings_portable]
  | _ =>
      refine .object (by simp [keys]) ?_
      simp [hstring]

theorem Inbound.portable_toJson (inbound : Inbound) :
    inbound.toJson.Portable := by
  have hport : (Value.number (.posInt inbound.port.toUInt64)).Portable :=
    .number trivial
  refine .object (by simp [keys]) ?_
  simp [Value.Portable.string, hport, Security.portable_toJson,
    strings_portable]

theorem ClientGroup.portable_toJson (group : ClientGroup) :
    group.toJson.Portable := by
  have hquota : (optionalString group.quotaPolicyRef).Portable := by
    cases group.quotaPolicyRef with
    | none => exact .null
    | some s => exact .string s
  refine .object (by simp [keys]) ?_
  simp [Value.Portable.string, hquota]

theorem ProfileIr.portable_toJson
    {ir : ProfileIr} (h : ∀ route ∈ ir.routes, route.Tidy) :
    ir.toJson.Portable := by
  have hstring := Value.Portable.string
  have hruntime : ir.runtime.toJson.Portable := by
    refine .object (by simp [keys]) ?_
    simp [hstring]
  have hdns : ir.dns.toJson.Portable := by
    refine .object (by simp [keys]) ?_
    simp [hstring]
  have hinbounds : (Value.array (ir.inbounds.map Inbound.toJson)).Portable := by
    refine .array ?_
    simp [Inbound.portable_toJson]
  have hgroups :
      (Value.array (ir.clientGroups.map ClientGroup.toJson)).Portable := by
    refine .array ?_
    simp [ClientGroup.portable_toJson]
  have hroutes : (Value.array ir.routes).Portable :=
    .array fun route hroute => (h route hroute).portable
  refine .object (by simp [keys]) ?_
  simp [hstring, hruntime, hdns, hinbounds, hgroups, hroutes]

theorem CredentialMaterial.portable_toJson (material : CredentialMaterial) :
    material.toJson.Portable := by
  cases material <;>
    exact .object (by simp [keys]) (by simp [Value.Portable.string])

theorem SignedRunnerCommand.portable_toJson
    (crates : Crates) {signed : SignedRunnerCommand}
    (htidy : signed.command.kind.TidyJson) :
    (signed.toJson crates).Portable := by
  have hstring := Value.Portable.string
  have hsequence : (Value.number (.posInt signed.command.sequence)).Portable :=
    .number trivial
  have hcommand : (signed.command.toJson crates).Portable := by
    refine .object (by simp [keys]) ?_
    simp [hstring, hsequence, RunnerCommandKind.portable_toJson htidy]
  refine .object (by simp [keys]) ?_
  simp [hstring, hcommand]

theorem SignedDeploymentResult.portable_toJson
    (crates : Crates) (signedResult : SignedDeploymentResult) :
    (signedResult.toJson crates).Portable := by
  have hresult : (signedResult.result.toJson crates).Portable := by
    refine .object (by simp [keys]) ?_
    simp [Value.Portable.string]
  refine .object (by simp [keys]) ?_
  simp [Value.Portable.string, hresult]

theorem DeploymentSnapshotRecord.portable_toJson
    (crates : Crates) (snapshot : DeploymentSnapshotRecord) :
    (snapshot.toJson crates).Portable := by
  refine .object (by simp [keys]) ?_
  simp [Value.Portable.string]

/-! ## Over the wire -/

section Carriers

variable {crates : Crates} {instant : String → Option DateTime}
variable {carrier : Json.Value → Json.Value}

theorem SignedRunnerCommand.ofJson_carried
    (hinstant : ReadsInstants crates instant) (hcarrier : Carries carrier)
    {signed : SignedRunnerCommand}
    (hexpires : signed.command.expiresAt.Representable)
    (htidy : signed.command.kind.TidyJson) :
    SignedRunnerCommand.ofJson instant (carrier (signed.toJson crates)) =
      some ⟨{ signed.command with kind := signed.command.kind.withoutNull },
        signed.signatureHex⟩ := by
  rw [(SignedRunnerCommand.stable_ofJson instant).carried hcarrier
    (SignedRunnerCommand.portable_toJson crates htidy)]
  exact SignedRunnerCommand.ofJson_toJson hinstant hexpires htidy

theorem SignedDeploymentResult.ofJson_carried
    (hinstant : ReadsInstants crates instant) (hcarrier : Carries carrier)
    {signedResult : SignedDeploymentResult}
    (hobserved : signedResult.result.observedAt.Representable) :
    SignedDeploymentResult.ofJson instant
      (carrier (signedResult.toJson crates)) = some signedResult := by
  rw [(SignedDeploymentResult.stable_ofJson instant).carried hcarrier
    (SignedDeploymentResult.portable_toJson crates signedResult)]
  exact SignedDeploymentResult.ofJson_toJson hinstant hobserved

/--
Whatever orders the fields on its way, the same command is read with the same
verdict, and the same nonces are seen.
-/
theorem commands_survive_the_wire
    (hinstant : ReadsInstants crates instant) (hcarrier : Carries carrier)
    {signed : SignedRunnerCommand}
    (hexpires : signed.command.expiresAt.Representable)
    (htidy : signed.command.kind.TidyJson) :
    ∃ received,
      SignedRunnerCommand.ofJson instant (carrier (signed.toJson crates)) =
        some received ∧
      received.command.SameAs signed.command ∧
      ∀ key nodeId lastSequence seenNonces now,
        received.verify crates key nodeId lastSequence seenNonces now =
          ((signed.verify crates key nodeId lastSequence seenNonces now).1.map
              (fun command =>
                { command with kind := command.kind.withoutNull }),
            (signed.verify crates key nodeId lastSequence seenNonces now).2) := by
  refine ⟨_, SignedRunnerCommand.ofJson_carried hinstant hcarrier hexpires htidy,
    ?_, ?_⟩
  · refine ⟨rfl, rfl, rfl, rfl, rfl, ?_⟩
    cases signed.command.kind with
    | applyDeploymentPlan _ _ _ rollbackJson =>
        rcases rollbackJson with _ | value
        · rfl
        · cases value <;> rfl
    | _ => rfl
  · intro key nodeId lastSequence seenNonces now
    have hjson : ({ signed.command with
        kind := signed.command.kind.withoutNull } : RunnerCommand).toJson crates =
          signed.command.toJson crates := by
      simp only [RunnerCommand.toJson, RunnerCommandKind.toJson_withoutNull]
    simp only [SignedRunnerCommand.verify, hjson]
    split_ifs
    · rfl
    · rfl
    · rfl
    · rfl
    · cases verifySignature crates key signed.signatureHex
          (signed.command.toJson crates) <;> rfl

/-- A command whose rollback is `null`, in a column that sorts its fields. -/
theorem commands_survive_the_wire_sorted :
    ∃ received,
      SignedRunnerCommand.ofJson (instantOf compactCrates)
        (SignedRunnerCommand.toJson compactCrates
          ⟨appliedCommand (some .null), "00"⟩).sorted = some received ∧
      received.command.SameAs (appliedCommand (some .null)) ∧
      (received.verify compactCrates ⟨[]⟩ "node" 0 ∅ ⟨0, 0⟩).2 =
        (SignedRunnerCommand.verify compactCrates
          ⟨appliedCommand (some .null), "00"⟩ ⟨[]⟩ "node" 0 ∅ ⟨0, 0⟩).2 := by
  have htidy : (appliedCommand (some .null)).kind.TidyJson := by
    refine ⟨.object (List.pairwise_singleton _ _) ?_, ?_⟩
    · intro field hfield
      obtain rfl := List.mem_singleton.mp hfield
      exact .null
    · rintro _ ⟨⟩
      exact .null
  have hexpires : (appliedCommand (some .null)).expiresAt.Representable := by
    decide
  obtain ⟨received, hread, hsame, hverify⟩ :=
    @commands_survive_the_wire _ _ _ compactCrates_serializes.readsInstants
      carries_sorted ⟨appliedCommand (some .null), "00"⟩ hexpires htidy
  exact ⟨received, hread, hsame, congrArg Prod.snd (hverify ⟨[]⟩ _ _ _ _)⟩

/--
Profiles, credentials, snapshots and signed results read back from a JSON column
or a body, sorted or not.
-/
theorem records_read_back
    (hinstant : ReadsInstants crates instant) (hcarrier : Carries carrier) :
    (∀ ir : ProfileIr, (∀ route ∈ ir.routes, route.Tidy) →
      ProfileIr.ofJson (carrier ir.toJson) = some ir) ∧
    (∀ material : CredentialMaterial,
      CredentialMaterial.ofJson (carrier material.toJson) = some material) ∧
    (∀ snapshot : DeploymentSnapshotRecord,
      snapshot.observedAt.Representable → snapshot.createdAt.Representable →
        DeploymentSnapshotRecord.ofJson instant
          (carrier (snapshot.toJson crates)) = some snapshot) ∧
    ∀ signedResult : SignedDeploymentResult,
      signedResult.result.observedAt.Representable →
        SignedDeploymentResult.ofJson instant
          (carrier (signedResult.toJson crates)) = some signedResult := by
  refine ⟨fun ir hroutes => ?_, fun material => ?_,
    fun snapshot hobserved hcreated => ?_,
    fun signedResult hobserved =>
      SignedDeploymentResult.ofJson_carried hinstant hcarrier hobserved⟩
  · rw [ProfileIr.stable_ofJson.carried hcarrier
      (ProfileIr.portable_toJson hroutes)]
    exact ProfileIr.ofJson_toJson hroutes
  · rw [CredentialMaterial.stable_ofJson.carried hcarrier
      (CredentialMaterial.portable_toJson material)]
    exact CredentialMaterial.ofJson_toJson material
  · rw [(DeploymentSnapshotRecord.stable_ofJson instant).carried hcarrier
      (DeploymentSnapshotRecord.portable_toJson crates snapshot)]
    exact DeploymentSnapshotRecord.ofJson_toJson hinstant hobserved hcreated

end Carriers

/-- The example profile, with a route, in a column that sorts its fields. -/
theorem records_read_back_sorted :
    ProfileIr.ofJson (ProfileIr.toJson
      { ProfileIr.vlessRealityExample "group" "secret" with
        routes := [.object [("a", .null), ("b", .bool true)]] }).sorted =
      some { ProfileIr.vlessRealityExample "group" "secret" with
        routes := [.object [("a", .null), ("b", .bool true)]] } := by
  refine (records_read_back compactCrates_serializes.readsInstants
    carries_sorted).1 _ fun route hroute => ?_
  obtain rfl := List.mem_singleton.mp hroute
  refine .object (by decide) ?_
  simp

end ProxyControl
