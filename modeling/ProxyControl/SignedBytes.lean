import ProxyControl.Lib.JsonText
import ProxyControl.Lib.Rfc3339
import ProxyControl.ReferenceCrates

/-!
# What a signature binds

Commands and results are signed as compact JSON.  `SerializesCompactly` says what
is taken from the crates: the text of a value, and the text of an instant.  The
signed bytes of a command tell every field of it, except that no rollback and a
rollback to `null` look the same; those of a result tell node and result.  A
command is an object and a signed result an array, so neither is taken for the
other.
-/

namespace ProxyControl

open Calendar Json

/-- The crates write the texts of `Lib.JsonText` and `Lib.Rfc3339`. -/
structure SerializesCompactly
    (crates : Crates) (doubleText : UInt64 → List Char) : Prop where
  doubles : DoubleText doubleText
  values : ∀ value : Json.Value, value.Valid →
    crates.toVec value = .ok (utf8 (String.ofList (Json.text doubleText value)))
  instants : ∀ t : DateTime, t.Representable →
    crates.rfc3339 t = String.ofList t.rfc3339Text

theorem utf8_injective : Function.Injective utf8 := by
  intro s s' h
  have hdata : s.toUTF8.data = s'.toUTF8.data := Array.toList_inj.mp h
  exact String.toByteArray_inj.mp (ByteArray.ext hdata)

namespace RunnerCommandKind

/-- The JSON values that a command carries are valid. -/
def ValidJson : RunnerCommandKind → Prop
  | heartbeat capabilitySnapshot => capabilitySnapshot.Valid
  | applyDeploymentPlan _ _ configJson rollbackJson =>
      configJson.Valid ∧ ∀ value ∈ rollbackJson, value.Valid
  | validateConfig configJson => configJson.Valid
  | _ => True

/-- A rollback to `null` is none. -/
def withoutNull : RunnerCommandKind → RunnerCommandKind
  | applyDeploymentPlan deploymentId artifactSha256 configJson (some .null) =>
      applyDeploymentPlan deploymentId artifactSha256 configJson none
  | kind => kind

theorem valid_toJson
    {kind : RunnerCommandKind} (h : kind.ValidJson) :
    kind.toJson.Valid := by
  have hstring := Value.Valid.string
  cases kind with
  | registerNode =>
      refine .object ?_
      simp [hstring]
  | heartbeat capabilitySnapshot =>
      have hsnapshot : capabilitySnapshot.Valid := h
      refine .object ?_
      simpa [hstring] using hsnapshot
  | applyDeploymentPlan deploymentId artifactSha256 configJson rollbackJson =>
      obtain ⟨hconfig, hrollback⟩ := h
      have hvalue : (rollbackJson.getD .null).Valid := by
        cases rollbackJson with
        | none => exact .null
        | some value => exact hrollback value rfl
      refine .object ?_
      simpa [hstring] using ⟨hconfig, hvalue⟩
  | validateConfig configJson =>
      have hconfig : configJson.Valid := h
      refine .object ?_
      simpa [hstring] using hconfig
  | collectLogWindow lines =>
      have hlines : (Value.number (.posInt lines.toUInt64)).Valid :=
        .number trivial
      refine .object ?_
      simpa [hstring] using hlines
  | _ =>
      refine .object ?_
      simp [hstring]

theorem toJson_withoutNull
    (kind : RunnerCommandKind) :
    kind.withoutNull.toJson = kind.toJson := by
  cases kind with
  | applyDeploymentPlan deploymentId artifactSha256 configJson rollbackJson =>
      rcases rollbackJson with _ | value
      · rfl
      · cases value <;> rfl
  | _ => rfl

/-- The rollback that is written tells the rollback. -/
theorem withoutNull_eq_of_getD_eq
    {deploymentId artifactSha256 : String} {configJson : Json.Value}
    {rollbackJson rollbackJson' : Option Json.Value}
    (h : rollbackJson.getD .null = rollbackJson'.getD .null) :
    (applyDeploymentPlan deploymentId artifactSha256 configJson
        rollbackJson).withoutNull =
      (applyDeploymentPlan deploymentId artifactSha256 configJson
        rollbackJson').withoutNull := by
  rcases rollbackJson with _ | value
  · rcases rollbackJson' with _ | value'
    · rfl
    · obtain rfl : .null = value' := h
      rfl
  · rcases rollbackJson' with _ | value'
    · obtain rfl : value = .null := h
      rfl
    · obtain rfl : value = value' := h
      rfl

/-- The serialized kind tells the kind. -/
theorem toJson_eq_iff
    (kind kind' : RunnerCommandKind) :
    kind.toJson = kind'.toJson ↔ kind.withoutNull = kind'.withoutNull := by
  constructor
  · intro h
    -- kinds of two variants differ in their tags
    cases kind <;> cases kind' <;>
      simp only [toJson, Json.Value.object.injEq, List.cons.injEq,
        Prod.mk.injEq, Json.Value.string.injEq, Json.Value.number.injEq,
        Json.Number.posInt.injEq, String.reduceEq, true_and, and_true,
        false_and, and_false, reduceCtorEq] at h
    · rw [h]
    · rw [h]
    · obtain ⟨rfl, rfl, rfl, hrollback⟩ := h
      exact withoutNull_eq_of_getD_eq hrollback
    · rw [h]
    · rfl
    · rfl
    · obtain ⟨rfl, rfl, rfl⟩ := h
      rfl
    · rfl
    · rw [UInt32.toUInt64_inj.mp h]
  · intro h
    rw [← toJson_withoutNull kind, h, toJson_withoutNull kind']

end RunnerCommandKind

/--
The command can be written: its instant and its JSON values are valid.  Instants
come from the clock, from RFC 3339 text and from the database, and none of these
has a leap second off the end of a minute.
-/
def RunnerCommand.Writable (self : RunnerCommand) : Prop :=
  self.expiresAt.Representable ∧ self.kind.ValidJson

/-- The commands are equal, a rollback to `null` being none. -/
structure RunnerCommand.SameAs (self other : RunnerCommand) : Prop where
  tenantId : self.tenantId = other.tenantId
  nodeId : self.nodeId = other.nodeId
  sequence : self.sequence = other.sequence
  nonce : self.nonce = other.nonce
  expiresAt : self.expiresAt = other.expiresAt
  kind : self.kind.withoutNull = other.kind.withoutNull

namespace SerializesCompactly

variable {crates : Crates} {doubleText : UInt64 → List Char}
variable (h : SerializesCompactly crates doubleText)
include h

/-- The signed bytes tell the value. -/
theorem canonicalBytes_eq_iff
    {v w : Json.Value} (hv : v.Valid) (hw : w.Valid) :
    canonicalBytes crates v = canonicalBytes crates w ↔ v = w := by
  constructor
  · intro heq
    rw [canonicalBytes, canonicalBytes, h.values v hv, h.values w hw] at heq
    have htext := String.ofList_inj.mp (utf8_injective (Except.ok.inj heq))
    exact Json.text_injective h.doubles hv hw htext
  · rintro rfl
    rfl

theorem rfc3339_eq_iff
    {t t' : DateTime} (ht : t.Representable) (ht' : t'.Representable) :
    crates.rfc3339 t = crates.rfc3339 t' ↔ t = t' := by
  constructor
  · intro heq
    rw [h.instants t ht, h.instants t' ht'] at heq
    exact rfc3339Text_injective ht ht' (String.ofList_inj.mp heq)
  · rintro rfl
    rfl

omit h in
theorem valid_command
    {command : RunnerCommand} (hcommand : command.Writable) :
    (command.toJson crates).Valid := by
  have hstring := Value.Valid.string
  have hkind := RunnerCommandKind.valid_toJson hcommand.2
  have hsequence : (Value.number (.posInt command.sequence)).Valid :=
    .number trivial
  refine .object ?_
  simpa [hstring] using ⟨hsequence, hkind⟩

omit h in
theorem valid_result
    (nodeId : String) (result : DeploymentResult) :
    (resultPayload crates nodeId result).Valid := by
  have hstring := Value.Valid.string
  have hresult : (result.toJson crates).Valid := by
    refine .object ?_
    simp [hstring]
  refine .array ?_
  simpa [hstring] using hresult

theorem command_eq_iff
    {command command' : RunnerCommand} (hcommand : command.Writable)
    (hcommand' : command'.Writable) :
    command.toJson crates = command'.toJson crates ↔
      command.SameAs command' := by
  have hexpiry := h.rfc3339_eq_iff hcommand.1 hcommand'.1
  constructor
  · intro heq
    simp only [RunnerCommand.toJson, Json.Value.object.injEq, List.cons.injEq,
      Prod.mk.injEq, Json.Value.string.injEq, Json.Value.number.injEq,
      Json.Number.posInt.injEq, true_and, and_true, hexpiry,
      RunnerCommandKind.toJson_eq_iff] at heq
    obtain ⟨htenant, hnode, hsequence, hnonce, hexpires, hkind⟩ := heq
    exact ⟨htenant, hnode, hsequence, hnonce, hexpires, hkind⟩
  · rintro ⟨htenant, hnode, hsequence, hnonce, hexpires, hkind⟩
    rw [RunnerCommand.toJson, RunnerCommand.toJson, htenant, hnode, hsequence,
      hnonce, hexpires,
      (RunnerCommandKind.toJson_eq_iff _ _).mpr hkind]

theorem result_eq
    {nodeId nodeId' : String} {result result' : DeploymentResult}
    (hresult : result.observedAt.Representable)
    (hresult' : result'.observedAt.Representable)
    (heq : resultPayload crates nodeId result =
      resultPayload crates nodeId' result') :
    (nodeId, result) = (nodeId', result') := by
  have hlabel : Function.Injective DeploymentStatus.label := by
    intro status status' hstatus
    cases status <;> cases status' <;> first | rfl | exact absurd hstatus (by decide)
  obtain ⟨deploymentId, status, message, artifactSha256, observedAt⟩ := result
  obtain ⟨deploymentId', status', message', artifactSha256', observedAt'⟩ := result'
  simp only [resultPayload, DeploymentResult.toJson, Json.Value.array.injEq,
    Json.Value.object.injEq, List.cons.injEq, Prod.mk.injEq,
    Json.Value.string.injEq, true_and, and_true, hlabel.eq_iff,
    h.rfc3339_eq_iff hresult hresult'] at heq
  obtain ⟨rfl, rfl, rfl, rfl, rfl, rfl⟩ := heq
  rfl

end SerializesCompactly

/--
The signed bytes of a command tell its fields, those of a result the node and the
result, and no command has the signed bytes of a result.
-/
theorem signatures_bind_whole
    (crates : Crates) (doubleText : UInt64 → List Char)
    (h : SerializesCompactly crates doubleText) :
    (∀ command command' : RunnerCommand,
      command.Writable → command'.Writable →
        (canonicalBytes crates (command.toJson crates) =
            canonicalBytes crates (command'.toJson crates) ↔
          command.SameAs command')) ∧
    (∀ nodeId nodeId' result result',
      result.observedAt.Representable → result'.observedAt.Representable →
        canonicalBytes crates (resultPayload crates nodeId result) =
            canonicalBytes crates (resultPayload crates nodeId' result') →
          (nodeId, result) = (nodeId', result')) ∧
    ∀ (command : RunnerCommand) (nodeId : String) (result : DeploymentResult),
      command.Writable → result.observedAt.Representable →
        canonicalBytes crates (command.toJson crates) ≠
          canonicalBytes crates (resultPayload crates nodeId result) := by
  refine ⟨?_, ?_, ?_⟩
  · intro command command' hcommand hcommand'
    rw [h.canonicalBytes_eq_iff (SerializesCompactly.valid_command hcommand)
      (SerializesCompactly.valid_command hcommand')]
    exact h.command_eq_iff hcommand hcommand'
  · intro nodeId nodeId' result result' hresult hresult' heq
    exact h.result_eq hresult hresult'
      ((h.canonicalBytes_eq_iff (SerializesCompactly.valid_result nodeId result)
        (SerializesCompactly.valid_result nodeId' result')).mp heq)
  · intro command nodeId result hcommand _ heq
    have hvalues := (h.canonicalBytes_eq_iff
      (SerializesCompactly.valid_command hcommand)
      (SerializesCompactly.valid_result nodeId result)).mp heq
    cases hvalues

/-! ### Two commands and a result -/

/-- A text for doubles; the values below have none. -/
def plainDouble (bits : UInt64) : List Char :=
  Nat.toDigits 10 bits.toNat ++ ['e', '0']

theorem plainDouble_text : DoubleText plainDouble where
  chars := by
    intro bits _ c hc
    have hexponents : (['e', '0'].all isNumberChar) = true := by decide
    rcases List.mem_append.mp hc with hdigit | hexponent
    · simp [isNumberChar, Decimal.isDigit_of_mem_toDigits hdigit]
    · exact List.all_eq_true.mp hexponents c hexponent
  mark := fun bits _ =>
    ⟨'e', List.mem_append_right _ List.mem_cons_self, .inr rfl⟩
  injective := by
    intro bits bits' _ _ heq
    exact UInt64.toNat.inj
      (Decimal.toDigits_injective (List.append_cancel_right heq))

/-- The reference crates with the texts that a signature is made of. -/
def compactCrates : Crates :=
  { referenceCrates with
    toVec := fun value => .ok (utf8 (String.ofList (Json.text plainDouble value)))
    rfc3339 := fun t => String.ofList t.rfc3339Text }

theorem compactCrates_serializes :
    SerializesCompactly compactCrates plainDouble where
  doubles := plainDouble_text
  values _ _ := rfl
  instants _ _ := rfl

def appliedCommand (rollbackJson : Option Json.Value) : RunnerCommand where
  tenantId := "tenant"
  nodeId := "node"
  sequence := 1
  nonce := "nonce"
  expiresAt := ⟨60, 0⟩
  kind := .applyDeploymentPlan "dep-1" "sha" (.object [("log", .null)])
    rollbackJson

theorem appliedCommand_writable
    {rollbackJson : Option Json.Value}
    (h : ∀ value ∈ rollbackJson, value.Valid) :
    (appliedCommand rollbackJson).Writable := by
  have hinstant : DateTime.Representable ⟨60, 0⟩ :=
    ⟨by decide, .inl (by decide)⟩
  refine ⟨hinstant, .object ?_, h⟩
  intro field hfield
  obtain rfl := List.mem_singleton.mp hfield
  exact .null

theorem signatures_bind_whole_null_rollback :
    canonicalBytes compactCrates ((appliedCommand none).toJson compactCrates) =
        canonicalBytes compactCrates
          ((appliedCommand (some .null)).toJson compactCrates) ∧
      canonicalBytes compactCrates (resultPayload compactCrates "node"
          ⟨"dep-1", .succeeded, "", "sha", ⟨60, 0⟩⟩) ≠
        canonicalBytes compactCrates (resultPayload compactCrates "node"
          ⟨"dep-1", .failed, "", "sha", ⟨60, 0⟩⟩) ∧
      canonicalBytes compactCrates ((appliedCommand none).toJson compactCrates) ≠
        canonicalBytes compactCrates (resultPayload compactCrates "node"
          ⟨"dep-1", .succeeded, "", "sha", ⟨60, 0⟩⟩) := by
  obtain ⟨hcommands, hresults, hapart⟩ :=
    signatures_bind_whole compactCrates plainDouble compactCrates_serializes
  have hinstant : DateTime.Representable ⟨60, 0⟩ :=
    ⟨by decide, .inl (by decide)⟩
  have hnone : (appliedCommand none).Writable :=
    appliedCommand_writable (by simp)
  have hnull : (appliedCommand (some .null)).Writable := by
    refine appliedCommand_writable ?_
    rintro _ ⟨⟩
    exact .null
  refine ⟨(hcommands _ _ hnone hnull).mpr ⟨rfl, rfl, rfl, rfl, rfl, rfl⟩, ?_,
    hapart _ _ _ hnone hinstant⟩
  intro heq
  exact absurd (hresults _ _ _ _ hinstant hinstant heq) (by decide)

end ProxyControl
