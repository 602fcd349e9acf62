import ProxyControl.ControlPlane.Footprint
import ProxyControl.WireRoundTrip

/-!
# What is queued is signed

Whatever a request does, a command that it puts into the queue of a node names
that node and carries the signature of the control plane.  It deploys a compiled
configuration, whose fields are sorted, or rolls a deployment back.
-/

namespace ProxyControl

open Effects Json

/-! ## Compiled configurations -/

section Inbounds

variable {ctx : CompileContext} {inbound : Inbound} {json : Json.Value}

theorem clients_tidy
    {client : Credential → Option Json.Value} {credentials : List Credential}
    (h : ∀ credential json, client credential = some json → json.Tidy) :
    (Value.array (credentials.filterMap client)).Tidy := by
  refine .array fun json hjson => ?_
  obtain ⟨credential, -, hclient⟩ := List.mem_filterMap.mp hjson
  exact h credential json hclient

@[simp] theorem port_tidy (port : UInt16) :
    (Value.number (.posInt port.toUInt64)).Tidy :=
  .number trivial

theorem vlessClient_tidy
    {credential : Credential} {client : Json.Value}
    (h : vlessClient credential = some client) :
    client.Tidy := by
  unfold vlessClient at h
  split at h
  · obtain rfl := Option.some.inj h
    simp
  · cases h

theorem trojanClient_tidy
    {credential : Credential} {client : Json.Value}
    (h : trojanClient credential = some client) :
    client.Tidy := by
  unfold trojanClient at h
  split at h
  · obtain rfl := Option.some.inj h
    simp
  · cases h

theorem compileVless_tidy
    (h : compileVless ctx inbound = .ok json) :
    json.Tidy := by
  have hclients : (Value.array
      ((servedCredentials ctx inbound).filterMap vlessClient)).Tidy :=
    clients_tidy fun _ _ => vlessClient_tidy
  unfold compileVless at h
  cases hsecurity : inbound.security with
  | tls serverName =>
      simp only [hsecurity] at h
      obtain rfl := Except.ok.inj h
      exact setField_tidy (by simp) (by simp [hclients])
  | none =>
      simp only [hsecurity] at h
      obtain rfl := Except.ok.inj h
      simp [hclients]
  | reality serverName privateKeyRef shortIds =>
      simp only [hsecurity] at h
      split at h
      · cases h
      split at h
      · cases h
      obtain rfl := Except.ok.inj h
      exact setField_tidy (by simp) (by simp [hclients])

theorem compileShadowsocks_tidy
    {crates : Crates} (h : compileShadowsocks crates ctx inbound = .ok json) :
    json.Tidy := by
  unfold compileShadowsocks at h
  cases hselected : selectShadowsocks inbound.id none
      (servedCredentials ctx inbound) with
  | error e =>
      rw [hselected] at h
      cases h
  | ok selected =>
      rw [hselected] at h
      rcases selected with _ | ⟨method, password⟩
      · cases h
      cases hvalid : validateShadowsocksMethodPassword crates method password with
      | error e =>
          simp only [hvalid, bind, Except.bind] at h
          cases h
      | ok u =>
          simp only [hvalid, bind, Except.bind] at h
          obtain rfl := Except.ok.inj h
          simp

theorem compileTrojan_tidy
    (h : compileTrojan ctx inbound = .ok json) :
    json.Tidy := by
  have hclients : (Value.array
      ((servedCredentials ctx inbound).filterMap trojanClient)).Tidy :=
    clients_tidy fun _ _ => trojanClient_tidy
  simp only [compileTrojan, applyStreamSecurity] at h
  split at h
  · cases h
  cases hsecurity : inbound.security with
  | tls serverName =>
      simp only [hsecurity] at h
      obtain rfl := Except.ok.inj h
      exact setField_tidy (by simp) (by simp [hclients])
  | none =>
      simp only [hsecurity] at h
      obtain rfl := Except.ok.inj h
      simp [hclients]
  | reality serverName privateKeyRef shortIds =>
      simp only [hsecurity] at h
      cases h

theorem compileInbound_tidy
    {crates : Crates} (h : compileInbound crates ctx inbound = .ok json) :
    json.Tidy := by
  unfold compileInbound at h
  split at h
  · exact compileVless_tidy h
  · exact compileShadowsocks_tidy h
  · exact compileTrojan_tidy h

end Inbounds

/-- The compiler writes no doubles, and sorts the fields of every object. -/
theorem compileProfileToXray_tidy
    {crates : Crates} {ir : ProfileIr} {ctx : CompileContext}
    {config : CompiledXrayConfig}
    (h : compileProfileToXray crates ir ctx = .ok config) :
    config.configJson.Tidy := by
  obtain ⟨-, inbounds, hcompiled, rfl⟩ := compileProfileToXray_eq_ok_iff.mp h
  have hinbounds : (Value.array inbounds).Tidy := by
    refine .array fun json hjson => ?_
    obtain ⟨n, hn, rfl⟩ := List.mem_iff_getElem.mp hjson
    exact compileInbound_tidy
      (hcompiled.get (hcompiled.length_eq ▸ hn) hn)
  have hempty : (Value.array []).Tidy := .array fun json hjson => by cases hjson
  have houtbounds : (Value.array [
      mapOf [("tag", .string "direct"), ("protocol", .string "freedom")],
      mapOf [("tag", .string "block"), ("protocol", .string "blackhole")]]).Tidy := by
    refine .array ?_
    simp
  refine mapOf_tidy ?_
  simp [hinbounds, hempty, houtbounds]

/-! ## Signatures -/

/-- What the control plane has runners do. -/
def RunnerCommandKind.Issued : RunnerCommandKind → Prop
  | .applyDeploymentPlan _ _ configJson rollbackJson =>
      configJson.Tidy ∧ rollbackJson = none
  | .rollbackDeployment .. => True
  | _ => False

/-- The envelope is the signature of a command for the node. -/
def SignedFor
    (crates : Crates) (app : AppState) (nodeId : String)
    (envelope : SignedRunnerCommand) : Prop :=
  ∃ command : RunnerCommand, command.nodeId = nodeId ∧ command.kind.Issued ∧
    SignedRunnerCommand.sign crates command app.signingKey = .ok envelope

theorem SignedFor.nodeId
    {crates : Crates} {app : AppState} {nodeId : String}
    {envelope : SignedRunnerCommand} (h : SignedFor crates app nodeId envelope) :
    envelope.command.nodeId = nodeId := by
  obtain ⟨command, hnode, -, hsign⟩ := h
  rw [SignedRunnerCommand.command_of_sign hsign, hnode]

section Envelopes

variable {crates : Crates} {app : AppState} {nodeId : String}
variable {envelope : SignedRunnerCommand}

theorem SignedFor.issued
    (h : SignedFor crates app nodeId envelope) :
    envelope.command.kind.Issued := by
  obtain ⟨command, -, hissued, hsign⟩ := h
  rwa [SignedRunnerCommand.command_of_sign hsign]

theorem RunnerCommandKind.Issued.tidyJson
    {kind : RunnerCommandKind} (h : kind.Issued) :
    kind.TidyJson := by
  cases kind with
  | applyDeploymentPlan deploymentId artifactSha256 configJson rollbackJson =>
      obtain ⟨hconfig, rfl⟩ := h
      exact ⟨hconfig, fun value hvalue => by cases hvalue⟩
  | rollbackDeployment => trivial
  | _ => exact h.elim

theorem RunnerCommandKind.Issued.withoutNull
    {kind : RunnerCommandKind} (h : kind.Issued) :
    kind.withoutNull = kind := by
  cases kind with
  | applyDeploymentPlan deploymentId artifactSha256 configJson rollbackJson =>
      obtain ⟨-, rfl⟩ := h
      rfl
  | rollbackDeployment => rfl
  | _ => exact h.elim

/-- What is queued is read at the other end as it is. -/
theorem SignedFor.ofJson_carried
    (h : SignedFor crates app nodeId envelope)
    {instant : String → Option Calendar.DateTime}
    (hinstant : ReadsInstants crates instant)
    {carrier : Json.Value → Json.Value} (hcarrier : Carries carrier)
    (hexpires : envelope.command.expiresAt.Representable) :
    SignedRunnerCommand.ofJson instant (carrier (envelope.toJson crates)) =
      some envelope := by
  rw [SignedRunnerCommand.ofJson_carried hinstant hcarrier hexpires
    h.issued.tidyJson, h.issued.withoutNull]

end Envelopes

/-- A call queues nothing but commands that are signed for their node. -/
def QueuesSigned (crates : Crates) (app : AppState) : Call → Prop
  | .store (.enqueueRunnerCommand nodeId envelope) =>
      SignedFor crates app nodeId envelope
  | _ => True

namespace AppState

open Handler

variable (crates : Crates) (app : AppState)

theorem queuesSigned_signAndEnqueue
    (nodeId : String) (sequence : UInt64) {kind : RunnerCommandKind}
    (hkind : kind.Issued) :
    (app.signAndEnqueue crates nodeId sequence kind).Calls
      (QueuesSigned crates app) := by
  refine calls_perform_bind trivial fun now => ?_
  refine calls_perform_bind trivial fun nonce => ?_
  refine calls_orStatus_bind fun envelope henvelope => ?_
  exact calls_store ⟨_, rfl, hkind, mapError_eq_ok henvelope⟩

theorem queuesSigned_compileFresh (req : CompileDeploymentRequest) :
    (app.compileFresh crates req).Calls (QueuesSigned crates app) := by
  unfold compileFresh
  refine calls_store_bind trivial fun profile => ?_
  refine calls_store_bind trivial fun node => ?_
  refine calls_store_bind trivial fun credentials => ?_
  refine calls_orStatus_bind fun compiled hcompiled => ?_
  have htidy := compileProfileToXray_tidy (mapError_eq_ok hcompiled)
  refine calls_orStatus_bind fun bytes _ => ?_
  refine calls_perform_bind trivial fun uuid => ?_
  refine calls_perform_bind trivial fun now => ?_
  refine calls_store_bind trivial fun _ => ?_
  refine calls_perform_bind trivial fun createdAt => ?_
  refine calls_store_bind trivial fun _ => ?_
  refine calls_perform_bind trivial fun plannedAt => ?_
  refine calls_perform_bind trivial fun sequence => ?_
  refine Calls.bind ?_ fun _ => ?_
  · exact queuesSigned_signAndEnqueue crates app _ sequence ⟨htidy, rfl⟩
  refine calls_store_bind trivial fun auditCount => ?_
  exact calls_store_bind trivial fun outboxCount => calls_pure _

theorem queuesSigned_compileDeployment
    (headers : Headers) (req : CompileDeploymentRequest) :
    (app.compileDeployment crates headers req).Calls
      (QueuesSigned crates app) := by
  have hfresh := queuesSigned_compileFresh crates app req
  unfold compileDeployment
  refine (calls_optionalHeaderValue headers _).bind fun key => ?_
  cases key with
  | none => exact hfresh.bind fun _ => calls_pure _
  | some key =>
      refine calls_store_bind trivial fun cached => ?_
      cases cached with
      | some body => exact calls_pure _
      | none =>
          refine hfresh.bind fun response => ?_
          exact calls_store_bind trivial fun _ => calls_pure _

theorem queuesSigned_enqueueRollbackCommand (deploymentId : String) :
    (app.enqueueRollbackCommand crates deploymentId).Calls
      (QueuesSigned crates app) := by
  have hprevious : ∀ value message,
      (requirePrevious value message).Calls (QueuesSigned crates app) := by
    intro value message
    cases value with
    | some value => exact calls_pure _
    | none => exact calls_throw _
  unfold enqueueRollbackCommand
  refine calls_store_bind trivial fun pointer => ?_
  refine (hprevious _ _).bind fun target => ?_
  refine (hprevious _ _).bind fun artifactId => ?_
  refine calls_store_bind trivial fun snapshot => ?_
  refine calls_store_bind trivial fun bytes => ?_
  refine calls_perform_bind trivial fun sequence => ?_
  refine Calls.bind ?_ fun _ => calls_pure _
  refine queuesSigned_signAndEnqueue crates app _ sequence ?_
  exact trivial

theorem queuesSigned_advanceDeploymentRollout (deploymentId : String) :
    (app.advanceDeploymentRollout crates deploymentId).Calls
      (QueuesSigned crates app) := by
  unfold advanceDeploymentRollout computeDeploymentReadiness
  refine Calls.bind ?_ fun readiness => ?_
  · refine calls_store_bind trivial fun status => ?_
    exact calls_store_bind trivial fun samples => calls_pure _
  split
  · exact calls_pure _
  · split
    · exact (queuesSigned_enqueueRollbackCommand crates app deploymentId).bind
        fun _ => calls_pure _
    · exact calls_pure _

/-- No handler queues a command that it has not signed for the node. -/
theorem serve_queuesSigned (request : Request) :
    (app.serve crates request).Calls (QueuesSigned crates app) := by
  have hothers :
      (∀ nodeId envelope,
        request.mayMake (.enqueueRunnerCommand nodeId envelope) = false) →
      (app.serve crates request).Calls (QueuesSigned crates app) := by
    intro hnone
    refine Program.All.mono (serve_makes crates app request) ?_
    intro op hop
    cases op with
    | store op =>
        cases op with
        | enqueueRunnerCommand nodeId envelope =>
            simp [Request.Makes, hnone nodeId envelope] at hop
        | _ => trivial
    | _ => trivial
  cases request with
  | compileDeployment headers req =>
      exact queuesSigned_compileDeployment crates app headers req
  | queueRollback deploymentId =>
      exact queuesSigned_enqueueRollbackCommand crates app deploymentId
  | advanceDeploymentRollout deploymentId =>
      exact queuesSigned_advanceDeploymentRollout crates app deploymentId
  | _ =>
      refine hothers fun nodeId envelope => ?_
      simp only [Request.mayMake]
      split <;> rfl

end AppState
end ProxyControl
