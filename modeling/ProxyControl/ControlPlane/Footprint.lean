import ProxyControl.ControlPlane.Runs

/-!
# What the routes may write

`Request.mayMake` says which store calls a route may make: a writing call
belongs to a few routes, and a reading call to all of them.  `serve_calls`
checks every handler against this table.  An invariant of some tables of the
store is then a matter of the calls that write them and their routes.
-/

namespace ProxyControl

open Effects

namespace Handler

variable {α β : Type}

/-- Every call that the handler can make is of a kind. -/
def Calls (kind : Call → Prop) (handler : Handler α) : Prop :=
  Program.All kind handler.run

variable {kind : Call → Prop}

theorem calls_pure (a : α) :
    Calls kind (pure a : Handler α) :=
  trivial

theorem calls_throw (error : HttpError) :
    Calls kind (throw error : Handler α) :=
  trivial

theorem calls_perform
    {op : Call} (h : kind op) :
    Calls kind (Handler.perform op) :=
  ⟨h, fun _ => trivial⟩

theorem calls_store
    {op : StoreCall} (h : kind (.store op)) :
    Calls kind (Handler.store op) :=
  ⟨h, fun _ => trivial⟩

theorem Calls.bind
    {m : Handler α} {f : α → Handler β}
    (h : Calls kind m) (hf : ∀ a, Calls kind (f a)) :
    Calls kind (m >>= f) := by
  refine Program.All.bind h ?_
  intro r
  cases r with
  | ok a => exact hf a
  | error e => trivial

/-- A call of the kind, and what follows. -/
theorem calls_perform_bind
    {op : Call} {f : op.Ret → Handler β}
    (h : kind op) (hf : ∀ a, Calls kind (f a)) :
    Calls kind (Handler.perform op >>= f) :=
  (calls_perform h).bind hf

theorem calls_store_bind
    {op : StoreCall} {f : op.Value → Handler β}
    (h : kind (.store op)) (hf : ∀ a, Calls kind (f a)) :
    Calls kind (Handler.store op >>= f) :=
  (calls_store h).bind hf

/-- A domain computation makes no call; what follows knows its value. -/
theorem calls_orStatus
    {status : Nat} {value : Except String α} :
    Calls kind (Handler.orStatus status value) := by
  cases value <;> trivial

theorem calls_orStatus_bind
    {status : Nat} {value : Except String α} {f : α → Handler β}
    (hf : ∀ a, value = .ok a → Calls kind (f a)) :
    Calls kind (Handler.orStatus status value >>= f) := by
  cases value with
  | ok a => exact hf a rfl
  | error e => trivial

theorem calls_mapM
    {f : α → Handler β} (h : ∀ a, Calls kind (f a)) (l : List α) :
    Calls kind (l.mapM f) := by
  induction l with
  | nil =>
      rw [List.mapM_nil]
      exact calls_pure []
  | cons a l ih =>
      rw [List.mapM_cons]
      refine (h a).bind ?_
      intro b
      exact ih.bind (fun bs => calls_pure (b :: bs))

/-! ### Values that handlers draw and use -/

section Drawing

variable {draws : (op : Call) → op.Ret → List String}
variable {uses : Call → List String} {purse : List String}

/-- A handler that uses nothing affords it with any purse. -/
theorem Calls.affords_of_unused
    {m : Handler α} (h : Calls (fun op => uses op = []) m) :
    Program.Affords draws uses purse m.run :=
  Program.affords_of_all h

/-- Calls that neither draw nor use leave the purse to what follows. -/
theorem Calls.affords_then
    {m : Handler α} {f : α → Handler β}
    (h : Calls (fun op => uses op = [] ∧ ∀ r, draws op r = []) m)
    (hf : ∀ a, Program.Affords draws uses purse (f a).run) :
    Program.Affords draws uses purse (m >>= f).run := by
  refine Program.affords_bind_of_all h ?_
  intro r
  cases r with
  | ok a => exact hf a
  | error e => trivial

/-- What uses nothing may follow. -/
theorem affords_then_of_calls
    {m : Handler α} {f : α → Handler β}
    (h : Program.Affords draws uses purse m.run)
    (hf : ∀ a, Calls (fun op => uses op = []) (f a)) :
    Program.Affords draws uses purse (m >>= f).run := by
  refine Program.Affords.bind_of_all h ?_
  intro r
  cases r with
  | ok a => exact hf a
  | error e => trivial

end Drawing

end Handler

/-- A signed envelope carries the command that was signed. -/
theorem SignedRunnerCommand.command_of_sign
    {crates : Crates} {command : RunnerCommand} {key : SigningKey}
    {envelope : SignedRunnerCommand}
    (h : SignedRunnerCommand.sign crates command key = .ok envelope) :
    envelope.command = command := by
  unfold SignedRunnerCommand.sign at h
  cases hbytes : canonicalBytes crates (command.toJson crates) with
  | error e =>
      rw [hbytes] at h
      cases h
  | ok canonical =>
      rw [hbytes] at h
      exact congrArg SignedRunnerCommand.command (Except.ok.inj h).symm

/-! ## The table -/

/-- Whether a route may make a store call. -/
def Request.mayMake (request : Request) : StoreCall → Bool
  | .registerNode _ | .consumeNodeRegistrationToken .. | .recordArtifact _ =>
      false
  | .registerNodeWithRegistrationToken .. =>
      (request matches .registerNode _)
  | .createNodeRegistrationToken _ =>
      (request matches .registerNode _ | .listRegistrationTokens |
        .issueRegistrationToken _)
  | .recordHeartbeat _ => (request matches .runnerHeartbeat ..)
  | .createProfile _ =>
      (request matches .createVlessRealityProfile .. |
        .createShadowsocksProfile .. | .createTrojanProfile ..)
  | .addCredential .. | .setCredentialQuota .. | .setCredentialExpiry .. =>
      (request matches .createClient _)
  | .recordArtifactBlob .. | .recordDeploymentPlan _
  | .recordIdempotencyResponse .. =>
      (request matches .compileDeployment ..)
  | .recordDeploymentResult _ => (request matches .submitRunnerResult ..)
  | .recordDeploymentHealthCheck _ =>
      (request matches .recordRunnerDeploymentHealth ..)
  | .recordUsageSample _ => (request matches .runnerUsage ..)
  | .enqueueRunnerCommand _ envelope =>
      match envelope.command.kind with
      | .applyDeploymentPlan .. => (request matches .compileDeployment ..)
      | .rollbackDeployment .. =>
          (request matches .queueRollback _ | .advanceDeploymentRollout _)
      | _ => false
  | .nextRunnerCommand .. => (request matches .nextRunnerCommand ..)
  | .updateNodeRunnerResultPublicKey .. =>
      (request matches .rotateRunnerResultKey ..)
  | .issueSubscriptionToken _ => (request matches .issueSubscriptionToken _)
  | .rotateSubscriptionToken _ => (request matches .rotateSubscriptionToken _)
  | .recordSubscriptionAccess .. => (request matches .getSubscription ..)
  -- the calls that only read
  | _ => true

/-- A call outside the store, or a store call that the route may make. -/
def Request.Makes (request : Request) : Call → Prop
  | .store op => request.mayMake op = true
  | _ => True

/-- The calls of a compilation proper. -/
def compilationCall : Call → Bool
  | .store (.profile _) | .store (.node _) | .store (.credentialsForProfile _)
  | .store (.recordArtifactBlob ..) | .store (.recordDeploymentPlan _)
  | .store .auditCount | .store .outboxCount
  | .nextSequence _ | .now | .uuid => true
  | .store (.enqueueRunnerCommand _ envelope) =>
      (envelope.command.kind matches .applyDeploymentPlan ..)
  | _ => false

theorem makes_of_compilationCall
    {op : Call} (headers : Headers) (req : AppState.CompileDeploymentRequest)
    (h : compilationCall op = true) :
    (Request.compileDeployment headers req).Makes op := by
  cases op with
  | store op =>
      cases op with
      | enqueueRunnerCommand nodeId envelope =>
          simp only [compilationCall] at h
          simp only [Request.Makes, Request.mayMake]
          cases hkind : envelope.command.kind <;> rw [hkind] at h <;>
            first | rfl | cases h
      | _ => first | rfl | cases h
  | _ => trivial

namespace AppState

open Handler

variable (crates : Crates) (app : AppState)
variable {kind : Call → Prop}

/-! ## The parts that several handlers share -/

theorem calls_requireRunnerToken (headers : Headers) :
    (app.requireRunnerToken headers).Calls kind := by
  unfold requireRunnerToken
  split
  · exact calls_pure ()
  · exact calls_throw _

theorem calls_optionalHeaderValue (headers : Headers) (name : String) :
    (optionalHeaderValue headers name).Calls kind := by
  unfold optionalHeaderValue
  split
  · exact calls_pure _
  · exact calls_throw _
  · exact calls_pure _

theorem calls_ensureDefaultRegistrationToken
    (hnow : kind .now)
    (h : ∀ token, kind (.store (.createNodeRegistrationToken token))) :
    app.ensureDefaultRegistrationToken.Calls kind :=
  calls_perform_bind hnow (fun _ => calls_store (h _))

theorem calls_storeProfile
    (hnow : kind .now)
    (h : ∀ profile, kind (.store (.createProfile profile)))
    (profileId : String) (ir : ProfileIr) :
    (app.storeProfile profileId ir).Calls kind := by
  refine calls_perform_bind hnow ?_
  intro now
  exact calls_store_bind (h _) (fun _ => calls_pure _)

theorem calls_signAndEnqueue
    (hnow : kind .now) (huuid : kind .uuid)
    {nodeId : String} {command : RunnerCommandKind}
    (h : ∀ envelope, envelope.command.kind = command →
      kind (.store (.enqueueRunnerCommand nodeId envelope)))
    (sequence : UInt64) :
    (app.signAndEnqueue crates nodeId sequence command).Calls kind := by
  refine calls_perform_bind hnow ?_
  intro now
  refine calls_perform_bind huuid ?_
  intro nonce
  refine calls_orStatus_bind ?_
  intro envelope henvelope
  refine calls_store (h envelope ?_)
  rw [SignedRunnerCommand.command_of_sign (Handler.mapError_eq_ok henvelope)]

theorem calls_compileFresh (req : CompileDeploymentRequest) :
    (app.compileFresh crates req).Calls
      (fun op => compilationCall op = true) := by
  unfold compileFresh
  refine calls_store_bind rfl fun profile => ?_
  refine calls_store_bind rfl fun node => ?_
  refine calls_store_bind rfl fun credentials => ?_
  refine calls_orStatus_bind fun compiled _ => ?_
  refine calls_orStatus_bind fun bytes _ => ?_
  refine calls_perform_bind rfl fun uuid => ?_
  refine calls_perform_bind rfl fun now => ?_
  refine calls_store_bind rfl fun _ => ?_
  refine calls_perform_bind rfl fun createdAt => ?_
  refine calls_store_bind rfl fun _ => ?_
  refine calls_perform_bind rfl fun plannedAt => ?_
  refine calls_perform_bind rfl fun sequence => ?_
  refine Calls.bind ?_ fun _ => ?_
  · refine @calls_signAndEnqueue crates app
      (fun op => compilationCall op = true) rfl rfl _ _ ?_ sequence
    intro envelope henvelope
    simp [compilationCall, henvelope]
  refine calls_store_bind rfl fun auditCount => ?_
  refine calls_store_bind rfl fun outboxCount => ?_
  exact calls_pure _

theorem calls_enqueueRollbackCommand
    {request : Request}
    (h : (request matches .queueRollback _ | .advanceDeploymentRollout _) =
      true)
    (deploymentId : String) :
    (app.enqueueRollbackCommand crates deploymentId).Calls request.Makes := by
  unfold enqueueRollbackCommand
  refine calls_store_bind rfl fun pointer => ?_
  refine Calls.bind ?_ fun target => ?_
  · unfold requirePrevious
    split
    · exact calls_pure _
    · exact calls_throw _
  refine Calls.bind ?_ fun artifactId => ?_
  · unfold requirePrevious
    split
    · exact calls_pure _
    · exact calls_throw _
  refine calls_store_bind rfl fun snapshot => ?_
  refine calls_store_bind rfl fun bytes => ?_
  refine calls_perform_bind trivial fun sequence => ?_
  refine Calls.bind ?_ fun _ => calls_pure _
  refine calls_signAndEnqueue crates app trivial trivial ?_ sequence
  intro envelope henvelope
  simpa [Request.Makes, Request.mayMake, henvelope] using h

theorem calls_computeDeploymentReadiness
    (request : Request) (deploymentId : String) :
    (computeDeploymentReadiness deploymentId).Calls request.Makes := by
  refine calls_store_bind rfl fun status => ?_
  refine calls_store_bind rfl fun samples => ?_
  exact calls_pure _

/-! ## The routes -/

theorem calls_compileDeployment
    (headers : Headers) (req : CompileDeploymentRequest) :
    (app.compileDeployment crates headers req).Calls
      (Request.compileDeployment headers req).Makes := by
  have hfresh :
      (app.compileFresh crates req).Calls
        (Request.compileDeployment headers req).Makes :=
    Program.All.mono (calls_compileFresh crates app req)
      (fun _ => makes_of_compilationCall headers req)
  unfold compileDeployment
  refine (calls_optionalHeaderValue headers _).bind fun key => ?_
  cases key with
  | none => exact hfresh.bind (fun _ => calls_pure _)
  | some key =>
      refine calls_store_bind rfl fun cached => ?_
      cases cached with
      | some body => exact calls_pure _
      | none =>
          refine hfresh.bind fun response => ?_
          exact calls_store_bind rfl (fun _ => calls_pure _)

theorem calls_submitRunnerResult
    (nodeId : String) (headers : Headers)
    (signedResult : SignedDeploymentResult) :
    (app.submitRunnerResult crates nodeId headers signedResult).Calls
      (Request.submitRunnerResult nodeId headers signedResult).Makes := by
  unfold submitRunnerResult
  refine (calls_requireRunnerToken app headers).bind fun _ => ?_
  refine calls_store_bind rfl fun node => ?_
  refine calls_orStatus_bind fun verifyKey _ => ?_
  refine calls_orStatus_bind fun result _ => ?_
  refine calls_store_bind rfl fun _ => ?_
  exact calls_perform trivial

theorem calls_registerNode (req : RegisterNodeRequest) :
    (app.registerNode req).Calls (Request.registerNode req).Makes := by
  unfold registerNode
  refine (calls_ensureDefaultRegistrationToken app trivial
    (fun _ => rfl)).bind fun _ => ?_
  refine calls_perform_bind trivial fun now => ?_
  refine calls_perform_bind rfl fun answer => ?_
  split
  · exact calls_pure _
  · exact calls_throw _
  · exact calls_throw _

theorem calls_issueRegistrationToken (token : Option String) :
    (app.issueRegistrationToken token).Calls
      (Request.issueRegistrationToken token).Makes := by
  unfold issueRegistrationToken
  refine (calls_ensureDefaultRegistrationToken app trivial
    (fun _ => rfl)).bind fun _ => ?_
  -- the token is given or drawn; what follows is the same
  cases token with
  | some token =>
      refine calls_perform_bind rfl fun answer => ?_
      split
      · exact calls_throw _
      · refine calls_perform_bind trivial fun id => ?_
        refine calls_perform_bind trivial fun now => ?_
        exact calls_store_bind rfl (fun _ => calls_pure _)
      · exact calls_throw _
  | none =>
      refine calls_perform_bind trivial fun drawn => ?_
      refine calls_perform_bind rfl fun answer => ?_
      split
      · exact calls_throw _
      · refine calls_perform_bind trivial fun id => ?_
        refine calls_perform_bind trivial fun now => ?_
        exact calls_store_bind rfl (fun _ => calls_pure _)
      · exact calls_throw _

theorem calls_createClient (req : CreateClientRequest) :
    (createClient req).Calls (Request.createClient req).Makes := by
  unfold createClient
  refine calls_orStatus_bind fun credential _ => ?_
  refine calls_store_bind rfl fun _ => ?_
  cases req.quotaBytes with
  | some quotaBytes =>
      refine calls_store_bind rfl fun _ => ?_
      split
      · exact calls_store_bind rfl (fun _ => calls_pure _)
      · exact calls_pure _
  | none =>
      cases req.expiresAt with
      | some expiresAt => exact calls_store_bind rfl (fun _ => calls_pure _)
      | none => exact calls_pure _

theorem calls_runnerUsage
    (nodeId : String) (headers : Headers) (req : RunnerUsageRequest) :
    (app.runnerUsage nodeId headers req).Calls
      (Request.runnerUsage nodeId headers req).Makes := by
  unfold runnerUsage
  refine (calls_requireRunnerToken app headers).bind fun _ => ?_
  cases req.sampledAt with
  | some sampledAt => exact calls_store_bind rfl (fun _ => calls_pure _)
  | none =>
      refine calls_perform_bind trivial fun sampledAt => ?_
      exact calls_store_bind rfl (fun _ => calls_pure _)

theorem calls_recordRunnerDeploymentHealth
    (nodeId deploymentId : String) (headers : Headers) (status : String)
    (payloadJson : Json.Value) :
    (app.recordRunnerDeploymentHealth nodeId deploymentId headers status
      payloadJson).Calls
        (Request.recordRunnerDeploymentHealth nodeId deploymentId headers
          status payloadJson).Makes := by
  unfold recordRunnerDeploymentHealth
  refine (calls_requireRunnerToken app headers).bind fun _ => ?_
  split
  · exact calls_throw _
  · refine calls_perform_bind trivial fun now => ?_
    exact calls_store rfl

theorem calls_advanceDeploymentRollout (deploymentId : String) :
    (app.advanceDeploymentRollout crates deploymentId).Calls
      (Request.advanceDeploymentRollout deploymentId).Makes := by
  unfold advanceDeploymentRollout
  refine (calls_computeDeploymentReadiness _ deploymentId).bind
    fun readiness => ?_
  split
  · exact calls_pure _
  · split
    · exact (calls_enqueueRollbackCommand crates app rfl deploymentId).bind
        (fun _ => calls_pure _)
    · exact calls_pure _

theorem calls_getSubscription
    (profileId : String) (token : Option String) (headers : Headers) :
    (app.getSubscription crates profileId token headers).Calls
      (Request.getSubscription profileId token headers).Makes := by
  have hdeployed :
      Calls (Request.getSubscription profileId token headers).Makes (do
        let deployed ←
          Handler.store (.deployedProfileForSubscription profileId)
        return generateSubscriptionArtifact crates (← Handler.uuid)
          (← Handler.now) app.tenantId deployed "subscription-service") := by
    refine calls_store_bind rfl fun deployed => ?_
    refine calls_perform_bind trivial fun id => ?_
    exact calls_perform_bind trivial (fun now => calls_pure _)
  unfold getSubscription
  cases token with
  | some token =>
      refine calls_perform_bind rfl fun answer => ?_
      split
      · exact (calls_throw _).bind (fun _ => hdeployed)
      · exact calls_store_bind rfl (fun _ => hdeployed)
  | none =>
      refine calls_store_bind rfl fun required => ?_
      split
      · exact (calls_throw _).bind (fun _ => hdeployed)
      · exact hdeployed

/-- Every handler keeps to the table. -/
theorem serve_makes (request : Request) :
    (app.serve crates request).Calls request.Makes := by
  cases request with
  | compileDeployment headers req =>
      exact calls_compileDeployment crates app headers req
  | submitRunnerResult nodeId headers signedResult =>
      exact calls_submitRunnerResult crates app nodeId headers signedResult
  | registerNode req => exact calls_registerNode app req
  | issueRegistrationToken token => exact calls_issueRegistrationToken app token
  | createClient req => exact calls_createClient req
  | runnerUsage nodeId headers req =>
      exact calls_runnerUsage app nodeId headers req
  | recordRunnerDeploymentHealth nodeId deploymentId headers status payload =>
      exact calls_recordRunnerDeploymentHealth app nodeId deploymentId headers
        status payload
  | queueRollback deploymentId =>
      exact calls_enqueueRollbackCommand crates app rfl deploymentId
  | advanceDeploymentRollout deploymentId =>
      exact calls_advanceDeploymentRollout crates app deploymentId
  | getSubscription profileId token headers =>
      exact calls_getSubscription crates app profileId token headers
  | getDeploymentReadiness deploymentId =>
      exact calls_computeDeploymentReadiness _ deploymentId
  | createVlessRealityProfile profileId serverName =>
      exact calls_orStatus_bind fun _ _ =>
        calls_storeProfile app trivial (fun _ => rfl) profileId _
  | createShadowsocksProfile profileId port =>
      exact calls_storeProfile app trivial (fun _ => rfl) profileId _
  | createTrojanProfile profileId serverName port =>
      exact calls_storeProfile app trivial (fun _ => rfl) profileId _
  | listRegistrationTokens =>
      exact (calls_ensureDefaultRegistrationToken app trivial
        (fun _ => rfl)).bind (fun _ => calls_store rfl)
  | rotateRunnerResultKey nodeId publicKeyHex =>
      exact calls_orStatus_bind fun _ _ =>
        calls_store_bind rfl (fun _ => calls_pure _)
  | runnerHeartbeat nodeId headers capabilitySnapshot =>
      exact (calls_requireRunnerToken app headers).bind fun _ =>
        calls_perform_bind trivial fun _ =>
          calls_store_bind rfl (fun _ => calls_pure _)
  | nextRunnerCommand nodeId lastSequence headers =>
      exact (calls_requireRunnerToken app headers).bind
        (fun _ => calls_store rfl)
  | listProfiles =>
      refine calls_store_bind rfl fun profiles => ?_
      refine calls_mapM (fun profile => ?_) profiles
      exact calls_store_bind rfl (fun _ => calls_pure _)
  | listDeployments =>
      refine calls_store_bind rfl fun plans => ?_
      refine calls_mapM (fun plan => ?_) plans
      exact calls_store_bind rfl (fun _ => calls_pure _)
  | getNodeHeartbeat nodeId =>
      exact calls_store_bind rfl (fun _ => calls_pure _)
  | listClients => exact calls_store_bind rfl (fun _ => calls_pure _)
  | runnerResultCount => exact calls_perform trivial
  | _ => exact calls_store rfl

end AppState
end ProxyControl
