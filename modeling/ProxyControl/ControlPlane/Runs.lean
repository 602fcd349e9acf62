import ProxyControl.ControlPlane.Handlers
import ProxyControl.Lib.Threads
import ProxyControl.ReferenceCrates

/-!
# Runs of the control plane

`Request` lists the routes and `serve` their handlers.  Requests are either
served one after the other (`Reachable`), or interleaved at their calls
(`ServingRun`).

`Yields` says how a handler that runs alone ends well, and has one rule for
each way a handler is built.
-/

namespace ProxyControl

open Calendar Effects

namespace Handler

variable {α β : Type} {crates : Crates} {app : AppState}

/-! ## Running a handler step by step -/

section RunAlone

variable (env : ℕ → Tick) (s : Shared)

theorem runAlone_store_bind
    (op : StoreCall) (f : op.Value → Handler β) :
    (Handler.store op >>= f).runAlone crates app env s =
      match (MemoryStore.exec crates app.tenantId op (env 0) s.store).1 with
      | .ok a =>
          (f a).runAlone crates app (fun n => env (n + 1))
            { s with store :=
                (MemoryStore.exec crates app.tenantId op (env 0) s.store).2 }
      | .error error =>
          (.error (toHttpError error),
            { s with store :=
                (MemoryStore.exec crates app.tenantId op (env 0) s.store).2 }) := by
  change Program.run (app.answer crates)
    (ExceptT.bindCont f
      (Except.mapError toHttpError
        (MemoryStore.exec crates app.tenantId op (env 0) s.store).1))
    (fun n => env (n + 1)) _ = _
  cases (MemoryStore.exec crates app.tenantId op (env 0) s.store).1 <;> rfl

theorem runAlone_orStatus_bind
    (status : Nat) (value : Except String α) (f : α → Handler β) :
    (Handler.orStatus status value >>= f).runAlone crates app env s =
      match value with
      | .ok a => (f a).runAlone crates app env s
      | .error message => (.error ⟨status, message⟩, s) := by
  cases value <;> rfl

theorem runAlone_requireRunnerToken_bind
    (headers : Headers) (f : Unit → Handler β) :
    (app.requireRunnerToken headers >>= f).runAlone crates app env s =
      if app.runnerTokenValid headers then
        (f ()).runAlone crates app env s
      else
        (.error ⟨401, ""⟩, s) := by
  unfold AppState.requireRunnerToken
  split <;> rfl

end RunAlone

/-! ## Good ends -/

theorem mapError_eq_ok
    {ε ε' : Type} {f : ε → ε'} {value : Except ε α} {a : α}
    (h : value.mapError f = .ok a) :
    value = .ok a := by
  cases value with
  | ok v => simpa [Except.mapError] using h
  | error e => cases h

/-- Run alone from `s`, the handler may return `a` and leave `s'`. -/
def Yields
    (crates : Crates) (app : AppState)
    (handler : Handler α) (s : Shared) (a : α) (s' : Shared) : Prop :=
  ∃ env, handler.runAlone crates app env s = (.ok a, s')

theorem Yields.pure
    {a a' : α} {s s' : Shared}
    (h : Yields crates app (Pure.pure a : Handler α) s a' s') :
    a' = a ∧ s' = s := by
  obtain ⟨env, h⟩ := h
  obtain ⟨ha, hs⟩ := Prod.mk.inj h
  exact ⟨(Except.ok.inj ha).symm, hs.symm⟩

theorem Yields.throw
    {error : HttpError} {a : α} {s s' : Shared}
    (h : Yields crates app (MonadExcept.throw error : Handler α) s a s') :
    False := by
  obtain ⟨env, h⟩ := h
  cases (Prod.mk.inj h).1

theorem Yields.perform
    {op : Call} {a : op.Ret} {s s' : Shared}
    (h : Yields crates app (Handler.perform op) s a s') :
    ∃ t, app.answer crates op t s = (a, s') := by
  obtain ⟨env, h⟩ := h
  obtain ⟨ha, hs⟩ := Prod.mk.inj h
  exact ⟨env 0, Prod.ext (Except.ok.inj ha) hs⟩

theorem Yields.store
    {op : StoreCall} {a : op.Value} {s s' : Shared}
    (h : Yields crates app (Handler.store op) s a s') :
    ∃ t,
      (MemoryStore.exec crates app.tenantId op t s.store).1 = .ok a ∧
      s' = { s with
        store := (MemoryStore.exec crates app.tenantId op t s.store).2 } := by
  obtain ⟨env, h⟩ := h
  obtain ⟨ha, hs⟩ := Prod.mk.inj h
  exact ⟨env 0, mapError_eq_ok ha, hs.symm⟩

theorem Yields.orStatus
    {status : Nat} {value : Except String α} {a : α} {s s' : Shared}
    (h : Yields crates app (Handler.orStatus status value) s a s') :
    value = .ok a ∧ s' = s := by
  obtain ⟨env, h⟩ := h
  obtain ⟨ha, hs⟩ := Prod.mk.inj h
  exact ⟨mapError_eq_ok ha, hs.symm⟩

/-- A composition ends well through a good end of its first part. -/
theorem Yields.bind
    {m : Handler α} {f : α → Handler β} {b : β} {s s'' : Shared}
    (h : Yields crates app (m >>= f) s b s'') :
    ∃ a s', Yields crates app m s a s' ∧ Yields crates app (f a) s' b s'' := by
  obtain ⟨env, h⟩ := h
  suffices hrun :
      ∀ (p : Program Call Call.Ret (Except HttpError α)) (env : ℕ → Tick)
        (s : Shared),
        Program.run (app.answer crates)
          (p >>= ExceptT.bindCont f) env s = (.ok b, s'') →
        ∃ a s',
          (∃ env', Program.run (app.answer crates) p env' s = (.ok a, s')) ∧
          Yields crates app (f a) s' b s'' by
    exact hrun m env s h
  intro p
  induction p with
  | done r =>
      intro env s h
      cases r with
      | ok a => exact ⟨a, s, ⟨env, rfl⟩, env, h⟩
      | error e => cases (Prod.mk.inj h).1
  | call op next ih =>
      intro env s h
      obtain ⟨a, s', ⟨env', ha⟩, hf⟩ := ih _ (fun n => env (n + 1)) _ h
      refine ⟨a, s', ⟨fun n => (Nat.casesOn n (env 0) env' : Tick), ?_⟩, hf⟩
      exact ha

end Handler

/-! ## Requests -/

inductive Request : Type
  | listNodes
  | listRegistrationTokens
  | issueRegistrationToken (token : Option String)
  | registerNode (req : AppState.RegisterNodeRequest)
  | rotateRunnerResultKey (nodeId publicKeyHex : String)
  | getNodeHeartbeat (nodeId : String)
  | getLatestUsage (nodeId : String)
  | getLatestUsageRollup (credentialId : String) (bucket : Option String)
  | getArtifactBytes (artifactId : String)
  | listProfiles
  | createVlessRealityProfile (profileId serverName : String)
  | createShadowsocksProfile (profileId : String) (port : Option UInt16)
  | createTrojanProfile (profileId serverName : String) (port : Option UInt16)
  | listClients
  | createClient (req : AppState.CreateClientRequest)
  | getClientQuota (clientId : String)
  | getClientExpiry (clientId : String)
  | listDeployments
  | compileDeployment
      (headers : Headers) (req : AppState.CompileDeploymentRequest)
  | getDeployment (deploymentId : String)
  | queueRollback (deploymentId : String)
  | getRollbackPointer (deploymentId : String)
  | getDeploymentSnapshot (deploymentId : String)
  | getDeploymentHealth (deploymentId : String)
  | getDeploymentReadiness (deploymentId : String)
  | advanceDeploymentRollout (deploymentId : String)
  | runnerHeartbeat
      (nodeId : String) (headers : Headers) (capabilitySnapshot : Json.Value)
  | runnerUsage
      (nodeId : String) (headers : Headers) (req : AppState.RunnerUsageRequest)
  | recordRunnerDeploymentHealth
      (nodeId deploymentId : String) (headers : Headers)
      (status : String) (payloadJson : Json.Value)
  | nextRunnerCommand
      (nodeId : String) (lastSequence : Option UInt64) (headers : Headers)
  | submitRunnerResult
      (nodeId : String) (headers : Headers)
      (signedResult : SignedDeploymentResult)
  | runnerResultCount
  | issueSubscriptionToken (profileId : String)
  | rotateSubscriptionToken (profileId : String)
  | getSubscription
      (profileId : String) (token : Option String) (headers : Headers)

/-- The body of a successful response. -/
abbrev Request.Reply : Request → Type
  | listNodes => List NodeRecord
  | listRegistrationTokens => List NodeRegistrationTokenRecord
  | issueRegistrationToken _ => NodeRegistrationTokenRecord
  | registerNode _ => AppState.RegisterNodeResponse
  | rotateRunnerResultKey .. => AppState.RotateRunnerResultKeyResponse
  | getNodeHeartbeat _ => AppState.NodeHeartbeatResponse
  | getLatestUsage _ => UsageSampleRecord
  | getLatestUsageRollup .. => UsageRollupRecord
  | getArtifactBytes _ => Bytes
  | listProfiles => List AppState.ProfileInventoryItem
  | createVlessRealityProfile .. => AppState.CreateProfileResponse
  | createShadowsocksProfile .. => AppState.CreateProfileResponse
  | createTrojanProfile .. => AppState.CreateProfileResponse
  | listClients => List AppState.ClientInventoryItem
  | createClient _ => AppState.CreateClientResponse
  | getClientQuota _ => CredentialQuotaDecision
  | getClientExpiry _ => CredentialExpiryDecision
  | listDeployments => List AppState.DeploymentInventoryItem
  | compileDeployment .. => AppState.CompileReply
  | getDeployment _ => DeploymentStatus
  | queueRollback _ => AppState.RollbackQueuedResponse
  | getRollbackPointer _ => RollbackPointerRecord
  | getDeploymentSnapshot _ => DeploymentSnapshotRecord
  | getDeploymentHealth _ => DeploymentHealthCheckRecord
  | getDeploymentReadiness _ => AppState.DeploymentReadinessResponse
  | advanceDeploymentRollout _ => AppState.DeploymentAdvanceResponse
  | runnerHeartbeat .. => AppState.RunnerAccepted
  | runnerUsage .. => AppState.RunnerAccepted
  | recordRunnerDeploymentHealth .. => Unit
  | nextRunnerCommand .. => Option SignedRunnerCommand
  | submitRunnerResult .. => Unit
  | runnerResultCount => Nat
  | issueSubscriptionToken _ => IssuedSubscriptionToken
  | rotateSubscriptionToken _ => IssuedSubscriptionToken
  | getSubscription .. => SubscriptionArtifact

/-- The calls that were served, oldest first, with their answers. -/
abbrev Trace : Type :=
  List (Pool.Served Call Call.Ret)

namespace AppState

/-- The router. -/
def serve (crates : Crates) (app : AppState) :
    (request : Request) → Handler request.Reply
  | .listNodes => listNodes
  | .listRegistrationTokens => app.listRegistrationTokens
  | .issueRegistrationToken token => app.issueRegistrationToken token
  | .registerNode req => app.registerNode req
  | .rotateRunnerResultKey nodeId publicKeyHex =>
      rotateRunnerResultKey crates nodeId publicKeyHex
  | .getNodeHeartbeat nodeId => getNodeHeartbeat nodeId
  | .getLatestUsage nodeId => getLatestUsage nodeId
  | .getLatestUsageRollup credentialId bucket =>
      getLatestUsageRollup credentialId bucket
  | .getArtifactBytes artifactId => getArtifactBytes artifactId
  | .listProfiles => listProfiles
  | .createVlessRealityProfile profileId serverName =>
      app.createVlessRealityProfile profileId serverName
  | .createShadowsocksProfile profileId port =>
      app.createShadowsocksProfile profileId port
  | .createTrojanProfile profileId serverName port =>
      app.createTrojanProfile profileId serverName port
  | .listClients => listClients
  | .createClient req => createClient req
  | .getClientQuota clientId => getClientQuota clientId
  | .getClientExpiry clientId => getClientExpiry clientId
  | .listDeployments => listDeployments
  | .compileDeployment headers req => app.compileDeployment crates headers req
  | .getDeployment deploymentId => getDeployment deploymentId
  | .queueRollback deploymentId =>
      app.enqueueRollbackCommand crates deploymentId
  | .getRollbackPointer deploymentId => getRollbackPointer deploymentId
  | .getDeploymentSnapshot deploymentId => getDeploymentSnapshot deploymentId
  | .getDeploymentHealth deploymentId => getDeploymentHealth deploymentId
  | .getDeploymentReadiness deploymentId =>
      computeDeploymentReadiness deploymentId
  | .advanceDeploymentRollout deploymentId =>
      app.advanceDeploymentRollout crates deploymentId
  | .runnerHeartbeat nodeId headers capabilitySnapshot =>
      app.runnerHeartbeat nodeId headers capabilitySnapshot
  | .runnerUsage nodeId headers req => app.runnerUsage nodeId headers req
  | .recordRunnerDeploymentHealth nodeId deploymentId headers status payload =>
      app.recordRunnerDeploymentHealth nodeId deploymentId headers status payload
  | .nextRunnerCommand nodeId lastSequence headers =>
      app.nextRunnerCommand nodeId lastSequence headers
  | .submitRunnerResult nodeId headers signedResult =>
      app.submitRunnerResult crates nodeId headers signedResult
  | .runnerResultCount => runnerResultCount
  | .issueSubscriptionToken profileId => issueSubscriptionToken profileId
  | .rotateSubscriptionToken profileId => rotateSubscriptionToken profileId
  | .getSubscription profileId token headers =>
      app.getSubscription crates profileId token headers

variable (crates : Crates) (app : AppState)

/-- The state after one request that is served alone. -/
def serveAlone (request : Request) (env : ℕ → Tick) (s : Shared) : Shared :=
  ((app.serve crates request).runAlone crates app env s).2

/-- The states of a process that serves one request after the other. -/
inductive Reachable : Shared → Prop
  | new : Reachable .new
  | request {s : Shared} (h : Reachable s)
      (request : Request) (env : ℕ → Tick) :
      Reachable (app.serveAlone crates request env s)

/-- A sequence of requests, each with what the environment supplies to it. -/
def serveAll (requests : List (Request × (ℕ → Tick))) (s : Shared) : Shared :=
  requests.foldl (fun s r => app.serveAlone crates r.1 r.2 s) s

theorem Reachable.serveAll
    {crates : Crates} {app : AppState} {s : Shared}
    (h : Reachable crates app s)
    (requests : List (Request × (ℕ → Tick))) :
    Reachable crates app (app.serveAll crates requests s) := by
  induction requests generalizing s with
  | nil =>
      exact h
  | cons r requests ih =>
      exact ih (h.request r.1 r.2)

end AppState

/-- A request with the calls it has made. -/
abbrev Serving : Type :=
  Session Call Call.Ret
    (fun request : Request => Except HttpError request.Reply) Tick Shared

/-- The interleaved runs of requests in a fresh process. -/
abbrev ServingRun (crates : Crates) (app : AppState) :
    Shared → List Serving → Prop :=
  Session.Run (app.answer crates)
    (fun request : Request => (app.serve crates request).run) Shared.new

/-! ## A reference process -/

def referenceApp : AppState :=
  .withStoreAndRunnerToken referenceCrates "dev-registration-token"
    "dev-runner-token" "tenant"

/-- The result key of a node: 32 times the same byte. -/
def nodeKey (byte : UInt8) : SigningKey :=
  ⟨List.replicate 32 byte⟩

def registration (token nodeId : String) (byte : UInt8) : Request :=
  .registerNode {
    registrationToken := token
    nodeId := nodeId
    xrayVersion := "1.8.0"
    runnerResultPublicKeyHex := some (Hex.encode (nodeKey byte).seed) }

def runnerHeaders : Headers :=
  [("x-runner-token", some "dev-runner-token")]

/-- Requests whose calls are made in the order of a schedule. -/
def serving (requests : List Request) (schedule : List ℕ) :
    Shared × List Serving :=
  Session.scheduled (referenceApp.answer referenceCrates)
    (fun request : Request => (referenceApp.serve referenceCrates request).run)
    Shared.new requests
    (schedule.zipIdx.map (fun next => (next.1, referenceEnv 0 "u" next.2)))

theorem serving_run (requests : List Request) (schedule : List ℕ) :
    ServingRun referenceCrates referenceApp (serving requests schedule).1
      (serving requests schedule).2 :=
  Session.run_scheduled _ _

end ProxyControl
