import ProxyControl.ControlPlane.History
import ProxyControl.ControlPlane.NodeIsolation

/-!
# One compilation, call by call

`CompileFreshRun` lists the ways in which `compileFresh` ends when it runs
alone, with the calls that it has made and the state that it leaves:

* `refused`: nothing but the three look-ups has happened;
* `unsigned`: the artifact and the plan are recorded, but no command is queued;
* `queued`: the command is queued, and the response describes it.
-/

namespace ProxyControl

open Calendar Effects
open AppState (deploymentIdOf CompileDeploymentRequest
  CompileDeploymentResponse)

/-- A configuration made for a request in an environment. -/
structure Compilation where
  req : CompileDeploymentRequest
  configJson : Json.Value
  bytes : Bytes
  coreVersion : String
  env : ℕ → Tick
  before : Shared

namespace Compilation

variable (crates : Crates) (app : AppState) (c : Compilation)

def artifact : Artifact :=
  .fromBytes crates ((c.env 3).uuid 0) (c.env 4).now app.tenantId
    .compiledXrayConfig "application/json" c.bytes "admin"

def deploymentId : String :=
  deploymentIdOf (hexSha256 crates c.bytes)

def record : DeploymentPlanRecord :=
  ⟨app.tenantId, c.deploymentId crates, c.req.nodeId, c.req.profileId,
    (c.env 3).uuid 0, (c.env 6).now⟩

def plan : DeploymentPlan where
  targetNodeId := c.req.nodeId
  targetProfileVersionId := c.req.profileId
  compiledConfigArtifactId := (c.env 3).uuid 0
  coreKind := "xray"
  coreVersion := c.coreVersion
  assetsVersion := "dev"
  rollbackPointerId := "rollback-" ++ hexSha256 crates c.bytes
  createdBy := "admin"
  createdAt := (c.env 8).now

/-! ### The states on the way -/

def stored : Shared :=
  { c.before with
    store := (MemoryStore.recordArtifactBlob crates app.tenantId (c.env 5).now
      (c.artifact crates app) c.bytes c.before.store).2 }

def planned : Shared :=
  { c.before with
    store := (MemoryStore.recordDeploymentPlan app.tenantId (c.env 7).now
      (c.env 7).order (c.record crates app) (c.stored crates app).store).2 }

def sequence : UInt64 :=
  (AppState.nextSequence c.req.nodeId c.before).1

def numbered : Shared :=
  { c.planned crates app with
    nodeSequences := c.before.nodeSequences.insert c.req.nodeId c.sequence }

def command : RunnerCommand :=
  ⟨app.tenantId, c.req.nodeId, c.sequence, (c.env 11).uuid 0,
    (c.env 10).now.addSeconds 60,
    .applyDeploymentPlan (c.deploymentId crates) (hexSha256 crates c.bytes)
      c.configJson none⟩

def enqueued (envelope : SignedRunnerCommand) : Shared :=
  { c.numbered crates app with
    store := (MemoryStore.enqueueRunnerCommand c.req.nodeId envelope
      (c.planned crates app).store).2 }

/-! ### The calls -/

/-- From the look-ups to the draw of the nonce. -/
def calls : Log :=
  [ ⟨.store (.profile c.req.profileId), c.env 0, c.before⟩,
    ⟨.store (.node c.req.nodeId), c.env 1, c.before⟩,
    ⟨.store (.credentialsForProfile c.req.profileId), c.env 2, c.before⟩,
    ⟨.uuid, c.env 3, c.before⟩,
    ⟨.now, c.env 4, c.before⟩,
    ⟨.store (.recordArtifactBlob (c.artifact crates app) c.bytes), c.env 5,
      c.before⟩,
    ⟨.now, c.env 6, c.stored crates app⟩,
    ⟨.store (.recordDeploymentPlan (c.record crates app)), c.env 7,
      c.stored crates app⟩,
    ⟨.now, c.env 8, c.planned crates app⟩,
    ⟨.nextSequence c.req.nodeId, c.env 9, c.planned crates app⟩,
    ⟨.now, c.env 10, c.numbered crates app⟩,
    ⟨.uuid, c.env 11, c.numbered crates app⟩ ]

/-- The command is queued, and the events are counted. -/
def lastCalls (envelope : SignedRunnerCommand) : Log :=
  [ ⟨.store (.enqueueRunnerCommand c.req.nodeId envelope), c.env 12,
      c.numbered crates app⟩,
    ⟨.store .auditCount, c.env 13, c.enqueued crates app envelope⟩,
    ⟨.store .outboxCount, c.env 14, c.enqueued crates app envelope⟩ ]

def response (envelope : SignedRunnerCommand) :
    CompileDeploymentResponse where
  status := "compiled"
  artifact := c.artifact crates app
  deploymentPlan := c.plan crates
  auditCount := (c.enqueued crates app envelope).store.auditEvents.length
  outboxCount := (c.enqueued crates app envelope).store.outbox.length

end Compilation

/-- A call that only looks up what a compilation needs. -/
def IsLookup (req : CompileDeploymentRequest) (op : Call) : Prop :=
  op = .store (.profile req.profileId) ∨ op = .store (.node req.nodeId) ∨
    op = .store (.credentialsForProfile req.profileId)

/-- The ways in which a compilation ends: its result, calls and final state. -/
inductive CompileFreshRun
    (crates : Crates) (app : AppState) (req : CompileDeploymentRequest)
    (env : ℕ → Tick) (s : Shared) :
    Except HttpError CompileDeploymentResponse → Log → Shared → Prop
  | refused
      {error : HttpError} {lookups : Log}
      (hlookups : ∀ e ∈ lookups, IsLookup req e.op) :
      CompileFreshRun crates app req env s (.error error) lookups s
  | unsigned
      {error : HttpError} {configJson : Json.Value} {bytes : Bytes}
      {coreVersion : String}
      (hbytes : crates.toVecPretty configJson = .ok bytes)
      (hplanned : compiledBytes crates s.store req = some bytes)
      (c : Compilation)
      (hc : c = ⟨req, configJson, bytes, coreVersion, env, s⟩) :
      CompileFreshRun crates app req env s (.error error)
        (c.calls crates app) (c.numbered crates app)
  | queued
      {configJson : Json.Value} {bytes : Bytes} {coreVersion : String}
      {envelope : SignedRunnerCommand}
      (hbytes : crates.toVecPretty configJson = .ok bytes)
      (hplanned : compiledBytes crates s.store req = some bytes)
      (c : Compilation)
      (hc : c = ⟨req, configJson, bytes, coreVersion, env, s⟩)
      (hsign : SignedRunnerCommand.sign crates (c.command crates app)
        app.signingKey = .ok envelope) :
      CompileFreshRun crates app req env s (.ok (c.response crates app envelope))
        (c.calls crates app ++ c.lastCalls crates app envelope)
        (c.enqueued crates app envelope)

variable {crates : Crates} {app : AppState}

theorem recordArtifactBlob_own
    (c : Compilation) (tenantId : String) (now : DateTime) :
    (MemoryStore.recordArtifactBlob crates tenantId now (c.artifact crates app)
      c.bytes c.before.store).1 = .ok () := by
  simp [MemoryStore.recordArtifactBlob, Compilation.artifact,
    Artifact.fromBytes]

/-- Storing the artifact is an insertion into two tables. -/
theorem Compilation.stored_store (c : Compilation) :
    (c.stored crates app).store =
      MemoryStore.record app.tenantId "control-plane" "artifact.created"
        "artifact" ((c.env 3).uuid 0) (c.env 5).now
        { c.before.store with
          artifactBlobsBySha256 := c.before.store.artifactBlobsBySha256.insert
            (hexSha256 crates c.bytes) c.bytes
          artifacts := c.before.store.artifacts.insert ((c.env 3).uuid 0)
            (c.artifact crates app) } := by
  simp [Compilation.stored, MemoryStore.recordArtifactBlob,
    Compilation.artifact, Artifact.fromBytes]

/-- The part of `compileFresh` that follows the configuration. -/
def Compilation.planAndQueue
    (crates : Crates) (app : AppState) (c : Compilation) :
    Handler CompileDeploymentResponse := do
  let artifact := Artifact.fromBytes crates (← Handler.uuid) (← Handler.now)
    app.tenantId .compiledXrayConfig "application/json" c.bytes "admin"
  Handler.store (.recordArtifactBlob artifact c.bytes)
  let deploymentId := deploymentIdOf artifact.sha256
  Handler.store (.recordDeploymentPlan
    ⟨app.tenantId, deploymentId, c.req.nodeId, c.req.profileId, artifact.id,
      ← Handler.now⟩)
  let deploymentPlan : DeploymentPlan := {
    targetNodeId := c.req.nodeId
    targetProfileVersionId := c.req.profileId
    compiledConfigArtifactId := artifact.id
    coreKind := "xray"
    coreVersion := c.coreVersion
    assetsVersion := "dev"
    rollbackPointerId := "rollback-" ++ artifact.sha256
    createdBy := "admin"
    createdAt := ← Handler.now }
  let sequence ← Handler.nextSequence c.req.nodeId
  AppState.signAndEnqueue crates app c.req.nodeId sequence
    (.applyDeploymentPlan deploymentId artifact.sha256 c.configJson none)
  return {
    status := "compiled"
    artifact := artifact
    deploymentPlan := deploymentPlan
    auditCount := ← Handler.store .auditCount
    outboxCount := ← Handler.store .outboxCount }

/-- From the configuration on, only the signature can fail. -/
theorem planAndQueue_run
    (c : Compilation) (log : Log) :
    (c.planAndQueue crates app).runLogged crates app
        (fun n => c.env (n + 3)) log c.before =
      match SignedRunnerCommand.sign crates (c.command crates app)
          app.signingKey with
      | .error error =>
          (.error ⟨500, error.message⟩,
            (log ++ (c.calls crates app).drop 3, c.numbered crates app))
      | .ok envelope =>
          (.ok (c.response crates app envelope),
            (log ++ ((c.calls crates app).drop 3 ++
              c.lastCalls crates app envelope),
              c.enqueued crates app envelope)) := by
  have hblob :
      MemoryStore.exec crates app.tenantId
          (.recordArtifactBlob (c.artifact crates app) c.bytes) (c.env 5)
          c.before.store =
        (.ok (), (c.stored crates app).store) :=
    Prod.ext (recordArtifactBlob_own c app.tenantId (c.env 5).now) rfl
  refine (Handler.runLogged_perform_bind _ log c.before .uuid _).trans ?_
  refine (Handler.runLogged_perform_bind _ _ c.before .now _).trans ?_
  refine (Handler.runLogged_store_bind_ok (fun n => c.env (n + 5)) _ c.before
    hblob _).trans ?_
  refine (Handler.runLogged_perform_bind _ _ (c.stored crates app) .now
    _).trans ?_
  refine (Handler.runLogged_store_bind _ _ (c.stored crates app) _ _).trans ?_
  refine (Handler.runLogged_perform_bind _ _ (c.planned crates app) .now
    _).trans ?_
  refine (Handler.runLogged_perform_bind _ _ (c.planned crates app)
    (.nextSequence c.req.nodeId) _).trans ?_
  rw [AppState.signAndEnqueue, bind_assoc]
  refine (Handler.runLogged_perform_bind _ _ (c.numbered crates app) .now
    _).trans ?_
  rw [bind_assoc]
  refine (Handler.runLogged_perform_bind _ _ (c.numbered crates app) .uuid
    _).trans ?_
  rw [bind_assoc]
  refine (Handler.runLogged_orStatus_bind _ _ (c.numbered crates app) 500
    ((SignedRunnerCommand.sign crates (c.command crates app)
      app.signingKey).mapError DomainError.message) _).trans ?_
  cases SignedRunnerCommand.sign crates (c.command crates app)
      app.signingKey with
  | error error =>
      have hcalls :
          (c.calls crates app).drop 3 = [_] ++ [_] ++ [_] ++ [_] ++ [_] ++
            [_] ++ [_] ++ [_] ++ [_] :=
        rfl
      simp only [hcalls, Except.mapError, ← List.append_assoc]
      rfl
  | ok envelope =>
      simp only [Except.mapError]
      refine (Handler.runLogged_store_bind _ _ (c.numbered crates app) _
        _).trans ?_
      refine (Handler.runLogged_store_bind _ _ (c.enqueued crates app envelope)
        _ _).trans ?_
      refine (Handler.runLogged_store_bind _ _ (c.enqueued crates app envelope)
        _ _).trans ?_
      have hcalls :
          (c.calls crates app).drop 3 ++ c.lastCalls crates app envelope =
            [_] ++ [_] ++ [_] ++ [_] ++ [_] ++ [_] ++ [_] ++ [_] ++ [_] ++
              [_] ++ [_] ++ [_] :=
        rfl
      simp only [hcalls, ← List.append_assoc]
      rfl

/-- Before the configuration, nothing is changed. -/
theorem compileFresh_run
    (req : CompileDeploymentRequest) (env : ℕ → Tick) (s : Shared) :
    (app.compileFresh crates req).RunsAs crates app
      (CompileFreshRun crates app req env s) env s := by
  refine @Handler.runsAs_of_runLogged _ _ _ _ _ env [] s ?_
  generalize ([] : Log) = log
  unfold AppState.compileFresh
  rw [Handler.runLogged_store_bind]
  simp only [MemoryStore.exec, MemoryStore.profile]
  cases hprofile : HashTable.get s.store.profiles req.profileId with
  | none =>
      exact ⟨_, rfl, .refused (by simp [IsLookup])⟩
  | some profile =>
  simp only [okOr]
  rw [Handler.runLogged_store_bind]
  simp only [MemoryStore.exec, MemoryStore.node]
  cases hnode : HashTable.get s.store.nodes req.nodeId with
  | none =>
      refine ⟨_, by simp only [okOr, List.append_assoc]; rfl,
        .refused (by simp [IsLookup])⟩
  | some node =>
  simp only [okOr]
  rw [Handler.runLogged_store_bind]
  simp only [MemoryStore.exec, MemoryStore.credentialsForProfile]
  rw [Handler.runLogged_orStatus_bind]
  cases hcompiled : compileProfileToXray crates profile.ir
      (AppState.compileContextFor node
        (MemoryStore.credentialsOf req.profileId s.store)) with
  | error error =>
      refine ⟨_, by simp only [Except.mapError, List.append_assoc]; rfl,
        .refused (by simp [IsLookup])⟩
  | ok compiled =>
  simp only [Except.mapError]
  rw [Handler.runLogged_orStatus_bind]
  cases hbytes : crates.toVecPretty compiled.configJson with
  | error message =>
      refine ⟨_, by simp only [List.append_assoc]; rfl,
        .refused (by simp [IsLookup])⟩
  | ok bytes =>
  have hplanned : compiledBytes crates s.store req = some bytes := by
    simp [compiledBytes, hprofile, hnode, hcompiled, hbytes, Except.toOption]
  let c : Compilation :=
    ⟨req, compiled.configJson, bytes, node.xrayVersion, env, s⟩
  have hlog :
      log ++ (c.calls crates app).take 3 =
        log ++ [⟨.store (.profile req.profileId), env 0, s⟩] ++
          [⟨.store (.node req.nodeId), env 1, s⟩] ++
          [⟨.store (.credentialsForProfile req.profileId), env 2, s⟩] := by
    simp only [List.append_assoc]
    rfl
  suffices hrest :
      ∃ calls,
        ((c.planAndQueue crates app).runLogged crates app
            (fun n => c.env (n + 3)) (log ++ (c.calls crates app).take 3)
            c.before).2.1 = log ++ calls ∧
        CompileFreshRun crates app req env s
          ((c.planAndQueue crates app).runLogged crates app
            (fun n => c.env (n + 3)) (log ++ (c.calls crates app).take 3)
            c.before).1 calls
          ((c.planAndQueue crates app).runLogged crates app
            (fun n => c.env (n + 3)) (log ++ (c.calls crates app).take 3)
            c.before).2.2 by
    rw [hlog] at hrest
    exact hrest
  rw [planAndQueue_run]
  cases hsign : SignedRunnerCommand.sign crates (c.command crates app)
      app.signingKey with
  | error error =>
      refine ⟨c.calls crates app, ?_, .unsigned hbytes hplanned c rfl⟩
      simp only [List.append_assoc, List.take_append_drop]
  | ok envelope =>
      refine ⟨c.calls crates app ++ c.lastCalls crates app envelope, ?_,
        .queued hbytes hplanned c rfl hsign⟩
      simp only
      rw [List.append_assoc, ← List.append_assoc ((c.calls crates app).take 3),
        List.take_append_drop]

/-! ## The idempotency key -/

theorem exec_recordIdempotencyResponse
    (tenantId tenant key : String) (body : Json.Value) (t : Tick)
    (s : MemoryState) :
    (MemoryStore.exec crates tenantId
      (.recordIdempotencyResponse tenant key body) t s).1 = .ok () := by
  simp only [MemoryStore.exec, MemoryStore.recordIdempotencyResponse]
  split <;> rfl

/-- The look-up of a key in the cache of responses. -/
def cacheLookup
    (app : AppState) (key : String) (t : Tick) (s : Shared) : LogEntry :=
  ⟨.store (.idempotencyResponse app.tenantId key), t, s⟩

/-- The ways in which a compilation request ends. -/
inductive CompileRun
    (crates : Crates) (app : AppState)
    (headers : Headers) (req : CompileDeploymentRequest)
    (env : ℕ → Tick) (s : Shared) :
    Except HttpError AppState.CompileReply → Log → Shared → Prop
  | unreadable
      {error : HttpError}
      (hkey : headers.lookup "idempotency-key" = some none) :
      CompileRun crates app headers req env s (.error error) [] s
  | keyless
      {r : Except HttpError CompileDeploymentResponse}
      {calls : Log} {s' : Shared}
      (hkey : headers.lookup "idempotency-key" = none)
      (h : CompileFreshRun crates app req env s r calls s') :
      CompileRun crates app headers req env s (r.map .compiled) calls s'
  | replayed
      {key : String} {body : Json.Value}
      (hkey : headers.lookup "idempotency-key" = some (some key))
      (hcached : HashTable.get s.store.idempotencyResponses key = some body) :
      CompileRun crates app headers req env s (.ok (.cached body))
        [cacheLookup app key (env 0) s] s
  | failed
      {key : String} {error : HttpError} {calls : Log} {s' : Shared}
      (hkey : headers.lookup "idempotency-key" = some (some key))
      (hcached : HashTable.get s.store.idempotencyResponses key = none)
      (h : CompileFreshRun crates app req (fun n => env (n + 1)) s
        (.error error) calls s') :
      CompileRun crates app headers req env s (.error error)
        (cacheLookup app key (env 0) s :: calls) s'
  | cached
      {key : String} {response : CompileDeploymentResponse}
      {calls : Log} {s' : Shared} {t : Tick}
      (hkey : headers.lookup "idempotency-key" = some (some key))
      (hcached : HashTable.get s.store.idempotencyResponses key = none)
      (h : CompileFreshRun crates app req (fun n => env (n + 1)) s
        (.ok response) calls s') :
      CompileRun crates app headers req env s (.ok (.compiled response))
        (cacheLookup app key (env 0) s :: calls ++
          [⟨.store (.recordIdempotencyResponse app.tenantId key
            (response.toValue crates)), t, s'⟩])
        { s' with
          store := (MemoryStore.recordIdempotencyResponse key
            (response.toValue crates) s'.store).2 }

theorem compileDeployment_run
    (headers : Headers) (req : CompileDeploymentRequest)
    (env : ℕ → Tick) (s : Shared) :
    (app.compileDeployment crates headers req).RunsAs crates app
      (CompileRun crates app headers req env s) env s := by
  unfold AppState.compileDeployment AppState.optionalHeaderValue
  cases hkey : headers.lookup "idempotency-key" with
  | none =>
      refine (compileFresh_run req env s).bind ?_ ?_
      · intro response calls s' env' hrun
        refine Handler.runsAs_pure ?_
        rw [List.append_nil]
        exact .keyless hkey hrun
      · intro error calls s' hrun
        exact .keyless hkey hrun
  | some value =>
  cases value with
  | none => exact CompileRun.unreadable hkey
  | some key =>
      refine Handler.runsAs_store_bind ?_ ?_
      · intro cached hcached
        have hcached' := Except.ok.inj hcached
        cases cached with
        | some body => exact CompileRun.replayed hkey hcached'
        | none =>
            refine (compileFresh_run req (fun n => env (n + 1)) s).bind ?_ ?_
            · intro response calls s' env' hrun
              refine Handler.runsAs_store_bind ?_ ?_
              · intro _ _
                exact Handler.runsAs_pure
                  (.cached hkey hcached' hrun (t := env' 0))
              · intro error herror
                rw [exec_recordIdempotencyResponse] at herror
                cases herror
            · intro error calls s' hrun
              exact .failed hkey hcached' hrun
      · intro error herror
        cases herror

/-! ## What a compilation request records -/

/-- A call that writes nothing about deployments and artifacts. -/
def IsQuiet (op : Call) : Prop :=
  ∀ call, op = .store call →
    MemoryStore.writes .deployments call = false ∧
      MemoryStore.writes .artifacts call = false

/-- The deployments and the artifacts are those of another state. -/
def SameRecords (s s' : Shared) : Prop :=
  MemoryStore.SameTables .deployments s.store s'.store ∧
    MemoryStore.SameTables .artifacts s.store s'.store

/-- The calls and the state of a compilation request, as far as recorded. -/
inductive CompileRecords
    (crates : Crates) (app : AppState) (req : CompileDeploymentRequest)
    (s : Shared) : Log → Shared → Prop
  | nothing
      {calls : Log} {s' : Shared}
      (hcalls : ∀ e ∈ calls, IsQuiet e.op) (hs' : SameRecords s s') :
      CompileRecords crates app req s calls s'
  | plan
      (c : Compilation) (before after : Log) {s' : Shared}
      (hreq : c.req = req) (hs : c.before = s)
      (hbytes : crates.toVecPretty c.configJson = .ok c.bytes)
      (hbefore : ∀ e ∈ before, IsQuiet e.op)
      (hafter : ∀ e ∈ after, IsQuiet e.op)
      (hs' : SameRecords (c.planned crates app) s') :
      CompileRecords crates app req s
        (before ++ c.calls crates app ++ after) s'

theorem IsLookup.isQuiet
    {req : CompileDeploymentRequest} {op : Call} (h : IsLookup req op) :
    IsQuiet op := by
  rintro call rfl
  rcases h with h | h | h <;> cases h <;> exact ⟨rfl, rfl⟩

theorem SameRecords.refl (s : Shared) : SameRecords s s :=
  ⟨MemoryStore.SameTables.refl _ _, MemoryStore.SameTables.refl _ _⟩

theorem SameRecords.trans
    {s s' s'' : Shared} (h : SameRecords s s') (h' : SameRecords s' s'') :
    SameRecords s s'' :=
  ⟨MemoryStore.SameTables.trans h.1 h'.1,
    MemoryStore.SameTables.trans h.2 h'.2⟩

/-- Quiet calls around a request record nothing more. -/
theorem CompileRecords.extend
    {req : CompileDeploymentRequest} {s s' s'' : Shared} {calls : Log}
    (h : CompileRecords crates app req s calls s')
    {before after : Log}
    (hbefore : ∀ e ∈ before, IsQuiet e.op)
    (hafter : ∀ e ∈ after, IsQuiet e.op)
    (hs'' : SameRecords s' s'') :
    CompileRecords crates app req s (before ++ calls ++ after) s'' := by
  cases h with
  | nothing hcalls hs' =>
      refine .nothing ?_ (hs'.trans hs'')
      intro e he
      simp only [List.mem_append] at he
      rcases he with (he | he) | he
      · exact hbefore e he
      · exact hcalls e he
      · exact hafter e he
  | plan c before' after' hreq hs hbytes hbefore' hafter' hs' =>
      have hcalls :
          before ++ (before' ++ c.calls crates app ++ after') ++ after =
            (before ++ before') ++ c.calls crates app ++ (after' ++ after) := by
        simp only [List.append_assoc]
      rw [hcalls]
      refine .plan c _ _ hreq hs hbytes ?_ ?_ (hs'.trans hs'')
      · intro e he
        exact (List.mem_append.mp he).elim (hbefore e) (hbefore' e)
      · intro e he
        exact (List.mem_append.mp he).elim (hafter' e) (hafter e)

theorem CompileFreshRun.records
    {req : CompileDeploymentRequest} {env : ℕ → Tick} {s s' : Shared}
    {r : Except HttpError CompileDeploymentResponse} {calls : Log}
    (h : CompileFreshRun crates app req env s r calls s') :
    CompileRecords crates app req s calls s' := by
  cases h with
  | refused hlookups =>
      exact .nothing (fun e he => (hlookups e he).isQuiet) (.refl _)
  | unsigned hbytes hplanned c hc =>
      have hrecords : CompileRecords crates app req s
          ([] ++ c.calls crates app ++ []) (c.numbered crates app) := by
        refine .plan c [] [] (by rw [hc]) (by rw [hc]) (by rw [hc]; exact hbytes)
          ?_ ?_ (.refl _)
        all_goals
          intro e he
          cases he
      simpa using hrecords
  | queued hbytes hplanned c hc hsign =>
      rename_i envelope
      have hrecords : CompileRecords crates app req s
          ([] ++ c.calls crates app ++ c.lastCalls crates app envelope)
          (c.enqueued crates app envelope) := by
        refine .plan c [] _ (by rw [hc]) (by rw [hc]) (by rw [hc]; exact hbytes)
          ?_ ?_ (.refl _)
        · intro e he
          cases he
        · intro e he
          simp only [Compilation.lastCalls, List.mem_cons, List.not_mem_nil,
            or_false] at he
          rcases he with rfl | rfl | rfl
          all_goals
            rintro call hcall
            cases hcall
            exact ⟨rfl, rfl⟩
      simpa using hrecords

theorem cacheLookup_isQuiet (key : String) (t : Tick) (s : Shared) :
    ∀ e ∈ [cacheLookup app key t s], IsQuiet e.op := by
  intro e he
  obtain rfl := List.mem_singleton.mp he
  rintro call hcall
  cases hcall
  exact ⟨rfl, rfl⟩

/-- What one compilation request records. -/
theorem CompileRun.records
    {headers : Headers} {req : CompileDeploymentRequest} {env : ℕ → Tick}
    {s s' : Shared} {r : Except HttpError AppState.CompileReply}
    {calls : Log}
    (h : CompileRun crates app headers req env s r calls s') :
    CompileRecords crates app req s calls s' := by
  have hnil : ∀ e ∈ ([] : Log), IsQuiet e.op := by
    intro e he
    cases he
  cases h with
  | unreadable => exact .nothing hnil (.refl _)
  | keyless hkey h => exact h.records
  | replayed => exact .nothing (cacheLookup_isQuiet _ _ _) (.refl _)
  | @failed key error calls s' hkey hcached h =>
      have hrecords := h.records.extend
        (@cacheLookup_isQuiet app key (env 0) s) hnil (.refl _)
      simpa using hrecords
  | @cached key response calls s' t hkey hcached h =>
      have hsame : SameRecords s'
          { s' with
            store := (MemoryStore.recordIdempotencyResponse key
              (response.toValue crates) s'.store).2 } :=
        ⟨@MemoryStore.exec_frame crates app.tenantId .deployments
            (.recordIdempotencyResponse app.tenantId key
              (response.toValue crates)) rfl t s'.store,
          @MemoryStore.exec_frame crates app.tenantId .artifacts
            (.recordIdempotencyResponse app.tenantId key
              (response.toValue crates)) rfl t s'.store⟩
      refine h.records.extend (cacheLookup_isQuiet _ (env 0) s) ?_ hsame
      intro e he
      obtain rfl := List.mem_singleton.mp he
      rintro call hcall
      cases hcall
      exact ⟨rfl, rfl⟩

end ProxyControl
