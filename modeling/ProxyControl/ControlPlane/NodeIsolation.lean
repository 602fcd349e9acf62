import ProxyControl.ControlPlane.Runs

/-!
# Node isolation

Which deployments a node's results and a node's compilations may change.

A result is recorded for whatever deployment it names, so it stays within its
node exactly when the named deployment was planned for that node.  A deployment
id is derived from the compiled bytes alone, so a compilation stays within its
node exactly when no other node has a deployment with the same bytes.
-/

namespace ProxyControl

open Calendar Effects HashTable
open AppState (runnerResultVerifyKeyForNode)

/-! ## Results -/

/-- The result is signed by the key stored for the node. -/
def VerifiedUnderNodeKey
    (crates : Crates) (app : AppState) (s : Shared)
    (nodeId : String) (signedResult : SignedDeploymentResult) : Prop :=
  ∃ node key,
    get s.store.nodes nodeId = some node ∧
      runnerResultVerifyKeyForNode crates app node = .ok key ∧
      signedResult.verify crates key nodeId = .ok signedResult.result

/-- A verified envelope yields the result it carries. -/
theorem SignedDeploymentResult.verify_eq_result
    {crates : Crates} {self : SignedDeploymentResult} {key : VerifyingKey}
    {nodeId : String} {result : DeploymentResult}
    (h : self.verify crates key nodeId = .ok result) :
    result = self.result := by
  simp only [SignedDeploymentResult.verify] at h
  split at h
  · cases h
  · split at h
    · exact (Except.ok.inj h).symm
    · cases h

/-- The request carries the runner token and a result signed by the node. -/
def Authenticated
    (crates : Crates) (app : AppState) (s : Shared)
    (nodeId : String) (headers : Headers)
    (signedResult : SignedDeploymentResult) : Prop :=
  app.runnerTokenValid headers = true ∧
    VerifiedUnderNodeKey crates app s nodeId signedResult

section Submission

variable (crates : Crates) (app : AppState) (env : ℕ → Tick) (s : Shared)
variable (nodeId : String) (headers : Headers)
variable (signedResult : SignedDeploymentResult)

theorem serveAlone_submitRunnerResult :
    app.serveAlone crates (.submitRunnerResult nodeId headers signedResult)
        env s =
      ((app.submitRunnerResult crates nodeId headers
        signedResult).runAlone crates app env s).2 := by
  rfl

/-- An authenticated result is recorded, whatever deployment it names. -/
theorem submitRunnerResult_of_authenticated
    (h : Authenticated crates app s nodeId headers signedResult) :
    (app.serveAlone crates
      (.submitRunnerResult nodeId headers signedResult) env s).store =
      (MemoryStore.recordDeploymentResult crates app.tenantId (env 1).now
        signedResult.result s.store).2 := by
  obtain ⟨htoken, node, key, hnode, hkey, hverify⟩ := h
  rw [serveAlone_submitRunnerResult, AppState.submitRunnerResult,
    Handler.runAlone_requireRunnerToken_bind, if_pos htoken,
    Handler.runAlone_store_bind]
  simp only [MemoryStore.exec, MemoryStore.node, hnode, okOr]
  rw [Handler.runAlone_orStatus_bind, hkey]
  simp only
  rw [Handler.runAlone_orStatus_bind, hverify]
  simp only [Except.mapError]
  rw [Handler.runAlone_store_bind]
  simp only [MemoryStore.exec]
  split <;> rfl

/-- Any other request leaves the store alone. -/
theorem submitRunnerResult_of_not_authenticated
    (h : ¬ Authenticated crates app s nodeId headers signedResult) :
    (app.serveAlone crates
      (.submitRunnerResult nodeId headers signedResult) env s).store =
      s.store := by
  rw [serveAlone_submitRunnerResult, AppState.submitRunnerResult,
    Handler.runAlone_requireRunnerToken_bind]
  split
  · rename_i htoken
    rw [Handler.runAlone_store_bind]
    simp only [MemoryStore.exec, MemoryStore.node]
    cases hnode : get s.store.nodes nodeId with
    | none =>
        rfl
    | some node =>
        simp only [okOr]
        rw [Handler.runAlone_orStatus_bind]
        cases hkey : runnerResultVerifyKeyForNode crates app node with
        | error message =>
            rfl
        | ok key =>
            simp only
            rw [Handler.runAlone_orStatus_bind]
            cases hverify : signedResult.verify crates key nodeId with
            | error error =>
                rfl
            | ok result =>
                have hresult := SignedDeploymentResult.verify_eq_result hverify
                exact absurd
                  ⟨htoken, node, key, hnode, hkey, hresult ▸ hverify⟩ h
  · rfl

end Submission

/-- The status, the snapshot or the health checks of a deployment differ. -/
def DeploymentChanged
    (deploymentId : String) (s s' : MemoryState) : Prop :=
  get s'.deploymentStatuses deploymentId ≠
      get s.deploymentStatuses deploymentId ∨
    get s'.deploymentSnapshots deploymentId ≠
      get s.deploymentSnapshots deploymentId ∨
    MemoryStore.healthChecksOf deploymentId s' ≠
      MemoryStore.healthChecksOf deploymentId s

/--
A result submission changes deployments of its own node only, and only for a
result signed by the key stored for the node.
-/
def ResultStaysHome
    (crates : Crates) (app : AppState) (env : ℕ → Tick) (s : Shared)
    (nodeId : String) (headers : Headers)
    (signedResult : SignedDeploymentResult) : Prop :=
  ∀ deploymentId,
    DeploymentChanged deploymentId s.store
      (app.serveAlone crates
        (.submitRunnerResult nodeId headers signedResult) env s).store →
    (∃ plan, get s.store.deployments deploymentId = some plan ∧
      plan.nodeId = nodeId) ∧
    VerifiedUnderNodeKey crates app s nodeId signedResult

/-- Recording a result changes the deployment it names and no other. -/
theorem deploymentChanged_recordDeploymentResult_iff
    (crates : Crates) (tenantId : String) (now : DateTime)
    (result : DeploymentResult) (s : MemoryState) (deploymentId : String) :
    DeploymentChanged deploymentId s
      (MemoryStore.recordDeploymentResult crates tenantId now result s).2 ↔
      deploymentId = result.deploymentId ∧
        ∃ plan, get s.deployments result.deploymentId = some plan := by
  unfold MemoryStore.recordDeploymentResult
  cases hplan : get s.deployments result.deploymentId with
  | none =>
      simp [DeploymentChanged]
  | some plan =>
      by_cases hid : deploymentId = result.deploymentId
      · subst hid
        simp only [true_and, Option.some.injEq, exists_eq', iff_true]
        -- the health check is appended even when the status repeats
        right
        right
        simp [MemoryStore.record, MemoryStore.healthChecksOf,
          List.filter_append, DeploymentHealthCheckRecord.fromResult]
      · simp [DeploymentChanged, MemoryStore.record,
          MemoryStore.healthChecksOf, List.filter_append,
          DeploymentHealthCheckRecord.fromResult, get_insert, hid,
          Ne.symm hid]

/--
A result submission stays within its node exactly when it is not
authenticated, or names no deployment, or names one planned for that node.
-/
theorem result_stays_home_iff
    (crates : Crates) (app : AppState) (env : ℕ → Tick) (s : Shared)
    (nodeId : String) (headers : Headers)
    (signedResult : SignedDeploymentResult) :
    ResultStaysHome crates app env s nodeId headers signedResult ↔
      ¬ Authenticated crates app s nodeId headers signedResult ∨
        ∀ plan ∈ get s.store.deployments signedResult.result.deploymentId,
          plan.nodeId = nodeId := by
  by_cases hauth : Authenticated crates app s nodeId headers signedResult
  · simp only [ResultStaysHome, hauth, not_true_eq_false, false_or,
      submitRunnerResult_of_authenticated crates app env s nodeId headers
        signedResult hauth,
      deploymentChanged_recordDeploymentResult_iff]
    constructor
    · intro h plan hplan
      obtain ⟨⟨plan', hplan', hnode⟩, -⟩ := h _ ⟨rfl, plan, hplan⟩
      rw [Option.mem_def, hplan'] at hplan
      rw [← Option.some.inj hplan, hnode]
    · rintro h deploymentId ⟨rfl, plan, hplan⟩
      exact ⟨⟨plan, hplan, h plan hplan⟩, hauth.2⟩
  · simp only [hauth, not_false_eq_true, true_or, iff_true]
    intro deploymentId hchanged
    rw [submitRunnerResult_of_not_authenticated crates app env s nodeId headers
      signedResult hauth] at hchanged
    simp [DeploymentChanged] at hchanged

/-! ### Two nodes and one deployment -/

/-- Two registered nodes, and one profile compiled for the first of them. -/
def twoNodes : Shared :=
  referenceApp.serveAll referenceCrates
    [ (registration "dev-registration-token" "node-a" 1,
        referenceEnv 1700000000 "a"),
      (.issueRegistrationToken (some "second-token"),
        referenceEnv 1700000100 "b"),
      (registration "second-token" "node-b" 2, referenceEnv 1700000200 "c"),
      (.createVlessRealityProfile "profile" "example.com",
        referenceEnv 1700000300 "d"),
      (.compileDeployment [] ⟨"profile", "node-a"⟩,
        referenceEnv 1700000400 "e") ]
    .new

theorem twoNodes_reachable :
    AppState.Reachable referenceCrates referenceApp twoNodes :=
  AppState.Reachable.new.serveAll _

/-- The deployment planned for the first node. -/
def firstDeployment : String :=
  (twoNodes.store.deployments.values.head?.map
    (fun plan => plan.deploymentId)).getD ""

/-- The second node reports on the first node's deployment, with its own key. -/
def foreignResult : SignedDeploymentResult :=
  let result : DeploymentResult :=
    ⟨firstDeployment, .failed, "", "", ⟨1700000500, 0⟩⟩
  match SignedDeploymentResult.sign referenceCrates "node-b" result
      (nodeKey 2) with
  | .ok signed => signed
  | .error _ => ⟨"node-b", result, ""⟩

/-- A result of the second node changes the first node's deployment. -/
theorem foreign_result_leaves_home :
    ¬ ∀ (crates : Crates) (app : AppState) (s : Shared),
      AppState.Reachable crates app s →
      ∀ (env : ℕ → Tick) (nodeId : String) (headers : Headers)
        (signedResult : SignedDeploymentResult),
        ResultStaysHome crates app env s nodeId headers signedResult := by
  intro h
  have hchanged :
      DeploymentChanged firstDeployment twoNodes.store
        (referenceApp.serveAlone referenceCrates
          (.submitRunnerResult "node-b" runnerHeaders foreignResult)
          (referenceEnv 1700000500 "f") twoNodes).store :=
    Or.inl (by decide +kernel)
  obtain ⟨plan, hplan, hnode⟩ :=
    (h referenceCrates referenceApp twoNodes twoNodes_reachable
      (referenceEnv 1700000500 "f") "node-b" runnerHeaders foreignResult
      firstDeployment hchanged).1
  have hforeign :
      ∀ plan ∈ get twoNodes.store.deployments firstDeployment,
        plan.nodeId ≠ "node-b" := by
    decide +kernel
  exact hforeign plan (Option.mem_def.mpr hplan) hnode

/-! ## Compilations -/

/-- The bytes a compilation request would deploy, if it compiles. -/
def compiledBytes
    (crates : Crates) (s : MemoryState)
    (req : AppState.CompileDeploymentRequest) : Option Bytes := do
  let profile ← get s.profiles req.profileId
  let node ← get s.nodes req.nodeId
  let compiled ← (compileProfileToXray crates profile.ir
    (AppState.compileContextFor node
      (MemoryStore.credentialsOf req.profileId s))).toOption
  (crates.toVecPretty compiled.configJson).toOption

/-- The id under which those bytes are planned. -/
def plannedDeploymentId
    (crates : Crates) (s : MemoryState)
    (req : AppState.CompileDeploymentRequest) : Option String :=
  (compiledBytes crates s req).map
    (fun bytes => AppState.deploymentIdOf (hexSha256 crates bytes))

/-- A program step that leaves the deployment tables alone. -/
def KeepsDeployments (s s' : Shared) : Prop :=
  MemoryStore.SameTables .deployments s.store s'.store

theorem KeepsDeployments.trans
    {s s' s'' : Shared}
    (h : KeepsDeployments s s') (h' : KeepsDeployments s' s'') :
    KeepsDeployments s s'' := by
  obtain ⟨h₁, h₂, h₃, h₄, h₅⟩ := h
  obtain ⟨h₁', h₂', h₃', h₄', h₅'⟩ := h'
  exact ⟨h₁'.trans h₁, h₂'.trans h₂, h₃'.trans h₃, h₄'.trans h₄,
    h₅'.trans h₅⟩

/-- A record that was found. -/
theorem okOr_eq_ok
    {α : Type} {value : Option α} {error : StoreError} {a : α}
    (h : okOr value error = .ok a) :
    value = some a := by
  cases value with
  | none => cases h
  | some b => exact congrArg some (Except.ok.inj h)

section Compilation

variable {crates : Crates} {app : AppState}

/-- A store call outside the deployment group keeps the deployment tables. -/
theorem KeepsDeployments.of_store
    {op : StoreCall} {a : op.Value} {s s' : Shared}
    (h : Handler.Yields crates app (Handler.store op) s a s')
    (hop : MemoryStore.writes .deployments op = false) :
    KeepsDeployments s s' := by
  obtain ⟨t, -, rfl⟩ := h.store
  exact MemoryStore.exec_frame crates app.tenantId hop t s.store

/-- A call outside the store keeps the store. -/
theorem KeepsDeployments.of_perform
    {op : Call} {a : op.Ret} {s s' : Shared}
    (h : Handler.Yields crates app (Handler.perform op) s a s')
    (hop : ∀ op', op ≠ .store op') :
    KeepsDeployments s s' := by
  obtain ⟨t, h⟩ := h.perform
  cases op with
  | store op' => exact absurd rfl (hop op')
  | _ =>
      obtain ⟨-, rfl⟩ := Prod.mk.inj h
      exact MemoryStore.SameTables.refl _ _

/-- Signing and queueing a command keeps the deployment tables. -/
theorem KeepsDeployments.of_signAndEnqueue
    {nodeId : String} {sequence : UInt64} {kind : RunnerCommandKind}
    {s s' : Shared}
    (h : Handler.Yields crates app
      (app.signAndEnqueue crates nodeId sequence kind) s () s') :
    KeepsDeployments s s' := by
  obtain ⟨now, s₁, h₁, h⟩ := h.bind
  obtain ⟨nonce, s₂, h₂, h⟩ := h.bind
  obtain ⟨envelope, s₃, h₃, h₄⟩ := h.bind
  obtain ⟨-, rfl⟩ := h₃.orStatus
  exact ((of_perform h₁ (by simp)).trans (of_perform h₂ (by simp))).trans
    (of_store h₄ rfl)

/--
A fresh compilation plans its bytes for the requested node, and touches the
deployment tables in no other way.
-/
theorem compileFresh_spec
    {req : AppState.CompileDeploymentRequest}
    {response : AppState.CompileDeploymentResponse} {s s' : Shared}
    (h : Handler.Yields crates app (app.compileFresh crates req) s response
      s') :
    ∃ id, plannedDeploymentId crates s.store req = some id ∧
      ∃ (plan : DeploymentPlanRecord) (t : Tick) (s₁ : Shared),
        plan.deploymentId = id ∧ plan.nodeId = req.nodeId ∧
        KeepsDeployments s s₁ ∧
        MemoryStore.SameTables .deployments
          (MemoryStore.recordDeploymentPlan app.tenantId t.now t.order plan
            s₁.store).2 s'.store := by
  obtain ⟨profile, s₁, h₁, k₁⟩ := h.bind
  obtain ⟨node, s₂, h₂, k₂⟩ := k₁.bind
  obtain ⟨credentials, s₃, h₃, k₃⟩ := k₂.bind
  -- the three look-ups leave the state as it is
  obtain ⟨t₁, hprofile, hs₁⟩ := h₁.store
  obtain rfl : s₁ = s := hs₁
  obtain ⟨t₂, hnode, hs₂⟩ := h₂.store
  obtain rfl : s₂ = s₁ := hs₂
  obtain ⟨t₃, hcredentials, hs₃⟩ := h₃.store
  obtain rfl : s₃ = s₂ := hs₃
  obtain ⟨compiled, s₄, h₄, k₄⟩ := k₃.bind
  obtain ⟨hcompiled, rfl⟩ := h₄.orStatus
  obtain ⟨bytes, s₅, h₅, k₅⟩ := k₄.bind
  obtain ⟨hbytes, rfl⟩ := h₅.orStatus
  obtain ⟨uuid, s₆, h₆, k₆⟩ := k₅.bind
  obtain ⟨now, s₇, h₇, k₇⟩ := k₆.bind
  obtain ⟨_, s₈, h₈, k₈⟩ := k₇.bind
  obtain ⟨createdAt, s₉, h₉, k₉⟩ := k₈.bind
  obtain ⟨_, s₁₀, h₁₀, k₁₀⟩ := k₉.bind
  obtain ⟨t, -, hs₁₀⟩ := h₁₀.store
  obtain ⟨plannedAt, s₁₁, h₁₁, k₁₁⟩ := k₁₀.bind
  obtain ⟨sequence, s₁₂, h₁₂, k₁₂⟩ := k₁₁.bind
  obtain ⟨_, s₁₃, h₁₃, k₁₃⟩ := k₁₂.bind
  obtain ⟨auditCount, s₁₄, h₁₄, k₁₄⟩ := k₁₃.bind
  obtain ⟨outboxCount, s₁₅, h₁₅, k₁₅⟩ := k₁₄.bind
  obtain ⟨-, rfl⟩ := k₁₅.pure
  refine ⟨AppState.deploymentIdOf (hexSha256 crates bytes), ?_,
    ⟨app.tenantId, _, req.nodeId, req.profileId, uuid, createdAt⟩,
    t, s₉, rfl, rfl, ?_, ?_⟩
  · have hprofile' := okOr_eq_ok hprofile
    have hnode' := okOr_eq_ok hnode
    have hcredentials' :
        MemoryStore.credentialsOf req.profileId s₅.store = credentials :=
      Except.ok.inj hcredentials
    simp [plannedDeploymentId, compiledBytes, hprofile', hnode',
      hcredentials', Handler.mapError_eq_ok hcompiled, hbytes,
      Except.toOption]
  · exact ((((KeepsDeployments.of_perform h₆ (by simp)).trans
      (.of_perform h₇ (by simp))).trans (.of_store h₈ rfl)).trans
      (.of_perform h₉ (by simp)))
  · have hrest :=
      ((((KeepsDeployments.of_perform h₁₁ (by simp)).trans
        (.of_perform h₁₂ (by simp))).trans (.of_signAndEnqueue h₁₃)).trans
        (.of_store h₁₄ rfl)).trans (.of_store h₁₅ rfl)
    rw [hs₁₀] at hrest
    exact hrest

end Compilation

/-- Everything the store keeps about one deployment is the same. -/
structure SameDeployment
    (deploymentId : String) (s s' : MemoryState) : Prop where
  plan : get s'.deployments deploymentId = get s.deployments deploymentId
  status : get s'.deploymentStatuses deploymentId =
    get s.deploymentStatuses deploymentId
  pointer : get s'.rollbackPointers deploymentId =
    get s.rollbackPointers deploymentId
  snapshot : get s'.deploymentSnapshots deploymentId =
    get s.deploymentSnapshots deploymentId
  health : MemoryStore.healthChecksOf deploymentId s' =
    MemoryStore.healthChecksOf deploymentId s

/-- Equal tables hold the same deployments. -/
theorem SameDeployment.of_sameTables
    {s s' : MemoryState} (h : MemoryStore.SameTables .deployments s s')
    (deploymentId : String) :
    SameDeployment deploymentId s s' := by
  obtain ⟨h₁, h₂, h₃, h₄, h₅⟩ := h
  refine ⟨?_, ?_, ?_, ?_, ?_⟩
  · rw [h₁]
  · rw [h₂]
  · rw [h₃]
  · rw [h₄]
  · rw [MemoryStore.healthChecksOf, h₅, MemoryStore.healthChecksOf]

/-- A compilation for a node leaves the deployments of other nodes alone. -/
def CompileStaysHome (nodeId : String) (s s' : MemoryState) : Prop :=
  ∀ deploymentId plan, get s.deployments deploymentId = some plan →
    plan.nodeId ≠ nodeId → SameDeployment deploymentId s s'

/-- Planning under an id stays at home when no other node holds the id. -/
theorem compileStaysHome_recordDeploymentPlan_iff
    {tenantId : String} {t : Tick} {plan : DeploymentPlanRecord}
    {s s₁ s' : MemoryState}
    (hbefore : MemoryStore.SameTables .deployments s s₁)
    (hafter : MemoryStore.SameTables .deployments
      (MemoryStore.recordDeploymentPlan tenantId t.now t.order plan s₁).2 s') :
    CompileStaysHome plan.nodeId s s' ↔
      ∀ old ∈ get s.deployments plan.deploymentId,
        old.nodeId = plan.nodeId := by
  obtain ⟨h₁, h₂, h₃, h₄, h₅⟩ := hbefore
  obtain ⟨h₁', h₂', h₃', h₄', h₅'⟩ := hafter
  simp only [MemoryStore.recordDeploymentPlan, MemoryStore.record]
    at h₁' h₂' h₃' h₄' h₅'
  constructor
  · intro h old hold
    by_contra hne
    have hsame := (h plan.deploymentId old hold hne).plan
    rw [h₁', get_insert_self, Option.mem_def.mp hold] at hsame
    exact hne (Option.some.inj hsame ▸ rfl)
  · intro h deploymentId other hother hne
    have hid : deploymentId ≠ plan.deploymentId := by
      rintro rfl
      exact hne (h other hother)
    refine ⟨?_, ?_, ?_, ?_, ?_⟩
    · rw [h₁', get_insert_of_ne _ _ hid, h₁]
    · rw [h₂', get_insert_of_ne _ _ hid, h₂]
    · rw [h₃', get_insert_of_ne _ _ hid, h₃]
    · rw [h₄', h₄]
    · rw [MemoryStore.healthChecksOf, h₅', h₅, MemoryStore.healthChecksOf]

/-- The request is answered from the idempotency cache. -/
def AnsweredFromCache (headers : Headers) (s : MemoryState) : Prop :=
  ∃ key body, headers.lookup "idempotency-key" = some (some key) ∧
    get s.idempotencyResponses key = some body

/-- The ways a compilation ends well. -/
theorem compileDeployment_cases
    {crates : Crates} {app : AppState} {headers : Headers}
    {req : AppState.CompileDeploymentRequest}
    {reply : AppState.CompileReply} {s s' : Shared}
    (h : Handler.Yields crates app
      (app.compileDeployment crates headers req) s reply s') :
    AnsweredFromCache headers s.store ∧ s' = s ∨
      ¬ AnsweredFromCache headers s.store ∧
        ∃ response s₁,
          Handler.Yields crates app (app.compileFresh crates req) s response
            s₁ ∧ KeepsDeployments s₁ s' := by
  obtain ⟨key, s₁, h₁, k₁⟩ := h.bind
  have hkey :
      s₁ = s ∧
        (headers.lookup "idempotency-key" = none ∧ key = none ∨
          ∃ k, headers.lookup "idempotency-key" = some (some k) ∧
            key = some k) := by
    unfold AppState.optionalHeaderValue at h₁
    split at h₁
    · obtain ⟨rfl, rfl⟩ := h₁.pure
      exact ⟨rfl, .inl ⟨‹_›, rfl⟩⟩
    · exact h₁.throw.elim
    · obtain ⟨rfl, rfl⟩ := h₁.pure
      exact ⟨rfl, .inr ⟨_, ‹_›, rfl⟩⟩
  obtain ⟨rfl, ⟨hheader, rfl⟩ | ⟨k, hheader, rfl⟩⟩ := hkey
  · right
    obtain ⟨response, s₂, h₂, k₂⟩ := k₁.bind
    obtain ⟨-, rfl⟩ := k₂.pure
    refine ⟨?_, response, _, h₂, MemoryStore.SameTables.refl _ _⟩
    rintro ⟨key, body, hlookup, -⟩
    rw [hheader] at hlookup
    cases hlookup
  · obtain ⟨cached, s₂, h₂, k₂⟩ := k₁.bind
    obtain ⟨t, hcached, hs₂⟩ := h₂.store
    obtain rfl : s₂ = s₁ := hs₂
    have hcached' : HashTable.get s₂.store.idempotencyResponses k = cached :=
      Except.ok.inj hcached
    cases cached with
    | some body =>
        left
        obtain ⟨-, rfl⟩ := k₂.pure
        exact ⟨⟨k, body, hheader, hcached'⟩, rfl⟩
    | none =>
        right
        obtain ⟨response, s₃, h₃, k₃⟩ := k₂.bind
        obtain ⟨_, s₄, h₄, k₄⟩ := k₃.bind
        obtain ⟨-, rfl⟩ := k₄.pure
        refine ⟨?_, response, s₃, h₃, .of_store h₄ rfl⟩
        rintro ⟨key, body, hlookup, hbody⟩
        rw [hheader] at hlookup
        obtain rfl := Option.some.inj (Option.some.inj hlookup)
        rw [hcached'] at hbody
        cases hbody

/--
A successful compilation leaves the deployments of other nodes alone exactly
when it is answered from the cache, or no other node has a deployment under the
id of the compiled bytes.
-/
theorem compile_stays_home_iff
    (crates : Crates) (app : AppState) (headers : Headers)
    (req : AppState.CompileDeploymentRequest) (env : ℕ → Tick)
    (s s' : Shared) (reply : AppState.CompileReply)
    (h : (app.compileDeployment crates headers req).runAlone crates app env s =
      (.ok reply, s')) :
    CompileStaysHome req.nodeId s.store s'.store ↔
      AnsweredFromCache headers s.store ∨
        ∀ id ∈ plannedDeploymentId crates s.store req,
          ∀ plan ∈ get s.store.deployments id, plan.nodeId = req.nodeId := by
  rcases compileDeployment_cases ⟨env, h⟩ with
    ⟨hcache, rfl⟩ | ⟨hcache, response, s₁, hfresh, hafter⟩
  · simp only [hcache, true_or, iff_true]
    intro deploymentId plan _ _
    exact .of_sameTables (MemoryStore.SameTables.refl _ _) deploymentId
  · obtain ⟨id, hid, plan, t, s₂, hplan, hnode, hbefore, hrecord⟩ :=
      compileFresh_spec hfresh
    have hrecord' := KeepsDeployments.trans
      (s := { s₁ with store := (MemoryStore.recordDeploymentPlan app.tenantId
        t.now t.order plan s₂.store).2 }) hrecord hafter
    have hiff :=
      compileStaysHome_recordDeploymentPlan_iff hbefore hrecord'
    rw [hnode, hplan] at hiff
    simp only [hcache, false_or, hid, Option.mem_some_iff, forall_eq']
    exact hiff

/-! ### One profile compiled for two nodes -/

/-- The profile of the first node's deployment, compiled for a node. -/
def compileFor (nodeId : String) :
    Except HttpError AppState.CompileReply × Shared :=
  (referenceApp.compileDeployment referenceCrates [] ⟨"profile", nodeId⟩).runAlone
    referenceCrates referenceApp (referenceEnv 1700000600 "g") twoNodes

theorem exists_reply
    {α : Type} {run : Except HttpError α × Shared}
    (h : run.1.toOption.isSome = true) :
    ∃ reply, run = (.ok reply, run.2) := by
  obtain ⟨result, s⟩ := run
  cases result with
  | ok reply => exact ⟨reply, rfl⟩
  | error e => cases h

/-- Compiling again for the first node changes no other node's deployment. -/
theorem compile_stays_home_iff_same_node :
    ∃ reply,
      compileFor "node-a" = (.ok reply, (compileFor "node-a").2) ∧
      CompileStaysHome "node-a" twoNodes.store
        (compileFor "node-a").2.store := by
  obtain ⟨reply, hrun⟩ :=
    @exists_reply _ (compileFor "node-a") (by decide +kernel)
  refine ⟨reply, hrun, ?_⟩
  refine (compile_stays_home_iff referenceCrates referenceApp []
    ⟨"profile", "node-a"⟩ (referenceEnv 1700000600 "g") twoNodes _ reply
    hrun).mpr (.inr ?_)
  decide +kernel

/--
Both nodes get the same bytes, and compiling for the second one takes the
deployment of the first.
-/
theorem second_compile_leaves_home :
    compiledBytes referenceCrates twoNodes.store ⟨"profile", "node-a"⟩ =
      compiledBytes referenceCrates twoNodes.store ⟨"profile", "node-b"⟩ ∧
    ¬ ∀ (crates : Crates) (app : AppState) (s : Shared),
      AppState.Reachable crates app s →
      ∀ (headers : Headers) (req : AppState.CompileDeploymentRequest)
        (env : ℕ → Tick) (reply : AppState.CompileReply) (s' : Shared),
        (app.compileDeployment crates headers req).runAlone crates app env s =
          (.ok reply, s') →
        CompileStaysHome req.nodeId s.store s'.store := by
  refine ⟨by decide +kernel, ?_⟩
  intro h
  obtain ⟨reply, hrun⟩ :=
    @exists_reply _ (compileFor "node-b") (by decide +kernel)
  have hhome :=
    h referenceCrates referenceApp twoNodes twoNodes_reachable [] _ _ reply _
      hrun
  have howner :
      (get twoNodes.store.deployments firstDeployment).map
        (fun plan => plan.nodeId) = some "node-a" := by
    decide +kernel
  obtain ⟨plan, hplan, hnode⟩ := Option.map_eq_some_iff.mp howner
  have hsame := (hhome firstDeployment plan hplan (by rw [hnode]; decide)).plan
  have htaken :
      get (compileFor "node-b").2.store.deployments firstDeployment ≠
        get twoNodes.store.deployments firstDeployment := by
    decide +kernel
  exact htaken hsame

end ProxyControl
