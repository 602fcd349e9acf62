import ProxyControl.ControlPlane.History
import ProxyControl.ControlPlane.NodeIsolation

/-!
# Results that are submitted again

Nothing in a signed result says which submission it is, and the store keeps no
trace of the envelopes it has accepted.  A second submission is therefore
recorded like a first one, and it changes nothing exactly when it is refused.
-/

namespace ProxyControl

open Calendar Effects HashTable
open AppState (readinessOf DeploymentReadinessResponse)

/-! ## Readiness as a function of the store -/

def MemoryStore.readiness (deploymentId : String) (s : MemoryState) :
    StoreResult DeploymentReadinessResponse := do
  let status ← deploymentStatus deploymentId s
  let samples ← deploymentHealthChecks deploymentId s
  return readinessOf deploymentId status samples

variable {crates : Crates} {app : AppState}

/-- A readiness request that is served alone reads one state. -/
theorem computeDeploymentReadiness_runAlone
    (deploymentId : String) (env : ℕ → Tick) (s : Shared) :
    (AppState.computeDeploymentReadiness deploymentId).runAlone crates app env
        s =
      ((MemoryStore.readiness deploymentId s.store).mapError toHttpError,
        s) := by
  unfold AppState.computeDeploymentReadiness MemoryStore.readiness
  rw [Handler.runAlone_store_bind]
  simp only [MemoryStore.exec]
  cases MemoryStore.deploymentStatus deploymentId s.store with
  | error error => rfl
  | ok status =>
      simp only
      rw [Handler.runAlone_store_bind]
      simp only [MemoryStore.exec]
      cases MemoryStore.deploymentHealthChecks deploymentId s.store <;> rfl

/-! ## Later states -/

/-- The states that any calls, of any requests, lead to. -/
def Later (crates : Crates) (app : AppState) : Shared → Shared → Prop :=
  Relation.ReflTransGen
    (fun s s' => ∃ op t, s' = (app.answer crates op t s).2)

theorem Later.run
    {α : Type} (p : Program Call Call.Ret α) (env : ℕ → Tick) (s : Shared) :
    Later crates app s (p.run (app.answer crates) env s).2 := by
  induction p generalizing env s with
  | done a => exact .refl
  | call op next ih =>
      exact Relation.ReflTransGen.head ⟨op, env 0, rfl⟩ (ih _ _ _)

theorem Later.serveAll
    (requests : List (Request × (ℕ → Tick))) (s : Shared) :
    Later crates app s (app.serveAll crates requests s) := by
  induction requests generalizing s with
  | nil => exact .refl
  | cons r requests ih => exact (Later.run _ _ _).trans (ih _)

/-- A deployment once planned stays planned. -/
theorem planned_exec
    {op : StoreCall} {deploymentId : String} {s : MemoryState}
    (tenantId : String) (t : Tick)
    (h : (get s.deployments deploymentId).isSome) :
    (get (MemoryStore.exec crates tenantId op t s).2.deployments
      deploymentId).isSome := by
  by_cases hwrites : MemoryStore.writes .deployments op = true
  · cases op with
    | recordDeploymentPlan deployment =>
        simp only [MemoryStore.exec, MemoryStore.recordDeploymentPlan,
          MemoryStore.record, get_insert]
        split
        · rfl
        · exact h
    | recordDeploymentResult result =>
        simp only [MemoryStore.exec, MemoryStore.recordDeploymentResult]
        split <;> exact h
    | recordDeploymentHealthCheck health =>
        simp only [MemoryStore.exec, MemoryStore.recordDeploymentHealthCheck]
        split
        · exact h
        · split <;> exact h
    | _ => cases hwrites
  · have hframe :=
      MemoryStore.exec_frame crates tenantId (Bool.not_eq_true _ ▸ hwrites) t s
    rw [hframe.1]
    exact h

theorem Later.planned
    {s s' : Shared} (h : Later crates app s s') {deploymentId : String}
    (hplan : (get s.store.deployments deploymentId).isSome) :
    (get s'.store.deployments deploymentId).isSome := by
  induction h with
  | refl => exact hplan
  | tail _ hstep ih =>
      obtain ⟨op, t, rfl⟩ := hstep
      cases op with
      | store op => exact planned_exec app.tenantId t ih
      | nextSequence | pushRunnerResult | runnerResultCount | now | uuid =>
          exact ih

/-- An accepted result names a planned deployment. -/
theorem planned_of_accepted
    {nodeId : String} {headers : Headers}
    {signedResult : SignedDeploymentResult} {env : ℕ → Tick} {s : Shared}
    (h : ((app.submitRunnerResult crates nodeId headers
      signedResult).runAlone crates app env s).1 = .ok ()) :
    (get s.store.deployments signedResult.result.deploymentId).isSome := by
  have hyields :
      Handler.Yields crates app
        (app.submitRunnerResult crates nodeId headers signedResult) s ()
        ((app.submitRunnerResult crates nodeId headers signedResult).runAlone
          crates app env s).2 :=
    ⟨env, Prod.ext h rfl⟩
  obtain ⟨_, s₁, h₁, k₁⟩ := hyields.bind
  have hs₁ : s₁ = s := by
    unfold AppState.requireRunnerToken at h₁
    split at h₁
    · exact h₁.pure.2
    · exact h₁.throw.elim
  subst hs₁
  obtain ⟨node, s₂, h₂, k₂⟩ := k₁.bind
  obtain ⟨t₂, -, hs₂⟩ := h₂.store
  obtain rfl : s₂ = s₁ := hs₂
  obtain ⟨key, s₃, h₃, k₃⟩ := k₂.bind
  obtain ⟨-, rfl⟩ := h₃.orStatus
  obtain ⟨result, s₄, h₄, k₄⟩ := k₃.bind
  obtain ⟨hverify, rfl⟩ := h₄.orStatus
  obtain rfl := SignedDeploymentResult.verify_eq_result
    (Handler.mapError_eq_ok hverify)
  obtain ⟨_, s₅, h₅, -⟩ := k₄.bind
  obtain ⟨t₅, hrecord, -⟩ := h₅.store
  simp only [MemoryStore.exec, MemoryStore.recordDeploymentResult] at hrecord
  split at hrecord
  · cases hrecord
  · rename_i plan hplan
    rw [hplan]
    rfl

/-! ## The second submission -/

/-- A snapshot without the time at which it was stored. -/
def undated (snapshot : DeploymentSnapshotRecord) : DeploymentSnapshotRecord :=
  { snapshot with createdAt := ⟨0, 0⟩ }

/-- Nothing that the control plane keeps or says about a deployment differs. -/
structure Unchanged (deploymentId : String) (s s' : MemoryState) : Prop where
  status : get s'.deploymentStatuses deploymentId =
    get s.deploymentStatuses deploymentId
  snapshot : (get s'.deploymentSnapshots deploymentId).map undated =
    (get s.deploymentSnapshots deploymentId).map undated
  health : MemoryStore.healthChecksOf deploymentId s' =
    MemoryStore.healthChecksOf deploymentId s
  readiness : MemoryStore.readiness deploymentId s' =
    MemoryStore.readiness deploymentId s

/--
A result that was accepted once changes nothing when it is submitted again, at
any later point, exactly when the second submission is not authenticated.
-/
theorem resubmission_changes_nothing_iff
    (crates : Crates) (app : AppState)
    {s₀ s : Shared} {nodeId₀ : String} {headers₀ : Headers}
    {signedResult : SignedDeploymentResult} {env₀ : ℕ → Tick}
    (haccepted : ((app.submitRunnerResult crates nodeId₀ headers₀
      signedResult).runAlone crates app env₀ s₀).1 = .ok ())
    (hlater : Later crates app
      (app.serveAlone crates
        (.submitRunnerResult nodeId₀ headers₀ signedResult) env₀ s₀) s)
    (nodeId : String) (headers : Headers) (env : ℕ → Tick) :
    Unchanged signedResult.result.deploymentId s.store
        (app.serveAlone crates
          (.submitRunnerResult nodeId headers signedResult) env s).store ↔
      ¬ Authenticated crates app s nodeId headers signedResult := by
  constructor
  · intro h hauth
    have hplan := Later.planned ((Later.run _ env₀ s₀).trans hlater)
      (planned_of_accepted haccepted)
    obtain ⟨plan, hplan⟩ := Option.isSome_iff_exists.mp hplan
    have hhealth := h.health
    rw [submitRunnerResult_of_authenticated crates app env s nodeId headers
      signedResult hauth] at hhealth
    -- the submission adds a health check of its own
    simp [MemoryStore.recordDeploymentResult, hplan, MemoryStore.record,
      MemoryStore.healthChecksOf, List.filter_append,
      DeploymentHealthCheckRecord.fromResult] at hhealth
  · intro hauth
    rw [submitRunnerResult_of_not_authenticated crates app env s nodeId headers
      signedResult hauth]
    exact ⟨rfl, rfl, rfl, rfl⟩

/-! ### A success that outlives a rollback -/

/-- A report of the first node on a deployment. -/
def resultOn
    (deploymentId : String) (status : DeploymentStatus) :
    SignedDeploymentResult :=
  let result : DeploymentResult :=
    ⟨deploymentId, status, "", "", ⟨1700000500, 0⟩⟩
  match SignedDeploymentResult.sign referenceCrates "node-a" result
      (nodeKey 1) with
  | .ok signed => signed
  | .error _ => ⟨"node-a", result, ""⟩

/-- A report of the first node on its deployment. -/
def ownResult (status : DeploymentStatus) : SignedDeploymentResult :=
  resultOn firstDeployment status

/-- The two-node process after the first node has reported a success. -/
def afterSuccess : Shared :=
  referenceApp.serveAlone referenceCrates
    (.submitRunnerResult "node-a" runnerHeaders (ownResult .succeeded))
    (referenceEnv 1700000500 "f") twoNodes

theorem success_accepted :
    ((referenceApp.submitRunnerResult referenceCrates "node-a" runnerHeaders
      (ownResult .succeeded)).runAlone referenceCrates referenceApp
        (referenceEnv 1700000500 "f") twoNodes).1 = .ok () := by
  decide +kernel

/-- A rollback is reported after that, and then the key is rotated. -/
def afterRotation : Shared :=
  referenceApp.serveAll referenceCrates
    [ (.submitRunnerResult "node-a" runnerHeaders (ownResult .rolledBack),
        referenceEnv 1700000600 "g"),
      (.rotateRunnerResultKey "node-a" (Hex.encode (nodeKey 3).seed),
        referenceEnv 1700000700 "h") ]
    afterSuccess

/-- Whether the envelope verifies under the key stored for the node. -/
def envelopeVerifies
    (nodeId : String) (signedResult : SignedDeploymentResult) (s : Shared) :
    Bool :=
  (get s.store.nodes nodeId).any fun node =>
    (AppState.runnerResultVerifyKeyForNode referenceCrates referenceApp
      node).toOption.any fun key =>
        (signedResult.verify referenceCrates key nodeId).isOk

theorem VerifiedUnderNodeKey.verifies
    {s : Shared} {nodeId : String} {signedResult : SignedDeploymentResult}
    (h : VerifiedUnderNodeKey referenceCrates referenceApp s nodeId
      signedResult) :
    envelopeVerifies nodeId signedResult s = true := by
  obtain ⟨node, key, hnode, hkey, hverify⟩ := h
  simp [envelopeVerifies, hnode, hkey, hverify, Except.toOption, Except.isOk,
    Except.toBool]

/-- After the rotation the old envelope changes nothing, token or not. -/
theorem resubmission_changes_nothing_iff_rotated :
    Unchanged (ownResult .succeeded).result.deploymentId afterRotation.store
      (referenceApp.serveAlone referenceCrates
        (.submitRunnerResult "node-a" runnerHeaders (ownResult .succeeded))
        (referenceEnv 1700000800 "i") afterRotation).store := by
  refine (resubmission_changes_nothing_iff referenceCrates referenceApp
    success_accepted (Later.serveAll _ _) "node-a" runnerHeaders _).mpr ?_
  rintro ⟨-, hverified⟩
  have hrefused :
      envelopeVerifies "node-a" (ownResult .succeeded) afterRotation = false := by
    decide +kernel
  have haccepted :
      envelopeVerifies "node-a" (ownResult .succeeded) afterRotation = true :=
    hverified.verifies
  rw [hrefused] at haccepted
  cases haccepted

/-- The same success after a rollback has been reported. -/
theorem old_success_overwrites_rollback :
    ¬ ∀ (crates : Crates) (app : AppState) (s₀ s : Shared),
      AppState.Reachable crates app s₀ →
      ∀ (nodeId : String) (headers₀ : Headers)
        (signedResult : SignedDeploymentResult) (env₀ : ℕ → Tick),
        ((app.submitRunnerResult crates nodeId headers₀
          signedResult).runAlone crates app env₀ s₀).1 = .ok () →
        Later crates app
          (app.serveAlone crates
            (.submitRunnerResult nodeId headers₀ signedResult) env₀ s₀) s →
        ∀ (headers : Headers) (env : ℕ → Tick),
          Unchanged signedResult.result.deploymentId s.store
            (app.serveAlone crates
              (.submitRunnerResult nodeId headers signedResult) env
              s).store := by
  intro h
  have hstatus :=
    (h referenceCrates referenceApp twoNodes
      (referenceApp.serveAll referenceCrates
        [(.submitRunnerResult "node-a" runnerHeaders (ownResult .rolledBack),
          referenceEnv 1700000600 "g")] afterSuccess)
      twoNodes_reachable "node-a" runnerHeaders (ownResult .succeeded)
      (referenceEnv 1700000500 "f") success_accepted (Later.serveAll _ _)
      runnerHeaders (referenceEnv 1700000700 "h")).status
  revert hstatus
  decide +kernel

end ProxyControl
