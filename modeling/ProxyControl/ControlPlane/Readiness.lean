import Mathlib.Data.List.DropRight
import ProxyControl.ControlPlane.ResultReplay

/-!
# Readiness and the current rollout

A deployment is ready when its last result is a success, its latest health
check is healthy, and enough healthy checks are recorded for it.  A new plan
resets the status but not the health checks, so checks of an earlier rollout
are counted too, unless there are none when the plan is recorded.

The log of a history is cut at the last plan of a deployment; `Tracks` says
which parts of the store the two halves account for, and `Dated` that the
health checks stand in the order of their dates while the clock does not go
back.
-/

namespace ProxyControl

open Calendar Effects HashTable
open AppState (readinessOf requiredHealthyDeploymentSamples
  DeploymentReadinessResponse)

/-! ## What a log says about one deployment -/

/-- The call records a plan of the deployment. -/
def plans (deploymentId : String) (e : LogEntry) : Bool :=
  match e.op with
  | .store (.recordDeploymentPlan deployment) =>
      deployment.deploymentId = deploymentId
  | _ => false

/-- The status that the call records for the deployment, as a result. -/
def resultOf (deploymentId : String) (e : LogEntry) :
    Option DeploymentStatus :=
  match e.op with
  | .store (.recordDeploymentResult result) =>
      if result.deploymentId = deploymentId then
        (get e.before.store.deployments deploymentId).map
          (fun _ => result.status)
      else
        none
  | _ => none

/-- The health check that the call records for the deployment. -/
def healthOf (crates : Crates) (deploymentId : String) (e : LogEntry) :
    Option DeploymentHealthCheckRecord :=
  match e.op with
  | .store (.recordDeploymentResult result) =>
      if result.deploymentId = deploymentId then
        (get e.before.store.deployments deploymentId).map
          (fun plan => .fromResult crates plan result e.choice.now)
      else
        none
  | .store (.recordDeploymentHealthCheck health) =>
      if health.deploymentId = deploymentId ∧
          ((get e.before.store.deployments deploymentId).any
            (fun plan => plan.nodeId = health.nodeId)) = true then
        some health
      else
        none
  | _ => none

/-- The calls after the most recent plan of the deployment. -/
def sincePlan (deploymentId : String) (log : Log) : Log :=
  log.rtakeWhile (fun e => !plans deploymentId e)

def isHealthy (health : DeploymentHealthCheckRecord) : Bool :=
  health.status = "healthy"

/-- Counting only what happened since its last plan, a deployment is ready. -/
structure ReadySincePlan
    (crates : Crates) (deploymentId : String) (log : Log) : Prop where
  planned : ∃ e ∈ log, plans deploymentId e = true
  result : ((sincePlan deploymentId log).filterMap
    (resultOf deploymentId)).getLast? = some .succeeded
  samples : requiredHealthyDeploymentSamples ≤
    ((sincePlan deploymentId log).filterMap
      (healthOf crates deploymentId)).countP isHealthy
  latest : (((sincePlan deploymentId log).filterMap
    (healthOf crates deploymentId)).getLast?).any isHealthy = true

/-- The clock readings of a log do not go back. -/
def ClockNonDecreasing (log : Log) : Prop :=
  (log.map (fun e => e.choice.now)).Pairwise (· ≤ ·)

/-- Each plan of the deployment is recorded before any healthy check of it. -/
def PlannedBeforeHealthy (deploymentId : String) (log : Log) : Prop :=
  ∀ e ∈ log, plans deploymentId e = true →
    ∀ health ∈ MemoryStore.healthChecksOf deploymentId e.before.store,
      isHealthy health = false

/-! ## The store follows the log -/

variable {crates : Crates} {app : AppState}

/-- What the store keeps about a deployment, as the log tells it. -/
structure Tracks
    (crates : Crates) (deploymentId : String) (log : Log) (s : Shared) :
    Prop where
  planned : (get s.store.deployments deploymentId).isSome →
    ∃ e ∈ log, plans deploymentId e = true
  status : ∀ status ∈ get s.store.deploymentStatuses deploymentId,
    (∃ e ∈ log, plans deploymentId e = true) ∧
      (((sincePlan deploymentId log).filterMap
        (resultOf deploymentId)).getLast?).getD .pending = status
  health : MemoryStore.healthChecksOf deploymentId s.store =
    log.filterMap (healthOf crates deploymentId)
  count : PlannedBeforeHealthy deploymentId log →
    (log.filterMap (healthOf crates deploymentId)).countP isHealthy =
      ((sincePlan deploymentId log).filterMap
        (healthOf crates deploymentId)).countP isHealthy

theorem Tracks.new (deploymentId : String) :
    Tracks crates deploymentId [] .new := by
  refine ⟨?_, ?_, rfl, fun _ => rfl⟩
  · intro h
    cases h
  · intro status h
    cases h

theorem sincePlan_suffix (deploymentId : String) (log : Log) :
    sincePlan deploymentId log <:+ log :=
  List.rtakeWhile_suffix _ _

theorem sincePlan_append
    {deploymentId : String} {e : LogEntry} (log : Log)
    (h : plans deploymentId e = false) :
    sincePlan deploymentId (log ++ [e]) =
      sincePlan deploymentId log ++ [e] :=
  List.rtakeWhile_concat_pos _ _ _ (by simp [h])

theorem sincePlan_append_plan
    {deploymentId : String} {e : LogEntry} (log : Log)
    (h : plans deploymentId e = true) :
    sincePlan deploymentId (log ++ [e]) = [] :=
  List.rtakeWhile_concat_neg _ _ _ (by simp [h])

theorem PlannedBeforeHealthy.of_append
    {deploymentId : String} {log log' : Log}
    (h : PlannedBeforeHealthy deploymentId (log ++ log')) :
    PlannedBeforeHealthy deploymentId log :=
  fun e he => h e (List.mem_append_left _ he)

/-- A call other than a plan adds its health check to both counts. -/
theorem Tracks.append
    {deploymentId : String} {log : Log} {e : LogEntry} {s s' : Shared}
    (h : Tracks crates deploymentId log s)
    (hplans : plans deploymentId e = false)
    (hdeployments : (get s'.store.deployments deploymentId).isSome =
      (get s.store.deployments deploymentId).isSome)
    (hstatus : get s'.store.deploymentStatuses deploymentId =
      (resultOf deploymentId e).or
        (get s.store.deploymentStatuses deploymentId))
    (hresult : (resultOf deploymentId e).isSome →
      (get s.store.deployments deploymentId).isSome)
    (hhealth : MemoryStore.healthChecksOf deploymentId s'.store =
      MemoryStore.healthChecksOf deploymentId s.store ++
        (healthOf crates deploymentId e).toList) :
    Tracks crates deploymentId (log ++ [e]) s' := by
  have hfilter : ∀ {β : Type} (f : LogEntry → Option β) (l : Log),
      (l ++ [e]).filterMap f = l.filterMap f ++ (f e).toList := by
    intro β f l
    rw [List.filterMap_append]
    cases hf : f e <;> simp [hf]
  have hmono : (∃ e' ∈ log, plans deploymentId e' = true) →
      ∃ e' ∈ log ++ [e], plans deploymentId e' = true := by
    rintro ⟨e', he', hplan⟩
    exact ⟨e', List.mem_append_left _ he', hplan⟩
  refine ⟨?_, ?_, ?_, ?_⟩
  · intro hplan
    rw [hdeployments] at hplan
    exact hmono (h.planned hplan)
  · intro status hmem
    rw [hstatus] at hmem
    rw [sincePlan_append log hplans, hfilter]
    cases hr : resultOf deploymentId e with
    | none =>
        rw [hr, Option.none_or] at hmem
        obtain ⟨hplanned, hlast⟩ := h.status status hmem
        exact ⟨hmono hplanned, by simpa using hlast⟩
    | some st =>
        rw [hr, Option.some_or, Option.mem_def, Option.some_inj] at hmem
        refine ⟨hmono (h.planned (hresult (by rw [hr]; rfl))), ?_⟩
        simp [hmem]
  · rw [hhealth, h.health, hfilter]
  · intro hbefore
    rw [sincePlan_append log hplans, hfilter, hfilter, List.countP_append,
      List.countP_append, h.count hbefore.of_append]

/-- A call that says nothing about the deployment. -/
theorem Tracks.silent
    {deploymentId : String} {log : Log} {e : LogEntry} {s s' : Shared}
    (h : Tracks crates deploymentId log s)
    (hplans : plans deploymentId e = false)
    (hresult : resultOf deploymentId e = none)
    (hhealth : healthOf crates deploymentId e = none)
    (hsame : SameDeployment deploymentId s.store s'.store) :
    Tracks crates deploymentId (log ++ [e]) s' := by
  refine h.append hplans (by rw [hsame.plan]) ?_ ?_ ?_
  · rw [hresult, hsame.status, Option.none_or]
  · rw [hresult]
    intro hnone
    cases hnone
  · rw [hhealth, hsame.health]
    exact (List.append_nil _).symm

/-- A plan resets the status and starts both counts again. -/
theorem Tracks.plan
    {deploymentId : String} {log : Log} {s : Shared}
    (h : Tracks crates deploymentId log s)
    (tenantId : String) (t : Tick) (deployment : DeploymentPlanRecord)
    (hid : deployment.deploymentId = deploymentId) :
    Tracks crates deploymentId
      (log ++ [⟨.store (.recordDeploymentPlan deployment), t, s⟩])
      { s with store := (MemoryStore.recordDeploymentPlan tenantId t.now t.order
        deployment s.store).2 } := by
  have hplans :
      plans deploymentId ⟨.store (.recordDeploymentPlan deployment), t, s⟩ =
        true := by
    simp [plans, hid]
  have hplanned :
      ∃ e ∈ log ++
          [(⟨.store (.recordDeploymentPlan deployment), t, s⟩ : LogEntry)],
        plans deploymentId e = true :=
    ⟨_, List.mem_append_right _ (List.mem_singleton_self _), hplans⟩
  have hfilter :
      (log ++ [(⟨.store (.recordDeploymentPlan deployment), t, s⟩ :
          LogEntry)]).filterMap (healthOf crates deploymentId) =
        log.filterMap (healthOf crates deploymentId) := by
    rw [List.filterMap_append]
    exact List.append_nil _
  refine ⟨fun _ => hplanned, ?_, ?_, ?_⟩
  · intro status hstatus
    refine ⟨hplanned, ?_⟩
    rw [sincePlan_append_plan log hplans]
    simpa [MemoryStore.recordDeploymentPlan, MemoryStore.record, hid]
      using hstatus
  · rw [hfilter, ← h.health]
    rfl
  · intro hbefore
    rw [sincePlan_append_plan log hplans, hfilter, ← h.health]
    have hnone := hbefore _
      (List.mem_append_right _ (List.mem_singleton_self _)) hplans
    rw [List.filterMap_nil, List.countP_nil, List.countP_eq_zero]
    intro health hmem
    simp [hnone health hmem]

/-- A result of a planned deployment sets its status and adds a check. -/
theorem Tracks.result
    {deploymentId : String} {log : Log} {s : Shared}
    (h : Tracks crates deploymentId log s)
    (tenantId : String) (t : Tick) (result : DeploymentResult) :
    Tracks crates deploymentId
      (log ++ [⟨.store (.recordDeploymentResult result), t, s⟩])
      { s with store := (MemoryStore.recordDeploymentResult crates tenantId
        t.now result s.store).2 } := by
  unfold MemoryStore.recordDeploymentResult
  cases hplan : get s.store.deployments result.deploymentId with
  | none =>
      have hnone : result.deploymentId = deploymentId →
          get s.store.deployments deploymentId = none := by
        rintro rfl
        exact hplan
      refine h.silent rfl ?_ ?_
        (.of_sameTables (MemoryStore.SameTables.refl _ _) deploymentId)
      · simp only [resultOf]
        split_ifs with hid
        · rw [hnone hid, Option.map_none]
        · rfl
      · simp only [healthOf]
        split_ifs with hid
        · rw [hnone hid, Option.map_none]
        · rfl
  | some deployment =>
      by_cases hid : result.deploymentId = deploymentId
      · subst hid
        refine h.append rfl rfl ?_ ?_ ?_
        · simp [resultOf, hplan, MemoryStore.record]
        · intro _
          rw [hplan]
          rfl
        · simp [healthOf, hplan, MemoryStore.record,
            MemoryStore.healthChecksOf, DeploymentHealthCheckRecord.fromResult]
      · refine h.silent rfl (by simp [resultOf, hid]) (by simp [healthOf, hid])
          ?_
        have hne := Ne.symm hid
        constructor <;>
          simp [MemoryStore.record, MemoryStore.healthChecksOf,
            get_insert_of_ne _ _ hne, hid,
            DeploymentHealthCheckRecord.fromResult]

/-- A health check of the right node is added. -/
theorem Tracks.healthCheck
    {deploymentId : String} {log : Log} {s : Shared}
    (h : Tracks crates deploymentId log s)
    (tenantId : String) (t : Tick) (health : DeploymentHealthCheckRecord) :
    Tracks crates deploymentId
      (log ++ [⟨.store (.recordDeploymentHealthCheck health), t, s⟩])
      { s with store := (MemoryStore.recordDeploymentHealthCheck tenantId t.now
        health s.store).2 } := by
  have hsame := SameDeployment.of_sameTables
    (MemoryStore.SameTables.refl .deployments s.store) deploymentId
  unfold MemoryStore.recordDeploymentHealthCheck
  cases hplan : get s.store.deployments health.deploymentId with
  | none =>
      refine h.silent rfl rfl ?_ hsame
      simp only [healthOf]
      rw [if_neg]
      rintro ⟨rfl, hnode⟩
      rw [hplan] at hnode
      cases hnode
  | some deployment =>
      by_cases hnode : deployment.nodeId = health.nodeId
      · refine h.append rfl (by simp [hnode, MemoryStore.record])
          (by simp [hnode, MemoryStore.record, resultOf])
          (fun hnone => by cases hnone) ?_
        by_cases hid : health.deploymentId = deploymentId
        · subst hid
          simp [healthOf, hplan, hnode, MemoryStore.record,
            MemoryStore.healthChecksOf]
        · simp [healthOf, hid, hnode, MemoryStore.record,
            MemoryStore.healthChecksOf]
      · refine h.silent rfl rfl ?_ (by simpa [hnode] using hsame)
        simp only [healthOf]
        rw [if_neg]
        rintro ⟨rfl, hnode'⟩
        rw [hplan] at hnode'
        simp [hnode] at hnode'

/-- Every call keeps the store and the log together. -/
theorem Tracks.call
    {deploymentId : String} {log : Log} {s : Shared}
    (h : Tracks crates deploymentId log s) (op : Call) (t : Tick) :
    Tracks crates deploymentId (log ++ [⟨op, t, s⟩])
      (app.answer crates op t s).2 := by
  have hsame := SameDeployment.of_sameTables
    (MemoryStore.SameTables.refl .deployments s.store) deploymentId
  cases op with
  | store op =>
      by_cases hwrites : MemoryStore.writes .deployments op = true
      · cases op with
        | recordDeploymentPlan deployment =>
            by_cases hid : deployment.deploymentId = deploymentId
            · exact h.plan app.tenantId t deployment hid
            · refine h.silent (by simp [plans, hid]) rfl rfl ?_
              have hne := Ne.symm hid
              constructor <;>
                simp [AppState.answer, MemoryStore.exec,
                  MemoryStore.recordDeploymentPlan, MemoryStore.record,
                  MemoryStore.healthChecksOf, get_insert_of_ne _ _ hne]
        | recordDeploymentResult result => exact h.result app.tenantId t result
        | recordDeploymentHealthCheck health =>
            exact h.healthCheck app.tenantId t health
        | _ => cases hwrites
      · have hframe := MemoryStore.exec_frame crates app.tenantId
          (Bool.not_eq_true _ ▸ hwrites) t s.store
        refine h.silent ?_ ?_ ?_ (.of_sameTables hframe deploymentId)
        all_goals
          cases op <;> first | rfl | exact absurd rfl hwrites
  | nextSequence | pushRunnerResult | runnerResultCount | now | uuid =>
      exact h.silent rfl rfl rfl hsame

theorem History.tracks
    {history : List Exchange} {s : Shared}
    (h : History crates app history s) (deploymentId : String) :
    Tracks crates deploymentId (logOf crates app history) s :=
  @History.invariant crates app (Tracks crates deploymentId)
    (.new deploymentId)
    (fun _ _ _ hs =>
      ensures_of_makes (fun op t _ _ _ hs => hs.call op t) hs) history s h

/-! ## The order of the health checks -/

/-- The health checks are sorted by date, and dated before the log's end. -/
structure Dated (deploymentId : String) (log : Log) (s : Shared) : Prop where
  sorted : ((MemoryStore.healthChecksOf deploymentId s.store).map
    (fun health => health.createdAt)).Pairwise (· ≤ ·)
  bounded : ∀ health ∈ MemoryStore.healthChecksOf deploymentId s.store,
    ∃ e ∈ log, health.createdAt ≤ e.choice.now

theorem ClockNonDecreasing.of_append
    {log log' : Log} (h : ClockNonDecreasing (log ++ log')) :
    ClockNonDecreasing log := by
  unfold ClockNonDecreasing at h ⊢
  rw [List.map_append, List.pairwise_append] at h
  exact h.1

theorem ClockNonDecreasing.le
    {log log' : Log} (h : ClockNonDecreasing (log ++ log'))
    {e e' : LogEntry} (he : e ∈ log) (he' : e' ∈ log') :
    e.choice.now ≤ e'.choice.now := by
  unfold ClockNonDecreasing at h
  rw [List.map_append, List.pairwise_append] at h
  exact h.2.2 _ (List.mem_map_of_mem he) _ (List.mem_map_of_mem he')

theorem Dated.keep
    {deploymentId : String} {log : Log} {s s' : Shared}
    (h : Dated deploymentId log s)
    (hsame : MemoryStore.healthChecksOf deploymentId s'.store =
      MemoryStore.healthChecksOf deploymentId s.store) (log' : Log) :
    Dated deploymentId (log ++ log') s' := by
  refine ⟨by rw [hsame]; exact h.sorted, ?_⟩
  intro health hmem
  rw [hsame] at hmem
  obtain ⟨e, he, hle⟩ := h.bounded health hmem
  exact ⟨e, List.mem_append_left _ he, hle⟩

/-- A check dated between the log so far and what is added to it. -/
theorem Dated.add
    {deploymentId : String} {log log' : Log} {s s' : Shared}
    (h : Dated deploymentId log s)
    {health : DeploymentHealthCheckRecord}
    (hadd : MemoryStore.healthChecksOf deploymentId s'.store =
        MemoryStore.healthChecksOf deploymentId s.store ∨
      MemoryStore.healthChecksOf deploymentId s'.store =
        MemoryStore.healthChecksOf deploymentId s.store ++ [health])
    (hafter : ∀ e ∈ log, e.choice.now ≤ health.createdAt)
    (hbefore : ∃ e ∈ log', health.createdAt ≤ e.choice.now) :
    Dated deploymentId (log ++ log') s' := by
  rcases hadd with hsame | hadd
  · exact h.keep hsame log'
  · refine ⟨?_, ?_⟩
    · rw [hadd, List.map_append, List.pairwise_append]
      refine ⟨h.sorted, List.pairwise_singleton _ _, ?_⟩
      intro date hdate date' hdate'
      obtain ⟨earlier, hearlier, rfl⟩ := List.mem_map.mp hdate
      obtain ⟨e, he, hle⟩ := h.bounded earlier hearlier
      obtain rfl := List.mem_singleton.mp hdate'
      exact hle.trans (hafter e he)
    · intro other hother
      rw [hadd, List.mem_append, List.mem_singleton] at hother
      rcases hother with hold | rfl
      · obtain ⟨e, he, hle⟩ := h.bounded other hold
        exact ⟨e, List.mem_append_left _ he, hle⟩
      · obtain ⟨e, he, hle⟩ := hbefore
        exact ⟨e, List.mem_append_right _ he, hle⟩

/-- Recording a check adds it to one deployment at most. -/
theorem healthChecksOf_recordDeploymentHealthCheck
    (tenantId : String) (now : DateTime)
    (health : DeploymentHealthCheckRecord) (s : MemoryState)
    (deploymentId : String) :
    MemoryStore.healthChecksOf deploymentId
          (MemoryStore.recordDeploymentHealthCheck tenantId now health s).2 =
        MemoryStore.healthChecksOf deploymentId s ∨
      MemoryStore.healthChecksOf deploymentId
          (MemoryStore.recordDeploymentHealthCheck tenantId now health s).2 =
        MemoryStore.healthChecksOf deploymentId s ++ [health] := by
  unfold MemoryStore.recordDeploymentHealthCheck
  split
  · exact .inl rfl
  · split
    · exact .inl rfl
    · by_cases hid : health.deploymentId = deploymentId
      · right
        simp [MemoryStore.healthChecksOf, MemoryStore.record, hid]
      · left
        simp [MemoryStore.healthChecksOf, MemoryStore.record, hid]

theorem healthChecksOf_recordDeploymentResult
    (tenantId : String) (now : DateTime) (result : DeploymentResult)
    (s : MemoryState) (deploymentId : String) :
    ∃ health : DeploymentHealthCheckRecord, health.createdAt = now ∧
      (MemoryStore.healthChecksOf deploymentId
            (MemoryStore.recordDeploymentResult crates tenantId now result
              s).2 =
          MemoryStore.healthChecksOf deploymentId s ∨
        MemoryStore.healthChecksOf deploymentId
            (MemoryStore.recordDeploymentResult crates tenantId now result
              s).2 =
          MemoryStore.healthChecksOf deploymentId s ++ [health]) := by
  unfold MemoryStore.recordDeploymentResult
  split
  · exact ⟨⟨"", "", "", "", .null, now⟩, rfl, .inl rfl⟩
  · rename_i deployment hplan
    refine ⟨.fromResult crates deployment result now, rfl, ?_⟩
    by_cases hid : result.deploymentId = deploymentId
    · right
      simp [MemoryStore.healthChecksOf, MemoryStore.record, hid,
        DeploymentHealthCheckRecord.fromResult]
    · left
      simp [MemoryStore.healthChecksOf, MemoryStore.record, hid,
        DeploymentHealthCheckRecord.fromResult]

/-- Every call but a runner's health check keeps the dates in order. -/
theorem Dated.call
    {deploymentId : String} {log : Log} {s : Shared}
    (h : Dated deploymentId log s) (op : Call) (t : Tick)
    (hop : ∀ health, op ≠ .store (.recordDeploymentHealthCheck health))
    (hclock : ClockNonDecreasing (log ++ [⟨op, t, s⟩])) :
    Dated deploymentId (log ++ [⟨op, t, s⟩]) (app.answer crates op t s).2 := by
  cases op with
  | store op =>
      by_cases hwrites : MemoryStore.writes .deployments op = true
      · cases op with
        | recordDeploymentPlan deployment =>
            refine h.keep ?_ _
            rfl
        | recordDeploymentResult result =>
            obtain ⟨health, hdate, hadd⟩ :=
              @healthChecksOf_recordDeploymentResult crates app.tenantId t.now
                result s.store deploymentId
            refine h.add hadd ?_ ⟨_, List.mem_singleton_self _, hdate.le⟩
            intro e he
            rw [hdate]
            exact hclock.le he (List.mem_singleton_self _)
        | recordDeploymentHealthCheck health => exact absurd rfl (hop health)
        | _ => cases hwrites
      · have hframe := MemoryStore.exec_frame crates app.tenantId
          (Bool.not_eq_true _ ▸ hwrites) t s.store
        exact h.keep (SameDeployment.of_sameTables hframe deploymentId).health _
  | nextSequence | pushRunnerResult | runnerResultCount | now | uuid =>
      refine h.keep ?_ _
      rfl

/-- A runner's health check is dated by the clock reading just before. -/
theorem recordRunnerDeploymentHealth_run
    (nodeId deploymentId : String) (headers : Headers) (status : String)
    (payloadJson : Json.Value) (env : ℕ → Tick) (s : Shared) :
    (app.serve crates (.recordRunnerDeploymentHealth nodeId deploymentId
      headers status payloadJson)).RunsAs crates app
      (fun _ calls s' =>
        calls = [] ∧ s' = s ∨
          ∃ health : DeploymentHealthCheckRecord,
            health.createdAt = (env 0).now ∧
            calls = [⟨.now, env 0, s⟩,
              ⟨.store (.recordDeploymentHealthCheck health), env 1, s⟩] ∧
            s' = { s with store := (MemoryStore.recordDeploymentHealthCheck
              app.tenantId (env 1).now health s.store).2 }) env s := by
  simp only [AppState.serve]
  unfold AppState.recordRunnerDeploymentHealth AppState.requireRunnerToken
  split
  · split
    · exact .inl ⟨rfl, rfl⟩
    · exact .inr ⟨⟨app.tenantId, deploymentId, nodeId, status, payloadJson,
        (env 0).now⟩, rfl, rfl, rfl⟩
  · exact .inl ⟨rfl, rfl⟩

/-- Only the health route records a runner's health check. -/
theorem Request.checks_of_mayMake
    {request : Request} {health : DeploymentHealthCheckRecord}
    (h : request.mayMake (.recordDeploymentHealthCheck health) = true) :
    ∃ nodeId deploymentId headers status payloadJson,
      request = .recordRunnerDeploymentHealth nodeId deploymentId headers
        status payloadJson := by
  cases request with
  | recordRunnerDeploymentHealth nodeId deploymentId headers status payload =>
      exact ⟨nodeId, deploymentId, headers, status, payload, rfl⟩
  | _ => cases h

/-- A request keeps the dates in order. -/
theorem Dated.serve
    {deploymentId : String} {log : Log} {s : Shared} (request : Request)
    (h : ClockNonDecreasing log → Dated deploymentId log s) :
    (app.serve crates request).Ensures crates app
      (fun _ log' s' => ClockNonDecreasing log' → Dated deploymentId log' s')
      log s := by
  by_cases hroute : ∃ nodeId deploymentId headers status payloadJson,
      request = .recordRunnerDeploymentHealth nodeId deploymentId headers
        status payloadJson
  · obtain ⟨nodeId, checked, headers, status, payloadJson, rfl⟩ := hroute
    intro env hclock
    have hrun := @recordRunnerDeploymentHealth_run crates app nodeId checked
      headers status payloadJson env s
    unfold Handler.RunsAs at hrun
    have hdated := h hclock.of_append
    rcases hrun with ⟨hcalls, hs'⟩ | ⟨health, hdate, hcalls, hs'⟩
    · rw [hcalls, hs']
      exact hdated.keep rfl _
    · rw [hcalls] at hclock ⊢
      rw [hs']
      refine hdated.add (healthChecksOf_recordDeploymentHealthCheck _ _ health
        s.store deploymentId) ?_ ⟨_, List.mem_cons_self .., hdate.le⟩
      intro e he
      rw [hdate]
      exact hclock.le he (List.mem_cons_self ..)
  · refine ensures_of_makes (fun op t log s hop hs hclock => ?_) h
    refine (hs hclock.of_append).call op t ?_ hclock
    rintro health rfl
    exact hroute (Request.checks_of_mayMake hop)

theorem History.dated
    {history : List Exchange} {s : Shared}
    (h : History crates app history s)
    (hclock : ClockNonDecreasing (logOf crates app history))
    (deploymentId : String) :
    Dated deploymentId (logOf crates app history) s := by
  refine @History.invariant crates app
    (fun log s => ClockNonDecreasing log → Dated deploymentId log s) ?_
    (fun request log s hs => Dated.serve request hs) history s h hclock
  intro _
  refine ⟨List.Pairwise.nil, ?_⟩
  intro health hmem
  cases hmem

/-! ## Ready deployments -/

/-- Whenever the last result is a success, a check was recorded since the plan. -/
theorem filterMap_healthOf_ne_nil
    {deploymentId : String} {log : Log}
    (h : (log.filterMap (resultOf deploymentId)) ≠ []) :
    log.filterMap (healthOf crates deploymentId) ≠ [] := by
  obtain ⟨status, hstatus⟩ := List.exists_mem_of_ne_nil _ h
  obtain ⟨e, he, hresult⟩ := List.mem_filterMap.mp hstatus
  have hhealth : (healthOf crates deploymentId e).isSome = true := by
    unfold resultOf at hresult
    unfold healthOf
    split at hresult
    · rename_i result hop
      split_ifs at hresult with hid
      rw [hop]
      simp only [hid, if_true]
      obtain ⟨plan, hplan, -⟩ := Option.map_eq_some_iff.mp hresult
      rw [hplan]
      rfl
    · cases hresult
  obtain ⟨health, hhealth⟩ := Option.isSome_iff_exists.mp hhealth
  exact List.ne_nil_of_mem (List.mem_filterMap.mpr ⟨e, he, hhealth⟩)

/-- What a ready answer says about the status and the samples. -/
theorem readinessOf_ready
    {deploymentId : String} {status : DeploymentStatus}
    {samples : List DeploymentHealthCheckRecord}
    (h : (readinessOf deploymentId status samples).status = "ready") :
    status = .succeeded ∧
      requiredHealthyDeploymentSamples ≤ samples.countP isHealthy ∧
      ((maxByKey (fun health => health.createdAt) samples).map
        (fun health => health.status)).any (fun status => status ≠ "healthy") =
          false := by
  unfold readinessOf at h
  simp only at h
  split at h
  · simp at h
  · split at h
    · simp at h
    · split at h
      · simp at h
      · rename_i hstatus hlatest hcount
        refine ⟨not_not.mp hstatus, not_lt.mp hcount, ?_⟩
        exact Bool.not_eq_true _ ▸ hlatest

theorem readiness_eq_ok
    {deploymentId : String} {s : MemoryState}
    {readiness : DeploymentReadinessResponse}
    (h : MemoryStore.readiness deploymentId s = .ok readiness) :
    ∃ status, get s.deploymentStatuses deploymentId = some status ∧
      readinessOf deploymentId status
        (MemoryStore.healthChecksOf deploymentId s) = readiness := by
  unfold MemoryStore.readiness at h
  cases hstatus : MemoryStore.deploymentStatus deploymentId s with
  | error error =>
      rw [hstatus] at h
      cases h
  | ok status =>
      rw [hstatus] at h
      unfold MemoryStore.deploymentHealthChecks at h
      split at h
      · exact ⟨status, okOr_eq_ok hstatus, Except.ok.inj h⟩
      · cases h

/-- The last of a list is the last of each suffix that has one. -/
theorem getLast?_filterMap_of_suffix
    {α β : Type} {f : α → Option β} {l l' : List α}
    (h : l' <:+ l) (hne : l'.filterMap f ≠ []) :
    (l'.filterMap f).getLast? = (l.filterMap f).getLast? := by
  obtain ⟨before, rfl⟩ := h
  rw [List.filterMap_append, List.getLast?_append_of_ne_nil _ hne]

/--
In a run whose clock does not go back, and in which no plan of a deployment is
recorded after a healthy check of it, the deployment is ready only when the
events since its last plan make it ready.
-/
theorem ready_since_plan
    (crates : Crates) (app : AppState)
    {history : List Exchange} {s : Shared}
    (h : History crates app history s)
    (hclock : ClockNonDecreasing (logOf crates app history))
    (deploymentId : String)
    (hplans : PlannedBeforeHealthy deploymentId (logOf crates app history))
    (env : ℕ → Tick) (readiness : DeploymentReadinessResponse)
    (hreply : ((AppState.computeDeploymentReadiness deploymentId).runAlone
      crates app env s).1 = .ok readiness)
    (hready : readiness.status = "ready") :
    ReadySincePlan crates deploymentId (logOf crates app history) := by
  have htracks := h.tracks deploymentId
  have hdated := h.dated hclock deploymentId
  rw [computeDeploymentReadiness_runAlone] at hreply
  obtain ⟨status, hstatus, rfl⟩ :=
    readiness_eq_ok (Handler.mapError_eq_ok hreply)
  obtain ⟨rfl, hsamples, hlatest⟩ := readinessOf_ready hready
  obtain ⟨hplanned, hresult⟩ := htracks.status _ hstatus
  have hlast :
      ((sincePlan deploymentId (logOf crates app history)).filterMap
        (resultOf deploymentId)).getLast? = some .succeeded := by
    cases hlast : ((sincePlan deploymentId (logOf crates app
        history)).filterMap (resultOf deploymentId)).getLast? with
    | none =>
        rw [hlast] at hresult
        cases hresult
    | some status =>
        rw [hlast] at hresult
        exact congrArg some hresult
  refine ⟨hplanned, hlast, ?_, ?_⟩
  · rw [← htracks.count hplans, ← htracks.health]
    exact hsamples
  · -- the latest check of all is the latest one since the plan
    rw [maxByKey_eq_getLast? hdated.sorted, htracks.health] at hlatest
    have hne :
        (sincePlan deploymentId (logOf crates app history)).filterMap
          (healthOf crates deploymentId) ≠ [] := by
      apply filterMap_healthOf_ne_nil
      intro hnil
      rw [hnil] at hlast
      cases hlast
    rw [← getLast?_filterMap_of_suffix (sincePlan_suffix _ _) hne]
      at hlatest
    rw [List.getLast?_eq_some_getLast hne] at hlatest ⊢
    generalize List.getLast _ hne = last at hlatest ⊢
    simpa [isHealthy] using hlatest

/-! ### A deployment that is planned again -/

/-- One deployment, a success of it, and a healthy check. -/
def firstRollout : List (Request × (ℕ → Tick)) :=
  [ (registration "dev-registration-token" "node-a" 1,
      referenceEnv 1700000000 "a"),
    (.createVlessRealityProfile "profile" "example.com",
      referenceEnv 1700000100 "b"),
    (.compileDeployment [] ⟨"profile", "node-a"⟩,
      referenceEnv 1700000200 "c"),
    (.submitRunnerResult "node-a" runnerHeaders (ownResult .succeeded),
      referenceEnv 1700000300 "d"),
    (.recordRunnerDeploymentHealth "node-a" firstDeployment runnerHeaders
      "healthy" .null, referenceEnv 1700000400 "e") ]

/-- The same deployment compiled once more, and one success. -/
def secondRollout : List (Request × (ℕ → Tick)) :=
  firstRollout ++
    [ (.compileDeployment [] ⟨"profile", "node-a"⟩,
        referenceEnv 1700000500 "f"),
      (.submitRunnerResult "node-a" runnerHeaders (ownResult .succeeded),
        referenceEnv 1700000600 "g") ]

def rolloutLog (requests : List (Request × (ℕ → Tick))) : Log :=
  logOf referenceCrates referenceApp
    ([] ++ exchanges referenceCrates referenceApp requests .new)

/-- Whether the first deployment is ready after a sequence of requests. -/
def readyAfter (requests : List (Request × (ℕ → Tick))) : Bool :=
  match ((AppState.computeDeploymentReadiness firstDeployment).runAlone
      referenceCrates referenceApp (referenceEnv 1700000700 "h")
      (referenceApp.serveAll referenceCrates requests .new)).1 with
  | .ok readiness => readiness.status = "ready"
  | .error _ => false

theorem exists_ready
    {requests : List (Request × (ℕ → Tick))}
    (h : readyAfter requests = true) :
    ∃ readiness : DeploymentReadinessResponse,
      ((AppState.computeDeploymentReadiness firstDeployment).runAlone
        referenceCrates referenceApp (referenceEnv 1700000700 "h")
        (referenceApp.serveAll referenceCrates requests .new)).1 =
          .ok readiness ∧ readiness.status = "ready" := by
  unfold readyAfter at h
  split at h
  · rename_i readiness hrun
    exact ⟨readiness, hrun, of_decide_eq_true h⟩
  · cases h

instance (log : Log) : Decidable (ClockNonDecreasing log) :=
  inferInstanceAs (Decidable (List.Pairwise _ _))

instance (deploymentId : String) (log : Log) :
    Decidable (PlannedBeforeHealthy deploymentId log) :=
  inferInstanceAs (Decidable (∀ e ∈ log, _ → ∀ health ∈ _, _))

theorem firstRollout_ready :
    readyAfter firstRollout = true ∧
      ClockNonDecreasing (rolloutLog firstRollout) ∧
      PlannedBeforeHealthy firstDeployment (rolloutLog firstRollout) := by
  decide +kernel

theorem secondRollout_ready :
    readyAfter secondRollout = true ∧
      ClockNonDecreasing (rolloutLog secondRollout) ∧
      ((sincePlan firstDeployment (rolloutLog secondRollout)).filterMap
        (healthOf referenceCrates firstDeployment)).countP isHealthy <
          requiredHealthyDeploymentSamples := by
  decide +kernel

/-- After its first rollout the deployment is ready. -/
theorem ready_since_plan_first :
    ReadySincePlan referenceCrates firstDeployment
      (rolloutLog firstRollout) := by
  obtain ⟨hready, hclock, hplans⟩ := firstRollout_ready
  obtain ⟨readiness, hreply, hready⟩ := exists_ready hready
  exact ready_since_plan referenceCrates referenceApp
    (History.new.serveAll firstRollout) hclock firstDeployment hplans _
    readiness hreply hready

/-- The healthy check of the first rollout makes the second one ready. -/
theorem stale_samples_make_ready :
    ¬ ∀ (crates : Crates) (app : AppState)
      (history : List Exchange) (s : Shared),
      History crates app history s →
      ClockNonDecreasing (logOf crates app history) →
      ∀ (deploymentId : String) (env : ℕ → Tick)
        (readiness : DeploymentReadinessResponse),
        ((AppState.computeDeploymentReadiness deploymentId).runAlone crates app
          env s).1 = .ok readiness →
        readiness.status = "ready" →
        ReadySincePlan crates deploymentId (logOf crates app history) := by
  intro h
  obtain ⟨hready, hclock, hsamples⟩ := secondRollout_ready
  obtain ⟨readiness, hreply, hready⟩ := exists_ready hready
  have hsince := h referenceCrates referenceApp _ _
    (History.new.serveAll secondRollout) hclock firstDeployment _ readiness
    hreply hready
  exact absurd hsince.samples (not_le.mpr hsamples)

end ProxyControl
