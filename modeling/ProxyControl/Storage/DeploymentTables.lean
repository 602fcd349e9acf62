import ProxyControl.Storage.ProxyStore

/-!
# The deployment tables

A plan, a result and a health check are the calls that write the tables of
deployments.  `DeploymentStep` says once what they do; `DeploymentTables` is
what they keep.  A second plan of a deployment overwrites its record and leaves
the snapshot of the first one behind, so a snapshot describes its deployment
only while the status is not pending.
-/

namespace ProxyControl
namespace MemoryStore

open Calendar HashTable

/-- What one call can do to the tables of deployments. -/
inductive DeploymentStep (s s' : MemoryState) : Prop
  | same (h : SameTables .deployments s s')
  | plan
      (plan : DeploymentPlanRecord) (pointer : RollbackPointerRecord)
      (hid : pointer.deploymentId = plan.deploymentId)
      (htarget : pointer.targetCompiledConfigArtifactId =
        plan.compiledConfigArtifactId)
      (hdeployments : s'.deployments =
        s.deployments.insert plan.deploymentId plan)
      (hstatuses : s'.deploymentStatuses =
        s.deploymentStatuses.insert plan.deploymentId .pending)
      (hpointers : s'.rollbackPointers =
        s.rollbackPointers.insert plan.deploymentId pointer)
      (hsnapshots : s'.deploymentSnapshots = s.deploymentSnapshots)
      (hchecks : s'.deploymentHealthChecks = s.deploymentHealthChecks)
  | result
      (result : DeploymentResult) (plan : DeploymentPlanRecord)
      (now : DateTime) (check : DeploymentHealthCheckRecord)
      (hplan : get s.deployments result.deploymentId = some plan)
      (hcheck : check.deploymentId = result.deploymentId)
      (hdeployments : s'.deployments = s.deployments)
      (hstatuses : s'.deploymentStatuses =
        s.deploymentStatuses.insert result.deploymentId result.status)
      (hpointers : s'.rollbackPointers = s.rollbackPointers)
      (hsnapshots : s'.deploymentSnapshots =
        s.deploymentSnapshots.insert result.deploymentId
          (.fromResult plan result now))
      (hchecks : s'.deploymentHealthChecks =
        s.deploymentHealthChecks ++ [check])
  | healthCheck
      (check : DeploymentHealthCheckRecord)
      (hplan : s.deployments.containsKey check.deploymentId = true)
      (hdeployments : s'.deployments = s.deployments)
      (hstatuses : s'.deploymentStatuses = s.deploymentStatuses)
      (hpointers : s'.rollbackPointers = s.rollbackPointers)
      (hsnapshots : s'.deploymentSnapshots = s.deploymentSnapshots)
      (hchecks : s'.deploymentHealthChecks =
        s.deploymentHealthChecks ++ [check])

theorem deploymentStep
    (crates : Crates) (tenantId : String) (op : StoreCall) (t : Tick)
    (s : MemoryState) :
    DeploymentStep s (exec crates tenantId op t s).2 := by
  have hsame : SameTables .deployments s s := SameTables.refl _ s
  cases op with
  | recordDeploymentPlan plan =>
      exact .plan plan _ rfl rfl rfl rfl rfl rfl rfl
  | recordDeploymentResult result =>
      simp only [exec, recordDeploymentResult]
      split
      · exact .same hsame
      · rename_i plan hplan
        exact .result result plan t.now _ hplan rfl rfl rfl rfl rfl rfl
  | recordDeploymentHealthCheck check =>
      simp only [exec, recordDeploymentHealthCheck]
      split
      · exact .same hsame
      · rename_i plan hplan
        split
        · exact .same hsame
        · refine .healthCheck check ?_ rfl rfl rfl rfl rfl
          exact (containsKey_iff _ _).mpr ⟨plan, hplan⟩
  | _ =>
      exact .same (exec_frame crates tenantId (g := .deployments) rfl t s)

/-! ## What the tables say about each other -/

/-- The snapshot of a deployment describes its plan and its status. -/
structure Describes
    (snapshot : DeploymentSnapshotRecord) (plan : DeploymentPlanRecord)
    (status : DeploymentStatus) : Prop where
  status : snapshot.resultStatus = status
  nodeId : snapshot.nodeId = plan.nodeId
  profileId : snapshot.profileId = plan.profileId
  artifact :
    snapshot.compiledConfigArtifactId = plan.compiledConfigArtifactId

structure DeploymentTables (s : MemoryState) : Prop where
  statuses : ∀ d, s.deploymentStatuses.containsKey d =
    s.deployments.containsKey d
  pointers : ∀ d, s.rollbackPointers.containsKey d =
    s.deployments.containsKey d
  keyed : ∀ d plan, get s.deployments d = some plan → plan.deploymentId = d
  pointer : ∀ d plan pointer, get s.deployments d = some plan →
    get s.rollbackPointers d = some pointer →
    pointer.deploymentId = d ∧
      pointer.targetCompiledConfigArtifactId = plan.compiledConfigArtifactId
  finished : ∀ d plan status, get s.deployments d = some plan →
    get s.deploymentStatuses d = some status → status ≠ .pending →
    (∃ snapshot, get s.deploymentSnapshots d = some snapshot ∧
      Describes snapshot plan status) ∧
      ∃ check ∈ s.deploymentHealthChecks, check.deploymentId = d
  snapshots : ∀ d snapshot, get s.deploymentSnapshots d = some snapshot →
    snapshot.deploymentId = d ∧ s.deployments.containsKey d = true
  checks : ∀ check ∈ s.deploymentHealthChecks,
    s.deployments.containsKey check.deploymentId = true

theorem DeploymentTables.default : DeploymentTables .default := by
  refine ⟨fun d => rfl, fun d => rfl, ?_, ?_, ?_, ?_, ?_⟩
  · intro d plan h
    cases h
  · intro d plan pointer h
    cases h
  · intro d plan status h
    cases h
  · intro d snapshot h
    cases h
  · intro check h
    cases h

namespace DeploymentTables

variable {s s' : MemoryState}

theorem same
    (h : DeploymentTables s) (hsame : SameTables .deployments s s') :
    DeploymentTables s' := by
  obtain ⟨hdeployments, hstatuses, hpointers, hsnapshots, hchecks⟩ := hsame
  constructor <;>
    simp only [hdeployments, hstatuses, hpointers, hsnapshots, hchecks]
  · exact h.statuses
  · exact h.pointers
  · exact h.keyed
  · exact h.pointer
  · exact h.finished
  · exact h.snapshots
  · exact h.checks

/-- A planned deployment is pending, whatever it was before. -/
theorem plan
    (h : DeploymentTables s)
    (plan : DeploymentPlanRecord) (pointer : RollbackPointerRecord)
    (hid : pointer.deploymentId = plan.deploymentId)
    (htarget : pointer.targetCompiledConfigArtifactId =
      plan.compiledConfigArtifactId)
    (hdeployments : s'.deployments =
      s.deployments.insert plan.deploymentId plan)
    (hstatuses : s'.deploymentStatuses =
      s.deploymentStatuses.insert plan.deploymentId .pending)
    (hpointers : s'.rollbackPointers =
      s.rollbackPointers.insert plan.deploymentId pointer)
    (hsnapshots : s'.deploymentSnapshots = s.deploymentSnapshots)
    (hchecks : s'.deploymentHealthChecks = s.deploymentHealthChecks) :
    DeploymentTables s' := by
  constructor <;>
    simp only [hdeployments, hstatuses, hpointers, hsnapshots, hchecks,
      containsKey_insert]
  · intro d
    rw [h.statuses d]
  · intro d
    rw [h.pointers d]
  · intro d other hother
    rw [get_insert] at hother
    split_ifs at hother with hd
    · obtain rfl := Option.some.inj hother
      exact hd.symm
    · exact h.keyed d other hother
  · intro d other p hother hp
    rw [get_insert] at hother hp
    split_ifs at hother hp with hd
    · obtain rfl := Option.some.inj hother
      obtain rfl := Option.some.inj hp
      exact ⟨hid.trans hd.symm, htarget⟩
    · exact h.pointer d other p hother hp
  · intro d other status hother hstatus hne
    rw [get_insert] at hother hstatus
    split_ifs at hother hstatus with hd
    · exact absurd (Option.some.inj hstatus).symm hne
    · exact h.finished d other status hother hstatus hne
  · intro d snapshot hsnapshot
    obtain ⟨hkey, hcontains⟩ := h.snapshots d snapshot hsnapshot
    exact ⟨hkey, by rw [hcontains, Bool.or_true]⟩
  · intro check hcheck
    rw [h.checks check hcheck, Bool.or_true]

/-- A result finishes the deployment with a snapshot of the current plan. -/
theorem result
    (h : DeploymentTables s)
    (result : DeploymentResult) (plan : DeploymentPlanRecord)
    (now : DateTime) (check : DeploymentHealthCheckRecord)
    (hplan : get s.deployments result.deploymentId = some plan)
    (hcheck : check.deploymentId = result.deploymentId)
    (hdeployments : s'.deployments = s.deployments)
    (hstatuses : s'.deploymentStatuses =
      s.deploymentStatuses.insert result.deploymentId result.status)
    (hpointers : s'.rollbackPointers = s.rollbackPointers)
    (hsnapshots : s'.deploymentSnapshots =
      s.deploymentSnapshots.insert result.deploymentId
        (.fromResult plan result now))
    (hchecks : s'.deploymentHealthChecks =
      s.deploymentHealthChecks ++ [check]) :
    DeploymentTables s' := by
  have hknown : s.deployments.containsKey result.deploymentId = true :=
    (containsKey_iff _ _).mpr ⟨plan, hplan⟩
  constructor <;>
    simp only [hdeployments, hstatuses, hpointers, hsnapshots, hchecks,
      containsKey_insert]
  · intro d
    rw [h.statuses d]
    by_cases hd : d = result.deploymentId
    · rw [hd, hknown, Bool.or_true]
    · simp [hd]
  · exact h.pointers
  · exact h.keyed
  · exact h.pointer
  · intro d other status hother hstatus hne
    rw [get_insert] at hstatus ⊢
    split_ifs at hstatus ⊢ with hd
    · subst hd
      obtain rfl := Option.some.inj hstatus
      obtain rfl := Option.some.inj (hplan.symm.trans hother)
      refine ⟨⟨_, rfl, rfl, rfl, rfl, rfl⟩, check, ?_, hcheck⟩
      exact List.mem_append_right _ (List.mem_singleton_self check)
    · obtain ⟨hsnapshot, old, hold, hkey⟩ :=
        h.finished d other status hother hstatus hne
      exact ⟨hsnapshot, old, List.mem_append_left _ hold, hkey⟩
  · intro d snapshot hsnapshot
    rw [get_insert] at hsnapshot
    split_ifs at hsnapshot with hd
    · obtain rfl := Option.some.inj hsnapshot
      exact ⟨hd.symm, hd ▸ hknown⟩
    · exact h.snapshots d snapshot hsnapshot
  · intro other hother
    rcases List.mem_append.mp hother with hother | hother
    · exact h.checks other hother
    · obtain rfl := List.mem_singleton.mp hother
      rw [hcheck]
      exact hknown

theorem healthCheck
    (h : DeploymentTables s) (check : DeploymentHealthCheckRecord)
    (hplan : s.deployments.containsKey check.deploymentId = true)
    (hdeployments : s'.deployments = s.deployments)
    (hstatuses : s'.deploymentStatuses = s.deploymentStatuses)
    (hpointers : s'.rollbackPointers = s.rollbackPointers)
    (hsnapshots : s'.deploymentSnapshots = s.deploymentSnapshots)
    (hchecks : s'.deploymentHealthChecks =
      s.deploymentHealthChecks ++ [check]) :
    DeploymentTables s' := by
  constructor <;>
    simp only [hdeployments, hstatuses, hpointers, hsnapshots, hchecks]
  · exact h.statuses
  · exact h.pointers
  · exact h.keyed
  · exact h.pointer
  · intro d plan status hget hstatus hne
    obtain ⟨hsnapshot, old, hold, hkey⟩ :=
      h.finished d plan status hget hstatus hne
    exact ⟨hsnapshot, old, List.mem_append_left _ hold, hkey⟩
  · exact h.snapshots
  · intro other hother
    rcases List.mem_append.mp hother with hother | hother
    · exact h.checks other hother
    · obtain rfl := List.mem_singleton.mp hother
      exact hplan

/-- One call keeps the tables consistent. -/
theorem step (h : DeploymentTables s) (hstep : DeploymentStep s s') :
    DeploymentTables s' := by
  cases hstep with
  | same hsame =>
      exact h.same hsame
  | plan plan pointer hid htarget hdeployments hstatuses hpointers hsnapshots
      hchecks =>
      exact h.plan plan pointer hid htarget hdeployments hstatuses hpointers
        hsnapshots hchecks
  | result result plan now check hplan hcheck hdeployments hstatuses hpointers
      hsnapshots hchecks =>
      exact h.result result plan now check hplan hcheck hdeployments hstatuses
        hpointers hsnapshots hchecks
  | healthCheck check hplan hdeployments hstatuses hpointers hsnapshots
      hchecks =>
      exact h.healthCheck check hplan hdeployments hstatuses hpointers
        hsnapshots hchecks

/-- The tables are consistent in every reachable state. -/
theorem of_reached
    {crates : Crates} {tenantId : String} (h : Reached crates tenantId s) :
    DeploymentTables s := by
  induction h with
  | default => exact .default
  | call _ op t ih => exact ih.step (deploymentStep crates tenantId op t _)

end DeploymentTables

/-- No call removes a deployment. -/
theorem containsKey_exec
    (crates : Crates) (tenantId : String) (op : StoreCall) (t : Tick)
    {s : MemoryState} {d : String}
    (h : s.deployments.containsKey d = true) :
    (exec crates tenantId op t s).2.deployments.containsKey d = true := by
  cases deploymentStep crates tenantId op t s with
  | same hsame =>
      rw [hsame.1]
      exact h
  | plan plan pointer hid htarget hdeployments =>
      rw [hdeployments, containsKey_insert, h, Bool.or_true]
  | result result plan now check hplan hcheck hdeployments =>
      rw [hdeployments]
      exact h
  | healthCheck check hplan hdeployments =>
      rw [hdeployments]
      exact h

end MemoryStore
end ProxyControl
