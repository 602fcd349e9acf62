import ProxyControl.Storage.PostgresRuns

/-!
# Deployments in the two stores

The same plans and results are recorded in both stores.  `MemoryStore` takes the
previous deployment of a node by the instant of its plan and overwrites what a
deployment had before; `PostgresStore` takes it by the instant of the first
result and leaves a deployment that is there already alone.

The stores agree as long as no deployment is planned twice and the last planned
of the succeeded deployments of a node is the last of them to finish.
-/

namespace ProxyControl

open Calendar Effects

namespace PostgresStore

variable {crates : Crates} {t : StoreTick} {db db' : Database}

/-! ## What a plan writes -/

/-- The rows that a plan refers to. -/
structure PlanRows (plan : DeploymentPlanRecord) (db : Database) : Prop where
  tenant : Database.hasTenant db plan.tenantId = true
  node : Database.hasNode db plan.nodeId = true
  version : (latestProfileVersion plan.profileId db).isSome = true
  artifact : Database.hasArtifact db plan.compiledConfigArtifactId = true

/-- The row of a deployment that has just been planned. -/
def plannedRow
    (now : DateTime) (plan : DeploymentPlanRecord) (profileVersionId : String) :
    DeploymentRow where
  id := plan.deploymentId
  tenantId := plan.tenantId
  nodeId := plan.nodeId
  profileVersionId := profileVersionId
  status := "Pending"
  compiledConfigArtifactId := plan.compiledConfigArtifactId
  rollbackPointerId := none
  createdAt := now
  finishedAt := none

theorem applies_insertDeployment
    {plan : DeploymentPlanRecord} {profileVersionId : String}
    {s : StatementTick} {u : Unit}
    (hnew : Database.hasDeployment db plan.deploymentId = false) :
    (Statement.insertDeployment plan.deploymentId plan.tenantId plan.nodeId
        profileVersionId plan.compiledConfigArtifactId).Applies s db u db' ↔
      s.fault = none ∧ Database.hasTenant db plan.tenantId = true ∧
        Database.hasNode db plan.nodeId = true ∧
        Table.hasKey ProfileVersionRow.id profileVersionId db.profileVersions =
          true ∧
        Database.hasArtifact db plan.compiledConfigArtifactId = true ∧
        db' = { db with deployments := db.deployments ++
          [plannedRow s.now plan profileVersionId] } := by
  simp only [Statement.Applies, Statement.apply, execute_eq_ok,
    insertDeployment, hnew, Bool.false_eq_true, if_false, references_bind_eq_ok,
    pure_eq_ok, plannedRow]

theorem applies_insertRollbackPointer
    {pointer : RollbackPointerRecord} {s : StatementTick} {u : Unit}
    (hnew : Table.hasKey RollbackPointerRecord.rollbackPointerId
      pointer.rollbackPointerId db.rollbackPointers = false) :
    (Statement.insertRollbackPointer pointer).Applies s db u db' ↔
      s.fault = none ∧ Database.hasTenant db pointer.tenantId = true ∧
        Database.hasDeployment db pointer.deploymentId = true ∧
        pointer.previousDeploymentId.all (Database.hasDeployment db) = true ∧
        pointer.previousCompiledConfigArtifactId.all (Database.hasArtifact db) =
          true ∧
        Database.hasArtifact db pointer.targetCompiledConfigArtifactId = true ∧
        db' = { db with rollbackPointers := db.rollbackPointers ++ [pointer] } := by
  simp only [Statement.Applies, Statement.apply, execute_eq_ok,
    insertRollbackPointer, hnew, Bool.false_eq_true, if_false,
    references_bind_eq_ok, pure_eq_ok]

theorem applies_setRollbackPointer
    {deploymentId rollbackPointerId : String} {s : StatementTick} {u : Unit} :
    (Statement.setRollbackPointer deploymentId rollbackPointerId).Applies s db u
        db' ↔
      s.fault = none ∧
        db' = setRollbackPointer deploymentId rollbackPointerId db := by
  simp only [Statement.Applies, Statement.apply, execute_eq_ok]
  exact and_congr_right fun _ => ⟨fun h => (Except.ok.inj h).symm, fun h => h ▸ rfl⟩

theorem previousDeployment_mem
    {order : IterationOrder} {tenantId nodeId : String} {row : DeploymentRow}
    (h : previousDeployment order tenantId nodeId db = some row) :
    row ∈ db.deployments := by
  have hmem := List.mem_of_mem_filter (List.argmax_mem h)
  exact (order.mem_arrange _ _).mp hmem

theorem hasDeployment_iff
    {deploymentId : String} :
    Database.hasDeployment db deploymentId = true ↔
      ∃ row ∈ db.deployments, row.id = deploymentId :=
  Table.hasKey_iff _ _ _

/-- The pointer of a plan that is recorded in the database. -/
def pointerOf
    (t : StoreTick) (plan : DeploymentPlanRecord) (db : Database) :
    RollbackPointerRecord :=
  let previous := previousDeployment (t.statement 0).order plan.tenantId
    plan.nodeId db
  .new plan (previous.map DeploymentRow.id)
    (previous.map DeploymentRow.compiledConfigArtifactId) t.tick.now

/-- The database after the plan of a new deployment. -/
def withPlan
    (t : StoreTick) (plan : DeploymentPlanRecord) (profileVersionId : String)
    (db : Database) : Database :=
  withEvent (t.statement 5).now (t.statement 6).now plan.tenantId "admin"
    "deployment.planned" "deployment" plan.deploymentId
    (setRollbackPointer plan.deploymentId (pointerOf t plan db).rollbackPointerId
      { db with
        deployments := db.deployments ++
          [plannedRow (t.statement 2).now plan profileVersionId]
        rollbackPointers := db.rollbackPointers ++ [pointerOf t plan db] })

theorem exec_recordDeploymentPlan
    (crates : Crates) {plan : DeploymentPlanRecord} (ht : t.Healthy) (hrows : PlanRows plan db)
    (hnew : Database.hasDeployment db plan.deploymentId = false)
    (hpointer : Table.hasKey RollbackPointerRecord.rollbackPointerId
      ("rollback-" ++ plan.deploymentId) db.rollbackPointers = false)
    (hartifacts : ∀ row ∈ db.deployments,
      Database.hasArtifact db row.compiledConfigArtifactId = true) :
    ∃ version ∈ db.profileVersions, exec crates (.recordDeploymentPlan plan) t db =
      (.ok (), withPlan t plan version.id db) := by
  obtain ⟨version, hversion⟩ := Option.isSome_iff_exists.mp hrows.version
  have hmem : version ∈ db.profileVersions :=
    List.mem_of_mem_filter (List.argmax_mem hversion)
  refine ⟨version, hmem, exec_eq_ok.mpr ?_⟩
  refine runs_query_bind.mpr ⟨_, db, (applies_of_fetch rfl).mpr
    ⟨ht 0, rfl, rfl⟩, ?_⟩
  refine runs_query_bind.mpr ⟨some version, db, (applies_of_fetch rfl).mpr
    ⟨ht 1, hversion.symm, rfl⟩, ?_⟩
  refine runs_orNotFound_bind.mpr ⟨version, rfl, ?_⟩
  refine runs_query_bind.mpr ⟨(), _, (applies_insertDeployment hnew).mpr
    ⟨ht 2, hrows.tenant, hrows.node, (Table.hasKey_iff _ _ _).mpr
      ⟨version, hmem, rfl⟩, hrows.artifact, rfl⟩, ?_⟩
  have hprevious : ∀ row, previousDeployment (t.statement 0).order plan.tenantId
      plan.nodeId db = some row → row ∈ db.deployments :=
    fun row h => previousDeployment_mem h
  refine runs_query_bind.mpr ⟨(), _, (applies_insertRollbackPointer hpointer).mpr
    ⟨ht 3, hrows.tenant, ?_, ?_, ?_, hrows.artifact, rfl⟩, ?_⟩
  · exact hasDeployment_iff.mpr ⟨_, List.mem_append_right _
      (List.mem_singleton_self _), rfl⟩
  · rw [RollbackPointerRecord.new, Option.all_map, Option.all_eq_true]
    intro row hrow
    exact hasDeployment_iff.mpr
      ⟨row, List.mem_append_left _ (hprevious row hrow), rfl⟩
  · rw [RollbackPointerRecord.new, Option.all_map, Option.all_eq_true]
    intro row hrow
    exact hartifacts row (hprevious row hrow)
  refine runs_query_bind.mpr ⟨(), _, applies_setRollbackPointer.mpr
    ⟨ht 4, rfl⟩, ?_⟩
  exact runs_recordEvent.mpr ⟨⟨ht 5, ht 6⟩, hrows.tenant, rfl⟩

/-- A new deployment is the last row, and the others stay as they are. -/
theorem deployments_withPlan
    (t : StoreTick) {plan : DeploymentPlanRecord} (profileVersionId : String)
    (hnew : Database.hasDeployment db plan.deploymentId = false) :
    (withPlan t plan profileVersionId db).deployments = db.deployments ++
      [{ plannedRow (t.statement 2).now plan profileVersionId with
        rollbackPointerId := some (pointerOf t plan db).rollbackPointerId }] := by
  have hold : ∀ row ∈ db.deployments, row.id ≠ plan.deploymentId := by
    intro row hrow hid
    have hhas := hasDeployment_iff.mpr ⟨row, hrow, hid⟩
    rw [hnew] at hhas
    cases hhas
  simp only [withPlan, withEvent, setRollbackPointer, Table.updateWhere,
    List.map_append, List.map_singleton]
  refine congrArg₂ (· ++ ·) ?_ ?_
  · refine (List.map_congr_left ?_).trans (List.map_id _)
    intro row hrow
    simp [hold row hrow]
  · simp [plannedRow]

/-! ## What a result writes -/

theorem applies_finishDeployment
    {deploymentId status : String} {s : StatementTick} {count : ℕ} :
    (Statement.finishDeployment deploymentId status).Applies s db count db' ↔
      s.fault = none ∧
        count = db.deployments.countP (fun row => row.id = deploymentId) ∧
        db' = finishDeployment s.now deploymentId status db := by
  unfold Statement.Applies
  refine and_congr_right fun _ => ⟨fun h => ?_, fun h => ?_⟩
  · obtain ⟨hcount, hdb⟩ := Prod.mk.inj (Except.ok.inj h)
    exact ⟨hcount.symm, hdb.symm⟩
  · rw [h.1, h.2]
    rfl

def withSnapshot (row : DeploymentSnapshotRow) (db : Database) : Database :=
  { db with
    deploymentSnapshots := Table.upsert DeploymentSnapshotRow.id row
      (fun other => { other with
        snapshotJson := row.snapshotJson
        createdAt := row.createdAt }) db.deploymentSnapshots }

theorem applies_upsertDeploymentSnapshot
    {row : DeploymentSnapshotRow} {s : StatementTick} {u : Unit} :
    (Statement.upsertDeploymentSnapshot row).Applies s db u db' ↔
      s.fault = none ∧
        (Table.hasKey DeploymentSnapshotRow.id row.id db.deploymentSnapshots =
            true ∨
          Database.hasDeployment db row.deploymentId = true) ∧
        db' = withSnapshot row db := by
  simp only [Statement.Applies, Statement.apply, execute_eq_ok,
    upsertDeploymentSnapshot, referencing_eq_ok, withSnapshot]

theorem applies_insertHealthCheck
    {row : HealthCheckRow} {s : StatementTick} {u : Unit} :
    (Statement.insertHealthCheck row).Applies s db u db' ↔
      s.fault = none ∧ Database.hasDeployment db row.deploymentId = true ∧
        db' = { db with
          deploymentHealthChecks := db.deploymentHealthChecks ++ [row] } := by
  simp only [Statement.Applies, Statement.apply, execute_eq_ok,
    insertHealthCheck, references_bind_eq_ok, pure_eq_ok]

theorem exists_of_deploymentPlan
    {deploymentId : String} {plan : DeploymentPlanRecord}
    (h : deploymentPlan deploymentId db = some plan) :
    ∃ row ∈ db.deployments, row.id = deploymentId ∧
      plan.deploymentId = deploymentId ∧ plan.tenantId = row.tenantId := by
  obtain ⟨row, hrow, hjoin⟩ := Option.bind_eq_some_iff.mp h
  obtain ⟨hmem, hid⟩ := Table.lookup_mem _ hrow
  obtain ⟨version, -, hplan⟩ := Option.bind_eq_some_iff.mp hjoin
  obtain rfl := Option.some.inj hplan
  exact ⟨row, hmem, hid, hid, rfl⟩

theorem hasDeployment_finishDeployment
    (now : DateTime) (deploymentId other status : String) (db : Database) :
    Database.hasDeployment (finishDeployment now deploymentId status db) other =
      Database.hasDeployment db other := by
  have hkeys := Table.map_key_updateWhere
    (f := fun row : DeploymentRow => { row with
      status := status
      finishedAt := row.finishedAt.or (some now) })
    (p := fun row => row.id = deploymentId) DeploymentRow.id
    (fun _ _ => rfl) db.deployments
  rw [Bool.eq_iff_iff, hasDeployment_iff, hasDeployment_iff]
  simp only [← List.mem_map (f := DeploymentRow.id), finishDeployment]
  rw [hkeys]

/-- The database after a result for a deployment that is there. -/
def withResult
    (crates : Crates) (t : StoreTick) (plan : DeploymentPlanRecord)
    (result : DeploymentResult) (db : Database) : Database :=
  let snapshot := DeploymentSnapshotRecord.fromResult plan result t.tick.now
  let health :=
    DeploymentHealthCheckRecord.fromResult crates plan result t.tick.now
  withEvent (t.statement 4).now (t.statement 5).now plan.tenantId "runner"
    "deployment.result" "deployment" result.deploymentId
    { withSnapshot ⟨snapshot.snapshotId, snapshot.deploymentId, snapshot,
        snapshot.createdAt⟩
      (finishDeployment (t.statement 1).now result.deploymentId
        result.status.label db) with
      deploymentHealthChecks := db.deploymentHealthChecks ++
        [⟨health.deploymentId, health.status, health.payloadJson,
          health.createdAt⟩] }

/-- A row after a result; the instant of the first result stays. -/
def finishedRow
    (now : DateTime) (result : DeploymentResult) (row : DeploymentRow) :
    DeploymentRow :=
  if row.id = result.deploymentId then
    { row with
      status := result.status.label
      finishedAt := row.finishedAt.or (some now) }
  else
    row

theorem deployments_withResult
    (plan : DeploymentPlanRecord) (result : DeploymentResult) :
    (withResult crates t plan result db).deployments =
      db.deployments.map (finishedRow (t.statement 1).now result) := by
  simp only [withResult, withEvent, withSnapshot, finishDeployment,
    Table.updateWhere, decide_eq_true_eq]
  rfl

theorem finishedRow_id
    (now : DateTime) (result : DeploymentResult) (row : DeploymentRow) :
    (finishedRow now result row).id = row.id := by
  unfold finishedRow
  split_ifs <;> rfl

theorem finishedRow_createdAt
    (now : DateTime) (result : DeploymentResult) (row : DeploymentRow) :
    (finishedRow now result row).createdAt = row.createdAt := by
  unfold finishedRow
  split_ifs <;> rfl

/-- A result for a deployment that is there. -/
theorem exec_recordDeploymentResult
    {result : DeploymentResult} {plan : DeploymentPlanRecord} (ht : t.Healthy)
    (hplan : deploymentPlan result.deploymentId db = some plan)
    (htenant : Database.hasTenant db plan.tenantId = true) :
    exec crates (.recordDeploymentResult result) t db =
      (.ok (), withResult crates t plan result db) := by
  obtain ⟨row, hrow, hid, -, -⟩ := exists_of_deploymentPlan hplan
  have hdeployment : Database.hasDeployment
      (finishDeployment (t.statement 1).now result.deploymentId
        result.status.label db) result.deploymentId = true := by
    rw [hasDeployment_finishDeployment]
    exact hasDeployment_iff.mpr ⟨row, hrow, hid⟩
  have hcount : db.deployments.countP (fun row => row.id = result.deploymentId) ≠
      0 := by
    rw [← Nat.pos_iff_ne_zero, List.countP_pos_iff]
    exact ⟨row, hrow, decide_eq_true hid⟩
  refine exec_eq_ok.mpr ?_
  refine runs_query_bind.mpr ⟨some plan, db, (applies_of_fetch rfl).mpr
    ⟨ht 0, hplan.symm, rfl⟩, ?_⟩
  refine runs_orNotFound_bind.mpr ⟨plan, rfl, ?_⟩
  refine runs_query_bind.mpr ⟨_, _, applies_finishDeployment.mpr
    ⟨ht 1, rfl, rfl⟩, ?_⟩
  rw [if_neg hcount]
  refine runs_query_bind.mpr ⟨(), _, applies_upsertDeploymentSnapshot.mpr
    ⟨ht 2, .inr hdeployment, rfl⟩, ?_⟩
  refine runs_query_bind.mpr ⟨(), _, applies_insertHealthCheck.mpr
    ⟨ht 3, hdeployment, rfl⟩, ?_⟩
  exact runs_recordEvent.mpr ⟨⟨ht 4, ht 5⟩, htenant, rfl⟩

/-- A result for a deployment that is not there is refused. -/
theorem exec_recordDeploymentResult_missing
    {result : DeploymentResult} (ht : t.Healthy)
    (hplan : deploymentPlan result.deploymentId db = none) :
    exec crates (.recordDeploymentResult result) t db =
      (.error (.notFound ("deployment:" ++ result.deploymentId)), db) := by
  have hexec : (Statement.deploymentPlan result.deploymentId).exec
      (t.statement 0) db = (.ok none, db) :=
    Statement.applies_iff.mp ((applies_of_fetch rfl).mpr
      ⟨ht 0, hplan.symm, rfl⟩)
  have hrun : (body crates t.tick (.recordDeploymentResult result)).run.run
      Statement.exec t.statement db =
        (.error (.notFound ("deployment:" ++ result.deploymentId)), db) := by
    simp only [body, PostgresStore.recordDeploymentResult]
    rw [run_query_bind hexec]
    rfl
  rw [exec, hrun]
  rfl

/-! ## What is read -/

theorem exec_deploymentStatus
    {deploymentId : String} (ht : t.Healthy) :
    (exec crates (.deploymentStatus deploymentId) t db).1 =
      okOr ((Table.lookup DeploymentRow.id deploymentId db.deployments).map
          (fun row => parseDeploymentStatus row.status))
        (.notFound ("deployment:" ++ deploymentId)) := by
  have hexec : (Statement.deployment deploymentId).exec (t.statement 0) db =
      (.ok (Table.lookup DeploymentRow.id deploymentId db.deployments), db) :=
    Statement.applies_iff.mp ((applies_of_fetch rfl).mpr ⟨ht 0, rfl, rfl⟩)
  simp only [exec, body, PostgresStore.deploymentStatus]
  rw [run_query_bind hexec]
  cases Table.lookup DeploymentRow.id deploymentId db.deployments <;> rfl

theorem exec_rollbackPointer
    {deploymentId : String} (ht : t.Healthy) :
    (exec crates (.rollbackPointer deploymentId) t db).1 =
      okOr (rollbackPointerOf deploymentId db)
        (.notFound ("rollback_pointer:" ++ deploymentId)) := by
  have hexec : (Statement.rollbackPointer deploymentId).exec (t.statement 0) db =
      (.ok (rollbackPointerOf deploymentId db), db) :=
    Statement.applies_iff.mp ((applies_of_fetch rfl).mpr ⟨ht 0, rfl, rfl⟩)
  simp only [exec, body, PostgresStore.rollbackPointer]
  rw [run_query_bind hexec]
  cases rollbackPointerOf deploymentId db <;> rfl

end PostgresStore

/-! ## The two stores side by side -/

abbrev Stores : Type :=
  MemoryState × Database

/-- A call that is made to both stores. -/
def Stores.answer
    (crates : Crates) (tenantId : String) (op : StoreCall)
    (t : Tick × PostgresStore.StoreTick) (s : Stores) :
    (op.Ret × op.Ret) × Stores :=
  let inMemory := MemoryStore.exec crates tenantId op t.1 s.1
  let inDatabase := PostgresStore.exec crates op t.2 s.2
  ((inMemory.1, inDatabase.1), (inMemory.2, inDatabase.2))

abbrev PairedEntry : Type :=
  Program.Entry StoreCall (Tick × PostgresStore.StoreTick) Stores

/-- The statuses and the previous deployments of all deployments are the same. -/
structure StoresAgree (crates : Crates) (tenantId : String) (s : Stores) :
    Prop where
  status : ∀ deploymentId t t', t'.Healthy →
    (MemoryStore.exec crates tenantId (.deploymentStatus deploymentId) t s.1).1 =
      (PostgresStore.exec crates (.deploymentStatus deploymentId) t' s.2).1
  previous : ∀ deploymentId t t', t'.Healthy →
    (MemoryStore.exec crates tenantId (.rollbackPointer deploymentId) t
        s.1).1.map RollbackPointerRecord.previousDeploymentId =
      (PostgresStore.exec crates (.rollbackPointer deploymentId) t'
        s.2).1.map RollbackPointerRecord.previousDeploymentId

/-- A plan or a result, as the control plane records it. -/
def RecordsDeployment (tenantId : String) (e : PairedEntry) : Prop :=
  e.choice.2.Healthy ∧
    match e.op with
    | .recordDeploymentPlan plan =>
        plan.tenantId = tenantId ∧ PostgresStore.PlanRows plan e.before.2
    | .recordDeploymentResult _ => True
    | _ => False

/-- The instants that a call reads off the clocks. -/
def readings (e : PairedEntry) : Set DateTime :=
  { instant | (∃ plan, e.op = .recordDeploymentPlan plan ∧
      instant = plan.createdAt) ∨
    ∃ k, instant = (e.choice.2.statement k).now }

def ClockIncreases (log : List PairedEntry) : Prop :=
  log.Pairwise (fun e e' =>
    ∀ instant ∈ readings e, ∀ later ∈ readings e', instant < later)

/-- The succeeded deployments of a node. -/
def succeededOn
    (tenantId nodeId : String) (db : Database) :
    List PostgresStore.DeploymentRow :=
  db.deployments.filter (fun row => row.tenantId = tenantId &&
    row.nodeId = nodeId && row.status = "Succeeded")

/-- The instant of the first result; a deployment without one comes first. -/
def firstResultAt (row : PostgresStore.DeploymentRow) : WithBot DateTime :=
  row.finishedAt

/-- The last of the succeeded deployments to be planned is the last to finish. -/
def FinishedInOrder (tenantId nodeId : String) (db : Database) : Prop :=
  ∀ last ∈ succeededOn tenantId nodeId db,
    (∀ row ∈ succeededOn tenantId nodeId db, row.createdAt ≤ last.createdAt) →
      ∀ row ∈ succeededOn tenantId nodeId db,
        firstResultAt row ≤ firstResultAt last

/-- A plan of a new deployment, where those before finished in their order. -/
def PlansInOrder (e : PairedEntry) : Prop :=
  ∀ plan, e.op = .recordDeploymentPlan plan →
    PostgresStore.Database.hasDeployment e.before.2 plan.deploymentId = false ∧
      FinishedInOrder plan.tenantId plan.nodeId e.before.2

/-! ## What the stores have in common -/

/-- A row with the plan and the status of the same deployment. -/
structure RowMirrors
    (tenantId : String) (mem : MemoryState) (db : Database)
    (row : PostgresStore.DeploymentRow) : Prop where
  plan : ∃ plan, mem.deployments.get row.id = some plan ∧
    plan.deploymentId = row.id ∧ plan.nodeId = row.nodeId
  status : ∃ status, mem.deploymentStatuses.get row.id = some status ∧
    row.status = status.label
  tenant : row.tenantId = tenantId
  hasTenant : PostgresStore.Database.hasTenant db row.tenantId = true
  hasVersion : Table.hasKey PostgresStore.ProfileVersionRow.id
    row.profileVersionId db.profileVersions = true
  hasArtifact : PostgresStore.Database.hasArtifact db
    row.compiledConfigArtifactId = true

/-- One deployment was planned before another, by both clocks. -/
def PlannedBefore
    (mem : MemoryState) (row row' : PostgresStore.DeploymentRow) : Prop :=
  row.createdAt < row'.createdAt ∧
    ∀ plan plan', mem.deployments.get row.id = some plan →
      mem.deployments.get row'.id = some plan' →
        plan.createdAt < plan'.createdAt

structure Mirrors (tenantId : String) (s : Stores) : Prop where
  distinct : (s.2.deployments.map PostgresStore.DeploymentRow.id).Nodup
  rows : ∀ row ∈ s.2.deployments, RowMirrors tenantId s.1 s.2 row
  ordered : s.2.deployments.Pairwise (PlannedBefore s.1)
  known : ∀ deploymentId, s.1.deployments.containsKey deploymentId = true →
    PostgresStore.Database.hasDeployment s.2 deploymentId = true
  knownStatus : ∀ deploymentId,
    s.1.deploymentStatuses.containsKey deploymentId = true →
      PostgresStore.Database.hasDeployment s.2 deploymentId = true
  pointers : ∀ deploymentId,
    (s.1.rollbackPointers.get deploymentId).map
        RollbackPointerRecord.previousDeploymentId =
      (PostgresStore.rollbackPointerOf deploymentId s.2).map
        RollbackPointerRecord.previousDeploymentId
  pointerIds : ∀ pointer ∈ s.2.rollbackPointers,
    pointer.rollbackPointerId = "rollback-" ++ pointer.deploymentId ∧
      PostgresStore.Database.hasDeployment s.2 pointer.deploymentId = true

theorem label_injective
    {status status' : DeploymentStatus} (h : status.label = status'.label) :
    status = status' := by
  cases status <;> cases status' <;> first | rfl | simp [DeploymentStatus.label] at h

theorem parseDeploymentStatus_label
    (status : DeploymentStatus) :
    PostgresStore.parseDeploymentStatus status.label = status := by
  cases status <;> decide

section Agreement

variable {crates : Crates} {tenantId : String} {s : Stores}

theorem Mirrors.agree
    (h : Mirrors tenantId s) :
    StoresAgree crates tenantId s where
  status := by
    intro deploymentId t t' ht'
    rw [PostgresStore.exec_deploymentStatus ht']
    simp only [MemoryStore.exec, MemoryStore.deploymentStatus]
    cases hrow : Table.lookup PostgresStore.DeploymentRow.id deploymentId
        s.2.deployments with
    | some row =>
        obtain ⟨hmem, rfl⟩ := Table.lookup_mem _ hrow
        obtain ⟨status, hstatus, hlabel⟩ := (h.rows row hmem).status
        rw [hstatus, Option.map_some, hlabel, parseDeploymentStatus_label]
    | none =>
        have hnone := (Table.lookup_eq_none _ _ _).mp hrow
        cases hstatus : s.1.deploymentStatuses.get deploymentId with
        | none => rfl
        | some status =>
            have hknown := h.knownStatus deploymentId
              ((HashTable.containsKey_iff _ _).mpr ⟨status, hstatus⟩)
            cases hknown.symm.trans hnone
  previous := by
    intro deploymentId t t' ht'
    have hpointers := h.pointers deploymentId
    rw [PostgresStore.exec_rollbackPointer ht']
    simp only [MemoryStore.exec, MemoryStore.rollbackPointer]
    cases hdb : PostgresStore.rollbackPointerOf deploymentId s.2 with
    | none =>
        rw [hdb, Option.map_none, Option.map_eq_none_iff] at hpointers
        rw [hpointers]
    | some pointer =>
        rw [hdb, Option.map_some, Option.map_eq_some_iff] at hpointers
        obtain ⟨other, hother, hprevious⟩ := hpointers
        rw [hother]
        exact congrArg Except.ok hprevious

/-! ## The previous deployment -/

theorem maxByKey_eq_none
    {α κ : Type} [LinearOrder κ] {key : α → κ} {l : List α} :
    maxByKey key l = none ↔ l = [] := by
  cases l with
  | nil => exact iff_of_true rfl rfl
  | cons a l =>
      refine iff_of_false ?_ (List.cons_ne_nil a l)
      simp only [maxByKey]
      split
      · simp
      · split <;> simp

theorem le_of_maxByKey
    {α κ : Type} [LinearOrder κ] {key : α → κ} {l : List α} {a : α}
    (h : maxByKey key l = some a) :
    ∀ b ∈ l, key b ≤ key a := by
  induction l generalizing a with
  | nil =>
      intro b hb
      cases hb
  | cons c l ih =>
      cases hmax : maxByKey key l with
      | none =>
          obtain rfl := maxByKey_eq_none.mp hmax
          simp only [maxByKey, Option.some.injEq] at h
          simp [h]
      | some d =>
          have hd := ih hmax
          simp only [maxByKey, hmax] at h
          rw [List.forall_mem_cons]
          split_ifs at h with hlt
          · obtain rfl := Option.some.inj h
            exact ⟨le_refl _, fun b hb => (hd b hb).trans hlt.le⟩
          · obtain rfl := Option.some.inj h
            exact ⟨not_lt.mp hlt, hd⟩

theorem mem_succeededOn
    {nodeId : String} {db : Database} {row : PostgresStore.DeploymentRow} :
    row ∈ succeededOn tenantId nodeId db ↔
      row ∈ db.deployments ∧ row.tenantId = tenantId ∧ row.nodeId = nodeId ∧
        row.status = "Succeeded" := by
  simp only [succeededOn, List.mem_filter, Bool.and_eq_true, decide_eq_true_eq,
    and_assoc]

theorem Mirrors.plan_of_get
    (h : Mirrors tenantId s) {row : PostgresStore.DeploymentRow}
    (hrow : row ∈ s.2.deployments) {plan : DeploymentPlanRecord}
    (hplan : s.1.deployments.get row.id = some plan) :
    plan.deploymentId = row.id ∧ plan.nodeId = row.nodeId := by
  obtain ⟨other, hother, hid, hnode⟩ := (h.rows row hrow).plan
  obtain rfl := Option.some.inj (hother.symm.trans hplan)
  exact ⟨hid, hnode⟩

theorem Mirrors.hasSucceeded_iff
    (h : Mirrors tenantId s) {row : PostgresStore.DeploymentRow}
    (hrow : row ∈ s.2.deployments) :
    MemoryStore.hasSucceeded s.1 row.id = true ↔ row.status = "Succeeded" := by
  obtain ⟨status, hstatus, hlabel⟩ := (h.rows row hrow).status
  rw [MemoryStore.hasSucceeded, hstatus, decide_eq_true_eq, Option.some.injEq,
    hlabel]
  constructor
  · rintro rfl
    rfl
  · intro heq
    exact label_injective heq

/-- The candidates of the memory store are the plans of the succeeded rows. -/
theorem Mirrors.candidate_iff
    (h : Mirrors tenantId s) (order : IterationOrder) {nodeId : String}
    {plan : DeploymentPlanRecord} :
    plan ∈ (order.arrange s.1.deployments.values).filter (fun candidate =>
        candidate.nodeId = nodeId &&
          MemoryStore.hasSucceeded s.1 candidate.deploymentId) ↔
      ∃ row ∈ succeededOn tenantId nodeId s.2,
        s.1.deployments.get row.id = some plan := by
  rw [List.mem_filter, IterationOrder.mem_arrange, HashTable.mem_values,
    Bool.and_eq_true, decide_eq_true_eq]
  constructor
  · rintro ⟨⟨deploymentId, hplan⟩, hnode, hsucceeded⟩
    have hknown := h.known deploymentId
      ((HashTable.containsKey_iff _ _).mpr ⟨plan, hplan⟩)
    obtain ⟨row, hrow, rfl⟩ := PostgresStore.hasDeployment_iff.mp hknown
    obtain ⟨hid, hrowNode⟩ := h.plan_of_get hrow hplan
    rw [hid, h.hasSucceeded_iff hrow] at hsucceeded
    exact ⟨row, mem_succeededOn.mpr ⟨hrow, (h.rows row hrow).tenant,
      hrowNode.symm.trans hnode, hsucceeded⟩, hplan⟩
  · rintro ⟨row, hrow, hplan⟩
    obtain ⟨hrow, -, hnode, hsucceeded⟩ := mem_succeededOn.mp hrow
    obtain ⟨hid, hrowNode⟩ := h.plan_of_get hrow hplan
    refine ⟨⟨row.id, hplan⟩, hrowNode.trans hnode, ?_⟩
    rw [hid, h.hasSucceeded_iff hrow]
    exact hsucceeded

/-- Two rows of the table were planned one after the other. -/
theorem Mirrors.eq_or_before
    (h : Mirrors tenantId s) {row row' : PostgresStore.DeploymentRow}
    (hrow : row ∈ s.2.deployments) (hrow' : row' ∈ s.2.deployments) :
    row = row' ∨ PlannedBefore s.1 row row' ∨ PlannedBefore s.1 row' row := by
  by_cases heq : row = row'
  · exact .inl heq
  · have hsymm : Std.Symm fun row row' =>
        PlannedBefore s.1 row row' ∨ PlannedBefore s.1 row' row :=
      ⟨fun _ _ h => h.symm⟩
    have hordered : s.2.deployments.Pairwise fun row row' =>
        PlannedBefore s.1 row row' ∨ PlannedBefore s.1 row' row :=
      h.ordered.imp Or.inl
    exact .inr (hordered.forall hrow hrow' heq)

/-- Both stores take the same previous deployment. -/
theorem Mirrors.previous
    (h : Mirrors tenantId s) {nodeId : String}
    (hinOrder : FinishedInOrder tenantId nodeId s.2)
    (order order' : IterationOrder) :
    (MemoryStore.previousDeployment order nodeId s.1).map
        DeploymentPlanRecord.deploymentId =
      (PostgresStore.previousDeployment order' tenantId nodeId s.2).map
        PostgresStore.DeploymentRow.id := by
  have hmem : ∀ row, row ∈ (order'.arrange s.2.deployments).filter (fun row =>
      row.tenantId = tenantId && row.nodeId = nodeId &&
        row.status = "Succeeded") ↔ row ∈ succeededOn tenantId nodeId s.2 := by
    intro row
    simp only [succeededOn, List.mem_filter, IterationOrder.mem_arrange]
  cases hgreatest :
      PostgresStore.previousDeployment order' tenantId nodeId s.2 with
  | none =>
      have hempty := List.argmax_eq_none.mp hgreatest
      have hnone : MemoryStore.previousDeployment order nodeId s.1 = none := by
        refine maxByKey_eq_none.mpr (List.eq_nil_iff_forall_not_mem.mpr ?_)
        intro plan hplan
        obtain ⟨row, hrow, -⟩ := (h.candidate_iff order).mp hplan
        rw [← hmem, hempty] at hrow
        cases hrow
      rw [hnone]
      rfl
  | some last =>
      have hlast := (hmem last).mp (List.argmax_mem hgreatest)
      -- the last to finish is the last to be planned
      have hmax : ∀ row ∈ succeededOn tenantId nodeId s.2,
          row.createdAt ≤ last.createdAt := by
        intro row hrow
        cases hlatest : List.argmax PostgresStore.DeploymentRow.createdAt
            (succeededOn tenantId nodeId s.2) with
        | none =>
            rw [List.argmax_eq_none.mp hlatest] at hrow
            cases hrow
        | some latest =>
            have hlatestMem := List.argmax_mem hlatest
            have hfinished := hinOrder latest hlatestMem
              (fun row hrow => List.le_of_mem_argmax hrow hlatest) last hlast
            have hfirst : PostgresStore.finishedFirst latest ≤
                PostgresStore.finishedFirst last :=
              List.le_of_mem_argmax ((hmem latest).mpr hlatestMem) hgreatest
            rcases Prod.Lex.toLex_le_toLex.mp hfirst with hlt | ⟨-, hle⟩
            · exact absurd hlt (not_lt.mpr hfinished)
            · exact (List.le_of_mem_argmax hrow hlatest).trans hle
      obtain ⟨plan, hplan, -⟩ :=
        (h.rows last (mem_succeededOn.mp hlast).1).plan
      have hcandidate := (h.candidate_iff order).mpr
        ⟨last, hlast, hplan⟩
      cases hprevious : MemoryStore.previousDeployment order nodeId s.1 with
      | none =>
          rw [MemoryStore.previousDeployment, maxByKey_eq_none] at hprevious
          rw [hprevious] at hcandidate
          cases hcandidate
      | some found =>
          obtain ⟨row, hrow, hfound⟩ :=
            (h.candidate_iff order).mp (maxByKey_mem hprevious)
          have hle := le_of_maxByKey hprevious plan hcandidate
          have hrowMem := (mem_succeededOn.mp hrow).1
          rcases h.eq_or_before hrowMem (mem_succeededOn.mp hlast).1 with
            rfl | hbefore | hafter
          · exact congrArg some (h.plan_of_get hrowMem hfound).1
          · exact absurd (hbefore.2 found plan hfound hplan) (not_lt.mpr hle)
          · exact absurd hafter.1 (not_lt.mpr (hmax row hrow))

/-! ## One call to both stores -/

theorem Mirrors.start
    (hplans : s.1.deployments = ∅) (hstatuses : s.1.deploymentStatuses = ∅)
    (hpointers : s.1.rollbackPointers = ∅) (hrows : s.2.deployments = [])
    (hrowPointers : s.2.rollbackPointers = []) :
    Mirrors tenantId s where
  distinct := by simp [hrows]
  rows := by simp [hrows]
  ordered := by simp [hrows]
  known := by
    intro deploymentId h
    rw [hplans] at h
    cases h
  knownStatus := by
    intro deploymentId h
    rw [hstatuses] at h
    cases h
  pointers := by
    intro deploymentId
    rw [hpointers, PostgresStore.rollbackPointerOf, hrowPointers]
    rfl
  pointerIds := by simp [hrowPointers]

/-- A row keeps its plan and its status when other deployments change. -/
theorem RowMirrors.of_same
    {mem mem' : MemoryState} {db db' : Database}
    {row : PostgresStore.DeploymentRow} (h : RowMirrors tenantId mem db row)
    (hplan : mem'.deployments.get row.id = mem.deployments.get row.id)
    (hstatus : mem'.deploymentStatuses.get row.id =
      mem.deploymentStatuses.get row.id)
    (htenants : db'.tenants = db.tenants)
    (hversions : db'.profileVersions = db.profileVersions)
    (hartifacts : db'.artifacts = db.artifacts) :
    RowMirrors tenantId mem' db' row where
  plan := by rw [hplan]; exact h.plan
  status := by rw [hstatus]; exact h.status
  tenant := h.tenant
  hasTenant := by
    rw [PostgresStore.Database.hasTenant, htenants]
    exact h.hasTenant
  hasVersion := by rw [hversions]; exact h.hasVersion
  hasArtifact := by
    rw [PostgresStore.Database.hasArtifact, hartifacts]
    exact h.hasArtifact

/-- The id of the pointer of a new deployment is free. -/
theorem Mirrors.pointer_free
    (h : Mirrors tenantId s) {deploymentId : String}
    (hnew : PostgresStore.Database.hasDeployment s.2 deploymentId = false) :
    Table.hasKey RollbackPointerRecord.rollbackPointerId
        ("rollback-" ++ deploymentId) s.2.rollbackPointers = false ∧
      PostgresStore.rollbackPointerOf deploymentId s.2 = none := by
  have hother : ∀ pointer ∈ s.2.rollbackPointers,
      pointer.deploymentId ≠ deploymentId := by
    rintro pointer hpointer rfl
    cases hnew.symm.trans (h.pointerIds pointer hpointer).2
  constructor
  · rw [Bool.eq_false_iff, ne_eq, Table.hasKey_iff]
    rintro ⟨pointer, hpointer, hid⟩
    rw [(h.pointerIds pointer hpointer).1] at hid
    exact hother pointer hpointer (by simpa using hid)
  · rw [PostgresStore.rollbackPointerOf, Table.lookup_eq_none,
      Bool.eq_false_iff, ne_eq, Table.hasKey_iff]
    rintro ⟨pointer, hpointer, hid⟩
    exact hother pointer hpointer hid

theorem RowMirrors.planned
    {mem : MemoryState} {db : Database} {plan : DeploymentPlanRecord}
    {t : Tick} {t' : PostgresStore.StoreTick} {profileVersionId : String}
    {pointerId : Option String}
    (htenant : plan.tenantId = tenantId) (hrows : PostgresStore.PlanRows plan db)
    (hversion : Table.hasKey PostgresStore.ProfileVersionRow.id profileVersionId
      db.profileVersions = true) :
    RowMirrors tenantId
      (MemoryStore.exec crates tenantId (.recordDeploymentPlan plan) t mem).2
      (PostgresStore.withPlan t' plan profileVersionId db)
      { PostgresStore.plannedRow (t'.statement 2).now plan profileVersionId with
        rollbackPointerId := pointerId } where
  plan := ⟨plan, HashTable.get_insert_self _ _ _, rfl, rfl⟩
  status := ⟨.pending, HashTable.get_insert_self _ _ _, rfl⟩
  tenant := htenant
  hasTenant := hrows.tenant
  hasVersion := hversion
  hasArtifact := hrows.artifact

/-- Both stores accept the plan of a new deployment. -/
theorem Mirrors.answer_plan
    (h : Mirrors tenantId s) (crates : Crates) {plan : DeploymentPlanRecord}
    {t : Tick × PostgresStore.StoreTick} (ht : t.2.Healthy)
    (hrows : PostgresStore.PlanRows plan s.2)
    (hnew : PostgresStore.Database.hasDeployment s.2 plan.deploymentId = false) :
    ∃ version ∈ s.2.profileVersions,
      (Stores.answer crates tenantId (.recordDeploymentPlan plan) t s).2 =
        ((MemoryStore.exec crates tenantId (.recordDeploymentPlan plan) t.1
            s.1).2,
          PostgresStore.withPlan t.2 plan version.id s.2) := by
  obtain ⟨version, hversion, hexec⟩ := PostgresStore.exec_recordDeploymentPlan
    crates ht hrows hnew (h.pointer_free hnew).1
    (fun row hrow => (h.rows row hrow).hasArtifact)
  exact ⟨version, hversion, by rw [Stores.answer, hexec]⟩

/-- A plan of a new deployment, at an instant after all that are recorded. -/
theorem Mirrors.plan
    (h : Mirrors tenantId s) {plan : DeploymentPlanRecord}
    {t : Tick × PostgresStore.StoreTick} (ht : t.2.Healthy)
    (htenant : plan.tenantId = tenantId)
    (hrows : PostgresStore.PlanRows plan s.2)
    (hnew : PostgresStore.Database.hasDeployment s.2 plan.deploymentId = false)
    (hinOrder : FinishedInOrder plan.tenantId plan.nodeId s.2)
    (hlaterRow : ∀ row ∈ s.2.deployments,
      row.createdAt < (t.2.statement 2).now)
    (hlaterPlan : ∀ deploymentId earlier,
      s.1.deployments.get deploymentId = some earlier →
        earlier.createdAt < plan.createdAt) :
    Mirrors tenantId
      (Stores.answer crates tenantId (.recordDeploymentPlan plan) t s).2 := by
  subst htenant
  have hpointer := (h.pointer_free hnew).2
  obtain ⟨version, hversion, hstores⟩ := h.answer_plan crates ht hrows
    hnew
  have hdeployments := PostgresStore.deployments_withPlan t.2 version.id
    hnew
  have hother : ∀ row ∈ s.2.deployments, row.id ≠ plan.deploymentId := by
    intro row hrow hid
    have hhas := PostgresStore.hasDeployment_iff.mpr ⟨row, hrow, hid⟩
    cases hnew.symm.trans hhas
  set mem := (MemoryStore.exec crates plan.tenantId
    (.recordDeploymentPlan plan) t.1 s.1).2 with hmem
  set db := PostgresStore.withPlan t.2 plan version.id s.2 with hdb
  have hget : ∀ row ∈ s.2.deployments,
      mem.deployments.get row.id = s.1.deployments.get row.id :=
    fun row hrow => HashTable.get_insert_of_ne _ _ (hother row hrow)
  have hgetStatus : ∀ row ∈ s.2.deployments,
      mem.deploymentStatuses.get row.id = s.1.deploymentStatuses.get row.id :=
    fun row hrow => HashTable.get_insert_of_ne _ _ (hother row hrow)
  have hnow : mem.deployments.get plan.deploymentId = some plan :=
    HashTable.get_insert_self _ _ _
  have hhas : ∀ deploymentId,
      PostgresStore.Database.hasDeployment db deploymentId = true ↔
        PostgresStore.Database.hasDeployment s.2 deploymentId = true ∨
          plan.deploymentId = deploymentId := by
    intro deploymentId
    simp only [PostgresStore.hasDeployment_iff, hdeployments, List.mem_append,
      List.mem_singleton, or_and_right, exists_or, exists_eq_left]
    rfl
  rw [hstores]
  refine ⟨?_, ?_, ?_, ?_, ?_, ?_, ?_⟩
  · rw [hdeployments, List.map_append, List.nodup_append]
    refine ⟨h.distinct, List.nodup_singleton _, ?_⟩
    intro deploymentId hid
    obtain ⟨row, hrow, rfl⟩ := List.mem_map.mp hid
    simpa [PostgresStore.plannedRow] using hother row hrow
  · rw [hdeployments]
    simp only [List.forall_mem_append, List.forall_mem_singleton]
    refine ⟨fun row hrow => ?_, ?_⟩
    · exact (h.rows row hrow).of_same (hget row hrow) (hgetStatus row hrow)
        rfl rfl rfl
    · exact .planned rfl hrows ((Table.hasKey_iff _ _ _).mpr
        ⟨version, hversion, rfl⟩)
  · rw [hdeployments, List.pairwise_append]
    refine ⟨?_, List.pairwise_singleton _ _, ?_⟩
    · refine h.ordered.imp_of_mem ?_
      intro row row' hrow hrow' hbefore
      refine ⟨hbefore.1, fun earlier later hearlier hlater => ?_⟩
      exact hbefore.2 earlier later ((hget row hrow).symm.trans hearlier)
        ((hget row' hrow').symm.trans hlater)
    · intro row hrow last hlast
      obtain rfl := List.mem_singleton.mp hlast
      refine ⟨hlaterRow row hrow, fun earlier later hearlier hlater => ?_⟩
      obtain rfl := Option.some.inj (hnow.symm.trans hlater)
      exact hlaterPlan row.id earlier ((hget row hrow).symm.trans hearlier)
  · intro deploymentId hkey
    have hinsert := (HashTable.containsKey_insert _ _ _ _).symm.trans hkey
    rw [Bool.or_eq_true, decide_eq_true_eq] at hinsert
    exact (hhas deploymentId).mpr
      (hinsert.symm.imp (h.known deploymentId) Eq.symm)
  · intro deploymentId hkey
    have hinsert := (HashTable.containsKey_insert _ _ _ _).symm.trans hkey
    rw [Bool.or_eq_true, decide_eq_true_eq] at hinsert
    exact (hhas deploymentId).mpr
      (hinsert.symm.imp (h.knownStatus deploymentId) Eq.symm)
  · intro deploymentId
    have hlookup : PostgresStore.rollbackPointerOf deploymentId db =
        (PostgresStore.rollbackPointerOf deploymentId s.2).or
          (if plan.deploymentId = deploymentId then
            some (PostgresStore.pointerOf t.2 plan s.2) else none) :=
      Table.lookup_append_single _ _ _ _
    have hinsert : mem.rollbackPointers.get deploymentId =
        if deploymentId = plan.deploymentId then _ else
          s.1.rollbackPointers.get deploymentId :=
      HashTable.get_insert _ _ _ _
    rw [hlookup, hinsert]
    by_cases hid : deploymentId = plan.deploymentId
    · subst hid
      rw [if_pos rfl, if_pos rfl, hpointer, Option.none_or]
      exact congrArg some (h.previous hinOrder _ _)
    · rw [if_neg hid, if_neg (Ne.symm hid), Option.or_none]
      exact h.pointers deploymentId
  · intro pointer hpointer
    rcases List.mem_append.mp hpointer with hold | hpointer
    · obtain ⟨hid, hknown⟩ := h.pointerIds pointer hold
      exact ⟨hid, (hhas _).mpr (.inl hknown)⟩
    · obtain rfl := List.mem_singleton.mp hpointer
      exact ⟨rfl, (hhas _).mpr (.inr rfl)⟩

/-- The row of each deployment after a result. -/
theorem RowMirrors.finished
    {mem mem' : MemoryState} {db : Database} {row : PostgresStore.DeploymentRow}
    (h : RowMirrors tenantId mem db row) {plan : DeploymentPlanRecord}
    {result : DeploymentResult} {t : PostgresStore.StoreTick} {now : DateTime}
    (hdeployments : mem'.deployments = mem.deployments)
    (hstatuses : mem'.deploymentStatuses =
      mem.deploymentStatuses.insert result.deploymentId result.status) :
    RowMirrors tenantId mem' (PostgresStore.withResult crates t plan result db)
      (PostgresStore.finishedRow now result row) := by
  unfold PostgresStore.finishedRow
  split_ifs with hid
  · refine ⟨?_, ?_, h.tenant, h.hasTenant, h.hasVersion, h.hasArtifact⟩
    · rw [hdeployments]
      exact h.plan
    · rw [hstatuses, hid]
      exact ⟨result.status, HashTable.get_insert_self _ _ _, rfl⟩
  · refine h.of_same (by rw [hdeployments]) ?_ rfl rfl rfl
    rw [hstatuses]
    exact HashTable.get_insert_of_ne _ _ hid

/-- The plan that the database reads back for a deployment that is there. -/
theorem Mirrors.deploymentPlan
    (h : Mirrors tenantId s) {row : PostgresStore.DeploymentRow}
    (hrow : row ∈ s.2.deployments) :
    ∃ plan, PostgresStore.deploymentPlan row.id s.2 = some plan ∧
      PostgresStore.Database.hasTenant s.2 plan.tenantId = true := by
  have hversion := (h.rows row hrow).hasVersion
  rw [Table.hasKey_eq_isSome, Option.isSome_iff_exists] at hversion
  obtain ⟨version, hversion⟩ := hversion
  have hlookup := Table.lookup_of_mem PostgresStore.DeploymentRow.id h.distinct
    hrow
  rw [PostgresStore.deploymentPlan, hlookup, Option.bind_some,
    PostgresStore.joinDeployment, hversion]
  exact ⟨_, rfl, (h.rows row hrow).hasTenant⟩

/-- Both stores refuse a result for a deployment that was never planned, and
both record any other. -/
theorem Mirrors.answer_result
    (h : Mirrors tenantId s) (crates : Crates) (result : DeploymentResult)
    {t : Tick × PostgresStore.StoreTick} (ht : t.2.Healthy) :
    (Stores.answer crates tenantId (.recordDeploymentResult result) t s).2 = s ∨
      PostgresStore.Database.hasDeployment s.2 result.deploymentId = true ∧
        ∃ stored mem,
          (Stores.answer crates tenantId (.recordDeploymentResult result) t
              s).2 =
            (mem, PostgresStore.withResult crates t.2 stored result s.2) ∧
          mem.deployments = s.1.deployments ∧
          mem.deploymentStatuses =
            s.1.deploymentStatuses.insert result.deploymentId result.status ∧
          mem.rollbackPointers = s.1.rollbackPointers := by
  cases hplan : s.1.deployments.get result.deploymentId with
  | none =>
      have hmissing :
          PostgresStore.deploymentPlan result.deploymentId s.2 = none := by
        rw [Option.eq_none_iff_forall_not_mem]
        intro other hother
        obtain ⟨row, hrow, hid, -, -⟩ :=
          PostgresStore.exists_of_deploymentPlan hother
        obtain ⟨plan, hget, -⟩ := (h.rows row hrow).plan
        rw [hid, hplan] at hget
        cases hget
      left
      simp only [Stores.answer, MemoryStore.exec,
        MemoryStore.recordDeploymentResult, hplan,
        PostgresStore.exec_recordDeploymentResult_missing ht hmissing]
  | some plan =>
      have hknown := h.known result.deploymentId
        ((HashTable.containsKey_iff _ _).mpr ⟨plan, hplan⟩)
      obtain ⟨row, hrow, hid⟩ := PostgresStore.hasDeployment_iff.mp hknown
      obtain ⟨stored, hstored, htenant⟩ := h.deploymentPlan hrow
      rw [hid] at hstored
      refine .inr ⟨hknown, stored, (MemoryStore.exec crates tenantId
        (.recordDeploymentResult result) t.1 s.1).2, ?_, ?_⟩
      · rw [Stores.answer,
          PostgresStore.exec_recordDeploymentResult ht hstored htenant]
      · simp only [MemoryStore.exec, MemoryStore.recordDeploymentResult, hplan]
        exact ⟨rfl, rfl, rfl⟩

theorem Mirrors.result
    (h : Mirrors tenantId s) (result : DeploymentResult)
    {t : Tick × PostgresStore.StoreTick} (ht : t.2.Healthy) :
    Mirrors tenantId
      (Stores.answer crates tenantId (.recordDeploymentResult result) t s).2 := by
  rcases h.answer_result crates result ht with hsame |
    ⟨hknown, stored, mem, hstores, hplans, hstatuses, hpointers⟩
  · rw [hsame]
    exact h
  set db := PostgresStore.withResult crates t.2 stored result s.2 with hdb
  have hdeployments : db.deployments = _ :=
    PostgresStore.deployments_withResult stored result
  have hhas : ∀ deploymentId,
      PostgresStore.Database.hasDeployment db deploymentId =
        PostgresStore.Database.hasDeployment s.2 deploymentId :=
    fun deploymentId => PostgresStore.hasDeployment_finishDeployment _ _ _ _ _
  rw [hstores]
  refine ⟨?_, ?_, ?_, ?_, ?_, ?_, ?_⟩
  · rw [hdeployments, List.map_map]
    simp only [Function.comp_def, PostgresStore.finishedRow_id]
    exact h.distinct
  · rw [hdeployments, List.forall_mem_map]
    exact fun row hrow => (h.rows row hrow).finished hplans hstatuses
  · rw [hdeployments, List.pairwise_map]
    refine h.ordered.imp fun hbefore => ?_
    simpa only [PlannedBefore, PostgresStore.finishedRow_id,
      PostgresStore.finishedRow_createdAt, hplans] using hbefore
  · intro deploymentId hkey
    rw [hhas]
    exact h.known deploymentId (by rwa [← hplans])
  · intro deploymentId hkey
    rw [hstatuses, HashTable.containsKey_insert, Bool.or_eq_true,
      decide_eq_true_eq] at hkey
    rw [hhas]
    rcases hkey with rfl | hold
    · exact hknown
    · exact h.knownStatus deploymentId hold
  · intro deploymentId
    rw [hpointers]
    exact h.pointers deploymentId
  · intro pointer hpointer
    obtain ⟨hid, hknown⟩ := h.pointerIds pointer hpointer
    exact ⟨hid, (hhas _).trans hknown⟩

/-! ## The instants on record -/

/-- Every instant on record was read off a clock by one of the calls. -/
structure ReadBy (log : List PairedEntry) (s : Stores) : Prop where
  rows : ∀ row ∈ s.2.deployments, ∃ e ∈ log, row.createdAt ∈ readings e
  plans : ∀ deploymentId plan, s.1.deployments.get deploymentId = some plan →
    ∃ e ∈ log, plan.createdAt ∈ readings e

theorem ReadBy.mono
    {log log' : List PairedEntry} (h : ReadBy log s) (hlog : log ⊆ log') :
    ReadBy log' s where
  rows := fun row hrow =>
    (h.rows row hrow).imp fun _ he => ⟨hlog he.1, he.2⟩
  plans := fun deploymentId plan hplan =>
    (h.plans deploymentId plan hplan).imp fun _ he => ⟨hlog he.1, he.2⟩

theorem ReadBy.plan
    {log : List PairedEntry} (h : ReadBy log s) (hmirrors : Mirrors tenantId s)
    {plan : DeploymentPlanRecord} {t : Tick × PostgresStore.StoreTick}
    (ht : t.2.Healthy) (hrows : PostgresStore.PlanRows plan s.2)
    (hnew : PostgresStore.Database.hasDeployment s.2 plan.deploymentId = false) :
    ReadBy (log ++ [⟨.recordDeploymentPlan plan, t, s⟩])
      (Stores.answer crates tenantId (.recordDeploymentPlan plan) t s).2 := by
  have hlast : (⟨.recordDeploymentPlan plan, t, s⟩ : PairedEntry) ∈
      log ++ [⟨.recordDeploymentPlan plan, t, s⟩] := by
    simp
  have hold := h.mono (List.subset_append_left log
    [(⟨.recordDeploymentPlan plan, t, s⟩ : PairedEntry)])
  obtain ⟨version, -, hstores⟩ := hmirrors.answer_plan crates ht hrows
    hnew
  rw [hstores]
  constructor
  · rw [PostgresStore.deployments_withPlan t.2 version.id hnew]
    simp only [List.forall_mem_append, List.forall_mem_singleton]
    exact ⟨hold.rows, _, hlast, .inr ⟨2, rfl⟩⟩
  · intro deploymentId other hother
    have hinsert := (HashTable.get_insert _ _ _ _).symm.trans hother
    split_ifs at hinsert with hid
    · obtain rfl := Option.some.inj hinsert
      exact ⟨_, hlast, .inl ⟨plan, rfl, rfl⟩⟩
    · exact hold.plans deploymentId other hinsert

theorem ReadBy.result
    {log : List PairedEntry} (h : ReadBy log s) (hmirrors : Mirrors tenantId s)
    {result : DeploymentResult} {t : Tick × PostgresStore.StoreTick}
    (ht : t.2.Healthy) :
    ReadBy log
      (Stores.answer crates tenantId (.recordDeploymentResult result) t s).2 := by
  rcases hmirrors.answer_result crates result ht with hsame |
    ⟨-, stored, mem, hstores, hplans, -, -⟩
  · rw [hsame]
    exact h
  · rw [hstores]
    refine ⟨?_, hplans ▸ h.plans⟩
    rw [PostgresStore.deployments_withResult, List.forall_mem_map]
    simpa only [PostgresStore.finishedRow_createdAt] using h.rows

end Agreement

/-! ## Runs -/

/-- Stores that have not recorded a deployment yet. -/
structure NoDeployments (s : Stores) : Prop where
  plans : s.1.deployments = ∅
  statuses : s.1.deploymentStatuses = ∅
  pointers : s.1.rollbackPointers = ∅
  rows : s.2.deployments = []
  rowPointers : s.2.rollbackPointers = []

/--
The stores agree after every step of a run in which no plan repeats a
deployment and the deployments of a node finish in the order of their plans.
-/
theorem stores_agree_on_deployments
    (crates : Crates) (tenantId : String)
    {s₀ s : Stores} {log : List PairedEntry} (hstart : NoDeployments s₀)
    (h : Program.Sequence (Stores.answer crates tenantId) s₀ log s)
    (hrecords : ∀ e ∈ log, RecordsDeployment tenantId e)
    (hclock : ClockIncreases log) (horder : ∀ e ∈ log, PlansInOrder e) :
    StoresAgree crates tenantId s ∧
      ∀ e ∈ log, StoresAgree crates tenantId e.before := by
  suffices hrun : (Mirrors tenantId s ∧ ReadBy log s) ∧
      ∀ e ∈ log, StoresAgree crates tenantId e.before from
    ⟨hrun.1.1.agree, hrun.2⟩
  induction h with
  | start =>
      obtain ⟨hplans, hstatuses, hpointers, hrows, hrowPointers⟩ := hstart
      refine ⟨⟨.start hplans hstatuses hpointers hrows hrowPointers, ?_, ?_⟩,
        by simp⟩
      · simp [hrows]
      · simp [hplans]
  | @call log s h op t ih =>
      simp only [List.forall_mem_append, List.forall_mem_singleton] at *
      obtain ⟨hclock, -, hlater⟩ := List.pairwise_append.mp hclock
      obtain ⟨⟨hmirrors, hread⟩, hlog⟩ := ih hrecords.1 hclock horder.1
      refine ⟨?_, hlog, hmirrors.agree⟩
      obtain ⟨ht, hop⟩ := hrecords.2
      -- every instant on record is before those that this call reads
      have hbefore : ∀ instant, (∃ e ∈ log, instant ∈ readings e) →
          ∀ later ∈ readings ⟨op, t, s⟩, instant < later := by
        rintro instant ⟨e, he, hinstant⟩ later hreads
        exact hlater e he _ (List.mem_singleton_self _) instant hinstant later
          hreads
      cases op with
      | recordDeploymentPlan plan =>
          obtain ⟨htenant, hrows⟩ := hop
          obtain ⟨hnew, hinOrder⟩ := horder.2 plan rfl
          refine ⟨hmirrors.plan ht htenant hrows hnew hinOrder ?_ ?_,
            hread.plan hmirrors ht hrows hnew⟩
          · intro row hrow
            exact hbefore _ (hread.rows row hrow) _ (.inr ⟨2, rfl⟩)
          · intro deploymentId earlier hearlier
            exact hbefore _ (hread.plans deploymentId earlier hearlier) _
              (.inl ⟨plan, rfl, rfl⟩)
      | recordDeploymentResult result =>
          exact ⟨hmirrors.result result ht, (hread.result hmirrors ht).mono
            (List.subset_append_left _ _)⟩
      | _ => exact hop.elim

/-! ### A deployment that is planned again -/

instance (plan : DeploymentPlanRecord) (db : Database) :
    Decidable (PostgresStore.PlanRows plan db) :=
  decidable_of_iff (PostgresStore.Database.hasTenant db plan.tenantId = true ∧
      PostgresStore.Database.hasNode db plan.nodeId = true ∧
      (PostgresStore.latestProfileVersion plan.profileId db).isSome = true ∧
      PostgresStore.Database.hasArtifact db plan.compiledConfigArtifactId =
        true)
    ⟨fun h => ⟨h.1, h.2.1, h.2.2.1, h.2.2.2⟩,
      fun h => ⟨h.tenant, h.node, h.version, h.artifact⟩⟩

/-- A database with a node, a profile and an artifact. -/
def preparedDatabase : Database :=
  [ StoreCall.registerNode (.new "tenant" "node" "node.example" "1.8.0" ⟨0, 0⟩),
    .createProfile ⟨"tenant", "profile",
      .vlessRealityExample "group" "reality/key", ⟨0, 0⟩⟩,
    .recordArtifact (.fromBytes referenceCrates "artifact" ⟨0, 0⟩ "tenant"
      .compiledXrayConfig "application/json" [1] "compiler-xray") ].foldl
    (fun db op => (PostgresStore.exec referenceCrates op
      (PostgresStore.referenceStoreTick 0 "p") db).2) .empty

def preparedStores : Stores :=
  (.default, preparedDatabase)

def planOf (deploymentId : String) (secs : ℤ) : DeploymentPlanRecord :=
  ⟨"tenant", deploymentId, "node", "profile", "artifact", ⟨secs, 0⟩⟩

/-- A deployment succeeds, and another plan is recorded after it. -/
def plannedAfter (deploymentId : String) : List (StoreCall × ℤ) :=
  [ (.recordDeploymentPlan (planOf "first" 10), 10),
    (.recordDeploymentResult ⟨"first", .succeeded, "", "", ⟨20, 0⟩⟩, 20),
    (.recordDeploymentPlan (planOf deploymentId 30), 30) ]

def pairedCalls (deploymentId : String) :
    List (StoreCall × Tick × PostgresStore.StoreTick) :=
  (plannedAfter deploymentId).map (fun call => (call.1,
    referenceTick call.2 "m", PostgresStore.referenceStoreTick call.2 "p"))

def pairedLog (deploymentId : String) : List PairedEntry :=
  Program.entriesFrom (Stores.answer referenceCrates "tenant")
    (pairedCalls deploymentId) preparedStores

def pairedStores (deploymentId : String) : Stores :=
  (pairedCalls deploymentId).foldl
    (fun s call => (Stores.answer referenceCrates "tenant" call.1 call.2 s).2)
    preparedStores

theorem pairedRun (deploymentId : String) :
    Program.Sequence (Stores.answer referenceCrates "tenant") preparedStores
      (pairedLog deploymentId) (pairedStores deploymentId) :=
  Program.Sequence.start.callAll (pairedCalls deploymentId)

theorem preparedStores_empty : NoDeployments preparedStores :=
  ⟨rfl, rfl, rfl, by decide +kernel, by decide +kernel⟩

/-- The second at which a call is made. -/
def PairedEntry.secs (e : PairedEntry) : ℤ :=
  (e.choice.2.statement 0).now.secs

theorem readings_secs
    {e : PairedEntry} {stem : String} {secs : ℤ}
    (htick : e.choice.2 = PostgresStore.referenceStoreTick secs stem)
    (hplan : ∀ plan, e.op = .recordDeploymentPlan plan →
      plan.createdAt.secs = secs) :
    ∀ instant ∈ readings e, instant.secs = e.secs := by
  have hsecs : e.secs = secs := by
    rw [PairedEntry.secs, htick]
    rfl
  rintro instant (⟨plan, hop, rfl⟩ | ⟨k, rfl⟩)
  · exact (hplan plan hop).trans hsecs.symm
  · rw [hsecs, htick]
    rfl

theorem clockIncreases_of_secs
    {log : List PairedEntry}
    (hsecs : ∀ e ∈ log, ∀ instant ∈ readings e, instant.secs = e.secs)
    (hincreasing : log.Pairwise (fun e e' => e.secs < e'.secs)) :
    ClockIncreases log := by
  refine hincreasing.imp_of_mem ?_
  intro e e' he he' hlt instant hinstant later hlater
  refine Prod.Lex.toLex_lt_toLex.mpr (.inl ?_)
  rw [hsecs e he instant hinstant, hsecs e' he' later hlater]
  exact hlt

theorem pairedLog_clock (deploymentId : String) :
    ClockIncreases (pairedLog deploymentId) := by
  refine clockIncreases_of_secs ?_ ?_
  · simp only [pairedLog, pairedCalls, plannedAfter, List.map_cons,
      List.map_nil, Program.entriesFrom, List.forall_mem_cons]
    refine ⟨readings_secs rfl ?_, readings_secs rfl ?_, readings_secs rfl ?_, ?_⟩
    · rintro plan ⟨⟩
      rfl
    · rintro plan ⟨⟩
    · rintro plan ⟨⟩
      rfl
    · simp
  · simp only [pairedLog, pairedCalls, plannedAfter, List.map_cons,
      List.map_nil, Program.entriesFrom]
    refine .cons ?_ (.cons ?_ (.cons ?_ .nil))
    all_goals simp [PairedEntry.secs, PostgresStore.referenceStoreTick]

theorem planRows_of_first
    {db : Database} (deploymentId : String) (secs : ℤ)
    (h : PostgresStore.PlanRows (planOf "first" 10) db) :
    PostgresStore.PlanRows (planOf deploymentId secs) db :=
  ⟨h.tenant, h.node, h.version, h.artifact⟩

theorem pairedLog_records (deploymentId : String) :
    ∀ e ∈ pairedLog deploymentId, RecordsDeployment "tenant" e := by
  simp only [pairedLog, pairedCalls, plannedAfter, List.map_cons, List.map_nil,
    Program.entriesFrom, List.forall_mem_cons]
  refine ⟨⟨fun _ => rfl, rfl, planRows_of_first _ _ ?_⟩,
    ⟨fun _ => rfl, trivial⟩,
    ⟨fun _ => rfl, rfl, planRows_of_first _ _ ?_⟩, ?_⟩
  · decide +kernel
  · dsimp only
    decide +kernel
  · simp

instance (tenantId nodeId : String) (db : Database) :
    Decidable (FinishedInOrder tenantId nodeId db) :=
  inferInstanceAs (Decidable (∀ last ∈ succeededOn tenantId nodeId db,
    (∀ row ∈ succeededOn tenantId nodeId db, row.createdAt ≤ last.createdAt) →
      ∀ row ∈ succeededOn tenantId nodeId db,
        firstResultAt row ≤ firstResultAt last))

/-- Another deployment is planned after the first, and takes it as previous. -/
theorem stores_agree_on_deployments_second :
    StoresAgree referenceCrates "tenant" (pairedStores "second") ∧
      ((PostgresStore.exec referenceCrates (.rollbackPointer "second")
          (PostgresStore.referenceStoreTick 40 "p")
          (pairedStores "second").2).1.toOption.bind
        RollbackPointerRecord.previousDeploymentId) = some "first" := by
  refine ⟨(stores_agree_on_deployments referenceCrates "tenant"
    preparedStores_empty (pairedRun "second") (pairedLog_records "second")
    (pairedLog_clock "second") ?_).1, by decide +kernel⟩
  simp only [pairedLog, pairedCalls, plannedAfter, List.map_cons, List.map_nil,
    Program.entriesFrom, List.forall_mem_cons]
  refine ⟨?_, ?_, ?_, by simp⟩
  · rintro plan ⟨⟩
    decide +kernel
  · rintro plan ⟨⟩
  · rintro plan ⟨⟩
    decide +kernel

/-- The memory store starts the deployment anew; the database leaves it alone. -/
theorem stores_disagree_on_repeated_plan :
    ¬ ∀ (s₀ s : Stores) (log : List PairedEntry), NoDeployments s₀ →
      Program.Sequence (Stores.answer referenceCrates "tenant") s₀ log s →
        (∀ e ∈ log, RecordsDeployment "tenant" e) → ClockIncreases log →
          StoresAgree referenceCrates "tenant" s ∧
            ∀ e ∈ log, StoresAgree referenceCrates "tenant" e.before := by
  intro hclaim
  have hagree := (hclaim _ _ _ preparedStores_empty (pairedRun "first")
    (pairedLog_records "first") (pairedLog_clock "first")).1
  have hstatus := hagree.status "first" (referenceTick 40 "m")
    (PostgresStore.referenceStoreTick 40 "p") (fun _ => rfl)
  have hmemory : (MemoryStore.exec referenceCrates "tenant"
      (.deploymentStatus "first") (referenceTick 40 "m")
      (pairedStores "first").1).1.toOption = some .pending := by
    decide +kernel
  have hdatabase : (PostgresStore.exec referenceCrates
      (.deploymentStatus "first") (PostgresStore.referenceStoreTick 40 "p")
      (pairedStores "first").2).1.toOption = some .succeeded := by
    decide +kernel
  rw [hstatus, hdatabase] at hmemory
  cases hmemory

end ProxyControl
