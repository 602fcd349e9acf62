import ProxyControl.Storage.PostgresStore

/-!
# What statements and methods leave alone

A statement writes at most one table (`Statement.apply_frame`).
-/

namespace ProxyControl

open Effects

namespace PostgresStore

inductive TableName
  | tenants | nodes | nodeIdentities | nodeRegistrationTokens
  | nodeCapabilities | runnerSessions | runnerCommands | nodeHeartbeats
  | profiles | profileVersions | clients | secrets | credentials
  | profileCredentials | credentialQuotas | artifacts | artifactBlobs
  | deployments | rollbackPointers | deploymentSnapshots
  | deploymentHealthChecks | eventOutbox | idempotencyKeys | usageRecords
  | usageRollups | subscriptionTokens | subscriptionAccessLogs | auditEvents
deriving DecidableEq

abbrev TableName.Row : TableName → Type
  | tenants => String
  | nodes => NodeRow
  | nodeIdentities => NodeIdentityRow
  | nodeRegistrationTokens => NodeRegistrationTokenRecord
  | nodeCapabilities => NodeCapabilitiesRow
  | runnerSessions => RunnerSessionRow
  | runnerCommands => RunnerCommandRow
  | nodeHeartbeats => HeartbeatRow
  | profiles => ProfileRow
  | profileVersions => ProfileVersionRow
  | clients => ClientRow
  | secrets => SecretRow
  | credentials => CredentialRow
  | profileCredentials => ProfileCredentialRow
  | credentialQuotas => CredentialQuotaRow
  | artifacts => Artifact
  | artifactBlobs => ArtifactBlobRow
  | deployments => DeploymentRow
  | rollbackPointers => RollbackPointerRecord
  | deploymentSnapshots => DeploymentSnapshotRow
  | deploymentHealthChecks => HealthCheckRow
  | eventOutbox => OutboxEventRecord
  | idempotencyKeys => IdempotencyKeyRow
  | usageRecords => UsageSampleRecord
  | usageRollups => UsageRollupRecord
  | subscriptionTokens => SubscriptionTokenRecord
  | subscriptionAccessLogs => SubscriptionAccessLogRecord
  | auditEvents => AuditEventRecord

/-- The rows of a table. -/
def Database.rows (db : Database) : (name : TableName) → Table name.Row
  | .tenants => db.tenants
  | .nodes => db.nodes
  | .nodeIdentities => db.nodeIdentities
  | .nodeRegistrationTokens => db.nodeRegistrationTokens
  | .nodeCapabilities => db.nodeCapabilities
  | .runnerSessions => db.runnerSessions
  | .runnerCommands => db.runnerCommands
  | .nodeHeartbeats => db.nodeHeartbeats
  | .profiles => db.profiles
  | .profileVersions => db.profileVersions
  | .clients => db.clients
  | .secrets => db.secrets
  | .credentials => db.credentials
  | .profileCredentials => db.profileCredentials
  | .credentialQuotas => db.credentialQuotas
  | .artifacts => db.artifacts
  | .artifactBlobs => db.artifactBlobs
  | .deployments => db.deployments
  | .rollbackPointers => db.rollbackPointers
  | .deploymentSnapshots => db.deploymentSnapshots
  | .deploymentHealthChecks => db.deploymentHealthChecks
  | .eventOutbox => db.eventOutbox
  | .idempotencyKeys => db.idempotencyKeys
  | .usageRecords => db.usageRecords
  | .usageRollups => db.usageRollups
  | .subscriptionTokens => db.subscriptionTokens
  | .subscriptionAccessLogs => db.subscriptionAccessLogs
  | .auditEvents => db.auditEvents

/-- The table that a statement writes. -/
def Statement.writes : Statement → Option TableName
  | .insertTenant _ => some .tenants
  | .upsertNode .. => some .nodes
  | .insertNodeCapabilities .. => some .nodeCapabilities
  | .registerNodeIdentity .. | .replaceNodeKey .. => some .nodeIdentities
  | .insertRegistrationToken _ | .useRegistrationToken .. =>
      some .nodeRegistrationTokens
  | .insertRunnerSession .. => some .runnerSessions
  | .insertHeartbeat .. => some .nodeHeartbeats
  | .insertProfile .. => some .profiles
  | .insertProfileVersion .. => some .profileVersions
  | .upsertClient _ => some .clients
  | .upsertSecret _ => some .secrets
  | .upsertCredential .. | .setCredentialExpiry .. => some .credentials
  | .insertProfileCredential .. => some .profileCredentials
  | .upsertCredentialQuota .. => some .credentialQuotas
  | .insertArtifact _ => some .artifacts
  | .insertArtifactBlob .. => some .artifactBlobs
  | .insertDeployment .. | .setRollbackPointer .. | .finishDeployment .. =>
      some .deployments
  | .insertRollbackPointer _ => some .rollbackPointers
  | .upsertDeploymentSnapshot _ => some .deploymentSnapshots
  | .insertHealthCheck _ => some .deploymentHealthChecks
  | .insertUsageRecord _ => some .usageRecords
  | .addUsageRollup _ => some .usageRollups
  | .insertRunnerCommand .. | .skipRunnerCommands .. | .leaseRunnerCommand .. =>
      some .runnerCommands
  | .insertSubscriptionToken .. | .rotateSubscriptionTokens _ =>
      some .subscriptionTokens
  | .insertAccessLog .. => some .subscriptionAccessLogs
  | .insertAuditEvent .. => some .auditEvents
  | .insertOutboxEvent .. => some .eventOutbox
  | .insertIdempotencyKey .. => some .idempotencyKeys
  | _ => none

/-- Every table but one is as before, unless the result is an error. -/
def WritesOnly
    {β : Type} (name : TableName) (db : Database) (g : β → Database)
    (result : Except StoreError β) : Prop :=
  ∀ b, result = .ok b →
    ∀ other, other ≠ name → Database.rows (g b) other = Database.rows db other

section WritesOnly

variable {α β : Type} {name : TableName} {db : Database} {g : β → Database}

theorem writesOnly_ok
    {b : β}
    (h : ∀ other, other ≠ name →
      Database.rows (g b) other = Database.rows db other) :
    WritesOnly name db g (.ok b) := by
  intro b' heq
  obtain rfl := Except.ok.inj heq
  exact h

theorem writesOnly_bind
    {result : Except StoreError α} {f : α → Except StoreError β}
    (h : ∀ a, WritesOnly name db g (f a)) :
    WritesOnly name db g (result >>= f) := by
  cases result with
  | ok a => exact h a
  | error e =>
      intro b heq
      cases heq

theorem writesOnly_execute
    {result : Except StoreError Database} (h : WritesOnly name db id result) :
    WritesOnly name db Prod.snd (execute result) := by
  cases result with
  | ok db' => exact writesOnly_ok (h db' rfl)
  | error e =>
      intro b heq
      cases heq

end WritesOnly

theorem Statement.apply_writesOnly
    (s : Statement) (t : StatementTick) (db : Database)
    {name : TableName} (hname : s.writes = some name) :
    WritesOnly name db Prod.snd (s.apply t db) := by
  cases s <;> cases hname <;> simp only [Statement.apply]
  all_goals try apply writesOnly_execute
  all_goals
    simp only [PostgresStore.insertTenant, PostgresStore.upsertNode,
      PostgresStore.insertNodeCapabilities, upsertNodeIdentity,
      PostgresStore.insertRegistrationToken, PostgresStore.useRegistrationToken,
      PostgresStore.insertRunnerSession, PostgresStore.insertHeartbeat,
      PostgresStore.insertProfile, PostgresStore.insertProfileVersion,
      PostgresStore.upsertClient, PostgresStore.upsertSecret,
      PostgresStore.upsertCredential, PostgresStore.insertProfileCredential,
      expireCredential, PostgresStore.upsertCredentialQuota,
      PostgresStore.insertArtifact, PostgresStore.insertArtifactBlob,
      PostgresStore.insertDeployment, PostgresStore.insertRollbackPointer,
      PostgresStore.setRollbackPointer, PostgresStore.finishDeployment,
      PostgresStore.upsertDeploymentSnapshot, PostgresStore.insertHealthCheck,
      PostgresStore.insertUsageRecord, PostgresStore.addUsageRollup,
      PostgresStore.insertRunnerCommand, PostgresStore.skipRunnerCommands,
      leaseRow, PostgresStore.insertSubscriptionToken,
      PostgresStore.rotateSubscriptionTokens, PostgresStore.insertAccessLog,
      PostgresStore.insertAuditEvent, PostgresStore.insertOutboxEvent,
      PostgresStore.insertIdempotencyKey]
  all_goals
    repeat' first
      | refine writesOnly_bind (fun _ => ?_)
      | split
  all_goals
    refine writesOnly_ok ?_
    intro other hother
    cases other <;> first | rfl | exact absurd rfl hother

theorem Statement.apply_reads
    {s : Statement} {t : StatementTick} {db db' : Database} {value : s.Value}
    (hreads : s.writes = none) (h : s.apply t db = .ok (value, db')) :
    db' = db := by
  cases s <;> cases hreads
  case usedBytes credentialId =>
    simp only [Statement.apply] at h
    cases hused : usedBytesOf credentialId db with
    | ok used =>
        rw [hused] at h
        exact (Prod.mk.inj (Except.ok.inj h)).2.symm
    | error e =>
        rw [hused] at h
        cases h
  all_goals
    exact (Prod.mk.inj (Except.ok.inj h)).2.symm

theorem Statement.exec_reads
    {s : Statement} (hreads : s.writes = none)
    (t : StatementTick) (db : Database) :
    (s.exec t db).2 = db := by
  cases hvalue : (s.exec t db).1 with
  | ok value => exact apply_reads hreads (apply_of_exec hvalue).2
  | error e => exact exec_of_error hvalue

/-- A statement leaves every table alone that it does not write. -/
theorem Statement.exec_frame
    {s : Statement} {name : TableName} (hname : s.writes ≠ some name)
    (t : StatementTick) (db : Database) :
    Database.rows (s.exec t db).2 name = Database.rows db name := by
  cases hwrites : s.writes with
  | none => rw [exec_reads hwrites]
  | some written =>
      cases hvalue : (s.exec t db).1 with
      | ok value =>
          refine s.apply_writesOnly t db hwrites _ (apply_of_exec hvalue).2 name ?_
          rintro rfl
          exact hname hwrites
      | error e => rw [exec_of_error hvalue]

/-! ## Methods -/

/-- Every statement that a part of a method can make is of a kind. -/
def Makes {α : Type} (kind : Statement → Prop) (part : Sql α) : Prop :=
  Program.All kind part.run

section Makes

variable {α β : Type} {kind : Statement → Prop}

theorem makes_pure (a : α) :
    Makes kind (pure a : Sql α) :=
  trivial

theorem makes_throw (error : StoreError) :
    Makes kind (throw error : Sql α) :=
  trivial

theorem makes_ofResult (result : StoreResult α) :
    Makes kind (ofResult result) :=
  trivial

theorem makes_query
    {s : Statement} (h : kind s) :
    Makes kind (query s) :=
  ⟨h, fun _ => trivial⟩

theorem Makes.bind
    {part : Sql α} {f : α → Sql β}
    (h : Makes kind part) (hf : ∀ a, Makes kind (f a)) :
    Makes kind (part >>= f) := by
  refine Program.All.bind h ?_
  intro r
  cases r with
  | ok a => exact hf a
  | error e => trivial

theorem Makes.attempt
    {part : Sql α} (h : Makes kind part) :
    Makes kind (attempt part) :=
  Program.All.bind h (fun _ => trivial)

theorem makes_forM
    {f : α → Sql PUnit} (h : ∀ a, Makes kind (f a)) (l : List α) :
    Makes kind (l.forM f) := by
  induction l with
  | nil => exact makes_pure _
  | cons a l ih => exact (h a).bind (fun _ => ih)

theorem makes_filterM
    {f : α → Sql Bool} (h : ∀ a, Makes kind (f a)) (l : List α) :
    Makes kind (l.filterM f) := by
  unfold List.filterM
  suffices hloop : ∀ kept, Makes kind (List.filterAuxM f l kept) from
    (hloop []).bind (fun kept => makes_pure kept.reverse)
  induction l with
  | nil =>
      intro kept
      exact makes_pure kept
  | cons a l ih =>
      intro kept
      exact (h a).bind (fun b => ih _)

end Makes

/-- The tables that a method may write. -/
def tables : StoreCall → List TableName
  | .registerNode _ =>
      [.tenants, .nodes, .nodeCapabilities, .nodeIdentities, .auditEvents,
        .eventOutbox]
  | .registerNodeWithRegistrationToken .. =>
      [.tenants, .nodes, .nodeCapabilities, .nodeIdentities,
        .nodeRegistrationTokens, .auditEvents, .eventOutbox]
  | .createNodeRegistrationToken _ =>
      [.tenants, .nodeRegistrationTokens, .auditEvents, .eventOutbox]
  | .consumeNodeRegistrationToken .. =>
      [.nodeRegistrationTokens, .auditEvents, .eventOutbox]
  | .updateNodeRunnerResultPublicKey .. =>
      [.nodeIdentities, .auditEvents, .eventOutbox]
  | .recordHeartbeat _ =>
      [.runnerSessions, .nodeHeartbeats, .auditEvents, .eventOutbox]
  | .createProfile _ =>
      [.tenants, .profiles, .profileVersions, .auditEvents, .eventOutbox]
  | .addCredential .. =>
      [.clients, .secrets, .credentials, .profileCredentials, .auditEvents,
        .eventOutbox]
  | .recordArtifact _ => [.artifacts, .auditEvents, .eventOutbox]
  | .recordArtifactBlob .. =>
      [.artifactBlobs, .artifacts, .auditEvents, .eventOutbox]
  | .recordDeploymentPlan _ =>
      [.deployments, .rollbackPointers, .auditEvents, .eventOutbox]
  | .recordIdempotencyResponse .. => [.idempotencyKeys]
  | .recordDeploymentResult _ =>
      [.deployments, .deploymentSnapshots, .deploymentHealthChecks,
        .auditEvents, .eventOutbox]
  | .recordDeploymentHealthCheck _ =>
      [.deploymentHealthChecks, .auditEvents, .eventOutbox]
  | .recordUsageSample _ => [.usageRecords, .usageRollups]
  | .setCredentialQuota .. => [.credentialQuotas]
  | .setCredentialExpiry .. => [.credentials]
  | .enqueueRunnerCommand .. | .nextRunnerCommand .. => [.runnerCommands]
  | .issueSubscriptionToken _ | .rotateSubscriptionToken _ =>
      [.subscriptionTokens, .auditEvents, .eventOutbox]
  | .recordSubscriptionAccess .. => [.subscriptionAccessLogs]
  | _ => []

/-- A statement that writes none but the tables named. -/
def WritesWithin (names : List TableName) (s : Statement) : Prop :=
  ∀ name, s.writes = some name → name ∈ names

theorem writesWithin_some
    {names : List TableName} {s : Statement} {name : TableName}
    (hname : s.writes = some name) (h : name ∈ names) :
    WritesWithin names s := by
  intro name' hname'
  obtain rfl := Option.some.inj (hname.symm.trans hname')
  exact h

theorem writesWithin_none
    {names : List TableName} {s : Statement} (h : s.writes = none) :
    WritesWithin names s := by
  intro name hname
  rw [h] at hname
  cases hname

theorem body_writes
    (crates : Crates) (t : Tick) (op : StoreCall) :
    Makes (WritesWithin (tables op)) (body crates t op) := by
  cases op <;>
    simp only [body, tables, PostgresStore.registerNode,
      PostgresStore.registerNodeWithRegistrationToken, registerNodeRows,
      registerIdentity, recordEvent, PostgresStore.listNodes,
      PostgresStore.createNodeRegistrationToken,
      PostgresStore.listNodeRegistrationTokens,
      PostgresStore.nodeRegistrationToken,
      PostgresStore.consumeNodeRegistrationToken, PostgresStore.recordHeartbeat,
      PostgresStore.latestHeartbeat, PostgresStore.createProfile,
      PostgresStore.listProfiles, PostgresStore.addCredential,
      PostgresStore.listCredentials, PostgresStore.recordArtifact,
      PostgresStore.recordArtifactBlob, PostgresStore.artifactBytes,
      PostgresStore.artifactBytesBySha256, PostgresStore.recordDeploymentPlan,
      PostgresStore.listDeploymentPlans, PostgresStore.idempotencyResponse,
      PostgresStore.recordIdempotencyResponse,
      PostgresStore.recordDeploymentResult, PostgresStore.deploymentStatus,
      PostgresStore.rollbackPointer, PostgresStore.deploymentSnapshot,
      PostgresStore.latestDeploymentHealth,
      PostgresStore.recordDeploymentHealthCheck,
      PostgresStore.deploymentHealthChecks, PostgresStore.recordUsageSample,
      PostgresStore.latestUsageSample,
      PostgresStore.latestUsageRollupForCredential,
      PostgresStore.setCredentialQuota, PostgresStore.credentialQuotaDecision,
      PostgresStore.setCredentialExpiry, PostgresStore.credentialExpiryDecision,
      PostgresStore.enqueueRunnerCommand, PostgresStore.nextRunnerCommand,
      PostgresStore.node, PostgresStore.updateNodeRunnerResultPublicKey,
      PostgresStore.profile, PostgresStore.credentialsForProfile,
      PostgresStore.deployedProfileForSubscription,
      PostgresStore.issueSubscriptionToken,
      PostgresStore.rotateSubscriptionToken,
      PostgresStore.verifySubscriptionToken,
      PostgresStore.subscriptionTokenRequired,
      PostgresStore.recordSubscriptionAccess]
  all_goals
    repeat' first
      | exact makes_query (writesWithin_none rfl)
      | exact makes_query (writesWithin_some rfl (by decide))
      | exact makes_pure _
      | exact makes_throw _
      | exact makes_ofResult _
      | exact trivial
      | refine Makes.attempt ?_
      | refine makes_forM (fun _ => ?_) _
      | refine makes_filterM (fun _ => ?_) _
      | refine Makes.bind ?_ (fun _ => ?_)
      | split

/-- A property that the statements of a method keep is kept by the method. -/
theorem exec_keeps
    {crates : Crates} {op : StoreCall} {t : StoreTick}
    {kind : Statement → Prop} {P : Database → Prop}
    (hbody : Makes kind (body crates t.tick op))
    (hstep : ∀ s u db, kind s → P db → P (Statement.exec s u db).2)
    {db : Database} (h : P db) :
    P (exec crates op t db).2 := by
  have hrun :
      P ((body crates t.tick op).run.run Statement.exec t.statement db).2 :=
    hbody.run hstep t.statement h
  unfold exec
  split
  · rename_i value db' heq
    rwa [heq] at hrun
  · rename_i error db' heq
    rw [heq] at hrun
    split_ifs
    · exact h
    · exact hrun

/-- A method leaves every table alone that it may not write. -/
theorem exec_frame
    (crates : Crates) {op : StoreCall} {name : TableName}
    (hname : name ∉ tables op) (t : StoreTick) (db : Database) :
    Database.rows (exec crates op t db).2 name = Database.rows db name := by
  refine @exec_keeps crates op t _
    (fun db' => Database.rows db' name = Database.rows db name)
    (body_writes crates t.tick op) ?_ db rfl
  intro s u db' hs hdb'
  exact (Statement.exec_frame (fun hwrites => hname (hs name hwrites)) u
    db').trans hdb'

/-! ## Histories -/

abbrev Entry : Type :=
  Program.Entry StoreCall StoreTick Database

/-- Any sequence of calls on a migrated database. -/
abbrev History (crates : Crates) : List Entry → Database → Prop :=
  Program.Sequence (exec crates) .empty

end PostgresStore
end ProxyControl
