import ProxyControl.Storage.PostgresRuns

/-!
# Calls that fail half way

On the pool every statement is a transaction of its own, so what a method has
written when one of its statements fails stays written.  No later statement of a
method takes back what an earlier one wrote: a table is only appended to, but
for one statement of a method that may change its rows in place.

Hence a call that fails leaves the tables as they were exactly if its statements
found what they would have written, or if they share a transaction.
-/

namespace ProxyControl

open Calendar Effects

namespace PostgresStore

/-- The table whose rows a statement may change in place. -/
def Statement.updates : Statement → Option TableName
  | .upsertNode .. => some .nodes
  | .registerNodeIdentity .. | .replaceNodeKey .. => some .nodeIdentities
  | .useRegistrationToken .. => some .nodeRegistrationTokens
  | .upsertClient _ => some .clients
  | .upsertSecret _ => some .secrets
  | .upsertCredential .. | .setCredentialExpiry .. => some .credentials
  | .upsertCredentialQuota .. => some .credentialQuotas
  | .setRollbackPointer .. | .finishDeployment .. => some .deployments
  | .upsertDeploymentSnapshot _ => some .deploymentSnapshots
  | .addUsageRollup _ => some .usageRollups
  | .skipRunnerCommands .. | .leaseRunnerCommand .. => some .runnerCommands
  | .rotateSubscriptionTokens _ => some .subscriptionTokens
  | _ => none

/-- A statement finds what it would write. -/
def Statement.Idle (t : StatementTick) (db : Database) : Statement → Prop
  | .insertTenant tenantId => Database.hasTenant db tenantId = true
  | .upsertNode nodeId _ =>
      Table.Holds NodeRow.id nodeId
        (fun row => { row with status := "registered" }) db.nodes
  | .registerNodeIdentity nodeId publicKey =>
      Table.Holds NodeIdentityRow.nodeId nodeId
        (fun row => { row with
          publicKey := publicKey
          registeredAt := row.registeredAt.or (some t.now) }) db.nodeIdentities
  | .replaceNodeKey nodeId publicKey =>
      Table.Holds NodeIdentityRow.nodeId nodeId
        (fun row => { row with publicKey := publicKey }) db.nodeIdentities
  | .insertRegistrationToken token =>
      Table.hasKey NodeRegistrationTokenRecord.token token.token
        db.nodeRegistrationTokens = true
  | .useRegistrationToken token _ =>
      (PostgresStore.registrationToken token db).all (fun row =>
        row.status ≠ "active") = true
  | .insertRunnerSession sessionId _ =>
      Table.hasKey RunnerSessionRow.id sessionId db.runnerSessions = true
  | .insertProfile profileId _ => Database.hasProfile db profileId = true
  | .insertProfileVersion _ _ profileId _ =>
      Table.hasKey (fun row : ProfileVersionRow => (row.profileId, row.version))
        (profileId, 1) db.profileVersions = true
  | .upsertClient row =>
      Table.Holds ClientRow.id row.id
        (fun other => { other with
          displayName := row.displayName
          status := row.status }) db.clients
  | .upsertSecret row =>
      Table.Holds SecretRow.id row.id
        (fun other => { other with ciphertext := row.ciphertext }) db.secrets
  | .upsertCredential id _ _ _ _ _ status =>
      Table.Holds CredentialRow.id id
        (fun row => { row with status := status }) db.credentials
  | .insertProfileCredential profileId credentialId =>
      Table.hasKey id ⟨profileId, credentialId⟩ db.profileCredentials = true
  | .setCredentialExpiry credentialId expiresAt =>
      ∀ row ∈ db.credentials, row.id = credentialId →
        { row with expiresAt := some expiresAt } = row
  | .upsertCredentialQuota credentialId quotaBytes =>
      Table.Holds CredentialQuotaRow.credentialId credentialId
        (fun row => { row with quotaBytes := quotaBytes }) db.credentialQuotas
  | .insertArtifact artifact =>
      Table.hasKey (fun row : Artifact => (row.tenantId, row.sha256))
        (artifact.tenantId, artifact.sha256) db.artifacts = true
  | .insertArtifactBlob sha256 _ =>
      Table.hasKey ArtifactBlobRow.sha256 sha256 db.artifactBlobs = true
  | .insertDeployment deploymentId .. =>
      Database.hasDeployment db deploymentId = true
  | .insertRollbackPointer pointer =>
      Table.hasKey RollbackPointerRecord.rollbackPointerId
        pointer.rollbackPointerId db.rollbackPointers = true
  | .setRollbackPointer deploymentId rollbackPointerId =>
      ∀ row ∈ db.deployments, row.id = deploymentId →
        { row with rollbackPointerId := some rollbackPointerId } = row
  | .finishDeployment deploymentId status =>
      ∀ row ∈ db.deployments, row.id = deploymentId →
        { row with
          status := status
          finishedAt := row.finishedAt.or (some t.now) } = row
  | .upsertDeploymentSnapshot row =>
      Table.Holds DeploymentSnapshotRow.id row.id
        (fun other => { other with
          snapshotJson := row.snapshotJson
          createdAt := row.createdAt }) db.deploymentSnapshots
  | .addUsageRollup row => PostgresStore.addUsageRollup row db = .ok db
  | .insertRunnerCommand nodeId command =>
      Table.hasKey (fun row : RunnerCommandRow => (row.nodeId, row.sequence))
        (nodeId, command.command.sequence.toInt64) db.runnerCommands = true
  | .skipRunnerCommands nodeId lastSequence =>
      ∀ row ∈ db.runnerCommands, ¬ (row.nodeId = nodeId &&
        row.sequence ≤ lastSequence && row.status = "pending") = true
  | .leaseRunnerCommand nodeId lastSequence =>
      leaseCandidate nodeId lastSequence db = none
  | .rotateSubscriptionTokens profileId =>
      ∀ row ∈ db.subscriptionTokens, ¬ isActive profileId row = true
  | .insertIdempotencyKey tenantId key _ =>
      Table.hasKey idempotencyKey (tenantId, key) db.idempotencyKeys = true
  | s => s.writes = none

theorem ok_of_bind
    {α β : Type} {result : Except StoreError α} {f : α → Except StoreError β}
    {b : β} (h : (result >>= f) = .ok b) :
    ∃ a, result = .ok a ∧ f a = .ok b := by
  cases result with
  | ok a => exact ⟨a, rfl, h⟩
  | error e => cases h

/-- Databases with the same rows in every table are the same. -/
theorem Database.ext_rows
    {db db' : Database}
    (h : ∀ name, Database.rows db' name = Database.rows db name) :
    db' = db := by
  cases db
  cases db'
  simp only [Database.mk.injEq]
  exact
    ⟨h .tenants, h .nodes, h .nodeIdentities, h .nodeRegistrationTokens,
      h .nodeCapabilities, h .runnerSessions, h .runnerCommands,
      h .nodeHeartbeats, h .profiles, h .profileVersions, h .clients,
      h .secrets, h .credentials, h .profileCredentials, h .credentialQuotas,
      h .artifacts, h .artifactBlobs, h .deployments, h .rollbackPointers,
      h .deploymentSnapshots, h .deploymentHealthChecks, h .eventOutbox,
      h .idempotencyKeys, h .usageRecords, h .usageRollups,
      h .subscriptionTokens, h .subscriptionAccessLogs, h .auditEvents⟩

variable {s : Statement} {t : StatementTick} {db db' : Database}

/-- A statement changes the database exactly if it changes the table it writes. -/
theorem Statement.apply_eq_iff
    {value : s.Value} {name : TableName} (hname : s.writes = some name)
    (h : s.apply t db = .ok (value, db')) :
    db' = db ↔ Database.rows db' name = Database.rows db name := by
  constructor
  · rintro rfl
    rfl
  · intro hrows
    refine Database.ext_rows fun other => ?_
    by_cases hother : other = name
    · rw [hother, hrows]
    · exact s.apply_writesOnly t db hname _ h other hother

/-- What a statement that goes through does to the table it writes. -/
theorem Statement.Applies.written
    {value : s.Value} {name : TableName} (h : s.Applies t db value db')
    (hname : s.writes = some name) :
    Table.Written (s.Idle t db) (s.updates = some name)
      (Database.rows db name) (Database.rows db' name) := by
  obtain ⟨-, happly⟩ := h
  have h := happly
  cases s <;> cases hname
  case insertTenant tenantId =>
    simp only [Statement.apply, execute_eq_ok] at h
    obtain rfl := Except.ok.inj h
    unfold PostgresStore.insertTenant
    by_cases hhas : Database.hasTenant db tenantId = true
    · rw [if_pos hhas]
      exact Table.written_same hhas
    · rw [if_neg hhas]
      exact Table.written_append hhas
  case upsertNode | registerNodeIdentity | replaceNodeKey | upsertClient |
      upsertSecret | upsertCredential | upsertCredentialQuota |
      upsertDeploymentSnapshot =>
    simp only [Statement.apply, execute_eq_ok, PostgresStore.upsertNode,
      upsertNodeIdentity, PostgresStore.upsertClient, PostgresStore.upsertSecret,
      PostgresStore.upsertCredential, PostgresStore.upsertCredentialQuota,
      PostgresStore.upsertDeploymentSnapshot, referencing_eq_ok,
      referencing_both_eq_ok] at h
    obtain ⟨-, rfl⟩ := h
    exact Table.written_upsert rfl rfl
  case insertRunnerSession | insertProfile | insertProfileCredential |
      insertIdempotencyKey =>
    simp only [Statement.apply, execute_eq_ok,
      PostgresStore.insertRunnerSession, PostgresStore.insertProfile,
      PostgresStore.insertProfileCredential,
      PostgresStore.insertIdempotencyKey, referencing_eq_ok,
      referencing_both_eq_ok] at h
    obtain ⟨-, rfl⟩ := h
    exact Table.written_insertNew rfl
  case insertArtifactBlob =>
    simp only [Statement.apply, execute_eq_ok] at h
    obtain rfl := Except.ok.inj h
    exact Table.written_insertNew rfl
  case insertNodeCapabilities | insertHeartbeat | insertHealthCheck |
      insertUsageRecord | insertSubscriptionToken | insertAccessLog |
      insertAuditEvent | insertOutboxEvent =>
    simp only [Statement.apply, execute_eq_ok,
      PostgresStore.insertNodeCapabilities, PostgresStore.insertHeartbeat,
      PostgresStore.insertHealthCheck, PostgresStore.insertUsageRecord,
      PostgresStore.insertSubscriptionToken, PostgresStore.insertAccessLog,
      PostgresStore.insertAuditEvent, PostgresStore.insertOutboxEvent,
      references_bind_eq_ok, unique_bind_eq_ok, pure_eq_ok] at h
    obtain rfl : db' = _ := by tauto
    exact Table.written_append (Option.some_ne_none _)
  case insertProfileVersion | insertArtifact | insertDeployment |
      insertRollbackPointer =>
    simp only [Statement.apply, execute_eq_ok,
      PostgresStore.insertProfileVersion, PostgresStore.insertArtifact,
      PostgresStore.insertDeployment, PostgresStore.insertRollbackPointer] at h
    split_ifs at h with htaken
    · obtain rfl := pure_eq_ok.mp h
      exact Table.written_same htaken
    · simp only [references_bind_eq_ok, unique_bind_eq_ok, pure_eq_ok] at h
      obtain rfl : db' = _ := by tauto
      exact Table.written_append htaken
  case insertRunnerCommand nodeId command =>
    simp only [Statement.apply, execute_eq_ok] at h
    obtain rfl := insertRunnerCommand_ok h
    split_ifs with htaken
    · exact Table.written_same htaken
    · exact Table.written_append htaken
  case insertRegistrationToken token =>
    simp only [Statement.apply, PostgresStore.insertRegistrationToken] at h
    split_ifs at h with htaken
    · obtain ⟨-, rfl⟩ := Prod.mk.inj (pure_eq_ok.mp h)
      exact Table.written_same htaken
    · simp only [references_bind_eq_ok, unique_bind_eq_ok, pure_eq_ok,
        Prod.mk.injEq] at h
      obtain rfl : db' = _ := by tauto
      exact Table.written_append htaken
  case setRollbackPointer =>
    simp only [Statement.apply, execute_eq_ok] at h
    obtain rfl := Except.ok.inj h
    exact Table.written_updateWhere rfl
      (forall₂_congr fun _ _ => imp_congr_left decide_eq_true_iff)
  case finishDeployment | setCredentialExpiry =>
    obtain ⟨-, rfl⟩ := Prod.mk.inj (Except.ok.inj h)
    exact Table.written_updateWhere rfl
      (forall₂_congr fun _ _ => imp_congr_left decide_eq_true_iff)
  case skipRunnerCommands =>
    simp only [Statement.apply, execute_eq_ok] at h
    obtain rfl := Except.ok.inj h
    refine Table.written_updateWhere rfl (forall₂_congr fun row _ => ?_)
    refine forall_congr' fun hskipped => iff_false_intro fun heq => ?_
    have hstatus := congrArg RunnerCommandRow.status heq
    simp only [Bool.and_eq_true, decide_eq_true_eq] at hskipped
    exact absurd (hstatus.trans hskipped.2) (by simp)
  case rotateSubscriptionTokens =>
    simp only [Statement.apply, execute_eq_ok] at h
    obtain rfl := Except.ok.inj h
    refine Table.written_updateWhere rfl (forall₂_congr fun row _ => ?_)
    refine forall_congr' fun hactive => iff_false_intro fun heq => ?_
    have hstatus := congrArg SubscriptionTokenRecord.status heq
    simp only [isActive, Bool.and_eq_true, decide_eq_true_eq] at hactive
    exact absurd (hstatus.trans hactive.2) (by simp)
  case useRegistrationToken token nodeId =>
    simp only [Statement.apply, PostgresStore.useRegistrationToken] at h
    cases hrow : PostgresStore.registrationToken token db with
    | none =>
        rw [hrow] at h
        obtain ⟨-, rfl⟩ := Prod.mk.inj (pure_eq_ok.mp h)
        exact Table.written_same (by simp [Statement.Idle, hrow])
    | some row =>
        simp only [hrow] at h
        split_ifs at h with hactive
        · obtain ⟨-, rfl⟩ := Prod.mk.inj (pure_eq_ok.mp h)
          exact Table.written_same (by simp [Statement.Idle, hrow, hactive])
        · simp only [references_bind_eq_ok, pure_eq_ok, Prod.mk.injEq] at h
          obtain ⟨-, -, rfl⟩ := h
          rw [not_not] at hactive
          obtain ⟨hmem, htoken⟩ := Table.lookup_mem _ hrow
          refine Table.written_updateWhere rfl (iff_of_false ?_ ?_)
          · intro hsame
            have hstatus := congrArg NodeRegistrationTokenRecord.status
              (hsame row hmem (by simp [htoken, hactive]))
            exact absurd (hstatus.trans hactive) (by
              simp [NodeRegistrationTokenRecord.markUsed])
          · simp [Statement.Idle, hrow, hactive]
  case leaseRunnerCommand nodeId lastSequence =>
    obtain ⟨-, rfl⟩ := Prod.mk.inj (Except.ok.inj h)
    cases hcandidate : leaseCandidate nodeId lastSequence db with
    | none => exact Table.written_same hcandidate
    | some rowId =>
        refine Table.written_updateWhere rfl (iff_of_false ?_ ?_)
        · intro hsame
          obtain ⟨row, hrow, rfl⟩ := Option.map_eq_some_iff.mp hcandidate
          have hmem := List.mem_filter.mp (List.argmin_mem hrow)
          have hstatus := congrArg RunnerCommandRow.status
            (hsame row hmem.1 (by simp))
          have hpending := hmem.2
          simp only [Bool.and_eq_true, decide_eq_true_eq] at hpending
          exact absurd (hstatus.trans hpending.2) (by simp)
        · simp [Statement.Idle, hcandidate]
  case addUsageRollup row =>
    simp only [Statement.apply, execute_eq_ok] at h
    have hidle : (Statement.addUsageRollup row).Idle t db ↔ db' = db := by
      rw [Statement.Idle, h]
      exact ⟨Except.ok.inj, congrArg Except.ok⟩
    have hsame : db' = db ↔ db'.usageRollups = db.usageRollups :=
      @apply_eq_iff _ t db db' value .usageRollups rfl happly
    rw [hsame] at hidle
    unfold PostgresStore.addUsageRollup at h
    split at h
    · obtain ⟨uplinkBytes, -, h⟩ := ok_of_bind h
      obtain ⟨downlinkBytes, -, h⟩ := ok_of_bind h
      obtain rfl := pure_eq_ok.mp h
      exact Table.written_updateWhere rfl
        (Table.updateWhere_eq_self.symm.trans hidle.symm)
    · simp only [references_bind_eq_ok, pure_eq_ok] at h
      obtain ⟨-, -, rfl⟩ := h
      exact Table.written_append (fun hheld => by simpa using hidle.mp hheld)

/-! ## No table shrinks -/

/-- Every table has at least as many rows as before. -/
def Grown (db db' : Database) : Prop :=
  ∀ name, (Database.rows db name).length ≤ (Database.rows db' name).length

/-- What a statement does to the rows of a table, whether it goes through or not. -/
theorem Statement.exec_rows
    (s : Statement) (t : StatementTick) (db : Database) (name : TableName) :
    Database.rows (s.exec t db).2 name = Database.rows db name ∨
      Table.Written (s.Idle t db) (s.updates = some name)
        (Database.rows db name) (Database.rows (s.exec t db).2 name) := by
  by_cases hname : s.writes = some name
  · cases hvalue : (s.exec t db).1 with
    | ok value =>
        have happlies : s.Applies t db value (s.exec t db).2 :=
          applies_iff.mpr (Prod.ext hvalue rfl)
        exact .inr (happlies.written hname)
    | error e => exact .inl (by rw [exec_of_error hvalue])
  · exact .inl (exec_frame hname t db)

theorem Statement.exec_grown
    (s : Statement) (t : StatementTick) (db : Database) :
    Grown db (s.exec t db).2 := by
  intro name
  rcases s.exec_rows t db name with hsame | hwritten
  · rw [hsame]
  · exact hwritten.grows

/-- The rows stay where they are in a table that is not updated. -/
theorem Statement.exec_prefix
    {s : Statement} {name : TableName} (hname : s.updates ≠ some name)
    (t : StatementTick) (db : Database) :
    Database.rows db name <+: Database.rows (s.exec t db).2 name := by
  rcases s.exec_rows t db name with hsame | hwritten
  · rw [hsame]
  · exact hwritten.keeps hname

/-- Both statements may change rows of one table. -/
def Statement.Clash (s s' : Statement) : Prop :=
  ∃ name, s.updates = some name ∧ s'.updates = some name

/-- No table is updated by two statements of an execution. -/
def UpdatesOnce {α : Type} (part : Sql α) : Prop :=
  part.run.Apart Statement.Clash

variable {α : Type} {env : ℕ → StatementTick}

/--
A statement that changes the tables is not made up for: an appended row stays,
and nothing later updates the table that it updates.
-/
theorem first_unchanged
    {next : s.Ret → Program Statement Statement.Ret α}
    (hlater : ∀ name, s.updates = some name →
      (next (s.exec (env 0) db).1).All (fun s' => s'.updates ≠ some name))
    (hsame : ((Program.call s next).run Statement.exec env db).2 = db) :
    (s.exec (env 0) db).2 = db := by
  change (Program.run _ (next (s.exec (env 0) db).1) (fun n => env (n + 1))
    (s.exec (env 0) db).2).2 = db at hsame
  have hgrown : Grown (s.exec (env 0) db).2 db := by
    have hall : (next (s.exec (env 0) db).1).All (fun _ => True) :=
      Program.all_of_forall (fun _ => trivial) _
    have hrun := hall.run (P := Grown (s.exec (env 0) db).2)
      (fun s' t db' _ hdb' name => (hdb' name).trans (s'.exec_grown t db' name))
      (fun n => env (n + 1)) (fun _ => le_rfl)
    rwa [hsame] at hrun
  refine Database.ext_rows fun name => ?_
  rcases s.exec_rows (env 0) db name with hrows | hwritten
  · exact hrows
  · by_cases hname : s.updates = some name
    · have hkept : Database.rows (s.exec (env 0) db).2 name <+:
          Database.rows db name := by
        have hrun := (hlater name hname).run
          (P := fun db' => Database.rows (s.exec (env 0) db).2 name <+:
            Database.rows db' name)
          (fun s' t db' hname' hdb' =>
            hdb'.trans (Statement.exec_prefix hname' t db'))
          (fun n => env (n + 1)) List.prefix_rfl
        rwa [hsame] at hrun
      exact hkept.eq_of_length_le hwritten.grows
    · exact ((hwritten.keeps hname).eq_of_length_le (hgrown name)).symm

/-- If the tables are as they were, then no statement has changed them. -/
theorem unchanged_of_run
    {p : Program Statement Statement.Ret α} (h : p.Apart Statement.Clash)
    (hsame : (p.run Statement.exec env db).2 = db) :
    ∀ e ∈ p.entries Statement.exec env db, (e.op.exec e.choice db).2 = db := by
  induction p generalizing env with
  | done a =>
      intro e he
      cases he
  | call s next ih =>
      have hfirst := first_unchanged (fun name hname => (h _).1.mono
        fun s' hclash hname' => hclash ⟨name, hname, hname'⟩) hsame
      intro e he
      rcases List.mem_cons.mp he with rfl | he
      · exact hfirst
      · rw [hfirst] at he
        refine ih _ (h _).2 ?_ e he
        change (Program.run _ _ _ (s.exec (env 0) db).2).2 = db at hsame
        rwa [hfirst] at hsame

/-- If no statement would change the tables as they are, then none does. -/
theorem run_of_unchanged
    {p : Program Statement Statement.Ret α}
    (h : ∀ e ∈ p.entries Statement.exec env db, (e.op.exec e.choice db).2 = db) :
    (p.run Statement.exec env db).2 = db := by
  induction p generalizing env with
  | done a => rfl
  | call s next ih =>
      obtain ⟨hfirst, hrest⟩ := List.forall_mem_cons.mp h
      change (s.exec (env 0) db).2 = db at hfirst
      change (Program.run _ _ _ (s.exec (env 0) db).2).2 = db
      rw [hfirst] at hrest ⊢
      exact ih _ hrest

/-! ## The methods -/

/-- The statement changes no row in place. -/
def Statement.Plain (s : Statement) : Prop :=
  s.updates = none

section Methods

variable {α β : Type}

theorem plain_query
    {s : Statement} (h : s.updates = none) :
    Makes Statement.Plain (query s) :=
  makes_query h

theorem UpdatesOnce.of_plain
    {part : Sql α} (h : Makes Statement.Plain part) :
    UpdatesOnce part := by
  refine Program.All.apart (Program.All.mono h ?_)
  rintro s hs later ⟨name, hname, -⟩
  cases hs.symm.trans hname

theorem Makes.not_clash
    {part : Sql α} (h : Makes Statement.Plain part) (s : Statement) :
    Makes (fun s' => ¬ s.Clash s') part := by
  refine Program.All.mono h ?_
  rintro s' hs' ⟨name, -, hname⟩
  cases hs'.symm.trans hname

theorem makes_bindCont
    {kind : Statement → Prop} {f : α → Sql β} (hf : ∀ a, Makes kind (f a))
    (r : StoreResult α) :
    Program.All kind (ExceptT.bindCont f r) := by
  cases r with
  | ok a => exact hf a
  | error e => trivial

theorem UpdatesOnce.bind_plain
    {part : Sql α} {f : α → Sql β} (h : UpdatesOnce part)
    (hf : ∀ a, Makes Statement.Plain (f a)) :
    UpdatesOnce (part >>= f) := by
  have hplain := makes_bindCont hf
  refine Program.Apart.bind h (fun r => UpdatesOnce.of_plain (hplain r)) ?_
  exact Program.all_of_forall (fun s r => Makes.not_clash (hplain r) s) _

theorem UpdatesOnce.plain_bind
    {part : Sql α} {f : α → Sql β} (h : Makes Statement.Plain part)
    (hf : ∀ a, UpdatesOnce (f a)) :
    UpdatesOnce (part >>= f) := by
  refine Program.Apart.bind (UpdatesOnce.of_plain h) ?_ ?_
  · rintro (error | a)
    · trivial
    · exact hf a
  · refine Program.All.mono h (fun s hs r => Program.all_of_forall ?_ _)
    rintro s' ⟨name, hname, -⟩
    cases hs.symm.trans hname

theorem UpdatesOnce.query_bind
    {s : Statement} {f : s.Value → Sql β}
    (h : ∀ value, Makes (fun s' => ¬ s.Clash s') (f value))
    (hf : ∀ value, UpdatesOnce (f value)) :
    UpdatesOnce (query s >>= f) := by
  rintro (error | value)
  · exact ⟨trivial, trivial⟩
  · exact ⟨h value, hf value⟩

theorem updatesOnce_query
    (s : Statement) :
    UpdatesOnce (query s) :=
  fun _ => ⟨trivial, trivial⟩

theorem recordEvent_plain
    (tenantId actor action aggregateType aggregateId : String) :
    Makes Statement.Plain
      (recordEvent tenantId actor action aggregateType aggregateId) :=
  (plain_query rfl).bind (fun _ => plain_query rfl)

theorem node_plain
    (nodeId : String) :
    Makes Statement.Plain (PostgresStore.node nodeId) :=
  (plain_query rfl).bind fun _ => (makes_ofResult _).bind fun _ => makes_pure _

theorem not_clash
    {s s' : Statement} {name name' : TableName} (h : s.updates = some name)
    (h' : s'.updates = some name') (hne : name ≠ name') :
    ¬ s.Clash s' := by
  rintro ⟨other, hother, hother'⟩
  exact hne ((Option.some.inj (h.symm.trans hother)).trans
    (Option.some.inj (h'.symm.trans hother')).symm)

theorem profile_plain
    (profileId : String) :
    Makes Statement.Plain (PostgresStore.profile profileId) :=
  (plain_query rfl).bind fun _ => (makes_ofResult _).bind fun _ => makes_pure _

theorem recordArtifact_plain
    (artifact : Artifact) :
    Makes Statement.Plain (PostgresStore.recordArtifact artifact) :=
  (plain_query rfl).bind fun _ => recordEvent_plain ..

theorem registerNodeRows_updatesOnce
    (node : NodeRecord) :
    UpdatesOnce (registerNodeRows node) := by
  refine .plain_bind (plain_query rfl) fun _ => .query_bind (fun _ => ?_)
    fun _ => .plain_bind (plain_query rfl) fun _ => ?_
  · refine ((plain_query rfl).not_clash _).bind fun _ => ?_
    unfold registerIdentity
    split_ifs
    · exact makes_pure _
    · exact makes_query (not_clash rfl rfl (by decide))
  · unfold registerIdentity
    split_ifs
    · exact .of_plain (makes_pure _)
    · exact updatesOnce_query _

theorem addCredential_updatesOnce
    (profileId : String) (credential : Credential) :
    UpdatesOnce (PostgresStore.addCredential profileId credential) := by
  refine .plain_bind (plain_query rfl) fun _ => .plain_bind (makes_ofResult _)
    fun tenantId => .query_bind (fun _ => ?_) fun _ => .query_bind (fun _ => ?_)
      fun _ => (updatesOnce_query _).bind_plain fun _ => ?_
  · refine (makes_query (not_clash rfl rfl (by decide))).bind fun _ =>
      (makes_query (not_clash rfl rfl (by decide))).bind fun _ =>
        Makes.not_clash ?_ _
    exact (plain_query rfl).bind fun _ => recordEvent_plain ..
  · refine (makes_query (not_clash rfl rfl (by decide))).bind fun _ =>
      Makes.not_clash ?_ _
    exact (plain_query rfl).bind fun _ => recordEvent_plain ..
  · exact (plain_query rfl).bind fun _ => recordEvent_plain ..

theorem recordDeploymentPlan_updatesOnce
    (now : DateTime) (plan : DeploymentPlanRecord) :
    UpdatesOnce (PostgresStore.recordDeploymentPlan now plan) :=
  .plain_bind (plain_query rfl) fun _ => .plain_bind (plain_query rfl) fun _ =>
    .plain_bind (makes_ofResult _) fun _ => .plain_bind (plain_query rfl)
      fun _ => .plain_bind (plain_query rfl) fun _ =>
        (updatesOnce_query _).bind_plain fun _ => recordEvent_plain ..

theorem recordDeploymentResult_updatesOnce
    (crates : Crates) (now : DateTime) (result : DeploymentResult) :
    UpdatesOnce (PostgresStore.recordDeploymentResult crates now result) := by
  refine .plain_bind (plain_query rfl) fun _ => .plain_bind (makes_ofResult _)
    fun _ => .query_bind (fun rows => ?_) fun rows => ?_
  · split_ifs
    · exact makes_throw _
    · refine (makes_query (not_clash rfl rfl (by decide))).bind fun _ =>
        Makes.not_clash ?_ _
      exact (plain_query rfl).bind fun _ => recordEvent_plain ..
  · split_ifs
    · exact .of_plain (makes_throw _)
    · exact (updatesOnce_query _).bind_plain fun _ =>
        (plain_query rfl).bind fun _ => recordEvent_plain ..

end Methods

theorem Statement.writes_of_updates
    {s : Statement} {name : TableName} (h : s.updates = some name) :
    s.writes = some name := by
  cases s <;> first | exact h | cases h

theorem body_updatesOnce
    (crates : Crates) (t : Tick) {op : StoreCall}
    (hpool : transactional op = false)
    (husage : ∀ usage, op ≠ .recordUsageSample usage)
    (hnext : ∀ nodeId lastSequence, op ≠ .nextRunnerCommand nodeId lastSequence) :
    UpdatesOnce (body crates t op) := by
  by_cases hreads : tables op = []
  · refine .of_plain (Program.All.mono (body_writes crates t op) ?_)
    intro s hs
    rw [hreads] at hs
    refine Option.eq_none_iff_forall_not_mem.mpr fun name hname => ?_
    cases hs name (Statement.writes_of_updates hname)
  cases op
  case recordUsageSample usage => exact absurd rfl (husage usage)
  case nextRunnerCommand nodeId lastSequence =>
    exact absurd rfl (hnext nodeId lastSequence)
  case registerNodeWithRegistrationToken => cases hpool
  case registerNode node =>
    exact (registerNodeRows_updatesOnce node).bind_plain fun _ =>
      recordEvent_plain ..
  case createNodeRegistrationToken token =>
    refine .of_plain ((plain_query rfl).bind fun _ => (plain_query rfl).bind
      fun rowsAffected => ?_)
    split_ifs
    · exact makes_pure _
    · exact recordEvent_plain ..
  case consumeNodeRegistrationToken token nodeId =>
    exact (updatesOnce_query _).bind_plain fun _ => (makes_ofResult _).bind
      fun _ => (recordEvent_plain ..).bind fun _ => makes_pure _
  case updateNodeRunnerResultPublicKey nodeId publicKeyHex =>
    exact .plain_bind (node_plain nodeId) fun _ =>
      (updatesOnce_query _).bind_plain fun _ => (recordEvent_plain ..).bind
        fun _ => node_plain nodeId
  case recordHeartbeat heartbeat =>
    exact .of_plain ((plain_query rfl).bind fun _ => (plain_query rfl).bind
      fun _ => recordEvent_plain ..)
  case createProfile profile =>
    exact .of_plain ((plain_query rfl).bind fun _ => (plain_query rfl).bind
      fun _ => (plain_query rfl).bind fun _ => recordEvent_plain ..)
  case addCredential profileId credential =>
    exact addCredential_updatesOnce profileId credential
  case recordArtifact artifact => exact .of_plain (recordArtifact_plain artifact)
  case recordArtifactBlob artifact bytes =>
    refine .of_plain ?_
    simp only [body, PostgresStore.recordArtifactBlob]
    split_ifs
    · exact makes_throw _
    · exact (plain_query rfl).bind fun _ => recordArtifact_plain artifact
  case recordDeploymentPlan plan =>
    exact recordDeploymentPlan_updatesOnce t.now plan
  case recordDeploymentResult result =>
    exact recordDeploymentResult_updatesOnce crates t.now result
  case recordDeploymentHealthCheck health =>
    refine .of_plain ((plain_query rfl).bind fun _ => (makes_ofResult _).bind
      fun deployment => ?_)
    split_ifs
    · exact makes_throw _
    · exact (plain_query rfl).bind fun _ => recordEvent_plain ..
  case setCredentialExpiry credentialId expiresAt =>
    refine (updatesOnce_query _).bind_plain fun rows => ?_
    split_ifs
    · exact makes_throw _
    · exact makes_pure _
  case issueSubscriptionToken profileId =>
    exact .of_plain ((profile_plain profileId).bind fun _ =>
      (plain_query rfl).bind fun _ => (recordEvent_plain ..).bind
        fun _ => makes_pure _)
  case rotateSubscriptionToken profileId =>
    exact .plain_bind (profile_plain profileId) fun _ =>
      (updatesOnce_query _).bind_plain fun _ => (plain_query rfl).bind fun _ =>
        (recordEvent_plain ..).bind fun _ => makes_pure _
  case recordIdempotencyResponse | setCredentialQuota | enqueueRunnerCommand |
      recordSubscriptionAccess =>
    exact updatesOnce_query _
  all_goals exact absurd rfl hreads

/-! ## Calls that fail -/

/-- The statements of a call, each with the tables that it meets. -/
def statements
    (crates : Crates) (op : StoreCall) (t : StoreTick) (db : Database) :
    List (Program.Entry Statement StatementTick Database) :=
  (body crates t.tick op).run.entries Statement.exec t.statement db

theorem Statement.unchanged_iff
    (s : Statement) (t : StatementTick) (db : Database) :
    (s.exec t db).2 = db ↔ ((s.exec t db).1.isOk = true → s.Idle t db) := by
  cases hvalue : (s.exec t db).1 with
  | error e => exact iff_of_true (exec_of_error hvalue) (fun h => by cases h)
  | ok value =>
      simp only [Except.isOk, Except.toBool, forall_const]
      have happlies : s.Applies t db value (s.exec t db).2 :=
        applies_iff.mpr (Prod.ext hvalue rfl)
      cases hwrites : s.writes with
      | some name =>
          exact (apply_eq_iff hwrites happlies.2).trans
            (happlies.written hwrites).idle
      | none =>
          refine iff_of_true (exec_reads hwrites t db) ?_
          cases s <;> first | exact hwrites | cases hwrites

section Kept

variable {crates : Crates} {op : StoreCall} {t : StoreTick} {db : Database}
  {error : StoreError}

theorem exec_error
    (h : (exec crates op t db).1 = .error error) :
    ((body crates t.tick op).run.run Statement.exec t.statement db).1 =
        .error error ∧
      (exec crates op t db).2 = if transactional op then db else
        ((body crates t.tick op).run.run Statement.exec t.statement db).2 := by
  unfold exec at h ⊢
  split at h
  · cases h
  · rename_i error' db' hrun
    rw [hrun]
    exact ⟨h, rfl⟩

theorem entries_query_bind
    {α : Type} {s : Statement} {f : s.Value → Sql α} {env : ℕ → StatementTick} :
    (query s >>= f).run.entries Statement.exec env db =
      ⟨s, env 0, db⟩ :: (ExceptT.bindCont f (s.exec (env 0) db).1).entries
        Statement.exec (fun n => env (n + 1)) (s.exec (env 0) db).2 :=
  rfl

/-- The sample itself is always a row more. -/
theorem recordUsageSample_unchanged
    {usage : UsageSampleRecord} {env : ℕ → StatementTick}
    (hsame : ((PostgresStore.recordUsageSample usage).run.run Statement.exec env
      db).2 = db) :
    ∀ e ∈ (PostgresStore.recordUsageSample usage).run.entries Statement.exec env
      db, (e.op.exec e.choice db).2 = db := by
  have hfirst : ((Statement.insertUsageRecord usage).exec (env 0) db).2 = db :=
    first_unchanged (fun name hname => absurd hname (by simp [Statement.updates]))
      hsame
  have hrefused := (Statement.unchanged_iff _ _ _).mp hfirst
  intro e he
  rw [PostgresStore.recordUsageSample, entries_query_bind] at he
  cases hvalue : ((Statement.insertUsageRecord usage).exec (env 0) db).1 with
  | ok value =>
      rw [hvalue] at hrefused
      cases hrefused rfl
  | error refusal =>
      rw [hvalue] at he
      obtain rfl := List.mem_singleton.mp he
      exact hfirst

/-- The lease is what fails last, so it has written nothing. -/
theorem nextRunnerCommand_unchanged
    {nodeId : String} {lastSequence : UInt64} {env : ℕ → StatementTick}
    (hfails : ((PostgresStore.nextRunnerCommand nodeId lastSequence).run.run
      Statement.exec env db).1 = .error error)
    (hsame : ((PostgresStore.nextRunnerCommand nodeId lastSequence).run.run
      Statement.exec env db).2 = db) :
    ∀ e ∈ (PostgresStore.nextRunnerCommand nodeId lastSequence).run.entries
      Statement.exec env db, (e.op.exec e.choice db).2 = db := by
  intro e he
  rw [PostgresStore.nextRunnerCommand, entries_query_bind] at he
  rcases hskip : (Statement.skipRunnerCommands nodeId
    lastSequence.toInt64).exec (env 0) db with ⟨value, skipped⟩
  rw [hskip] at he
  cases value with
  | error refusal =>
      obtain rfl := List.mem_singleton.mp he
      exact Statement.exec_of_error (congrArg Prod.fst hskip)
  | ok value =>
      rw [PostgresStore.nextRunnerCommand, run_query_bind hskip]
        at hfails hsame
      obtain rfl : skipped = db :=
        (Statement.exec_of_error hfails).symm.trans hsame
      rcases List.mem_cons.mp he with rfl | he
      · exact congrArg Prod.snd hskip
      · obtain rfl := List.mem_singleton.mp he
        exact Statement.exec_of_error hfails

end Kept

/--
A call that fails leaves the tables as they were exactly if it is a transaction
or none of its statements that go through had anything to write.
-/
theorem failed_call_keeps_tables_iff
    (crates : Crates) (op : StoreCall) (t : StoreTick) (db : Database)
    {error : StoreError} (hfails : (exec crates op t db).1 = .error error) :
    (exec crates op t db).2 = db ↔
      transactional op = true ∨
        ∀ e ∈ statements crates op t db,
          (e.op.exec e.choice db).1.isOk = true → e.op.Idle e.choice db := by
  obtain ⟨hrun, hafter⟩ := exec_error hfails
  rw [hafter]
  cases hpool : transactional op with
  | true => simp
  | false =>
      simp only [Bool.false_eq_true, if_false, false_or,
        ← Statement.unchanged_iff]
      refine ⟨fun hsame => ?_, run_of_unchanged⟩
      by_cases husage : ∃ usage, op = .recordUsageSample usage
      · obtain ⟨usage, rfl⟩ := husage
        exact recordUsageSample_unchanged hsame
      · by_cases hnext : ∃ nodeId last, op = .nextRunnerCommand nodeId last
        · obtain ⟨nodeId, last, rfl⟩ := hnext
          exact nextRunnerCommand_unchanged hrun hsame
        · exact unchanged_of_run (body_updatesOnce crates t.tick hpool
            (fun usage h => husage ⟨usage, h⟩)
            (fun nodeId last h => hnext ⟨nodeId, last, h⟩)) hsame

/-! ### A connection that is lost -/

/-- All statements of a call go through but the one at `k`. -/
def lostAt (k : ℕ) : StoreTick :=
  { referenceStoreTick 0 "p" with
    statement := fun n => { (referenceStoreTick 0 "p").statement n with
      fault := if n = k then some "connection reset" else none } }

/-- A database with a tenant and a node. -/
def nodeDatabase : Database :=
  { Database.empty with
    tenants := ["tenant"]
    nodes := [⟨"node", "tenant", "registered", ⟨0, 0⟩⟩] }

def usageSample : UsageSampleRecord :=
  ⟨"tenant", "node", none, 1, 2, ⟨0, 0⟩⟩

/-- The tenant of the profile is there, and the profile is not inserted. -/
theorem failed_call_keeps_tables_iff_tenant :
    (exec referenceCrates (.createProfile ⟨"tenant", "profile",
      .vlessRealityExample "group" "reality/key", ⟨0, 0⟩⟩) (lostAt 1)
        nodeDatabase).2 = nodeDatabase := by
  have hfails : (exec referenceCrates (.createProfile ⟨"tenant", "profile",
      .vlessRealityExample "group" "reality/key", ⟨0, 0⟩⟩) (lostAt 1)
        nodeDatabase).1 = .error (.sqlx "connection reset") := rfl
  refine (failed_call_keeps_tables_iff referenceCrates _ (lostAt 1) nodeDatabase
    hfails).mpr (.inr ?_)
  intro e he hok
  rcases List.mem_cons.mp he with rfl | he
  · exact (by decide : Database.hasTenant nodeDatabase "tenant" = true)
  · obtain rfl := List.mem_singleton.mp he
    cases hok

/-- The sample stays although the call has failed. -/
theorem lost_connection_keeps_sample :
    ¬ ∀ (crates : Crates) (op : StoreCall) (t : StoreTick) (db : Database)
      (k : ℕ) (error : StoreError),
        (t.statement k).fault.isSome = true →
          (exec crates op t db).1 = .error error → (exec crates op t db).2 = db := by
  intro hclaim
  have hkept := hclaim referenceCrates (.recordUsageSample usageSample)
    (lostAt 1) nodeDatabase 1 (.sqlx "connection reset") rfl rfl
  have hcount := congrArg (fun db => db.usageRecords.length) hkept
  revert hcount
  decide +kernel

end PostgresStore

end ProxyControl
