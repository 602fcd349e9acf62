import ProxyControl.Storage.PostgresRuns

/-!
# The credentials of a profile

The in-memory store appends a credential to the list of its profile.  The
database keeps it in four tables, each written by its own upsert; the group of a
credential that is there already is not updated.

`CredentialsKept` is what both stores owe: the ids of a profile are distinct, and
a credential that was just added is listed as it was given.
-/

namespace ProxyControl

open Calendar Effects

section Kept

variable {τ σ : Type} (answer : (op : StoreCall) → τ → σ → op.Ret × σ)

/-- The store may answer with this list for the profile. -/
def Lists (s : σ) (profileId : String) (credentials : List Credential) : Prop :=
  ∃ t, (answer (.credentialsForProfile profileId) t s).1 = .ok credentials

/-- No list has two credentials with one id. -/
def DistinctIds (s : σ) : Prop :=
  ∀ profileId credentials, Lists answer s profileId credentials →
    (credentials.map Credential.id).Nodup

/-- Every list has the credential, and has no other under its id. -/
def LastWritten (s : σ) (profileId : String) (credential : Credential) : Prop :=
  ∀ credentials, Lists answer s profileId credentials →
    credential ∈ credentials ∧
      ∀ other ∈ credentials, other.id = credential.id → other = credential

structure CredentialsKept
    (log : List (Program.Entry StoreCall τ σ)) (s : σ) : Prop where
  distinct : DistinctIds answer s ∧ ∀ e ∈ log, DistinctIds answer e.before
  last : ∀ e ∈ log, ∀ profileId credential,
    e.op = .addCredential profileId credential →
      (answer (.addCredential profileId credential) e.choice e.before).1 =
          .ok () →
        LastWritten answer
          (answer (.addCredential profileId credential) e.choice e.before).2
          profileId credential

end Kept

namespace PostgresStore

variable {db db' : Database} {t : StatementTick} {u : Unit}

/-! ## The statements of an addition -/

theorem applies_upsertClient
    {row : ClientRow} :
    (Statement.upsertClient row).Applies t db u db' ↔
      t.fault = none ∧
        (Table.hasKey ClientRow.id row.id db.clients = true ∨
          Database.hasTenant db row.tenantId = true) ∧
        db' = { db with
          clients := Table.upsert ClientRow.id row
            (fun other => { other with
              displayName := row.displayName
              status := row.status }) db.clients } := by
  simp only [Statement.Applies, Statement.apply, execute_eq_ok, upsertClient,
    referencing_eq_ok]

theorem applies_upsertSecret
    {row : SecretRow} :
    (Statement.upsertSecret row).Applies t db u db' ↔
      t.fault = none ∧
        (Table.hasKey SecretRow.id row.id db.secrets = true ∨
          Database.hasTenant db row.tenantId = true) ∧
        db' = { db with
          secrets := Table.upsert SecretRow.id row
            (fun other => { other with ciphertext := row.ciphertext })
            db.secrets } := by
  simp only [Statement.Applies, Statement.apply, execute_eq_ok, upsertSecret,
    referencing_eq_ok]

theorem applies_upsertCredential
    {id tenantId clientId clientGroupId kind secretRef status : String} :
    (Statement.upsertCredential id tenantId clientId clientGroupId kind secretRef
        status).Applies t db u db' ↔
      t.fault = none ∧
        (Database.hasCredential db id = true ∨
          Database.hasTenant db tenantId = true ∧
            Table.hasKey ClientRow.id clientId db.clients = true) ∧
        db' = { db with
          credentials := Table.upsert CredentialRow.id
            ⟨id, tenantId, clientId, clientGroupId, kind, secretRef, status, none,
              t.now⟩
            (fun other => { other with status := status }) db.credentials } := by
  simp only [Statement.Applies, Statement.apply, execute_eq_ok, upsertCredential,
    referencing_both_eq_ok]

theorem applies_insertProfileCredential
    {profileId credentialId : String} :
    (Statement.insertProfileCredential profileId credentialId).Applies t db u
        db' ↔
      t.fault = none ∧
        (Table.hasKey id (⟨profileId, credentialId⟩ : ProfileCredentialRow)
            db.profileCredentials = true ∨
          Database.hasProfile db profileId = true ∧
            Database.hasCredential db credentialId = true) ∧
        db' = { db with
          profileCredentials := Table.insertNew id ⟨profileId, credentialId⟩
            db.profileCredentials } := by
  simp only [Statement.Applies, Statement.apply, execute_eq_ok,
    insertProfileCredential, referencing_both_eq_ok]

/-! ## Invariants -/

/-- What holds of the tables, whatever statements went through. -/
structure CredentialTables (db : Database) : Prop where
  tenants : ∀ row ∈ db.profiles, Database.hasTenant db row.tenantId = true
  links : db.profileCredentials.Nodup
  refs : ∀ row ∈ db.credentials,
    row.clientId = row.id ∧ row.secretRef = "secret:" ++ row.id

theorem CredentialTables.empty : CredentialTables .empty :=
  ⟨by simp [Database.empty], List.nodup_nil, by simp [Database.empty]⟩

/-- A credential points at the client and the secret with its own id. -/
def PointsHome : Statement → Prop
  | .upsertCredential id _ clientId _ _ secretRef _ =>
      clientId = id ∧ secretRef = "secret:" ++ id
  | _ => True

theorem body_pointsHome
    (crates : Crates) (t : Tick) (op : StoreCall) :
    Makes PointsHome (body crates t op) := by
  by_cases htable : TableName.credentials ∈ tables op
  · cases op with
    | addCredential profileId credential =>
        refine (makes_query trivial).bind fun row => ?_
        refine (makes_ofResult _).bind fun tenantId => ?_
        refine (makes_query trivial).bind fun _ => ?_
        refine (makes_query trivial).bind fun _ => ?_
        refine (makes_query ⟨rfl, rfl⟩).bind fun _ => ?_
        refine (makes_query trivial).bind fun _ => ?_
        exact (makes_query trivial).bind fun _ => makes_query trivial
    | setCredentialExpiry credentialId expiresAt =>
        refine (makes_query trivial).bind fun rows => ?_
        split
        · exact makes_throw _
        · exact makes_pure _
    | _ => simp [tables] at htable
  · refine (body_writes crates t op).mono ?_
    intro s hs
    cases s with
    | upsertCredential => exact absurd (hs _ rfl) htable
    | _ => trivial

/-- A statement that writes none of the tables concerned. -/
theorem CredentialTables.frame
    {s : Statement} (h : CredentialTables db)
    (hs : (s.writes matches some .tenants | some .profiles | some .credentials |
      some .profileCredentials) = false) :
    CredentialTables (s.exec t db).2 := by
  have hrows : ∀ name, (some name matches some TableName.tenants |
      some .profiles | some .credentials | some .profileCredentials) = true →
        Database.rows (s.exec t db).2 name = Database.rows db name := by
    intro name hname
    refine Statement.exec_frame (fun hwrites => ?_) t db
    rw [hwrites, hname] at hs
    cases hs
  have htenants : (s.exec t db).2.tenants = db.tenants := hrows .tenants rfl
  have hprofiles : (s.exec t db).2.profiles = db.profiles := hrows .profiles rfl
  have hcredentials : (s.exec t db).2.credentials = db.credentials :=
    hrows .credentials rfl
  have hlinks : (s.exec t db).2.profileCredentials = db.profileCredentials :=
    hrows .profileCredentials rfl
  refine ⟨?_, hlinks ▸ h.links, hcredentials ▸ h.refs⟩
  simp only [Database.hasTenant, htenants, hprofiles]
  exact h.tenants

theorem hasTenant_insertTenant
    {tenantId other : String} (h : Database.hasTenant db other = true) :
    Database.hasTenant (insertTenant tenantId db) other = true := by
  unfold insertTenant
  split_ifs
  · exact h
  · simp only [Database.hasTenant, List.contains_eq_mem, decide_eq_true_eq,
      List.mem_append] at h ⊢
    exact .inl h

theorem CredentialTables.exec_statement
    {s : Statement} (h : CredentialTables db) (hs : PointsHome s) :
    CredentialTables (s.exec t db).2 := by
  cases s with
  | insertTenant tenantId =>
      refine Statement.exec_keeps (fun value db' happlies => ?_) h
      obtain rfl := Except.ok.inj (execute_eq_ok.mp happlies.2)
      have htables : ∀ {α : Type} (f : Database → α),
          (∀ tenants, f { db with tenants := tenants } = f db) →
            f (insertTenant tenantId db) = f db := by
        intro α f hf
        unfold insertTenant
        split_ifs
        · rfl
        · exact hf _
      refine ⟨?_, ?_, ?_⟩
      · rw [htables Database.profiles (fun _ => rfl)]
        exact fun row hrow => hasTenant_insertTenant (h.tenants row hrow)
      · rw [htables Database.profileCredentials (fun _ => rfl)]
        exact h.links
      · rw [htables Database.credentials (fun _ => rfl)]
        exact h.refs
  | insertProfile profileId tenantId =>
      refine Statement.exec_keeps (fun value db' happlies => ?_) h
      simp only [Statement.Applies, Statement.apply, execute_eq_ok,
        insertProfile, referencing_eq_ok] at happlies
      obtain ⟨-, htenant, rfl⟩ := happlies
      refine ⟨?_, h.links, h.refs⟩
      intro row hrow
      simp only [Table.insertNew] at hrow
      split_ifs at hrow with hhas
      · exact h.tenants row hrow
      · rcases List.mem_append.mp hrow with hrow | hrow
        · exact h.tenants row hrow
        · obtain rfl := List.mem_singleton.mp hrow
          exact htenant.resolve_left hhas
  | upsertCredential id tenantId clientId clientGroupId kind secretRef status =>
      refine Statement.exec_keeps (fun value db' happlies => ?_) h
      obtain ⟨-, -, rfl⟩ := applies_upsertCredential.mp happlies
      refine ⟨h.tenants, h.links, ?_⟩
      intro row hrow
      simp only [Table.upsert, Table.updateWhere] at hrow
      split_ifs at hrow
      · obtain ⟨old, hold, rfl⟩ := List.mem_map.mp hrow
        split_ifs
        · exact h.refs old hold
        · exact h.refs old hold
      · rcases List.mem_append.mp hrow with hrow | hrow
        · exact h.refs row hrow
        · obtain rfl := List.mem_singleton.mp hrow
          exact hs
  | setCredentialExpiry credentialId expiresAt =>
      refine Statement.exec_keeps (fun value db' happlies => ?_) h
      obtain ⟨-, rfl⟩ := Prod.mk.inj (Except.ok.inj happlies.2)
      refine ⟨h.tenants, h.links, ?_⟩
      intro row hrow
      obtain ⟨old, hold, rfl⟩ := List.mem_map.mp hrow
      split_ifs
      · exact h.refs old hold
      · exact h.refs old hold
  | insertProfileCredential profileId credentialId =>
      refine Statement.exec_keeps (fun value db' happlies => ?_) h
      obtain ⟨-, -, rfl⟩ := applies_insertProfileCredential.mp happlies
      refine ⟨h.tenants, ?_, h.refs⟩
      have hnodup := @Table.nodup_insertNew _ _ _ id
        (⟨profileId, credentialId⟩ : ProfileCredentialRow) db.profileCredentials
        (by simpa using h.links)
      simpa using hnodup
  | _ => exact h.frame rfl

theorem CredentialTables.exec
    {crates : Crates} {op : StoreCall} {t : StoreTick}
    (h : CredentialTables db) :
    CredentialTables (PostgresStore.exec crates op t db).2 :=
  exec_keeps (body_pointsHome crates t.tick op)
    (fun _ _ _ hs hdb => hdb.exec_statement hs) h

/-! ## An addition -/

/-- The rows that an addition writes. -/
def withCredential
    (now : DateTime) (tenantId profileId : String) (credential : Credential)
    (db : Database) : Database :=
  let status := credentialStatusText credential.status
  let kind := materialKind credential.material
  { db with
    clients := Table.upsert ClientRow.id
      ⟨credential.id, tenantId, credential.displayName, status⟩
      (fun other => { other with
        displayName := credential.displayName
        status := status }) db.clients
    secrets := Table.upsert SecretRow.id
      ⟨"secret:" ++ credential.id, tenantId, kind, credential.material⟩
      (fun other => { other with ciphertext := credential.material }) db.secrets
    credentials := Table.upsert CredentialRow.id
      ⟨credential.id, tenantId, credential.id, credential.clientGroupId, kind,
        "secret:" ++ credential.id, status, none, now⟩
      (fun other => { other with status := status }) db.credentials
    profileCredentials := Table.insertNew id ⟨profileId, credential.id⟩
      db.profileCredentials }

theorem applies_profileTenant
    {profileId : String} {value : Option String} :
    (Statement.profileTenant profileId).Applies t db value db' ↔
      t.fault = none ∧
        value = (Table.lookup ProfileRow.id profileId db.profiles).map
          ProfileRow.tenantId ∧ db' = db :=
  applies_of_fetch rfl

/-- An addition succeeds when the profile exists and no statement fails. -/
theorem runs_addCredential
    (h : CredentialTables db) {env : ℕ → StatementTick} {profileId : String}
    {credential : Credential} :
    Runs (addCredential profileId credential) env db u db' ↔
      ∃ row, Table.lookup ProfileRow.id profileId db.profiles = some row ∧
        (∀ k < 7, (env k).fault = none) ∧
        db' = withEvent (env 5).now (env 6).now row.tenantId "admin"
          "client.created" "client" credential.id
          (withCredential (env 3).now row.tenantId profileId credential db) := by
  constructor
  · intro hruns
    obtain ⟨_, _, hread, hruns⟩ := runs_query_bind.mp hruns
    obtain ⟨h₀, rfl, rfl⟩ := applies_profileTenant.mp hread
    obtain ⟨tenantId, hrow, hruns⟩ := runs_orNotFound_bind.mp hruns
    obtain ⟨_, _, hclient, hruns⟩ := runs_query_bind.mp hruns
    obtain ⟨h₁, -, rfl⟩ := applies_upsertClient.mp hclient
    obtain ⟨_, _, hsecret, hruns⟩ := runs_query_bind.mp hruns
    obtain ⟨h₂, -, rfl⟩ := applies_upsertSecret.mp hsecret
    obtain ⟨_, _, hcredential, hruns⟩ := runs_query_bind.mp hruns
    obtain ⟨h₃, -, rfl⟩ := applies_upsertCredential.mp hcredential
    obtain ⟨_, _, hlink, hruns⟩ := runs_query_bind.mp hruns
    obtain ⟨h₄, -, rfl⟩ := applies_insertProfileCredential.mp hlink
    obtain ⟨⟨h₅, h₆⟩, -, rfl⟩ := runs_recordEvent.mp hruns
    obtain ⟨row, hlookup, rfl⟩ := Option.map_eq_some_iff.mp hrow
    refine ⟨row, hlookup, ?_, rfl⟩
    intro k hk
    interval_cases k <;> assumption
  · rintro ⟨row, hlookup, hfaults, rfl⟩
    have htenant := h.tenants row (Table.lookup_mem _ hlookup).1
    have hprofile : Database.hasProfile db profileId = true := by
      rw [Database.hasProfile, Table.hasKey_eq_isSome, hlookup]
      rfl
    refine runs_query_bind.mpr ⟨_, db, applies_profileTenant.mpr
      ⟨hfaults 0 (by omega), rfl, rfl⟩, ?_⟩
    refine runs_orNotFound_bind.mpr ⟨row.tenantId, by rw [hlookup]; rfl, ?_⟩
    refine runs_query_bind.mpr ⟨(), _, applies_upsertClient.mpr
      ⟨hfaults 1 (by omega), .inr htenant, rfl⟩, ?_⟩
    refine runs_query_bind.mpr ⟨(), _, applies_upsertSecret.mpr
      ⟨hfaults 2 (by omega), .inr htenant, rfl⟩, ?_⟩
    refine runs_query_bind.mpr ⟨(), _, applies_upsertCredential.mpr
      ⟨hfaults 3 (by omega), .inr ⟨htenant, ?_⟩, rfl⟩, ?_⟩
    · refine Table.hasKey_upsert_self ClientRow.id ?_ ?_
      · rfl
      · exact fun _ => rfl
    refine runs_query_bind.mpr ⟨(), _, applies_insertProfileCredential.mpr
      ⟨hfaults 4 (by omega), .inr ⟨hprofile, ?_⟩, rfl⟩, ?_⟩
    · refine Table.hasKey_upsert_self CredentialRow.id ?_ ?_
      · rfl
      · exact fun _ => rfl
    exact runs_recordEvent.mpr
      ⟨⟨hfaults 5 (by omega), hfaults 6 (by omega)⟩, htenant, rfl⟩

/-! ## The lists of the database -/

theorem lists_iff
    {crates : Crates} {profileId : String} {credentials : List Credential} :
    Lists (exec crates) db profileId credentials ↔
      ∃ order, credentials =
        (selectCredentialsOf order profileId db).map credentialOf := by
  constructor
  · rintro ⟨t, hlist⟩
    obtain ⟨rows, _, hread, hpure⟩ := runs_query_bind.mp (runs_of_exec hlist)
    obtain ⟨-, rfl, -⟩ := (applies_of_fetch rfl).mp hread
    exact ⟨_, (runs_pure.mp hpure).1⟩
  · rintro ⟨order, rfl⟩
    exact ⟨⟨⟨⟨0, 0⟩, fun _ => "", order⟩, fun _ => ⟨⟨0, 0⟩, order, none⟩⟩, rfl⟩

theorem mem_listed
    {order : IterationOrder} {profileId : String} {credential : Credential} :
    credential ∈ (selectCredentialsOf order profileId db).map credentialOf ↔
      ∃ link ∈ db.profileCredentials, link.profileId = profileId ∧
        ∃ row, joinCredential db link = some row ∧
          credentialOf row = credential := by
  simp only [selectCredentialsOf, List.mem_map, List.mem_mergeSort,
    List.mem_filterMap, List.mem_filter, IterationOrder.mem_arrange,
    decide_eq_true_eq]
  constructor
  · rintro ⟨row, ⟨link, ⟨hlink, hprofile⟩, hjoin⟩, hcredential⟩
    exact ⟨link, hlink, hprofile, row, hjoin, hcredential⟩
  · rintro ⟨link, hlink, hprofile, row, hjoin, hcredential⟩
    exact ⟨row, ⟨link, ⟨hlink, hprofile⟩, hjoin⟩, hcredential⟩

theorem joinCredential_id
    {link : ProfileCredentialRow} {row : CredentialResult}
    (h : joinCredential db link = some row) :
    row.id = link.credentialId := by
  simp only [joinCredential, Option.bind_eq_bind, Option.bind_eq_some_iff] at h
  obtain ⟨credential, hlookup, client, -, secret, -, hrow⟩ := h
  obtain rfl := Option.some.inj hrow
  exact (Table.lookup_mem _ hlookup).2

theorem map_id_joined_sublist (links : Table ProfileCredentialRow) :
    ((links.filterMap (joinCredential db)).map CredentialResult.id).Sublist
      (links.map ProfileCredentialRow.credentialId) := by
  induction links with
  | nil => exact .slnil
  | cons link links ih =>
      cases hjoin : joinCredential db link with
      | none =>
          rw [List.filterMap_cons_none hjoin]
          exact ih.cons _
      | some row =>
          rw [List.filterMap_cons_some hjoin, List.map_cons, List.map_cons,
            joinCredential_id hjoin]
          exact ih.cons_cons _

/-- The links of a profile are to distinct credentials. -/
theorem CredentialTables.distinctIds
    (h : CredentialTables db) (crates : Crates) :
    DistinctIds (PostgresStore.exec crates) db := by
  intro profileId credentials hlist
  obtain ⟨order, rfl⟩ := lists_iff.mp hlist
  have hlinks : ((order.arrange db.profileCredentials).filter
      (fun link => link.profileId = profileId)).Nodup :=
    ((order.arrange_perm _).nodup_iff.mpr h.links).filter _
  have hids : (((order.arrange db.profileCredentials).filter
      (fun link => link.profileId = profileId)).map
        ProfileCredentialRow.credentialId).Nodup := by
    refine hlinks.map_on ?_
    intro link hlink link' hlink' hid
    have hprofile : link.profileId = link'.profileId :=
      (of_decide_eq_true (List.mem_filter.mp hlink).2).trans
        (of_decide_eq_true (List.mem_filter.mp hlink').2).symm
    obtain ⟨_, _⟩ := link
    obtain ⟨_, _⟩ := link'
    exact ProfileCredentialRow.mk.injEq .. ▸ ⟨hprofile, hid⟩
  rw [List.map_map, selectCredentialsOf,
    ((List.mergeSort_perm _ _).map _).nodup_iff]
  exact hids.sublist (map_id_joined_sublist _)

/-! ## The credential that was added -/

/-- The group that the database keeps for an added credential. -/
def keptGroup (credential : Credential) (db : Database) : String :=
  (Table.lookup CredentialRow.id credential.id db.credentials).elim
    credential.clientGroupId CredentialRow.clientGroupId

theorem parse_credentialStatusText (status : CredentialStatus) :
    parseCredentialStatus (credentialStatusText status) = status := by
  cases status <;> rfl

/-- It is listed as it was given, except for the group. -/
theorem joinCredential_withCredential
    (h : CredentialTables db) (now : DateTime) (tenantId profileId : String)
    (credential : Credential) :
    ∃ row, joinCredential
        (withCredential now tenantId profileId credential db)
          ⟨profileId, credential.id⟩ = some row ∧
      credentialOf row =
        { credential with clientGroupId := keptGroup credential db } := by
  have hclient : ∃ client, Table.lookup ClientRow.id credential.id
      (withCredential now tenantId profileId credential db).clients =
        some client ∧ client.displayName = credential.displayName := by
    simp only [withCredential]
    rw [Table.lookup_upsert ClientRow.id, if_pos rfl]
    · cases Table.lookup ClientRow.id credential.id db.clients <;>
        exact ⟨_, rfl, rfl⟩
    · exact fun _ => rfl
  have hsecret : ∃ secret, Table.lookup SecretRow.id ("secret:" ++ credential.id)
      (withCredential now tenantId profileId credential db).secrets =
        some secret ∧ secret.ciphertext = credential.material := by
    simp only [withCredential]
    rw [Table.lookup_upsert SecretRow.id, if_pos rfl]
    · cases Table.lookup SecretRow.id ("secret:" ++ credential.id) db.secrets <;>
        exact ⟨_, rfl, rfl⟩
    · exact fun _ => rfl
  have hcredential : ∃ row, Table.lookup CredentialRow.id credential.id
      (withCredential now tenantId profileId credential db).credentials =
        some row ∧ row.id = credential.id ∧ row.clientId = credential.id ∧
          row.secretRef = "secret:" ++ credential.id ∧
          row.clientGroupId = keptGroup credential db ∧
          row.status = credentialStatusText credential.status := by
    simp only [withCredential, keptGroup]
    rw [Table.lookup_upsert CredentialRow.id, if_pos rfl]
    · cases hold : Table.lookup CredentialRow.id credential.id db.credentials with
      | none => exact ⟨_, rfl, rfl, rfl, rfl, rfl, rfl⟩
      | some old =>
          obtain ⟨hmem, hid⟩ := Table.lookup_mem _ hold
          obtain ⟨hclientId, hsecretRef⟩ := h.refs old hmem
          exact ⟨_, rfl, hid, hclientId.trans hid, hid ▸ hsecretRef, rfl, rfl⟩
    · exact fun _ => rfl
  obtain ⟨client, hclient, hname⟩ := hclient
  obtain ⟨secret, hsecret, hmaterial⟩ := hsecret
  obtain ⟨row, hrow, hid, hclientId, hsecretRef, hgroup, hstatus⟩ := hcredential
  refine ⟨⟨profileId, row.id, row.clientGroupId, row.status, client.displayName,
    secret.ciphertext, row.createdAt⟩, ?_, ?_⟩
  · simp only [joinCredential, hrow, hclientId, hsecretRef, hclient, hsecret,
      Option.bind_eq_bind, Option.bind_some]
    rfl
  · simp only [credentialOf, hid, hgroup, hstatus, hname, hmaterial,
      parse_credentialStatusText]

theorem lastWritten_iff
    (h : CredentialTables db) (crates : Crates) (now audited published : DateTime)
    (tenantId profileId : String) (credential : Credential) :
    LastWritten (PostgresStore.exec crates)
        (withEvent audited published tenantId "admin" "client.created" "client"
          credential.id (withCredential now tenantId profileId credential db))
        profileId credential ↔
      keptGroup credential db = credential.clientGroupId := by
  obtain ⟨row, hjoin, hrow⟩ :=
    joinCredential_withCredential h now tenantId profileId credential
  have hlink : (⟨profileId, credential.id⟩ : ProfileCredentialRow) ∈
      (withCredential now tenantId profileId credential db).profileCredentials := by
    simp only [withCredential, Table.insertNew]
    split_ifs with hhas
    · obtain ⟨link, hlink, rfl⟩ := (Table.hasKey_iff _ _ _).mp hhas
      exact hlink
    · exact List.mem_append_right _ (List.mem_singleton_self _)
  constructor
  · intro hlast
    obtain ⟨-, honly⟩ := hlast _ (lists_iff.mpr ⟨.entryOrder, rfl⟩)
    have hlisted := honly
      { credential with clientGroupId := keptGroup credential db }
      (mem_listed.mpr ⟨_, hlink, rfl, row, hjoin, hrow⟩) rfl
    exact congrArg Credential.clientGroupId hlisted
  · intro hgroup credentials hlist
    obtain ⟨order, rfl⟩ := lists_iff.mp hlist
    rw [hgroup] at hrow
    change credentialOf row = credential at hrow
    refine ⟨mem_listed.mpr ⟨_, hlink, rfl, row, hjoin, hrow⟩, ?_⟩
    intro other hother hid
    obtain ⟨⟨_, credentialId⟩, -, hprofile, row', hjoin', rfl⟩ :=
      mem_listed.mp hother
    obtain rfl : credentialId = credential.id :=
      (joinCredential_id hjoin').symm.trans hid
    subst hprofile
    rw [← hrow]
    exact congrArg credentialOf (Option.some.inj (hjoin'.symm.trans hjoin))

end PostgresStore

/-! ## The list of a profile in memory -/

namespace MemoryStore

variable {crates : Crates} {tenantId : String} {s : MemoryState}

theorem lists_iff
    {profileId : String} {credentials : List Credential} :
    Lists (exec crates tenantId) s profileId credentials ↔
      credentials = credentialsOf profileId s := by
  constructor
  · rintro ⟨t, hlist⟩
    exact (Except.ok.inj hlist).symm
  · rintro rfl
    exact ⟨⟨⟨0, 0⟩, fun _ => "", .entryOrder⟩, rfl⟩

theorem distinctIds_iff :
    DistinctIds (exec crates tenantId) s ↔
      ∀ profileId, ((credentialsOf profileId s).map Credential.id).Nodup := by
  simp only [DistinctIds, lists_iff, forall_eq]

/-- An addition appends to the list of its profile. -/
theorem credentialsOf_addCredential
    {profileId : String} {credential : Credential} {t : Tick} (other : String) :
    credentialsOf other
        (exec crates tenantId (.addCredential profileId credential) t s).2 =
      if s.profiles.containsKey profileId = true ∧ other = profileId then
        credentialsOf profileId s ++ [credential]
      else
        credentialsOf other s := by
  simp only [exec, addCredential]
  split_ifs with hprofile hboth hboth
  · simp [credentialsOf, record, hboth.2, HashTable.get_insert_self]
  · have hother : other ≠ profileId := fun heq => hboth ⟨hprofile, heq⟩
    simp [credentialsOf, record, HashTable.get_insert_of_ne, hother]
  · exact absurd hboth.1 hprofile
  · rfl

/-- The id is new to its profile, if there is that profile. -/
def AddsNewId (e : StoreEntry) : Prop :=
  ∀ profileId credential, e.op = .addCredential profileId credential →
    e.before.profiles.containsKey profileId = true →
      ∀ other ∈ credentialsOf profileId e.before, other.id ≠ credential.id

theorem distinctIds_after
    (op : StoreCall) (t : Tick) (s : MemoryState)
    (h : DistinctIds (exec crates tenantId) s) :
    DistinctIds (exec crates tenantId) (exec crates tenantId op t s).2 ↔
      AddsNewId ⟨op, t, s⟩ := by
  have hframe :
      (∀ profileId credential, op ≠ .addCredential profileId credential) →
      writes .credentials op = false →
        (DistinctIds (exec crates tenantId) (exec crates tenantId op t s).2 ↔
          AddsNewId ⟨op, t, s⟩) := by
    intro hop hwrites
    refine iff_of_true ?_ (fun profileId credential heq =>
      absurd heq (hop profileId credential))
    have hsame := exec_frame crates tenantId hwrites t s
    simp only [SameTables] at hsame
    rw [distinctIds_iff] at h ⊢
    simpa only [credentialsOf, hsame] using h
  cases op with
  | addCredential profileId credential =>
      rw [distinctIds_iff] at h ⊢
      simp only [credentialsOf_addCredential]
      constructor
      · rintro hafter _ _ heq hprofile other hother hid
        obtain ⟨rfl, rfl⟩ := StoreCall.addCredential.inj heq
        have hnodup := hafter profileId
        rw [if_pos ⟨hprofile, rfl⟩, List.map_append, List.map_singleton,
          List.nodup_append] at hnodup
        exact hnodup.2.2 other.id (List.mem_map_of_mem hother) credential.id
          (List.mem_singleton_self _) hid
      · intro hnew otherId
        split_ifs with hboth
        · obtain ⟨hprofile, rfl⟩ := hboth
          rw [List.map_append, List.map_singleton, List.nodup_append]
          refine ⟨h otherId, List.nodup_singleton _, ?_⟩
          intro id hid id' hid'
          obtain ⟨other, hother, rfl⟩ := List.mem_map.mp hid
          obtain rfl := List.mem_singleton.mp hid'
          exact hnew _ _ rfl hprofile other hother
        · exact h otherId
  | _ => exact hframe (fun _ _ heq => by cases heq) rfl

/-- A credential whose id is new is listed once, as it was given. -/
theorem lastWritten_of_new
    {profileId : String} {credential : Credential} {t : Tick}
    (hok : (exec crates tenantId (.addCredential profileId credential) t s).1 =
      .ok ())
    (hnew : AddsNewId ⟨.addCredential profileId credential, t, s⟩) :
    LastWritten (exec crates tenantId)
      (exec crates tenantId (.addCredential profileId credential) t s).2
      profileId credential := by
  have hprofile : s.profiles.containsKey profileId = true := by
    by_contra hnone
    simp only [exec, addCredential, hnone] at hok
    cases hok
  intro credentials hlist
  obtain rfl := lists_iff.mp hlist
  rw [credentialsOf_addCredential, if_pos ⟨hprofile, rfl⟩]
  refine ⟨List.mem_append_right _ (List.mem_singleton_self _), ?_⟩
  intro other hother hid
  rcases List.mem_append.mp hother with hother | hother
  · exact absurd hid (hnew _ _ rfl hprofile other hother)
  · exact List.mem_singleton.mp hother

theorem credentialsKept_iff
    {log : List StoreEntry} (h : History crates tenantId log s) :
    CredentialsKept (exec crates tenantId) log s ↔ ∀ e ∈ log, AddsNewId e := by
  have hdistinct := h.sequence.forall_iff (P := DistinctIds (exec crates tenantId))
    (Q := AddsNewId) (distinctIds_iff.mpr (fun _ => List.nodup_nil))
    distinctIds_after
  constructor
  · intro hkept
    exact hdistinct.mp hkept.distinct
  · intro hnew
    refine ⟨hdistinct.mpr hnew, ?_⟩
    rintro ⟨_, t, s'⟩ he profileId credential rfl hok
    exact lastWritten_of_new hok (hnew _ he)

end MemoryStore

namespace PostgresStore

/--
An addition that goes through finds no credential with its id, or one of the same
group.
-/
def KeepsGroup (e : Entry) : Prop :=
  ∀ profileId credential, e.op = .addCredential profileId credential →
    Database.hasProfile e.before profileId = true →
      (∀ k < 7, (e.choice.statement k).fault = none) →
        ∀ old, Table.lookup CredentialRow.id credential.id
            e.before.credentials = some old →
          old.clientGroupId = credential.clientGroupId

theorem keptGroup_eq_iff
    (credential : Credential) (db : Database) :
    keptGroup credential db = credential.clientGroupId ↔
      ∀ old, Table.lookup CredentialRow.id credential.id db.credentials =
        some old → old.clientGroupId = credential.clientGroupId := by
  unfold keptGroup
  cases Table.lookup CredentialRow.id credential.id db.credentials <;> simp

theorem lastWritten_addCredential_iff
    {crates : Crates} {t : StoreTick} {db : Database} (h : CredentialTables db)
    (profileId : String) (credential : Credential) :
    ((exec crates (.addCredential profileId credential) t db).1 = .ok () →
        LastWritten (exec crates)
          (exec crates (.addCredential profileId credential) t db).2 profileId
          credential) ↔
      (Database.hasProfile db profileId = true →
        (∀ k < 7, (t.statement k).fault = none) →
          keptGroup credential db = credential.clientGroupId) := by
  constructor
  · intro hlast hprofile hfaults
    rw [Database.hasProfile, Table.hasKey_eq_isSome,
      Option.isSome_iff_exists] at hprofile
    obtain ⟨row, hlookup⟩ := hprofile
    have hexec := (@exec_eq_ok db _ crates
      (.addCredential profileId credential) t ()).mpr
        ((runs_addCredential h).mpr ⟨row, hlookup, hfaults, rfl⟩)
    rw [hexec] at hlast
    exact (lastWritten_iff h crates _ _ _ _ _ _).mp (hlast rfl)
  · intro hgroup hok
    obtain ⟨row, hlookup, hfaults, hafter⟩ :=
      (runs_addCredential h).mp (runs_of_exec hok)
    rw [hafter]
    refine (lastWritten_iff h crates _ _ _ _ _ _).mpr (hgroup ?_ hfaults)
    rw [Database.hasProfile, Table.hasKey_eq_isSome, hlookup]
    rfl

theorem credentialsKept_iff
    {crates : Crates} {db : Database}
    {log : List Entry}
    (h : History crates log db) :
    CredentialsKept (exec crates) log db ↔ ∀ e ∈ log, KeepsGroup e := by
  obtain ⟨hdb, hlog⟩ := h.invariant (P := CredentialTables) .empty
    (fun _ _ _ hdb => hdb.exec)
  constructor
  · intro hkept e he profileId credential hop hprofile hfaults
    exact (keptGroup_eq_iff credential e.before).mp
      ((lastWritten_addCredential_iff (hlog e he) profileId credential).mp
        (hkept.last e he profileId credential hop) hprofile hfaults)
  · intro hkeeps
    refine ⟨⟨hdb.distinctIds crates, fun e he => (hlog e he).distinctIds crates⟩,
      ?_⟩
    intro e he profileId credential hop
    refine (lastWritten_addCredential_iff (hlog e he) profileId credential).mpr ?_
    intro hprofile hfaults
    exact (keptGroup_eq_iff credential e.before).mpr
      (hkeeps e he profileId credential hop hprofile hfaults)

end PostgresStore

/-! ## Both stores -/

/--
In memory an id may be added to a profile once.  In the database every addition
must find its id free, or in the same group.
-/
theorem credentials_kept_iff
    (crates : Crates) (tenantId : String)
    {log : List MemoryStore.StoreEntry} {s : MemoryState}
    (h : MemoryStore.History crates tenantId log s)
    {log' : List PostgresStore.Entry}
    {db : Database} (h' : PostgresStore.History crates log' db) :
    (CredentialsKept (MemoryStore.exec crates tenantId) log s ↔
        ∀ e ∈ log, MemoryStore.AddsNewId e) ∧
      (CredentialsKept (PostgresStore.exec crates) log' db ↔
        ∀ e ∈ log', PostgresStore.KeepsGroup e) :=
  ⟨MemoryStore.credentialsKept_iff h, PostgresStore.credentialsKept_iff h'⟩

/-! ### Two additions -/

def clientCredential (id group name : String) : Credential :=
  .activeVless id group "11111111-1111-1111-1111-111111111111" name

/-- A profile, and two credentials that are added to it. -/
def twoAdditions (first second : Credential) : List StoreCall :=
  [ .createProfile ⟨"tenant", "profile",
      .vlessRealityExample "group" "reality/key", ⟨0, 0⟩⟩,
    .addCredential "profile" first,
    .addCredential "profile" second ]

def memoryCalls (first second : Credential) : List (StoreCall × Tick) :=
  (twoAdditions first second).map (fun op => (op, referenceTick 0 "m"))

def postgresCalls (first second : Credential) :
    List (StoreCall × PostgresStore.StoreTick) :=
  (twoAdditions first second).map
    (fun op => (op, PostgresStore.referenceStoreTick 0 "p"))

def addsOldId (e : MemoryStore.StoreEntry) : Bool :=
  match e.op with
  | .addCredential profileId credential =>
      (MemoryStore.credentialsOf profileId e.before).any
        (fun other => other.id = credential.id)
  | _ => false

theorem addsNewId_of_check
    {e : MemoryStore.StoreEntry} (h : addsOldId e = false) :
    MemoryStore.AddsNewId e := by
  intro profileId credential hop _ other hother
  rw [addsOldId, hop] at h
  simpa using List.any_eq_false.mp h other hother

def changesGroup (e : PostgresStore.Entry) :
    Bool :=
  match e.op with
  | .addCredential _ credential =>
      (Table.lookup PostgresStore.CredentialRow.id credential.id
        e.before.credentials).any
          (fun old => old.clientGroupId ≠ credential.clientGroupId)
  | _ => false

theorem keepsGroup_of_check
    {e : PostgresStore.Entry}
    (h : changesGroup e = false) :
    PostgresStore.KeepsGroup e := by
  intro profileId credential hop _ _ old hold
  rw [changesGroup, hop] at h
  simpa [hold] using h

theorem memoryHistory (first second : Credential) :
    MemoryStore.History referenceCrates "tenant"
      (MemoryStore.entriesFrom referenceCrates "tenant"
        (memoryCalls first second) .default)
      (MemoryStore.execAll referenceCrates "tenant" (memoryCalls first second)
        .default) :=
  MemoryStore.History.new.execAll (memoryCalls first second)

theorem postgresHistory (first second : Credential) :
    PostgresStore.History referenceCrates
      (Program.entriesFrom (PostgresStore.exec referenceCrates)
        (postgresCalls first second) .empty)
      ((postgresCalls first second).foldl (fun db call =>
        (PostgresStore.exec referenceCrates call.1 call.2 db).2) .empty) :=
  Program.Sequence.start.callAll (postgresCalls first second)

theorem credentials_kept_iff_distinct :
    CredentialsKept (MemoryStore.exec referenceCrates "tenant")
        (MemoryStore.entriesFrom referenceCrates "tenant"
          (memoryCalls (clientCredential "a" "group" "A") (clientCredential "b" "group" "B"))
          .default)
        (MemoryStore.execAll referenceCrates "tenant"
          (memoryCalls (clientCredential "a" "group" "A") (clientCredential "b" "group" "B"))
          .default) ∧
      CredentialsKept (PostgresStore.exec referenceCrates)
        (Program.entriesFrom (PostgresStore.exec referenceCrates)
          (postgresCalls (clientCredential "a" "group" "A")
            (clientCredential "a" "group" "B")) .empty)
        ((postgresCalls (clientCredential "a" "group" "A")
          (clientCredential "a" "group" "B")).foldl (fun db call =>
            (PostgresStore.exec referenceCrates call.1 call.2 db).2) .empty) := by
  have hiff := credentials_kept_iff referenceCrates "tenant"
    (memoryHistory (clientCredential "a" "group" "A") (clientCredential "b" "group" "B"))
    (postgresHistory (clientCredential "a" "group" "A") (clientCredential "a" "group" "B"))
  have hids : ∀ e ∈ MemoryStore.entriesFrom referenceCrates "tenant"
      (memoryCalls (clientCredential "a" "group" "A") (clientCredential "b" "group" "B"))
      .default, addsOldId e = false := by
    decide +kernel
  have hgroups : ∀ e ∈ Program.entriesFrom (PostgresStore.exec referenceCrates)
      (postgresCalls (clientCredential "a" "group" "A") (clientCredential "a" "group" "B"))
      .empty, changesGroup e = false := by
    decide +kernel
  exact ⟨hiff.1.mpr (fun e he => addsNewId_of_check (hids e he)),
    hiff.2.mpr (fun e he => keepsGroup_of_check (hgroups e he))⟩

/-- Memory lists both additions of an id; the database keeps the first group. -/
theorem added_credentials_differ :
    (¬ ∀ log s, MemoryStore.History referenceCrates "tenant" log s →
        CredentialsKept (MemoryStore.exec referenceCrates "tenant") log s) ∧
      ¬ ∀ log db, PostgresStore.History referenceCrates log db →
        CredentialsKept (PostgresStore.exec referenceCrates) log db := by
  constructor
  · intro hclaim
    have hkept := hclaim _ _
      (memoryHistory (clientCredential "a" "group" "A") (clientCredential "a" "group" "A"))
    have hnodup := MemoryStore.distinctIds_iff.mp hkept.distinct.1 "profile"
    revert hnodup
    decide +kernel
  · intro hclaim
    have hkept := hclaim _ _
      (postgresHistory (clientCredential "a" "group" "A") (clientCredential "a" "other" "A"))
    have hlast := hkept.last _
      (List.mem_cons_of_mem _ (List.mem_cons_of_mem _ (List.mem_singleton_self _)))
      "profile" (clientCredential "a" "other" "A") rfl (by decide +kernel) _
      (PostgresStore.lists_iff.mpr ⟨.entryOrder, rfl⟩)
    revert hlast
    decide +kernel

end ProxyControl
