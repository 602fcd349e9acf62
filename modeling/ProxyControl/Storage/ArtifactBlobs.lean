import ProxyControl.Storage.PostgresRuns

/-!
# Recorded artifacts

Artifacts are stored under their ids, and blobs under their hashes.  Memory
overwrites both.  The database keeps the first blob of a hash, and the first
artifact of a tenant and a hash: a later artifact with the same content is not
stored, and its id resolves to nothing.

`ArtifactsKept` is what both stores owe: the id of a recorded artifact resolves
to the bytes that were recorded, from then on.
-/

namespace ProxyControl

open Effects HashTable

/-- The artifact that a call records. -/
def StoreCall.artifact? : StoreCall → Option Artifact
  | .recordArtifact artifact | .recordArtifactBlob artifact _ => some artifact
  | _ => none

/-- The bytes that a call records. -/
def StoreCall.bytes? : StoreCall → Option Bytes
  | .recordArtifactBlob _ bytes => some bytes
  | _ => none

section Kept

variable {τ σ : Type}

/-- Every artifact has an id of its own, and all bytes distinct hashes. -/
structure FreshArtifacts
    (crates : Crates) (log : List (Program.Entry StoreCall τ σ)) : Prop where
  ids : ∀ e ∈ log, ∀ e' ∈ log, ∀ artifact ∈ e.op.artifact?,
    ∀ artifact' ∈ e'.op.artifact?, artifact.id = artifact'.id →
      artifact = artifact'
  hashes : ∀ e ∈ log, ∀ e' ∈ log, ∀ bytes ∈ e.op.bytes?,
    ∀ bytes' ∈ e'.op.bytes?, crates.sha256 bytes = crates.sha256 bytes' →
      bytes = bytes'

theorem FreshArtifacts.initial
    {crates : Crates} {log log' : List (Program.Entry StoreCall τ σ)}
    (h : FreshArtifacts crates log) (hlog : log' <+: log) :
    FreshArtifacts crates log' where
  ids := fun e he e' he' => h.ids e (hlog.subset he) e' (hlog.subset he')
  hashes := fun e he e' he' => h.hashes e (hlog.subset he) e' (hlog.subset he')

theorem hexSha256_inj
    {crates : Crates} {bytes bytes' : Bytes} :
    hexSha256 crates bytes = hexSha256 crates bytes' ↔
      crates.sha256 bytes = crates.sha256 bytes' := by
  refine ⟨fun h => ?_, fun h => by rw [hexSha256, h, hexSha256]⟩
  have hdecode := congrArg Hex.decode h
  simpa [hexSha256, Hex.decode_encode] using hdecode

variable (crates : Crates) (healthy : τ → Prop)
variable (answer : (op : StoreCall) → τ → σ → op.Ret × σ)

/-- The id of the artifact resolves to the bytes, which have its hash. -/
def Resolves (artifact : Artifact) (bytes : Bytes) (s : σ) : Prop :=
  hexSha256 crates bytes = artifact.sha256 ∧
    ∀ t, healthy t → (answer (.artifactBytes artifact.id) t s).1 = .ok bytes

/-- If the call has recorded an artifact, its id resolves. -/
def KeepsArtifact (e : Program.Entry StoreCall τ σ) (s : σ) : Prop :=
  ∀ artifact bytes, e.op = .recordArtifactBlob artifact bytes →
    (answer (.recordArtifactBlob artifact bytes) e.choice e.before).1 =
        .ok () →
      Resolves crates healthy answer artifact bytes s

/-- Recorded artifacts resolve, at every later call and at the end. -/
def ArtifactsKept (log : List (Program.Entry StoreCall τ σ)) (s : σ) : Prop :=
  log.Pairwise (fun e e' => KeepsArtifact crates healthy answer e e'.before) ∧
    ∀ e ∈ log, KeepsArtifact crates healthy answer e s

end Kept

/-! ## In memory -/

namespace MemoryStore

variable {crates : Crates} {tenantId : String}

/-- The artifact stands under its id and the bytes under its hash. -/
def HoldsArtifact (artifact : Artifact) (bytes : Bytes) (s : MemoryState) : Prop :=
  get s.artifacts artifact.id = some artifact ∧
    get s.artifactBlobsBySha256 artifact.sha256 = some bytes

theorem HoldsArtifact.resolves
    {artifact : Artifact} {bytes : Bytes} {s : MemoryState}
    (h : HoldsArtifact artifact bytes s)
    (hsha : hexSha256 crates bytes = artifact.sha256) :
    Resolves crates (fun _ => True) (exec crates tenantId) artifact bytes s := by
  refine ⟨hsha, fun t _ => ?_⟩
  simp [exec, artifactBytes, artifactBytesBySha256, okOr, h.1, h.2, bind,
    Except.bind]

theorem holdsArtifact_recordArtifactBlob
    {artifact : Artifact} {bytes : Bytes} {t : Tick} {s : MemoryState}
    (hsha : hexSha256 crates bytes = artifact.sha256) :
    HoldsArtifact artifact bytes
      (exec crates tenantId (.recordArtifactBlob artifact bytes) t s).2 := by
  simp [HoldsArtifact, exec, recordArtifactBlob, hsha, record]

theorem HoldsArtifact.frame
    {artifact : Artifact} {bytes : Bytes} {op : StoreCall} {t : Tick}
    {s : MemoryState} (h : HoldsArtifact artifact bytes s)
    (hop : writes .artifacts op = false) :
    HoldsArtifact artifact bytes (MemoryStore.exec crates tenantId op t s).2 := by
  have hsame := exec_frame crates tenantId hop t s
  simp only [SameTables] at hsame
  simpa only [HoldsArtifact, hsame] using h

/-- A call that records another artifact, or the same again, disturbs none. -/
theorem HoldsArtifact.exec
    {artifact : Artifact} {bytes : Bytes} {op : StoreCall} {t : Tick}
    {s : MemoryState} (h : HoldsArtifact artifact bytes s)
    (hsha : hexSha256 crates bytes = artifact.sha256)
    (hids : ∀ other ∈ op.artifact?, other.id = artifact.id → other = artifact)
    (hhashes : ∀ other ∈ op.bytes?,
      crates.sha256 other = crates.sha256 bytes → other = bytes) :
    HoldsArtifact artifact bytes (MemoryStore.exec crates tenantId op t s).2 := by
  have hinsert : ∀ other ∈ op.artifact?,
      get (s.artifacts.insert other.id other) artifact.id = some artifact := by
    intro other hother
    rw [get_insert]
    split_ifs with hid
    · rw [hids other hother hid.symm]
    · exact h.1
  cases op with
  | recordArtifact other => exact ⟨hinsert other rfl, h.2⟩
  | recordArtifactBlob other bytes' =>
      simp only [MemoryStore.exec, recordArtifactBlob]
      split_ifs with hmismatch
      · exact h
      · refine ⟨hinsert other rfl, ?_⟩
        simp only [record, get_insert]
        split_ifs with hsame
        · rw [hhashes bytes' rfl]
          rw [← hexSha256_inj, not_not.mp hmismatch, hsha, hsame]
        · exact h.2
  | _ => exact h.frame rfl

theorem holdsArtifact
    {log : List StoreEntry} {s : MemoryState}
    (h : Program.Sequence (exec crates tenantId) .default log s)
    (hfresh : FreshArtifacts crates log) :
    ∀ e ∈ log, ∀ artifact bytes, e.op = .recordArtifactBlob artifact bytes →
      hexSha256 crates bytes = artifact.sha256 → HoldsArtifact artifact bytes s := by
  induction h with
  | start =>
      intro e he
      cases he
  | @call log s h op t ih =>
      intro e he artifact bytes hop hsha
      rcases List.mem_append.mp he with hearlier | hlast
      · refine (ih (hfresh.initial (List.prefix_append _ _)) e hearlier artifact
          bytes hop hsha).exec hsha ?_ ?_
        · intro other hother hid
          exact hfresh.ids _ (List.mem_append_right _ (List.mem_singleton_self _))
            e he other hother artifact (by rw [hop]; rfl) hid
        · intro other hother hhash
          exact hfresh.hashes _
            (List.mem_append_right _ (List.mem_singleton_self _)) e he other
            hother bytes (by rw [hop]; rfl) hhash
      · obtain rfl := List.mem_singleton.mp hlast
        obtain rfl : op = .recordArtifactBlob artifact bytes := hop
        exact holdsArtifact_recordArtifactBlob hsha

/-- In memory recorded artifacts resolve, whatever else is recorded. -/
theorem artifactsKept
    {log : List StoreEntry} {s : MemoryState}
    (h : History crates tenantId log s) (hfresh : FreshArtifacts crates log) :
    ArtifactsKept crates (fun _ => True) (exec crates tenantId) log s := by
  refine (h.sequence.afterwards_iff (Q := fun _ => True) ?_).mpr
    (fun _ _ => trivial)
  intro log' s' hlog hsequence e he
  refine iff_of_true ?_ trivial
  intro artifact bytes hop hok
  have hsha : hexSha256 crates bytes = artifact.sha256 := by
    by_contra hmismatch
    simp only [exec, recordArtifactBlob, ne_eq, hmismatch, not_false_eq_true,
      if_true] at hok
    cases hok
  exact (holdsArtifact hsequence (hfresh.initial hlog) e he artifact bytes hop
    hsha).resolves hsha

end MemoryStore

/-! ## In the database -/

namespace PostgresStore

variable {crates : Crates} {db db' : Database} {u : Unit}

/-- The content of an artifact; the table has one artifact for each. -/
def artifactKey (artifact : Artifact) : String × String :=
  (artifact.tenantId, artifact.sha256)

theorem applies_insertArtifact
    {artifact : Artifact} {t : StatementTick} :
    (Statement.insertArtifact artifact).Applies t db u db' ↔
      t.fault = none ∧
        if Table.hasKey artifactKey (artifactKey artifact) db.artifacts = true then
          db' = db
        else
          Database.hasArtifact db artifact.id = false ∧
            Database.hasTenant db artifact.tenantId = true ∧
            db' = { db with artifacts := db.artifacts ++ [artifact] } := by
  simp only [Statement.Applies, Statement.apply, execute_eq_ok, insertArtifact]
  refine and_congr_right fun _ => ?_
  change (if Table.hasKey artifactKey (artifactKey artifact) db.artifacts = true
    then _ else _) = _ ↔ _
  split_ifs
  · exact pure_eq_ok
  · rw [unique_bind_eq_ok, references_bind_eq_ok, pure_eq_ok]

theorem applies_insertArtifactBlob
    {sha256 : String} {bytes : Bytes} {t : StatementTick} :
    (Statement.insertArtifactBlob sha256 bytes).Applies t db u db' ↔
      t.fault = none ∧ db' = insertArtifactBlob sha256 bytes db := by
  simp only [Statement.Applies, Statement.apply, execute_eq_ok, Except.ok.injEq,
    eq_comm]

/-! ### What one call does to the tables -/

/-- The statements of a call write its own artifact and bytes. -/
def Records (crates : Crates) (op : StoreCall) : Statement → Prop
  | .insertArtifact artifact => op.artifact? = some artifact
  | .insertArtifactBlob sha256 bytes =>
      op.bytes? = some bytes ∧ hexSha256 crates bytes = sha256
  | _ => True

theorem makes_recordArtifact
    {op : StoreCall} {artifact : Artifact} (h : op.artifact? = some artifact) :
    Makes (Records crates op) (recordArtifact artifact) := by
  have hinsert : Records crates op (.insertArtifact artifact) := h
  refine (makes_query hinsert).bind fun _ => ?_
  exact (makes_query trivial).bind fun _ => makes_query trivial

theorem body_records
    (t : Tick) (op : StoreCall) :
    Makes (Records crates op) (body crates t op) := by
  by_cases htable : TableName.artifacts ∈ tables op
  · cases op with
    | recordArtifact artifact => exact makes_recordArtifact rfl
    | recordArtifactBlob artifact bytes =>
        simp only [body, recordArtifactBlob]
        split_ifs with hsha
        · exact makes_throw _
        · have hinsert : Records crates (.recordArtifactBlob artifact bytes)
              (.insertArtifactBlob artifact.sha256 bytes) := ⟨rfl, not_not.mp hsha⟩
          exact (makes_query hinsert).bind fun _ => makes_recordArtifact rfl
    | _ => simp [tables] at htable
  · refine (body_writes crates t op).mono ?_
    intro s hs
    cases s with
    | insertArtifact artifact => exact absurd (hs _ rfl) htable
    | insertArtifactBlob sha256 bytes =>
        refine absurd (hs _ rfl) ?_
        cases op <;> simp [tables] at htable ⊢
    | _ => trivial

/-- At most one row was added to each table, for content that was not there. -/
structure ArtifactStep
    (crates : Crates) (op : StoreCall) (db db' : Database) : Prop where
  artifacts : db'.artifacts = db.artifacts ∨
    ∃ artifact, op.artifact? = some artifact ∧
      Table.hasKey artifactKey (artifactKey artifact) db.artifacts = false ∧
      db'.artifacts = db.artifacts ++ [artifact]
  blobs : db'.artifactBlobs = db.artifactBlobs ∨
    ∃ bytes, op.bytes? = some bytes ∧
      db'.artifactBlobs = db.artifactBlobs ++ [⟨hexSha256 crates bytes, bytes⟩]

theorem ArtifactStep.refl (op : StoreCall) : ArtifactStep crates op db db :=
  ⟨.inl rfl, .inl rfl⟩

theorem ArtifactStep.frame
    {op : StoreCall} {s : Statement} {t : StatementTick} {db₁ : Database}
    (h : ArtifactStep crates op db db₁)
    (hs : (s.writes matches some .artifacts | some .artifactBlobs) = false) :
    ArtifactStep crates op db (s.exec t db₁).2 := by
  have hartifacts : (s.exec t db₁).2.artifacts = db₁.artifacts :=
    @Statement.exec_frame s .artifacts (fun hw => by simp [hw] at hs) t db₁
  have hblobs : (s.exec t db₁).2.artifactBlobs = db₁.artifactBlobs :=
    @Statement.exec_frame s .artifactBlobs (fun hw => by simp [hw] at hs) t db₁
  exact ⟨hartifacts ▸ h.artifacts, hblobs ▸ h.blobs⟩

theorem ArtifactStep.statement
    {op : StoreCall} {s : Statement} {t : StatementTick} {db₁ : Database}
    (h : ArtifactStep crates op db db₁) (hs : Records crates op s) :
    ArtifactStep crates op db (s.exec t db₁).2 := by
  cases s with
  | insertArtifact artifact =>
      refine Statement.exec_keeps (fun value db' happlies => ?_) h
      obtain ⟨-, hinsert⟩ := applies_insertArtifact.mp happlies
      split_ifs at hinsert with hhas
      · exact hinsert ▸ h
      · obtain ⟨-, -, rfl⟩ := hinsert
        rw [Bool.not_eq_true] at hhas
        refine ⟨?_, h.blobs⟩
        rcases h.artifacts with hsame | ⟨other, hother, -, hadded⟩
        · exact .inr ⟨artifact, hs, hsame ▸ hhas, by rw [hsame]⟩
        · -- the call has added the row of its artifact before
          obtain rfl := Option.some.inj (hs.symm.trans hother)
          rw [hadded, Bool.eq_false_iff, ne_eq, Table.hasKey_iff] at hhas
          exact absurd ⟨artifact, List.mem_append_right _
            (List.mem_singleton_self _), rfl⟩ hhas
  | insertArtifactBlob sha256 bytes =>
      refine Statement.exec_keeps (fun value db' happlies => ?_) h
      obtain ⟨-, rfl⟩ := applies_insertArtifactBlob.mp happlies
      obtain ⟨hbytes, rfl⟩ := hs
      refine ⟨h.artifacts, ?_⟩
      simp only [insertArtifactBlob, Table.insertNew]
      split_ifs with hhas
      · exact h.blobs
      · rcases h.blobs with hsame | ⟨other, hother, hadded⟩
        · exact .inr ⟨bytes, hbytes, by rw [hsame]⟩
        · obtain rfl := Option.some.inj (hbytes.symm.trans hother)
          rw [Table.hasKey_iff, hadded] at hhas
          exact absurd ⟨_, List.mem_append_right _ (List.mem_singleton_self _),
            rfl⟩ hhas
  | _ => exact h.frame rfl

theorem artifactStep
    (crates : Crates) (op : StoreCall) (t : StoreTick) (db : Database) :
    ArtifactStep crates op db (exec crates op t db).2 :=
  exec_keeps (body_records t.tick op) (fun _ _ _ hs h => h.statement hs)
    (.refl op)

/-! ### What the rows say about the calls -/

structure ArtifactRows
    (crates : Crates) (log : List Entry) (db : Database) : Prop where
  keys : (db.artifacts.map artifactKey).Nodup
  artifacts : ∀ row ∈ db.artifacts, ∃ e ∈ log, e.op.artifact? = some row
  blobs : ∀ row ∈ db.artifactBlobs, row.sha256 = hexSha256 crates row.bytes ∧
    ∃ e ∈ log, e.op.bytes? = some row.bytes

theorem artifactRows
    {log : List Entry} (h : History crates log db) :
    ArtifactRows crates log db := by
  induction h with
  | start => exact ⟨List.nodup_nil, by simp [Database.empty], by simp [Database.empty]⟩
  | @call log db h op t ih =>
      have hstep := artifactStep crates op t db
      have hlast : (⟨op, t, db⟩ : Entry) ∈ log ++ [⟨op, t, db⟩] :=
        List.mem_append_right _ (List.mem_singleton_self _)
      have hartifacts : ∀ row ∈ db.artifacts, ∃ e ∈ log ++ [(⟨op, t, db⟩ : Entry)],
          e.op.artifact? = some row := fun row hrow => by
        obtain ⟨e, he, hrecorded⟩ := ih.artifacts row hrow
        exact ⟨e, List.mem_append_left _ he, hrecorded⟩
      have hblobs : ∀ row ∈ db.artifactBlobs,
          row.sha256 = hexSha256 crates row.bytes ∧
            ∃ e ∈ log ++ [(⟨op, t, db⟩ : Entry)], e.op.bytes? = some row.bytes :=
        fun row hrow => by
          obtain ⟨hsha, e, he, hrecorded⟩ := ih.blobs row hrow
          exact ⟨hsha, e, List.mem_append_left _ he, hrecorded⟩
      refine ⟨?_, ?_, ?_⟩
      · rcases hstep.artifacts with hsame | ⟨artifact, -, hnew, hadded⟩
        · rw [hsame]
          exact ih.keys
        · rw [hadded, List.map_append, List.map_singleton, List.nodup_append]
          refine ⟨ih.keys, List.nodup_singleton _, ?_⟩
          rintro _ hkey _ hartifact rfl
          obtain ⟨row, hrow, hsame⟩ := List.mem_map.mp hkey
          rw [List.mem_singleton.mp hartifact] at hsame
          rw [Bool.eq_false_iff, ne_eq, Table.hasKey_iff] at hnew
          exact hnew ⟨row, hrow, hsame⟩
      · rcases hstep.artifacts with hsame | ⟨artifact, hrecorded, -, hadded⟩
        · rw [hsame]
          exact hartifacts
        · rw [hadded]
          intro row hrow
          rcases List.mem_append.mp hrow with hrow | hrow
          · exact hartifacts row hrow
          · obtain rfl := List.mem_singleton.mp hrow
            exact ⟨_, hlast, hrecorded⟩
      · rcases hstep.blobs with hsame | ⟨bytes, hrecorded, hadded⟩
        · rw [hsame]
          exact hblobs
        · rw [hadded]
          intro row hrow
          rcases List.mem_append.mp hrow with hrow | hrow
          · exact hblobs row hrow
          · obtain rfl := List.mem_singleton.mp hrow
            exact ⟨rfl, _, hlast, hrecorded⟩

/-- Rows are only added. -/
theorem rows_since
    {log : List Entry} (h : History crates log db) :
    ∀ e ∈ log,
      (e.before.artifacts ⊆ (exec crates e.op e.choice e.before).2.artifacts ∧
        e.before.artifactBlobs ⊆
          (exec crates e.op e.choice e.before).2.artifactBlobs) ∧
      (exec crates e.op e.choice e.before).2.artifacts ⊆ db.artifacts ∧
        (exec crates e.op e.choice e.before).2.artifactBlobs ⊆ db.artifactBlobs := by
  refine h.since (R := fun db db' => db.artifacts ⊆ db'.artifacts ∧
    db.artifactBlobs ⊆ db'.artifactBlobs)
    (fun _ => ⟨List.Subset.refl _, List.Subset.refl _⟩)
    (fun _ _ _ h h' => ⟨List.Subset.trans h.1 h'.1, List.Subset.trans h.2 h'.2⟩)
    ?_
  intro op t db
  have hstep := artifactStep crates op t db
  constructor
  · rcases hstep.artifacts with hsame | ⟨_, -, -, hadded⟩
    · rw [hsame]
      exact List.Subset.refl _
    · rw [hadded]
      exact List.subset_append_left _ _
  · rcases hstep.blobs with hsame | ⟨_, -, hadded⟩
    · rw [hsame]
      exact List.Subset.refl _
    · rw [hadded]
      exact List.subset_append_left _ _

/-! ### Recording an artifact -/

theorem runs_recordArtifactBlob
    {env : ℕ → StatementTick} {artifact : Artifact} {bytes : Bytes}
    (h : Runs (recordArtifactBlob crates artifact bytes) env db u db') :
    (hexSha256 crates bytes = artifact.sha256 ∧
      Database.hasTenant db artifact.tenantId = true ∧
      ∀ k < 4, (env k).fault = none) ∧
    (∃ row ∈ db'.artifactBlobs, row.sha256 = artifact.sha256) ∧
    ∃ row ∈ db'.artifacts, artifactKey row = artifactKey artifact ∧
      (row ∈ db.artifacts ∨ row = artifact) := by
  simp only [recordArtifactBlob] at h
  split_ifs at h with hsha
  · exact absurd h not_runs_throw
  obtain ⟨_, _, hblob, h⟩ := runs_query_bind.mp h
  obtain ⟨h₀, rfl⟩ := applies_insertArtifactBlob.mp hblob
  obtain ⟨_, _, hartifact, h⟩ := runs_query_bind.mp h
  obtain ⟨h₁, hinsert⟩ := applies_insertArtifact.mp hartifact
  obtain ⟨⟨h₂, h₃⟩, htenant, rfl⟩ := runs_recordEvent.mp h
  have hfaults : ∀ k < 4, (env k).fault = none := by
    intro k hk
    interval_cases k <;> assumption
  have hblobs : ∃ row ∈ (insertArtifactBlob artifact.sha256 bytes db).artifactBlobs,
      row.sha256 = artifact.sha256 := by
    simp only [insertArtifactBlob, Table.insertNew]
    split_ifs with hhas
    · exact (Table.hasKey_iff _ _ _).mp hhas
    · exact ⟨_, List.mem_append_right _ (List.mem_singleton_self _), rfl⟩
  split_ifs at hinsert with hhas
  · subst hinsert
    obtain ⟨row, hrow, hkey⟩ := (Table.hasKey_iff _ _ _).mp hhas
    exact ⟨⟨not_not.mp hsha, htenant, hfaults⟩, hblobs, row, hrow, hkey, .inl hrow⟩
  · obtain ⟨-, -, rfl⟩ := hinsert
    exact ⟨⟨not_not.mp hsha, htenant, hfaults⟩, hblobs, artifact,
      List.mem_append_right _ (List.mem_singleton_self _), rfl, .inr rfl⟩

/-- Content that the tenant has already needs no row. -/
theorem exec_recordArtifactBlob
    {artifact : Artifact} {bytes : Bytes} {t : StoreTick}
    (hsha : hexSha256 crates bytes = artifact.sha256)
    (htenant : Database.hasTenant db artifact.tenantId = true)
    (hfaults : ∀ k < 4, (t.statement k).fault = none)
    (htaken : ∃ row ∈ db.artifacts, artifactKey row = artifactKey artifact) :
    (exec crates (.recordArtifactBlob artifact bytes) t db).1 = .ok () := by
  have hruns : Runs (recordArtifactBlob crates artifact bytes) t.statement db ()
      (withEvent (t.statement 2).now (t.statement 3).now artifact.tenantId
        "control-plane" "artifact.created" "artifact" artifact.id
        (insertArtifactBlob artifact.sha256 bytes db)) := by
    simp only [recordArtifactBlob, hsha, ne_eq, not_true_eq_false, if_false]
    refine runs_query_bind.mpr ⟨(), _, applies_insertArtifactBlob.mpr
      ⟨hfaults 0 (by omega), rfl⟩, ?_⟩
    refine runs_query_bind.mpr ⟨(), insertArtifactBlob artifact.sha256 bytes db,
      applies_insertArtifact.mpr ⟨hfaults 1 (by omega), ?_⟩, runs_recordEvent.mpr
        ⟨⟨hfaults 2 (by omega), hfaults 3 (by omega)⟩, htenant, rfl⟩⟩
    rw [if_pos]
    exact (Table.hasKey_iff _ _ _).mpr htaken
  rw [(@exec_eq_ok db _ crates (.recordArtifactBlob artifact bytes) t ()).mpr hruns]

/-! ### When a recorded artifact resolves -/

theorem exists_of_resolves
    {artifactId : String} {bytes : Bytes} {t : StoreTick}
    (h : (exec crates (.artifactBytes artifactId) t db).1 = .ok bytes) :
    ∃ row ∈ db.artifacts, row.id = artifactId := by
  obtain ⟨value, _, hread, hfound⟩ := runs_query_bind.mp (runs_of_exec h)
  obtain ⟨-, rfl, rfl⟩ := (applies_of_fetch rfl).mp hread
  obtain ⟨hfound, -⟩ := runs_orNotFound.mp hfound
  obtain ⟨row, hlookup, -⟩ := Option.bind_eq_some_iff.mp hfound
  exact ⟨row, Table.lookup_mem _ hlookup⟩

theorem resolves_of_rows
    {artifact : Artifact} {bytes : Bytes} {t : StoreTick} (ht : t.Healthy)
    (hlookup : Table.lookup Artifact.id artifact.id db.artifacts = some artifact)
    (hblob : blobOf artifact.sha256 db = some bytes) :
    (exec crates (.artifactBytes artifact.id) t db).1 = .ok bytes := by
  have hruns : Runs (artifactBytes artifact.id) t.statement db bytes db := by
    refine runs_query_bind.mpr ⟨some bytes, db, (applies_of_fetch rfl).mpr
      ⟨ht 0, ?_, rfl⟩, runs_orNotFound.mpr ⟨rfl, rfl⟩⟩
    rw [hlookup, Option.bind_some, hblob]
  rw [(@exec_eq_ok db _ crates (.artifactBytes artifact.id) t bytes).mpr hruns]

/--
The tenant has no artifact with the same content under another id, if the call
goes through.
-/
def NewContent (crates : Crates) (e : Entry) : Prop :=
  ∀ artifact bytes, e.op = .recordArtifactBlob artifact bytes →
    hexSha256 crates bytes = artifact.sha256 →
      Database.hasTenant e.before artifact.tenantId = true →
        (∀ k < 4, (e.choice.statement k).fault = none) →
          ∀ row ∈ e.before.artifacts, artifactKey row = artifactKey artifact →
            row.id = artifact.id

theorem keepsArtifact_iff
    {log : List Entry} (h : History crates log db)
    (hfresh : FreshArtifacts crates log) {e : Entry} (he : e ∈ log) :
    KeepsArtifact crates StoreTick.Healthy (exec crates) e db ↔
      NewContent crates e := by
  have hrows := artifactRows h
  obtain ⟨⟨hbefore, -⟩, hafter⟩ := rows_since h e he
  have hown : ∀ artifact, e.op.artifact? = some artifact →
      ∀ row ∈ db.artifacts, row.id = artifact.id → row = artifact := by
    intro artifact hrecorded row hrow hid
    obtain ⟨e', he', hrecorded'⟩ := hrows.artifacts row hrow
    exact hfresh.ids e' he' e he row hrecorded' artifact hrecorded hid
  constructor
  · intro hkeeps artifact bytes hop hsha htenant hfaults row hrow hkey
    have hok := exec_recordArtifactBlob hsha htenant hfaults ⟨row, hrow, hkey⟩
    obtain ⟨-, hresolves⟩ := hkeeps artifact bytes hop hok
    -- the artifact is found at the end, so it is the row with its content
    obtain ⟨stored, hstored, hid⟩ := exists_of_resolves
      (hresolves ⟨⟨⟨0, 0⟩, fun _ => "", .entryOrder⟩,
        fun _ => ⟨⟨0, 0⟩, .entryOrder, none⟩⟩ (fun _ => rfl))
    obtain rfl := hown artifact (by rw [hop]; rfl) stored hstored hid
    have hmem : row ∈ db.artifacts := hafter.1 (hbefore hrow)
    exact congrArg Artifact.id
      (List.inj_on_of_nodup_map hrows.keys hmem hstored hkey)
  · obtain ⟨_, t, s⟩ := e
    rintro hnew artifact bytes rfl hok
    obtain ⟨⟨hsha, htenant, hfaults⟩, ⟨blob, hblob, hblobSha⟩, row, hrow, hkey,
      hsource⟩ := runs_recordArtifactBlob (runs_of_exec hok)
    have hstored : artifact ∈ db.artifacts := by
      have hmem : row ∈ db.artifacts := hafter.1 hrow
      rcases hsource with hold | rfl
      · have hid := hnew artifact bytes rfl hsha htenant hfaults row hold hkey
        exact hown artifact rfl row hmem hid ▸ hmem
      · exact hmem
    refine ⟨hsha, fun t' ht' => resolves_of_rows ht' ?_ ?_⟩
    · obtain ⟨stored, hlookup⟩ := Option.isSome_iff_exists.mp
        ((Table.hasKey_eq_isSome Artifact.id _ _).symm.trans
          ((Table.hasKey_iff _ _ _).mpr ⟨artifact, hstored, rfl⟩))
      obtain ⟨hmem, hid⟩ := Table.lookup_mem _ hlookup
      rw [hlookup, hown artifact rfl stored hmem hid]
    · obtain ⟨stored, hlookup⟩ := Option.isSome_iff_exists.mp
        ((Table.hasKey_eq_isSome ArtifactBlobRow.sha256 _ _).symm.trans
          ((Table.hasKey_iff _ _ _).mpr ⟨blob, hafter.2 hblob, hblobSha⟩))
      obtain ⟨hmem, hstoredSha⟩ := Table.lookup_mem _ hlookup
      obtain ⟨hhash, e', he', hrecorded⟩ := hrows.blobs stored hmem
      have hbytes : stored.bytes = bytes := by
        refine hfresh.hashes e' he' _ he stored.bytes hrecorded bytes rfl ?_
        rw [← hexSha256_inj, ← hhash, hstoredSha, hsha]
      rw [blobOf, hlookup, Option.map_some, hbytes]

/-- Recorded artifacts resolve exactly when each has content of its own. -/
theorem artifactsKept_iff
    {log : List Entry} (h : History crates log db)
    (hfresh : FreshArtifacts crates log) :
    ArtifactsKept crates StoreTick.Healthy (exec crates) log db ↔
      ∀ e ∈ log, NewContent crates e :=
  h.afterwards_iff (fun _ _ hlog hsequence _ he =>
    keepsArtifact_iff hsequence (hfresh.initial hlog) he)

end PostgresStore

/-! ## Both stores -/

/--
In memory recorded artifacts always resolve; in the database they do exactly when
no tenant records the same content under two ids.
-/
theorem artifacts_kept_iff
    (crates : Crates) (tenantId : String)
    {log : List MemoryStore.StoreEntry} {s : MemoryState}
    (h : MemoryStore.History crates tenantId log s)
    (hfresh : FreshArtifacts crates log)
    {log' : List PostgresStore.Entry} {db : Database}
    (h' : PostgresStore.History crates log' db)
    (hfresh' : FreshArtifacts crates log') :
    ArtifactsKept crates (fun _ => True) (MemoryStore.exec crates tenantId) log
        s ∧
      (ArtifactsKept crates PostgresStore.StoreTick.Healthy
          (PostgresStore.exec crates) log' db ↔
        ∀ e ∈ log', PostgresStore.NewContent crates e) :=
  ⟨MemoryStore.artifactsKept h hfresh,
    PostgresStore.artifactsKept_iff h' hfresh'⟩

/-! ### The same bytes twice -/

/-- An artifact with the given id and bytes. -/
def artifactOf (id : String) (bytes : Bytes) : Artifact :=
  .fromBytes referenceCrates id ⟨0, 0⟩ "tenant" .compiledXrayConfig
    "application/json" bytes "compiler-xray"

/-- A tenant that records two artifacts. -/
def recordings (bytes bytes' : Bytes) : List StoreCall :=
  [ .createProfile ⟨"tenant", "profile",
      .vlessRealityExample "group" "reality/key", ⟨0, 0⟩⟩,
    .recordArtifactBlob (artifactOf "a" bytes) bytes,
    .recordArtifactBlob (artifactOf "b" bytes') bytes' ]

def memoryRecordings (bytes bytes' : Bytes) : List (StoreCall × Tick) :=
  (recordings bytes bytes').map (fun op => (op, referenceTick 0 "m"))

def databaseRecordings (bytes bytes' : Bytes) :
    List (StoreCall × PostgresStore.StoreTick) :=
  (recordings bytes bytes').map
    (fun op => (op, PostgresStore.referenceStoreTick 0 "p"))

def databaseLog (bytes bytes' : Bytes) : List PostgresStore.Entry :=
  Program.entriesFrom (PostgresStore.exec referenceCrates)
    (databaseRecordings bytes bytes') .empty

def databaseAfter (bytes bytes' : Bytes) : Database :=
  (databaseRecordings bytes bytes').foldl (fun db call =>
    (PostgresStore.exec referenceCrates call.1 call.2 db).2) .empty

theorem databaseHistory (bytes bytes' : Bytes) :
    PostgresStore.History referenceCrates (databaseLog bytes bytes')
      (databaseAfter bytes bytes') :=
  Program.Sequence.start.callAll (databaseRecordings bytes bytes')

/-- Whether the call records content that is there under another id. -/
def sharesContent (e : PostgresStore.Entry) : Bool :=
  match e.op with
  | .recordArtifactBlob artifact _ =>
      e.before.artifacts.any (fun row =>
        PostgresStore.artifactKey row = PostgresStore.artifactKey artifact &&
          row.id ≠ artifact.id)
  | _ => false

theorem newContent_of_check
    {e : PostgresStore.Entry} (h : sharesContent e = false) :
    PostgresStore.NewContent referenceCrates e := by
  intro artifact bytes hop _ _ _ row hrow hkey
  rw [sharesContent, hop] at h
  simpa [hkey] using List.any_eq_false.mp h row hrow

theorem artifacts_kept_iff_distinct :
    ArtifactsKept referenceCrates (fun _ => True)
        (MemoryStore.exec referenceCrates "tenant")
        (MemoryStore.entriesFrom referenceCrates "tenant"
          (memoryRecordings [1] [1]) .default)
        (MemoryStore.execAll referenceCrates "tenant"
          (memoryRecordings [1] [1]) .default) ∧
      ArtifactsKept referenceCrates PostgresStore.StoreTick.Healthy
        (PostgresStore.exec referenceCrates) (databaseLog [1] [2])
        (databaseAfter [1] [2]) := by
  have hiff := artifacts_kept_iff referenceCrates "tenant"
    (MemoryStore.History.new.execAll (memoryRecordings [1] [1]))
    ⟨by decide +kernel, by decide +kernel⟩ (databaseHistory [1] [2])
    ⟨by decide +kernel, by decide +kernel⟩
  have hnew : ∀ e ∈ databaseLog [1] [2], sharesContent e = false := by
    decide +kernel
  exact ⟨hiff.1, hiff.2.mpr (fun e he => newContent_of_check (hnew e he))⟩

/-- The second artifact with the same bytes is recorded, and is not found. -/
theorem recorded_artifact_missing :
    ¬ ∀ log db, PostgresStore.History referenceCrates log db →
      FreshArtifacts referenceCrates log →
        ArtifactsKept referenceCrates PostgresStore.StoreTick.Healthy
          (PostgresStore.exec referenceCrates) log db := by
  intro hclaim
  have hkept := hclaim _ _ (databaseHistory [1] [1])
    ⟨by decide +kernel, by decide +kernel⟩
  obtain ⟨-, hresolves⟩ := hkept.2 _
    (List.mem_cons_of_mem _ (List.mem_cons_of_mem _ (List.mem_singleton_self _)))
    (artifactOf "b" [1]) [1] rfl (by decide +kernel)
  have hfound := hresolves (PostgresStore.referenceStoreTick 0 "r") (fun _ => rfl)
  revert hfound
  decide +kernel

end ProxyControl
