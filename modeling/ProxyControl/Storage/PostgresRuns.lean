import ProxyControl.Storage.PostgresFrames

/-!
# Methods that succeed

`Runs` says that a part of a method succeeds with a value and leaves a database.
One rule for each way a method is built turns a method that succeeds into the
statements that have gone through, one after the other.
-/

namespace ProxyControl

open Calendar Effects

namespace PostgresStore

variable {α β : Type} {env : ℕ → StatementTick} {db db' : Database} {b : β}

/-- A statement that goes through. -/
def Statement.Applies
    (s : Statement) (t : StatementTick) (db : Database) (value : s.Value)
    (db' : Database) : Prop :=
  t.fault = none ∧ s.apply t db = .ok (value, db')

theorem Statement.applies_iff
    {s : Statement} {t : StatementTick} {value : s.Value} :
    s.Applies t db value db' ↔ s.exec t db = (.ok value, db') := by
  constructor
  · rintro ⟨hfault, happly⟩
    exact exec_of_apply hfault happly
  · intro h
    have happlied := apply_of_exec (congrArg Prod.fst h)
    rwa [h] at happlied

/-- What a statement that goes through keeps is kept. -/
theorem Statement.exec_keeps
    {s : Statement} {t : StatementTick} {P : Database → Prop}
    (hstep : ∀ value db', s.Applies t db value db' → P db') (h : P db) :
    P (s.exec t db).2 := by
  cases hvalue : (s.exec t db).1 with
  | ok value => exact hstep value _ (applies_iff.mpr (Prod.ext hvalue rfl))
  | error e =>
      rw [exec_of_error hvalue]
      exact h

/-- The part succeeds with the value, and leaves the database. -/
def Runs
    (part : Sql α) (env : ℕ → StatementTick) (db : Database) (a : α)
    (db' : Database) : Prop :=
  part.run.run Statement.exec env db = (.ok a, db')

theorem runs_pure
    {a a' : α} :
    Runs (pure a : Sql α) env db a' db' ↔ a' = a ∧ db' = db := by
  constructor
  · intro h
    obtain ⟨ha, hdb⟩ := Prod.mk.inj h
    exact ⟨(Except.ok.inj ha).symm, hdb.symm⟩
  · rintro ⟨rfl, rfl⟩
    rfl

theorem not_runs_throw
    {error : StoreError} {a : α} :
    ¬ Runs (throw error : Sql α) env db a db' := by
  intro h
  cases congrArg Prod.fst h

/-- A part, and what follows with the statements that are left. -/
theorem runs_bind
    {part : Sql α} {f : α → Sql β} :
    Runs (part >>= f) env db b db' ↔
      ∃ a db₁, Runs part env db a db₁ ∧
        Runs (f a)
          (fun n => env (n + (part.run.entries Statement.exec env db).length))
          db₁ b db' := by
  have hrun :
      (part >>= f).run.run Statement.exec env db =
        (ExceptT.bindCont f (part.run.run Statement.exec env db).1).run
          Statement.exec
          (fun n => env (n + (part.run.entries Statement.exec env db).length))
          (part.run.run Statement.exec env db).2 :=
    Program.run_bind Statement.exec part.run (ExceptT.bindCont f) env db
  unfold Runs
  rw [hrun]
  rcases hpart : part.run.run Statement.exec env db with ⟨r, db₁⟩
  cases r with
  | ok a =>
      constructor
      · intro h
        exact ⟨a, db₁, rfl, h⟩
      · rintro ⟨a', db₁', heq, h⟩
        obtain ⟨ha, rfl⟩ := Prod.mk.inj heq
        obtain rfl := Except.ok.inj ha
        exact h
  | error e =>
      constructor
      · intro h
        cases congrArg Prod.fst h
      · rintro ⟨a, db₁', heq, -⟩
        cases congrArg Prod.fst heq

/-- After a statement that goes through, the rest runs. -/
theorem run_query_bind
    {s : Statement} {f : s.Value → Sql β} {value : s.Value}
    (h : s.exec (env 0) db = (.ok value, db')) :
    (query s >>= f).run.run Statement.exec env db =
      (f value).run.run Statement.exec (fun n => env (n + 1)) db' := by
  have hrun :
      (query s >>= f).run.run Statement.exec env db =
        (ExceptT.bindCont f (s.exec (env 0) db).1).run Statement.exec
          (fun n => env (n + 1)) (s.exec (env 0) db).2 := rfl
  rw [hrun, h]
  rfl

/-- A statement, and what follows. -/
theorem runs_query_bind
    {s : Statement} {f : s.Value → Sql β} :
    Runs (query s >>= f) env db b db' ↔
      ∃ value db₁, s.Applies (env 0) db value db₁ ∧
        Runs (f value) (fun n => env (n + 1)) db₁ b db' := by
  have hrun :
      (query s >>= f).run.run Statement.exec env db =
        (ExceptT.bindCont f (s.exec (env 0) db).1).run Statement.exec
          (fun n => env (n + 1)) (s.exec (env 0) db).2 := rfl
  unfold Runs
  rw [hrun]
  rcases hexec : s.exec (env 0) db with ⟨r, db₁⟩
  cases r with
  | ok value =>
      constructor
      · intro h
        exact ⟨value, db₁, Statement.applies_iff.mpr hexec, h⟩
      · rintro ⟨value', db₁', happlies, h⟩
        obtain ⟨hvalue, rfl⟩ := Prod.mk.inj
          (hexec.symm.trans (Statement.applies_iff.mp happlies))
        obtain rfl := Except.ok.inj hvalue
        exact h
  | error e =>
      constructor
      · intro h
        cases congrArg Prod.fst h
      · rintro ⟨value, db₁', happlies, -⟩
        cases congrArg Prod.fst
          (hexec.symm.trans (Statement.applies_iff.mp happlies))

theorem runs_query
    {s : Statement} {value : s.Value} :
    Runs (query s) env db value db' ↔ s.Applies (env 0) db value db' := by
  rw [Statement.applies_iff]
  rfl

theorem runs_orNotFound_bind
    {record : String} {row : Option α} {f : α → Sql β} :
    Runs (orNotFound record row >>= f) env db b db' ↔
      ∃ a, row = some a ∧ Runs (f a) env db b db' := by
  cases row with
  | none =>
      refine iff_of_false (fun h => ?_) (by simp)
      cases congrArg Prod.fst h
  | some a =>
      simp only [Option.some.injEq, exists_eq_left']
      rfl

theorem runs_orNotFound
    {record : String} {row : Option α} {a : α} :
    Runs (orNotFound record row) env db a db' ↔ row = some a ∧ db' = db := by
  cases row with
  | none =>
      refine iff_of_false (fun h => ?_) (by simp)
      cases congrArg Prod.fst h
  | some a' =>
      constructor
      · intro h
        obtain ⟨ha, hdb⟩ := Prod.mk.inj h
        exact ⟨congrArg some (Except.ok.inj ha), hdb.symm⟩
      · rintro ⟨heq, rfl⟩
        obtain rfl := Option.some.inj heq
        rfl

/-- What each statement of a part keeps is kept by a part that succeeds. -/
theorem Runs.keeps
    {kind : Statement → Prop} {P : Database → Prop} {part : Sql α} {a : α}
    (h : Runs part env db a db') (hpart : Makes kind part)
    (hstep : ∀ s t db, kind s → P db → P (Statement.exec s t db).2)
    (hdb : P db) :
    P db' := by
  have hrun : P (part.run.run Statement.exec env db).2 :=
    hpart.run hstep env hdb
  rwa [h] at hrun

/-- A query that reads sees the rows and leaves them. -/
theorem applies_of_fetch
    {s : Statement} {t : StatementTick} {answer value : s.Value}
    (h : s.apply t db = fetch answer db) :
    s.Applies t db value db' ↔ t.fault = none ∧ value = answer ∧ db' = db := by
  unfold Statement.Applies
  rw [h]
  constructor
  · rintro ⟨hfault, heq⟩
    obtain ⟨rfl, rfl⟩ := Prod.mk.inj (Except.ok.inj heq)
    exact ⟨hfault, rfl, rfl⟩
  · rintro ⟨hfault, rfl, rfl⟩
    exact ⟨hfault, rfl⟩

/-- A method succeeds as its statements do. -/
theorem exec_eq_ok
    {crates : Crates} {op : StoreCall} {t : StoreTick} {value : op.Value} :
    exec crates op t db = (.ok value, db') ↔
      Runs (body crates t.tick op) t.statement db value db' := by
  unfold exec Runs
  split
  · rename_i value' db₁ hrun
    rw [hrun]
  · rename_i error db₁ hrun
    rw [hrun]
    constructor
    · intro h
      cases congrArg Prod.fst h
    · intro h
      cases congrArg Prod.fst h

theorem runs_of_exec
    {crates : Crates} {op : StoreCall} {t : StoreTick} {value : op.Value}
    (h : (exec crates op t db).1 = .ok value) :
    Runs (body crates t.tick op) t.statement db value (exec crates op t db).2 :=
  exec_eq_ok.mp (Prod.ext h rfl)

/-! ## Statements that fetch nothing -/

theorem execute_eq_ok
    {result : Except StoreError Database} {value : Unit} :
    execute result = .ok (value, db') ↔ result = .ok db' := by
  cases result with
  | ok db₁ =>
      constructor
      · intro h
        rw [(Prod.mk.inj (Except.ok.inj h)).2]
      · intro h
        rw [Except.ok.inj h]
        rfl
  | error e =>
      constructor <;>
      · intro h
        cases h

theorem pure_eq_ok
    {α : Type} {a a' : α} :
    (pure a : Except StoreError α) = .ok a' ↔ a' = a := by
  constructor
  · intro h
    exact (Except.ok.inj h).symm
  · rintro rfl
    rfl

/-- A row that is there already needs no foreign key. -/
theorem referencing_eq_ok
    {table constraint : String} {has present : Bool} {db₁ : Database} :
    (do
      if !has then
        references table constraint present
      return db₁ : Except StoreError Database) = .ok db' ↔
      (has = true ∨ present = true) ∧ db' = db₁ := by
  cases has
  · cases present
    · exact iff_of_false (fun h => by cases h) (by simp)
    · exact pure_eq_ok.trans (by simp)
  · exact pure_eq_ok.trans (by simp)

theorem referencing_both_eq_ok
    {table constraint constraint' : String} {has present present' : Bool}
    {db₁ : Database} :
    (do
      if !has then
        references table constraint present
        references table constraint' present'
      return db₁ : Except StoreError Database) = .ok db' ↔
      (has = true ∨ present = true ∧ present' = true) ∧ db' = db₁ := by
  cases has
  · cases present
    · exact iff_of_false (fun h => by cases h) (by simp)
    · cases present'
      · exact iff_of_false (fun h => by cases h) (by simp)
      · exact pure_eq_ok.trans (by simp)
  · exact pure_eq_ok.trans (by simp)

/-- An event has its row in both tables. -/
def withEvent
    (audited published : DateTime)
    (tenantId actor action aggregateType aggregateId : String)
    (db : Database) : Database :=
  { db with
    auditEvents := db.auditEvents ++
      [⟨tenantId, actor, action, aggregateType ++ ":" ++ aggregateId, audited⟩]
    eventOutbox := db.eventOutbox ++
      [⟨tenantId, action, aggregateType, aggregateId, "pending", published⟩] }

theorem applies_insertAuditEvent
    {tenantId actor action subject : String} {t : StatementTick} {u : Unit} :
    (Statement.insertAuditEvent tenantId actor action subject).Applies t db u
        db' ↔
      t.fault = none ∧ Database.hasTenant db tenantId = true ∧
        db' = { db with auditEvents := db.auditEvents ++
          [⟨tenantId, actor, action, subject, t.now⟩] } := by
  simp only [Statement.Applies, Statement.apply, execute_eq_ok,
    insertAuditEvent, references_bind_eq_ok, pure_eq_ok]

theorem applies_insertOutboxEvent
    {tenantId eventType aggregateType aggregateId : String} {t : StatementTick}
    {u : Unit} :
    (Statement.insertOutboxEvent tenantId eventType aggregateType
        aggregateId).Applies t db u db' ↔
      t.fault = none ∧ Database.hasTenant db tenantId = true ∧
        db' = { db with eventOutbox := db.eventOutbox ++
          [⟨tenantId, eventType, aggregateType, aggregateId, "pending",
            t.now⟩] } := by
  simp only [Statement.Applies, Statement.apply, execute_eq_ok,
    insertOutboxEvent, references_bind_eq_ok, pure_eq_ok]

theorem runs_recordEvent
    {tenantId actor action aggregateType aggregateId : String} {u : Unit} :
    Runs (recordEvent tenantId actor action aggregateType aggregateId) env db u
        db' ↔
      ((env 0).fault = none ∧ (env 1).fault = none) ∧
        Database.hasTenant db tenantId = true ∧
        db' = withEvent (env 0).now (env 1).now tenantId actor action
          aggregateType aggregateId db := by
  unfold recordEvent
  rw [runs_query_bind]
  constructor
  · rintro ⟨value, db₁, haudit, houtbox⟩
    obtain ⟨hfault₀, htenant, rfl⟩ := applies_insertAuditEvent.mp haudit
    obtain ⟨hfault₁, -, rfl⟩ :=
      applies_insertOutboxEvent.mp (runs_query.mp houtbox)
    exact ⟨⟨hfault₀, hfault₁⟩, htenant, rfl⟩
  · rintro ⟨⟨hfault₀, hfault₁⟩, htenant, rfl⟩
    exact ⟨(), _, applies_insertAuditEvent.mpr ⟨hfault₀, htenant, rfl⟩,
      runs_query.mpr (applies_insertOutboxEvent.mpr ⟨hfault₁, htenant, rfl⟩)⟩

end PostgresStore
end ProxyControl
