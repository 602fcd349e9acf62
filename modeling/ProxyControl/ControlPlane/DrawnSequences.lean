import ProxyControl.ControlPlane.PostgresProcess

/-!
# The sequences of a process over Postgres

The sequences of a process start at one; the rows of the queue outlive it.  A
sequence that the process allocates is used by at most one insertion, so within
one process the key of an insertion is free unless the process has found it in
the database when it was started.
-/

namespace ProxyControl

open Effects PostgresStore

/-! ## Sequences are drawn and used up -/

/-- An allocation draws a sequence of a node. -/
def Action.draws : (a : Action) → a.Ret → List (String × UInt64)
  | .nextSequence nodeId, sequence => [(nodeId, sequence)]
  | _, _ => []

/-- The insertion of a command uses its sequence. -/
def Action.uses : Action → List (String × UInt64)
  | .statement (.insertRunnerCommand nodeId command) =>
      [(nodeId, command.command.sequence)]
  | _ => []

/-- A call that neither allocates a sequence nor enqueues a command. -/
def Call.neutral : Call → Bool
  | .nextSequence _ | .store (.enqueueRunnerCommand ..) => false
  | _ => true

/-- An action that neither draws nor uses a sequence. -/
def Action.Neutral (a : Action) : Prop :=
  a.uses = [] ∧ ∀ r, a.draws r = []

section Actions

variable (crates : Crates)

/-- Only an enqueue inserts commands. -/
theorem body_inserts
    (t : Tick) (op : StoreCall)
    (h : ∀ nodeId command, op ≠ .enqueueRunnerCommand nodeId command) :
    Makes (fun s => (Action.statement s).Neutral) (body crates t op) := by
  by_cases htable : TableName.runnerCommands ∈ tables op
  · cases op with
    | enqueueRunnerCommand nodeId command => exact absurd rfl (h nodeId command)
    | nextRunnerCommand nodeId lastSequence =>
        exact (makes_query ⟨rfl, fun _ => rfl⟩).bind
          (fun _ => makes_query ⟨rfl, fun _ => rfl⟩)
    | _ => simp [tables] at htable
  · refine (body_writes crates t op).mono ?_
    intro s hs
    refine ⟨?_, fun _ => rfl⟩
    cases s with
    | insertRunnerCommand nodeId command => exact absurd (hs _ rfl) htable
    | _ => rfl

theorem actions_neutral
    {op : Call} (h : op.neutral = true) :
    (actions crates op).All Action.Neutral := by
  cases op with
  | store op =>
      simp only [actions]
      split_ifs
      · exact ⟨⟨rfl, fun _ => rfl⟩, fun _ => trivial⟩
      · refine ⟨⟨rfl, fun _ => rfl⟩, fun t => ?_⟩
        refine (body_inserts crates t op ?_).implement ?_
        · rintro nodeId command rfl
          cases h
        · exact fun s hs => ⟨hs, fun _ => trivial⟩
  | nextSequence nodeId => cases h
  | pushRunnerResult | runnerResultCount | now | uuid =>
      exact ⟨⟨rfl, fun _ => rfl⟩, fun _ => trivial⟩

/-- A call that enqueues no command. -/
def Call.enqueuesNothing : Call → Bool
  | .store (.enqueueRunnerCommand ..) => false
  | _ => true

theorem actions_use_nothing
    {op : Call} (h : op.enqueuesNothing = true) :
    (actions crates op).All (fun a => a.uses = []) := by
  by_cases hneutral : op.neutral = true
  · exact (actions_neutral crates hneutral).mono (fun _ ha => ha.1)
  · cases op with
    | nextSequence nodeId => exact ⟨rfl, fun _ => trivial⟩
    | store op =>
        cases op with
        | enqueueRunnerCommand => cases h
        | _ => exact absurd rfl hneutral
    | _ => exact absurd rfl hneutral

end Actions

namespace Handler

variable {crates : Crates} {α β : Type}

/-- The sequences that the handler uses are in the purse or drawn before. -/
def Affords
    (crates : Crates) (purse : List (String × UInt64)) (handler : Handler α) :
    Prop :=
  Program.Affords Action.draws Action.uses purse
    (handler.run.implement (actions crates))

variable {purse : List (String × UInt64)}

theorem affords_pure (a : α) :
    Affords crates purse (pure a : Handler α) :=
  trivial

/-- Calls that neither draw nor use leave the purse to what follows. -/
theorem Calls.affords_bind
    {m : Handler α} {f : α → Handler β}
    (h : Calls (fun op => op.neutral = true) m)
    (hf : ∀ a, Affords crates purse (f a)) :
    Affords crates purse (m >>= f) := by
  have hrun :
      (m >>= f).run.implement (actions crates) =
        m.run.implement (actions crates) >>= fun r =>
          (ExceptT.bindCont f r).implement (actions crates) :=
    Program.implement_bind _ _ _
  unfold Affords
  rw [hrun]
  refine Program.affords_bind_of_all
    (h.implement (fun op => actions_neutral crates)) ?_
  intro r
  cases r with
  | ok a => exact hf a
  | error e => trivial

/-- A handler that enqueues nothing affords it with any purse. -/
theorem Calls.affords
    {m : Handler α} (h : Calls (fun op => op.enqueuesNothing = true) m) :
    Affords crates purse m :=
  Program.affords_of_all (h.implement (fun _ => actions_use_nothing crates))

/-- What enqueues nothing may follow. -/
theorem Affords.bind_of_calls
    {m : Handler α} {f : α → Handler β}
    (h : Affords crates purse m)
    (hf : ∀ a, Calls (fun op => op.enqueuesNothing = true) (f a)) :
    Affords crates purse (m >>= f) := by
  have hrun :
      (m >>= f).run.implement (actions crates) =
        m.run.implement (actions crates) >>= fun r =>
          (ExceptT.bindCont f r).implement (actions crates) :=
    Program.implement_bind _ _ _
  unfold Affords
  rw [hrun]
  refine Program.Affords.bind_of_all h ?_
  intro r
  cases r with
  | ok a => exact (hf a).implement (fun _ => actions_use_nothing crates)
  | error e => trivial

theorem affords_store_bind
    {op : StoreCall} {f : op.Value → Handler β}
    (h : (Call.store op).neutral = true)
    (hf : ∀ a, Affords crates purse (f a)) :
    Affords crates purse (Handler.store op >>= f) :=
  (calls_store h).affords_bind hf

theorem affords_perform_bind
    {op : Call} {f : op.Ret → Handler β}
    (h : op.neutral = true) (hf : ∀ a, Affords crates purse (f a)) :
    Affords crates purse (Handler.perform op >>= f) :=
  (calls_perform h).affords_bind hf

/-- A domain computation makes no call; what follows knows its value. -/
theorem affords_orStatus_bind
    {status : Nat} {value : Except String α} {f : α → Handler β}
    (hf : ∀ a, value = .ok a → Affords crates purse (f a)) :
    Affords crates purse (Handler.orStatus status value >>= f) := by
  cases value with
  | ok a => exact hf a rfl
  | error e => trivial

theorem affords_nextSequence_bind
    {nodeId : String} {f : UInt64 → Handler β}
    (hf : ∀ sequence,
      Affords crates (purse ++ [(nodeId, sequence)]) (f sequence)) :
    Affords crates purse (Handler.nextSequence nodeId >>= f) := by
  refine ⟨List.nil_subset _, ?_⟩
  intro sequence
  exact hf sequence

theorem affords_enqueue
    {nodeId : String} {command : SignedRunnerCommand}
    (h : (nodeId, command.command.sequence) ∈ purse) :
    Affords crates purse
      (Handler.store (.enqueueRunnerCommand nodeId command)) := by
  refine ⟨List.nil_subset _, ?_⟩
  intro t
  refine ⟨?_, fun _ => trivial⟩
  intro drawn hdrawn
  obtain rfl := List.mem_singleton.mp hdrawn
  simpa [Action.uses, Action.draws] using h

end Handler

namespace AppState

open Handler

variable (crates : Crates) (app : AppState)

/-- A command is signed under a sequence that is in the purse. -/
theorem affords_signAndEnqueue
    {purse : List (String × UInt64)} {nodeId : String} {sequence : UInt64}
    (h : (nodeId, sequence) ∈ purse) (kind : RunnerCommandKind) :
    (app.signAndEnqueue crates nodeId sequence kind).Affords crates purse := by
  refine affords_perform_bind rfl fun now => ?_
  refine affords_perform_bind rfl fun nonce => ?_
  refine affords_orStatus_bind fun envelope henvelope => ?_
  apply affords_enqueue
  rwa [SignedRunnerCommand.command_of_sign (Handler.mapError_eq_ok henvelope)]

theorem affords_compileFresh (req : CompileDeploymentRequest) :
    (app.compileFresh crates req).Affords crates [] := by
  unfold compileFresh
  refine affords_store_bind rfl fun profile => ?_
  refine affords_store_bind rfl fun node => ?_
  refine affords_store_bind rfl fun credentials => ?_
  refine affords_orStatus_bind fun compiled _ => ?_
  refine affords_orStatus_bind fun bytes _ => ?_
  refine affords_perform_bind rfl fun uuid => ?_
  refine affords_perform_bind rfl fun now => ?_
  refine affords_store_bind rfl fun _ => ?_
  refine affords_perform_bind rfl fun createdAt => ?_
  refine affords_store_bind rfl fun _ => ?_
  refine affords_perform_bind rfl fun plannedAt => ?_
  refine affords_nextSequence_bind fun sequence => ?_
  refine Affords.bind_of_calls
    (affords_signAndEnqueue crates app (by simp) _) fun _ => ?_
  refine calls_store_bind rfl fun auditCount => ?_
  exact calls_store_bind rfl fun outboxCount => calls_pure _

theorem affords_enqueueRollbackCommand (deploymentId : String) :
    (app.enqueueRollbackCommand crates deploymentId).Affords crates [] := by
  have hrequire :
      ∀ value message,
        (requirePrevious value message).Calls (fun op => op.neutral = true) := by
    intro value message
    cases value with
    | some value => exact calls_pure _
    | none => exact calls_throw _
  unfold enqueueRollbackCommand
  refine affords_store_bind rfl fun pointer => ?_
  refine (hrequire _ _).affords_bind fun target => ?_
  refine (hrequire _ _).affords_bind fun artifactId => ?_
  refine affords_store_bind rfl fun snapshot => ?_
  refine affords_store_bind rfl fun bytes => ?_
  refine affords_nextSequence_bind fun sequence => ?_
  exact Affords.bind_of_calls
    (affords_signAndEnqueue crates app (by simp) _) fun _ => calls_pure _

theorem affords_compileDeployment
    (headers : Headers) (req : CompileDeploymentRequest) :
    (app.compileDeployment crates headers req).Affords crates [] := by
  have hfresh := affords_compileFresh crates app req
  unfold compileDeployment
  refine (calls_optionalHeaderValue headers _).affords_bind fun key => ?_
  cases key with
  | none => exact hfresh.bind_of_calls (fun _ => calls_pure _)
  | some key =>
      refine affords_store_bind rfl fun cached => ?_
      cases cached with
      | some cached => exact affords_pure _
      | none =>
          exact hfresh.bind_of_calls
            (fun _ => calls_store_bind rfl fun _ => calls_pure _)

theorem affords_advanceDeploymentRollout (deploymentId : String) :
    (app.advanceDeploymentRollout crates deploymentId).Affords crates [] := by
  unfold advanceDeploymentRollout
  refine Calls.affords_bind ?_ fun readiness => ?_
  · refine calls_store_bind rfl fun status => ?_
    exact calls_store_bind rfl fun samples => calls_pure _
  split
  · exact affords_pure _
  · split
    · exact (affords_enqueueRollbackCommand crates app deploymentId).bind_of_calls
        (fun _ => calls_pure _)
    · exact affords_pure _

/-- Every request uses only sequences that it has drawn, each once. -/
theorem affords_serve (request : Request) :
    (app.serve crates request).Affords crates [] := by
  have hothers :
      (∀ nodeId envelope,
        request.mayMake (.enqueueRunnerCommand nodeId envelope) = false) →
        (app.serve crates request).Affords crates [] := by
    intro hmay
    refine Calls.affords (Program.All.mono (serve_makes crates app request) ?_)
    intro op hop
    cases op with
    | store op =>
        cases op with
        | enqueueRunnerCommand nodeId envelope =>
            have hfalse := hmay nodeId envelope
            simp only [Request.Makes] at hop
            rw [hop] at hfalse
            cases hfalse
        | _ => rfl
    | _ => rfl
  cases request with
  | compileDeployment headers req =>
      exact affords_compileDeployment crates app headers req
  | queueRollback deploymentId =>
      exact affords_enqueueRollbackCommand crates app deploymentId
  | advanceDeploymentRollout deploymentId =>
      exact affords_advanceDeploymentRollout crates app deploymentId
  | _ =>
      apply hothers
      intro nodeId envelope
      simp only [Request.mayMake]
      split <;> rfl

end AppState

/-! ## The sequences of a process -/

/-- A sequence that is stored, for its node. -/
def storedAs (drawn : String × UInt64) : String × Int64 :=
  (drawn.1, drawn.2.toInt64)

theorem storedAs_inj
    {drawn drawn' : String × UInt64} (h : storedAs drawn = storedAs drawn') :
    drawn = drawn' := by
  obtain ⟨hnode, hsequence⟩ := Prod.mk.inj h
  exact Prod.ext hnode (Wrapping.toInt64_inj.mp hsequence)

/--
The sequences drawn and not yet used are distinct and free.  The keys that were
not there at the start belong to sequences up to the counters.
-/
structure SequencesFresh
    (started : List (String × Int64)) (held : List (String × UInt64))
    (counter : String → ℕ) (keys : List (String × Int64)) : Prop where
  nodup : held.Nodup
  allocated : ∀ drawn ∈ held, drawn.2.toNat ≤ counter drawn.1
  free : ∀ drawn ∈ held, storedAs drawn ∉ keys
  origin : ∀ key ∈ keys, key ∈ started ∨
    ∃ drawn, key = storedAs drawn ∧ drawn.2.toNat ≤ counter drawn.1

namespace SequencesFresh

variable {started keys keys' : List (String × Int64)}
variable {held held' : List (String × UInt64)} {counter counter' : String → ℕ}

theorem start (counter : String → ℕ) :
    SequencesFresh keys [] counter keys where
  nodup := List.nodup_nil
  allocated := by simp
  free := by simp
  origin := fun _ hkey => .inl hkey

/-- The next sequence is distinct from all that have been drawn. -/
theorem draw
    (h : SequencesFresh started held counter keys)
    {drawn : String × UInt64}
    (hnext : drawn.2.toNat = counter drawn.1 + 1)
    (hstarted : storedAs drawn ∉ started)
    (hcounter : ∀ nodeId, counter' nodeId =
      if nodeId = drawn.1 then drawn.2.toNat else counter nodeId)
    (hheld : List.Perm held' (drawn :: held)) :
    SequencesFresh started held' counter' keys := by
  have hgrows : ∀ nodeId, counter nodeId ≤ counter' nodeId := by
    intro nodeId
    rw [hcounter]
    split_ifs with hnode
    · rw [hnext, hnode]
      exact Nat.le_succ _
    · exact le_rfl
  have hnew : ∀ other : String × UInt64,
      other.2.toNat ≤ counter other.1 → other ≠ drawn := by
    rintro other hle rfl
    omega
  refine ⟨?_, ?_, ?_, ?_⟩
  · rw [hheld.nodup_iff, List.nodup_cons]
    exact ⟨fun hmem => hnew drawn (h.allocated drawn hmem) rfl, h.nodup⟩
  · intro other hother
    rcases List.mem_cons.mp (hheld.mem_iff.mp hother) with rfl | hother
    · rw [hcounter, if_pos rfl]
    · exact (h.allocated other hother).trans (hgrows _)
  · intro other hother
    rcases List.mem_cons.mp (hheld.mem_iff.mp hother) with rfl | hother
    · intro hkey
      rcases h.origin _ hkey with hfound | ⟨earlier, heq, hle⟩
      · exact hstarted hfound
      · exact hnew earlier hle (storedAs_inj heq).symm
    · exact h.free other hother
  · intro key hkey
    rcases h.origin key hkey with hfound | ⟨earlier, heq, hle⟩
    · exact .inl hfound
    · exact .inr ⟨earlier, heq, hle.trans (hgrows _)⟩

/-- A sequence is used up; the others stay free. -/
theorem use
    (h : SequencesFresh started held counter keys)
    {drawn : String × UInt64} (hheld : List.Perm held (drawn :: held'))
    (hkeys : keys' ⊆ storedAs drawn :: keys) :
    SequencesFresh started held' counter keys' := by
  have hmem : ∀ other ∈ held', other ∈ held := fun other hother =>
    hheld.mem_iff.mpr (List.mem_cons_of_mem _ hother)
  have hnodup := h.nodup
  rw [hheld.nodup_iff, List.nodup_cons] at hnodup
  obtain ⟨hused, hnodup⟩ := hnodup
  refine ⟨hnodup, fun other hother => h.allocated other (hmem other hother),
    ?_, ?_⟩
  · intro other hother hkey
    rcases List.mem_cons.mp (hkeys hkey) with heq | hkey
    · exact hused (storedAs_inj heq ▸ hother)
    · exact h.free other (hmem other hother) hkey
  · intro key hkey
    rcases List.mem_cons.mp (hkeys hkey) with rfl | hkey
    · exact .inr ⟨drawn, rfl, h.allocated drawn
        (hheld.mem_iff.mpr (List.mem_cons_self ..))⟩
    · exact h.origin key hkey

end SequencesFresh

/-! ## What one action does to them -/

/-- The nodes and sequences of the rows of the queue. -/
def commandKeys (db : Database) : List (String × Int64) :=
  db.runnerCommands.map (fun row => (row.nodeId, row.sequence))

/-- The last sequence allocated for a node. -/
def PostgresShared.counter (s : PostgresShared) (nodeId : String) : ℕ :=
  ((s.nodeSequences.get nodeId).getD 0).toNat

theorem insertRunnerCommand_of_apply
    {nodeId : String} {command : SignedRunnerCommand} {t : StatementTick}
    {db db' : Database} {value : Unit}
    (h : (Statement.insertRunnerCommand nodeId command).apply t db =
      .ok (value, db')) :
    insertRunnerCommand nodeId command db = .ok db' := by
  simp only [Statement.apply] at h
  cases hinsert : insertRunnerCommand nodeId command db with
  | error e =>
      rw [hinsert] at h
      cases h
  | ok inserted =>
      rw [hinsert] at h
      rw [(Prod.mk.inj (Except.ok.inj h)).2]

theorem commandKeys_insert
    (nodeId : String) (command : SignedRunnerCommand)
    (t : StatementTick) (db : Database) :
    commandKeys ((Statement.insertRunnerCommand nodeId command).exec t db).2 ⊆
      storedAs (nodeId, command.command.sequence) :: commandKeys db := by
  cases hvalue : ((Statement.insertRunnerCommand nodeId command).exec t db).1 with
  | error e =>
      rw [Statement.exec_of_error hvalue]
      exact List.subset_cons_self _ _
  | ok value =>
      obtain ⟨-, happly⟩ := Statement.apply_of_exec hvalue
      rw [insertRunnerCommand_ok (insertRunnerCommand_of_apply happly)]
      split_ifs
      · exact List.subset_cons_self _ _
      · intro key hkey
        simp only [commandKeys, List.map_append, List.map_singleton,
          List.mem_append, List.mem_singleton] at hkey
        rcases hkey with hkey | rfl
        · exact List.mem_cons_of_mem _ hkey
        · exact List.mem_cons_self ..

theorem commandKeys_updateStatus
    (p : RunnerCommandRow → Bool) (status : String) (db : Database) :
    commandKeys { db with
        runnerCommands := Table.updateWhere p
          (fun row => { row with status := status }) db.runnerCommands } =
      commandKeys db :=
  Table.map_key_updateWhere
    (f := fun row : RunnerCommandRow => { row with status := status })
    (fun row : RunnerCommandRow => (row.nodeId, row.sequence))
    (fun _ _ => rfl) db.runnerCommands

/-- Only an insertion adds a key. -/
theorem commandKeys_exec
    {s : Statement} (h : (Action.statement s).uses = [])
    (t : StatementTick) (db : Database) :
    commandKeys (s.exec t db).2 = commandKeys db := by
  by_cases hwrites : s.writes = some .runnerCommands
  · cases hvalue : (s.exec t db).1 with
    | error e => rw [Statement.exec_of_error hvalue]
    | ok value =>
        obtain ⟨-, happly⟩ := Statement.apply_of_exec hvalue
        cases s with
        | insertRunnerCommand nodeId command => cases h
        | skipRunnerCommands nodeId lastSequence =>
            rw [← (Prod.mk.inj (Except.ok.inj happly)).2]
            exact commandKeys_updateStatus _ _ db
        | leaseRunnerCommand nodeId lastSequence =>
            rw [← (Prod.mk.inj (Except.ok.inj happly)).2]
            split
            · rfl
            · exact commandKeys_updateStatus _ _ db
        | _ => cases hwrites
  · have hframe := Statement.exec_frame hwrites t db
    simp only [Database.rows] at hframe
    rw [commandKeys, hframe, commandKeys]

/-- An allocation that does not wrap, of a sequence not found at the start. -/
def Action.AllocatesFresh
    (started : Database) (a : Action) (s : PostgresShared) : Prop :=
  ∀ nodeId, a = .nextSequence nodeId →
    s.counter nodeId + 1 < 2 ^ 64 ∧
      storedAs (nodeId, s.upcoming nodeId) ∉ commandKeys started

theorem SequencesFresh.act
    {crates : Crates} {started : Database} {s : PostgresShared}
    {before purse after : List (String × UInt64)} {a : Action}
    (h : SequencesFresh (commandKeys started) (before ++ (purse ++ after))
      s.counter (commandKeys s.database))
    (huses : a.uses ⊆ purse) (hwell : a.Wellformed)
    (hfresh : a.AllocatesFresh started s) (t : StoreTick) :
    SequencesFresh (commandKeys started)
      (before ++ (purse.diff a.uses ++
        a.draws (PostgresShared.act crates a t s).1 ++ after))
      (PostgresShared.act crates a t s).2.counter
      (commandKeys (PostgresShared.act crates a t s).2.database) := by
  cases a with
  | statement st =>
      by_cases hst : (Action.statement st).uses = []
      · have hkeys := commandKeys_exec hst (t.statement 0) s.database
        simp only [PostgresShared.act, hst, hkeys, Action.draws, List.diff_nil,
          List.append_nil]
        exact h
      · cases st with
        | insertRunnerCommand nodeId command =>
            have hmem : (nodeId, command.command.sequence) ∈ purse :=
              huses (List.mem_singleton_self _)
            refine h.use ?_ (commandKeys_insert nodeId command _ _)
            simp only [Action.uses, Action.draws, List.diff_cons, List.diff_nil,
              List.append_nil]
            exact (((List.perm_cons_erase hmem).append_right after).append_left
              before).trans List.perm_middle
        | _ => exact absurd rfl hst
  | nextSequence nodeId =>
      obtain ⟨hwrap, hstarted⟩ := hfresh nodeId rfl
      refine h.draw ?_ hstarted ?_ ?_
      · simp only [PostgresShared.upcoming, PostgresShared.counter] at hwrap ⊢
        rw [UInt64.toNat_add]
        exact Nat.mod_eq_of_lt hwrap
      · intro other
        simp only [PostgresShared.act, PostgresShared.counter,
          HashTable.get_insert]
        split_ifs <;> rfl
      · simp only [Action.uses, Action.draws, PostgresShared.act, List.diff_nil,
          List.append_assoc, List.singleton_append]
        rw [← List.append_assoc before, ← List.append_assoc before]
        exact List.perm_middle
  | transaction op =>
      have hframe : commandKeys (PostgresStore.exec crates op t s.database).2 =
          commandKeys s.database := by
        have htable : TableName.runnerCommands ∉ tables op := by
          cases op with
          | registerNodeWithRegistrationToken => simp [tables]
          | _ => cases hwell
        have hrows := exec_frame crates htable t s.database
        simp only [Database.rows] at hrows
        rw [commandKeys, hrows, commandKeys]
      simp only [PostgresShared.act, hframe, Action.uses, Action.draws,
        List.diff_nil, List.append_nil]
      exact h
  | pushRunnerResult | runnerResultCount | environment =>
      simp only [PostgresShared.act, Action.uses, Action.draws, List.diff_nil,
        List.append_nil]
      exact h

/-! ## What a run does to them -/

/-- The sequences that a request has drawn and not yet used. -/
def InFlight.purse (crates : Crates) (f : InFlight) : List (String × UInt64) :=
  Program.purseOf Action.draws Action.uses
    (Program.logged (PostgresShared.act crates)) f.entries

def Process.held (crates : Crates) (p : Process) : List (String × UInt64) :=
  p.threads.flatMap (InFlight.purse crates)

/-- Every allocation of the process is fresh. -/
def Process.AllocatesFresh (p : Process) : Prop :=
  ∀ f ∈ p.threads, ∀ e ∈ f.entries,
    e.op.AllocatesFresh p.started e.before.2

/-- An insertion whose key is free. -/
def InsertsFree (e : ThreadEntry) : Prop :=
  ∀ nodeId command, e.op = .statement (.insertRunnerCommand nodeId command) →
    storedAs (nodeId, command.command.sequence) ∉
      commandKeys e.before.2.database

section Runs

variable {crates : Crates} {app : AppState}

theorem PostgresRun.fresh
    {p : Process} (h : PostgresRun crates app p) (hfresh : p.AllocatesFresh) :
    SequencesFresh (commandKeys p.started) (p.held crates) p.world.2.counter
        (commandKeys p.world.2.database) ∧
      ∀ f ∈ p.threads, ∀ e ∈ f.entries, InsertsFree e := by
  induction h with
  | migrated =>
      exact ⟨.start _, by simp [Process.start]⟩
  | restart _ _ =>
      exact ⟨.start _, by simp [Process.start]⟩
  | @request p _ request ih =>
      obtain ⟨hheld, hfree⟩ := ih (fun f hf =>
        hfresh f (List.mem_append_left _ hf))
      constructor
      · simpa [Process.held, InFlight.purse, InFlight.new, Program.purseOf]
          using hheld
      · intro f hf
        rcases List.mem_append.mp hf with hf | hf
        · exact hfree f hf
        · obtain rfl := List.mem_singleton.mp hf
          intro e he
          cases he
  | @act started world before after request entries a next hrun t ih =>
      have hnow := hfresh _ mem_middle ⟨a, t, world⟩
        (List.mem_append_right _ (List.mem_singleton_self _))
      obtain ⟨hheld, hfree⟩ := ih (forall_mem_middle hfresh
        (fun e he => hfresh _ mem_middle e (List.mem_append_left _ he)))
      -- the thread affords its action
      have hreaches := hrun.reaches _ mem_middle
      obtain ⟨huses, -⟩ :=
        hreaches.affords (app.affords_serve crates request)
      obtain ⟨hwell, -⟩ :=
        hreaches.all (app.actionsOf_wellformed crates request)
      simp only [Process.held, List.flatMap_append, List.flatMap_cons]
        at hheld ⊢
      constructor
      · simp only [InFlight.purse, Program.purseOf_append]
        exact hheld.act huses hwell hnow t
      · refine forall_mem_middle hfree ?_
        intro e he
        rcases List.mem_append.mp he with he | he
        · exact hfree _ mem_middle e he
        · obtain rfl := List.mem_singleton.mp he
          rintro nodeId command rfl
          apply hheld.free
          exact List.mem_append_right _ (List.mem_append_left _
            (huses (List.mem_singleton_self _)))

end Runs

end ProxyControl
