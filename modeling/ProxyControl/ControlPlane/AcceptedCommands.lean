import ProxyControl.ControlPlane.DrawnSequences
import ProxyControl.ReferenceCrates

/-!
# Accepted commands over Postgres

Requests of any kind and number interleave at their statements, and processes
follow one another on one database.  A process may find the sequences that it
allocates in the queue, two requests for one node may insert against the order
of their sequences, and a poll may come between an insertion and the reply of
its request.  An orderly run has none of these, and in it every command that is
accepted is in the queue when its request replies.
-/

namespace ProxyControl

open Effects PostgresStore

/-! ## A request that succeeds has inserted its command -/

namespace Handler

variable {crates : Crates} {α β : Type}

/-- A handler that succeeds has done what `post` says, whatever it met. -/
def Leads
    (crates : Crates) (handler : Handler α)
    (post : List ThreadEntry → α → Prop) : Prop :=
  Program.Accounts (Program.logged (PostgresShared.act crates))
    (handler.run.implement (actions crates))
    (fun entries r => ∀ a, r = .ok a → post entries a)

theorem leads_pure
    {a : α} {post : List ThreadEntry → α → Prop} (h : post [] a) :
    Leads crates (pure a : Handler α) post := by
  intro a' ha'
  obtain rfl := Except.ok.inj ha'
  exact h

theorem Leads.mono
    {m : Handler α} {post post' : List ThreadEntry → α → Prop}
    (h : Leads crates m post)
    (hpost : ∀ entries a, post entries a → post' entries a) :
    Leads crates m post' :=
  Program.Accounts.mono h (fun entries _ hr a ha => hpost entries a (hr a ha))

theorem Leads.bind
    {m : Handler α} {f : α → Handler β}
    {post : List ThreadEntry → α → Prop} {post' : List ThreadEntry → β → Prop}
    (h : Leads crates m post)
    (hf : ∀ entries a, post entries a →
      Leads crates (f a) (fun rest b => post' (entries ++ rest) b)) :
    Leads crates (m >>= f) post' := by
  have hrun :
      (m >>= f).run.implement (actions crates) =
        m.run.implement (actions crates) >>= fun r =>
          (ExceptT.bindCont f r).implement (actions crates) :=
    Program.implement_bind _ _ _
  unfold Leads
  rw [hrun, Program.accounts_bind]
  refine Program.Accounts.mono h ?_
  intro entries r hr
  cases r with
  | ok a => exact hf entries a (hr a rfl)
  | error e =>
      intro b hb
      cases hb

/-- What the second part does, if the first one may come before it. -/
theorem leads_bind_right
    {m : Handler α} {f : α → Handler β} {post : List ThreadEntry → β → Prop}
    (hpost : ∀ entries rest b, post rest b → post (entries ++ rest) b)
    (hf : ∀ a, Leads crates (f a) post) :
    Leads crates (m >>= f) post := by
  have hm : Leads crates m (fun _ _ => True) :=
    (Program.accounts_true _).mono (fun _ _ _ _ _ => trivial)
  exact hm.bind (fun entries a _ => (hf a).mono (hpost entries))

/-- What the first part does, if the second one may come after it. -/
theorem Leads.bind_left
    {m : Handler α} {f : α → Handler β} {post : List ThreadEntry → Prop}
    (h : Leads crates m (fun entries _ => post entries))
    (hpost : ∀ entries rest, post entries → post (entries ++ rest)) :
    Leads crates (m >>= f) (fun entries _ => post entries) := by
  refine h.bind ?_
  intro entries a hentries
  exact (Program.accounts_true _).mono
    (fun rest _ _ _ _ => hpost entries rest hentries)

theorem leads_orStatus_bind
    {status : Nat} {value : Except String α} {f : α → Handler β}
    {post : List ThreadEntry → β → Prop}
    (hf : ∀ a, value = .ok a → Leads crates (f a) post) :
    Leads crates (Handler.orStatus status value >>= f) post := by
  cases value with
  | ok a => exact hf a rfl
  | error e =>
      intro b hb
      cases hb

end Handler

/-- A command for the node was signed, and its insertion returned success. -/
def Inserted
    (crates : Crates) (app : AppState) (nodeId : String)
    (entries : List ThreadEntry) : Prop :=
  ∃ envelope t w,
    (⟨.statement (.insertRunnerCommand nodeId envelope), t, w⟩ : ThreadEntry) ∈
        entries ∧
      ((Statement.insertRunnerCommand nodeId envelope).exec (t.statement 0)
        w.2.database).1 = .ok () ∧
      ∃ command : RunnerCommand, command.nodeId = nodeId ∧
        SignedRunnerCommand.sign crates command app.signingKey = .ok envelope

section Inserted

variable {crates : Crates} {app : AppState} {nodeId : String}

theorem Inserted.mono
    {entries entries' : List ThreadEntry}
    (h : Inserted crates app nodeId entries) (hmem : entries ⊆ entries') :
    Inserted crates app nodeId entries' := by
  obtain ⟨envelope, t, w, hentry, hrest⟩ := h
  exact ⟨envelope, t, w, hmem hentry, hrest⟩

end Inserted

namespace AppState

open Handler

variable (crates : Crates) (app : AppState)

theorem leads_signAndEnqueue
    (nodeId : String) (sequence : UInt64) (kind : RunnerCommandKind) :
    (app.signAndEnqueue crates nodeId sequence kind).Leads crates
      (fun entries _ => Inserted crates app nodeId entries) := by
  have hafter : ∀ entries rest (_ : Unit),
      Inserted crates app nodeId rest →
        Inserted crates app nodeId (entries ++ rest) :=
    fun entries rest _ h => h.mono (List.subset_append_right _ _)
  refine leads_bind_right hafter fun now => ?_
  refine leads_bind_right hafter fun nonce => ?_
  refine leads_orStatus_bind fun envelope henvelope => ?_
  -- the environment is asked, and then the insertion is made
  intro t w t' w' a ha
  refine ⟨envelope, t', _, List.mem_cons_of_mem _ (List.mem_singleton_self _),
    ?_, _, rfl, Handler.mapError_eq_ok henvelope⟩
  exact Handler.mapError_eq_ok ha

theorem inserted_after
    {α : Type} {nodeId : String} (entries rest : List ThreadEntry) (_ : α)
    (h : Inserted crates app nodeId rest) :
    Inserted crates app nodeId (entries ++ rest) :=
  h.mono (List.subset_append_right _ _)

theorem leads_compileFresh (req : CompileDeploymentRequest) :
    (app.compileFresh crates req).Leads crates
      (fun entries _ => Inserted crates app req.nodeId entries) := by
  unfold compileFresh
  refine leads_bind_right (inserted_after crates app) fun profile => ?_
  refine leads_bind_right (inserted_after crates app) fun node => ?_
  refine leads_bind_right (inserted_after crates app) fun credentials => ?_
  refine leads_bind_right (inserted_after crates app) fun compiled => ?_
  refine leads_bind_right (inserted_after crates app) fun bytes => ?_
  refine leads_bind_right (inserted_after crates app) fun uuid => ?_
  refine leads_bind_right (inserted_after crates app) fun now => ?_
  refine leads_bind_right (inserted_after crates app) fun _ => ?_
  refine leads_bind_right (inserted_after crates app) fun createdAt => ?_
  refine leads_bind_right (inserted_after crates app) fun _ => ?_
  refine leads_bind_right (inserted_after crates app) fun plannedAt => ?_
  refine leads_bind_right (inserted_after crates app) fun sequence => ?_
  exact (leads_signAndEnqueue crates app _ _ _).bind_left
    (fun _ _ h => h.mono (List.subset_append_left _ _))

/-- A compilation that does not replay an earlier response. -/
theorem leads_compileDeployment
    (headers : Headers) (req : CompileDeploymentRequest) :
    (app.compileDeployment crates headers req).Leads crates
      (fun entries reply => (reply matches .compiled _) = true →
        Inserted crates app req.nodeId entries) := by
  have hafter : ∀ entries rest (reply : CompileReply),
      ((reply matches .compiled _) = true →
        Inserted crates app req.nodeId rest) →
      (reply matches .compiled _) = true →
        Inserted crates app req.nodeId (entries ++ rest) :=
    fun entries rest reply h hreply =>
      inserted_after crates app entries rest reply (h hreply)
  have hfresh {β : Type} (f : CompileDeploymentResponse → Handler β) :
      (app.compileFresh crates req >>= f).Leads crates
        (fun entries _ => Inserted crates app req.nodeId entries) :=
    (leads_compileFresh crates app req).bind_left
      (fun _ _ h => h.mono (List.subset_append_left _ _))
  unfold compileDeployment
  refine leads_bind_right hafter fun key => ?_
  cases key with
  | none => exact (hfresh _).mono (fun _ _ h _ => h)
  | some key =>
      refine leads_bind_right hafter fun cached => ?_
      cases cached with
      | some cached => exact leads_pure (fun h => by cases h)
      | none => exact (hfresh _).mono (fun _ _ h _ => h)

theorem leads_enqueueRollbackCommand (deploymentId : String) :
    (app.enqueueRollbackCommand crates deploymentId).Leads crates
      (fun entries _ => ∃ nodeId, Inserted crates app nodeId entries) := by
  have hafter : ∀ entries rest (_ : RollbackQueuedResponse),
      (∃ nodeId, Inserted crates app nodeId rest) →
        ∃ nodeId, Inserted crates app nodeId (entries ++ rest) := by
    rintro entries rest reply ⟨nodeId, h⟩
    exact ⟨nodeId, inserted_after crates app entries rest reply h⟩
  unfold enqueueRollbackCommand
  refine leads_bind_right hafter fun pointer => ?_
  refine leads_bind_right hafter fun target => ?_
  refine leads_bind_right hafter fun artifactId => ?_
  refine leads_bind_right hafter fun snapshot => ?_
  refine leads_bind_right hafter fun bytes => ?_
  refine leads_bind_right hafter fun sequence => ?_
  refine Leads.bind_left ?_ ?_
  · exact (leads_signAndEnqueue crates app _ _ _).mono (fun _ _ h => ⟨_, h⟩)
  · rintro entries rest ⟨nodeId, h⟩
    exact ⟨nodeId, h.mono (List.subset_append_left _ _)⟩

end AppState

/-! ## Accepted commands are stored -/

/-- A success that answers for a command of its own. -/
def AcceptsCommand : (request : Request) → request.Reply → Bool
  | .compileDeployment .., reply => (reply matches .compiled _)
  | .queueRollback _, _ => true
  | _, _ => false

/-- A compilation names its node. -/
def Request.target : Request → Option String
  | .compileDeployment _ req => some req.nodeId
  | _ => none

/-- A pending row of the node, above every row that was leased. -/
def StoredAhead
    (nodeId : String) (envelope : SignedRunnerCommand) (db : Database) : Prop :=
  ∃ row ∈ db.runnerCommands, row.nodeId = nodeId ∧
    row.envelopeJson = envelope ∧ row.status = "pending" ∧
      ∀ other ∈ db.runnerCommands, other.nodeId = nodeId →
        other.status = "leased" → other.sequence < row.sequence

/-- What the last action of a request has left; then the request replies. -/
def InFlight.left (crates : Crates) (f : InFlight) : Option PostgresShared :=
  f.entries.getLast?.map (fun e =>
    (PostgresShared.act crates e.op e.choice e.before.2).2)

/-- When the request replies, the command that it has signed is in the queue. -/
def InFlight.CommandStored (crates : Crates) (app : AppState) (f : InFlight) :
    Prop :=
  ∃ nodeId envelope,
    (∃ e ∈ f.entries,
      e.op = .statement (.insertRunnerCommand nodeId envelope)) ∧
    (∃ command : RunnerCommand, command.nodeId = nodeId ∧
      SignedRunnerCommand.sign crates command app.signingKey = .ok envelope) ∧
    (∀ target ∈ f.request.target, nodeId = target) ∧
    ∃ s ∈ f.left crates, StoredAhead nodeId envelope s.database

/-- Every request that has returned success has its command stored. -/
def Process.CommandsStored (crates : Crates) (app : AppState) (p : Process) :
    Prop :=
  ∀ f ∈ p.threads, ∀ reply, f.rest = .done (.ok reply) →
    AcceptsCommand f.request reply = true → f.CommandStored crates app

/-! ### Orderly runs -/

def InFlight.replied : InFlight → Bool
  | ⟨_, _, .done _⟩ => true
  | _ => false

/-- The sequences that a request has drawn, for their nodes. -/
def InFlight.drawn (crates : Crates) (f : InFlight) : List (String × UInt64) :=
  Program.drawnBy Action.draws (Program.logged (PostgresShared.act crates))
    f.entries

/-- The sequences drawn by requests that have not replied yet. -/
def Process.underWay (crates : Crates) (p : Process) : List (String × UInt64) :=
  (p.threads.filter (fun f => f.replied = false)).flatMap
    (InFlight.drawn crates)

theorem Process.mem_underWay
    {crates : Crates} {p : Process} {f : InFlight} {drawn : String × UInt64}
    (hf : f ∈ p.threads) (hreplied : f.replied = false)
    (hdrawn : drawn ∈ f.drawn crates) :
    drawn ∈ p.underWay crates :=
  List.mem_flatMap.mpr
    ⟨f, List.mem_filter.mpr ⟨hf, decide_eq_true hreplied⟩, hdrawn⟩

/-- The next action does not get in the way of an accepted command. -/
def Process.Orderly
    (crates : Crates) (p : Process) (t : StoreTick) : Action → Prop
  | .nextSequence nodeId =>
      -- No row had the sequence when the process was started, and those of these
      -- rows that are leased are below it.
      p.world.2.counter nodeId + 1 < 2 ^ 63 ∧
      storedAs (nodeId, p.world.2.upcoming nodeId) ∉ commandKeys p.started ∧
      ∀ row ∈ p.world.2.database.runnerCommands, row.nodeId = nodeId →
        row.status = "leased" →
        (nodeId, row.sequence) ∈ commandKeys p.started →
        row.sequence < (p.world.2.upcoming nodeId).toInt64
  | .statement (.skipRunnerCommands nodeId lastSequence) =>
      -- A poll skips no row of a request that has not replied yet.
      (t.statement 0).fault = none →
      ∀ drawn ∈ p.underWay crates, drawn.1 = nodeId →
        storedAs drawn ∈ commandKeys p.world.2.database →
        lastSequence < drawn.2.toInt64
  | .statement (.leaseRunnerCommand nodeId lastSequence) =>
      -- A poll leases below every sequence of such a request.
      (t.statement 0).fault = none →
      ∀ row ∈ p.world.2.database.runnerCommands,
        leaseCandidate nodeId lastSequence p.world.2.database = some row.id →
        ∀ drawn ∈ p.underWay crates, drawn.1 = row.nodeId →
          row.sequence < drawn.2.toInt64
  | _ => True

/-- The runs of processes one after the other, all of whose steps are orderly. -/
inductive OrderlyRun (crates : Crates) (app : AppState) : Process → Prop
  | migrated : OrderlyRun crates app (.start .empty [])
  | request {p : Process} (h : OrderlyRun crates app p) (request : Request) :
      OrderlyRun crates app
        { p with threads := p.threads ++ [.new crates app request] }
  | act
      {started : Database} {world : PostgresWorld}
      {before after : List InFlight} {request : Request}
      {entries : List ThreadEntry} {a : Action}
      {next : a.Ret →
        Program Action Action.Ret (Except HttpError request.Reply)}
      (h : OrderlyRun crates app ⟨started, world,
        before ++ ⟨request, entries, .call a next⟩ :: after⟩)
      (t : StoreTick)
      (hstep : Process.Orderly crates ⟨started, world,
        before ++ ⟨request, entries, .call a next⟩ :: after⟩ t a) :
      OrderlyRun crates app ⟨started,
        (Program.logged (PostgresShared.act crates) a t world).2,
        before ++ ⟨request, entries ++ [⟨a, t, world⟩],
          next (PostgresShared.act crates a t world.2).1⟩ :: after⟩
  | restart {p : Process} (h : OrderlyRun crates app p) :
      OrderlyRun crates app (.start p.world.2.database p.world.1)

section Orderly

variable {crates : Crates} {app : AppState}

theorem OrderlyRun.run
    {p : Process} (h : OrderlyRun crates app p) : PostgresRun crates app p := by
  induction h with
  | migrated => exact .migrated
  | request _ request ih => exact ih.request request
  | act _ t _ ih => exact ih.act t
  | restart _ ih => exact ih.restart

/-- In an orderly run every allocation is fresh. -/
theorem OrderlyRun.allocatesFresh
    {p : Process} (h : OrderlyRun crates app p) : p.AllocatesFresh := by
  induction h with
  | migrated | restart =>
      intro f hf
      cases hf
  | request _ request ih =>
      refine List.forall_mem_append.mpr ⟨ih, ?_⟩
      intro f hf e he
      obtain rfl := List.mem_singleton.mp hf
      cases he
  | act _ t hstep ih =>
      refine forall_mem_middle ih ?_
      intro e he
      rcases List.mem_append.mp he with he | he
      · exact ih _ mem_middle e he
      · obtain rfl := List.mem_singleton.mp he
        rintro nodeId rfl
        obtain ⟨hfits, hstarted, -⟩ := hstep
        exact ⟨hfits.trans (by decide), hstarted⟩

/-! ### What one action does to the queue -/

/-- The rows of the queue after a statement that writes them. -/
theorem queue_applied
    {st : Statement} (hwrites : st.writes = some .runnerCommands)
    {t : StatementTick} {db db' : Database} {value : st.Value}
    (h : st.apply t db = .ok (value, db')) :
    db'.runnerCommands = db.runnerCommands ∨
      (∃ nodeId envelope rowId,
        st = .insertRunnerCommand nodeId envelope ∧
        db'.runnerCommands =
          db.runnerCommands ++ [pendingRow nodeId envelope rowId]) ∨
      (∃ nodeId lastSequence,
        st = .skipRunnerCommands nodeId lastSequence ∧
        db'.runnerCommands =
          (skipRunnerCommands nodeId lastSequence db).runnerCommands) ∨
      ∃ nodeId lastSequence rowId,
        st = .leaseRunnerCommand nodeId lastSequence ∧
        leaseCandidate nodeId lastSequence db = some rowId ∧
        db'.runnerCommands = Table.updateWhere (fun row => row.id = rowId)
          (fun row => { row with status := "leased" }) db.runnerCommands := by
  cases st with
  | insertRunnerCommand nodeId envelope =>
      rw [insertRunnerCommand_ok (insertRunnerCommand_of_apply h)]
      split_ifs
      · exact .inl rfl
      · exact .inr (.inl ⟨nodeId, envelope, _, rfl, rfl⟩)
  | skipRunnerCommands nodeId lastSequence =>
      obtain rfl := (Prod.mk.inj (Except.ok.inj h)).2
      exact .inr (.inr (.inl ⟨nodeId, lastSequence, rfl, rfl⟩))
  | leaseRunnerCommand nodeId lastSequence =>
      obtain rfl := (Prod.mk.inj (Except.ok.inj h)).2
      cases hcandidate : leaseCandidate nodeId lastSequence db with
      | none => exact .inl rfl
      | some rowId =>
          exact .inr (.inr (.inr ⟨nodeId, lastSequence, rowId, rfl, hcandidate,
            rfl⟩))
  | _ => cases hwrites

/-- The rows of the queue after an action. -/
theorem queue_act
    {a : Action} (hwell : a.Wellformed) (t : StoreTick) (s : PostgresShared) :
    let rows := (PostgresShared.act crates a t s).2.database.runnerCommands
    rows = s.database.runnerCommands ∨
      (∃ nodeId envelope rowId,
        a = .statement (.insertRunnerCommand nodeId envelope) ∧
        rows = s.database.runnerCommands ++ [pendingRow nodeId envelope rowId]) ∨
      (∃ nodeId lastSequence,
        a = .statement (.skipRunnerCommands nodeId lastSequence) ∧
        (t.statement 0).fault = none ∧
        rows = (skipRunnerCommands nodeId lastSequence
          s.database).runnerCommands) ∨
      ∃ nodeId lastSequence rowId,
        a = .statement (.leaseRunnerCommand nodeId lastSequence) ∧
        (t.statement 0).fault = none ∧
        leaseCandidate nodeId lastSequence s.database = some rowId ∧
        rows = Table.updateWhere (fun row => row.id = rowId)
          (fun row => { row with status := "leased" })
          s.database.runnerCommands := by
  intro rows
  cases a with
  | statement st =>
      by_cases hwrites : st.writes = some .runnerCommands
      swap
      · left
        exact Statement.exec_frame hwrites (t.statement 0) s.database
      cases hvalue : (st.exec (t.statement 0) s.database).1 with
      | error e =>
          left
          show (st.exec (t.statement 0) s.database).2.runnerCommands = _
          rw [Statement.exec_of_error hvalue]
      | ok value =>
          obtain ⟨hfault, happly⟩ := Statement.apply_of_exec hvalue
          rcases queue_applied hwrites happly with
            hrows | ⟨nodeId, envelope, rowId, rfl, hrows⟩ |
              ⟨nodeId, lastSequence, rfl, hrows⟩ |
              ⟨nodeId, lastSequence, rowId, rfl, hcandidate, hrows⟩
          · exact .inl hrows
          · exact .inr (.inl ⟨nodeId, envelope, rowId, rfl, hrows⟩)
          · exact .inr (.inr (.inl ⟨nodeId, lastSequence, rfl, hfault, hrows⟩))
          · exact .inr (.inr (.inr
              ⟨nodeId, lastSequence, rowId, rfl, hfault, hcandidate, hrows⟩))
  | transaction op =>
      left
      have htable : TableName.runnerCommands ∉ tables op := by
        cases op with
        | registerNodeWithRegistrationToken => simp [tables]
        | _ => cases hwell
      exact exec_frame crates htable t s.database
  | nextSequence | pushRunnerResult | runnerResultCount | environment =>
      exact .inl rfl

/-- An insertion that succeeds on a free key stores its row. -/
theorem queue_insert_of_free
    {nodeId : String} {envelope : SignedRunnerCommand} {t : StatementTick}
    {db : Database}
    (hok : ((Statement.insertRunnerCommand nodeId envelope).exec t db).1 = .ok ())
    (hfree : storedAs (nodeId, envelope.command.sequence) ∉ commandKeys db) :
    pendingRow nodeId envelope db.runnerCommands.length ∈
      ((Statement.insertRunnerCommand nodeId envelope).exec t
        db).2.runnerCommands := by
  obtain ⟨-, happly⟩ := Statement.apply_of_exec hok
  rw [insertRunnerCommand_ok (insertRunnerCommand_of_apply happly), if_neg]
  · exact List.mem_append_right _ (List.mem_singleton_self _)
  · intro htaken
    obtain ⟨row, hrow, hkey⟩ := (Table.hasKey_iff _ _ _).mp htaken
    exact hfree (List.mem_map.mpr ⟨row, hrow, hkey⟩)

/-! ### What an orderly run keeps -/

/-- Every leased row of the node of a sequence is below it. -/
def LeasedBelow (drawn : String × UInt64) (db : Database) : Prop :=
  ∀ row ∈ db.runnerCommands, row.nodeId = drawn.1 → row.status = "leased" →
    row.sequence < drawn.2.toInt64

/-- The command is in the queue as it was inserted. -/
def Waits
    (nodeId : String) (envelope : SignedRunnerCommand) (db : Database) : Prop :=
  ∃ row ∈ db.runnerCommands, row.nodeId = nodeId ∧
    row.envelopeJson = envelope ∧ row.status = "pending" ∧
      row.sequence = envelope.command.sequence.toInt64

/-- The sequences that a request has drawn lead, its insertions wait. -/
structure InFlight.Ahead
    (crates : Crates) (f : InFlight) (db : Database) : Prop where
  leads : ∀ drawn ∈ f.drawn crates, LeasedBelow drawn db
  waits : ∀ e ∈ f.entries, ∀ nodeId envelope,
    e.op = .statement (.insertRunnerCommand nodeId envelope) →
    ((Statement.insertRunnerCommand nodeId envelope).exec
      (e.choice.statement 0) e.before.2.database).1 = .ok () →
    Waits nodeId envelope db

section Act

variable {p : Process} {a : Action} {t : StoreTick}

/-- Nothing is leased at or above a sequence that is under way. -/
theorem leasedBelow_act
    (hwell : a.Wellformed) (hstep : p.Orderly crates t a)
    {drawn : String × UInt64} (hdrawn : drawn ∈ p.underWay crates)
    (h : LeasedBelow drawn p.world.2.database) :
    LeasedBelow drawn (PostgresShared.act crates a t p.world.2).2.database := by
  intro row hrow hnode hleased
  rcases @queue_act crates a hwell t p.world.2 with
    hrows | ⟨nodeId, envelope, rowId, -, hrows⟩ |
      ⟨nodeId, lastSequence, -, -, hrows⟩ |
      ⟨nodeId, lastSequence, rowId, ha, hfault, hcandidate, hrows⟩
  · rw [hrows] at hrow
    exact h row hrow hnode hleased
  · rw [hrows] at hrow
    rcases List.mem_append.mp hrow with hrow | hrow
    · exact h row hrow hnode hleased
    · obtain rfl := List.mem_singleton.mp hrow
      have hpending : "pending" ≠ "leased" := by decide
      exact absurd hleased hpending
  · rw [hrows] at hrow
    obtain ⟨old, hold, hsame⟩ := Table.mem_updateWhere.mp hrow
    split_ifs at hsame
    · subst hsame
      have hskipped : "skipped" ≠ "leased" := by decide
      exact absurd hleased hskipped
    · subst hsame
      exact h old hold hnode hleased
  · rw [hrows] at hrow
    obtain ⟨old, hold, hsame⟩ := Table.mem_updateWhere.mp hrow
    split_ifs at hsame with hid
    · subst hsame
      have hid : old.id = rowId := of_decide_eq_true hid
      subst ha
      exact hstep hfault old hold (hid ▸ hcandidate) drawn hdrawn hnode.symm
    · subst hsame
      exact h old hold hnode hleased

/-- A command of a request that is under way keeps waiting. -/
theorem waits_act
    (hwell : a.Wellformed) (hstep : p.Orderly crates t a)
    {nodeId : String} {envelope : SignedRunnerCommand}
    (hdrawn : (nodeId, envelope.command.sequence) ∈ p.underWay crates)
    (h : Waits nodeId envelope p.world.2.database) :
    Waits nodeId envelope
      (PostgresShared.act crates a t p.world.2).2.database := by
  obtain ⟨row, hrow, rfl, henvelope, hpending, hsequence⟩ := h
  refine ⟨row, ?_, rfl, henvelope, hpending, hsequence⟩
  rcases @queue_act crates a hwell t p.world.2 with
    hrows | ⟨nodeId', envelope', rowId, -, hrows⟩ |
      ⟨nodeId', lastSequence, ha, hfault, hrows⟩ |
      ⟨nodeId', lastSequence, rowId, ha, hfault, hcandidate, hrows⟩
  · rwa [hrows]
  · rw [hrows]
    exact List.mem_append_left _ hrow
  · rw [hrows]
    refine Table.mem_updateWhere.mpr ⟨row, hrow, if_neg ?_⟩
    simp only [Bool.and_eq_true, decide_eq_true_eq]
    rintro ⟨⟨hnode, hle⟩, -⟩
    have hkey : storedAs (row.nodeId, envelope.command.sequence) ∈
        commandKeys p.world.2.database :=
      List.mem_map.mpr ⟨row, hrow, by rw [storedAs, hsequence]⟩
    subst ha
    have hlt := hstep hfault _ hdrawn hnode hkey
    rw [← hsequence] at hlt
    exact absurd hle (Int64.not_le.mpr hlt)
  · rw [hrows]
    refine Table.mem_updateWhere.mpr ⟨row, hrow, if_neg ?_⟩
    intro hid
    have hid : row.id = rowId := of_decide_eq_true hid
    subst ha
    have hlt := hstep hfault row hrow (hid ▸ hcandidate) _ hdrawn rfl
    rw [hsequence] at hlt
    exact (Int64.lt_irrefl hlt).elim

/-- What a request that is under way has drawn and inserted stays ahead. -/
theorem InFlight.Ahead.act
    {f : InFlight} (h : f.Ahead crates p.world.2.database)
    (hf : f ∈ p.threads) (hreplied : f.replied = false)
    (hinserts : ∀ e ∈ f.entries, e.op.uses ⊆ f.drawn crates)
    (hwell : a.Wellformed) (hstep : p.Orderly crates t a) :
    f.Ahead crates (PostgresShared.act crates a t p.world.2).2.database where
  leads drawn hdrawn :=
    leasedBelow_act hwell hstep (p.mem_underWay hf hreplied hdrawn)
      (h.leads drawn hdrawn)
  waits e he nodeId envelope hop hok := by
    refine waits_act hwell hstep
      (p.mem_underWay hf hreplied (hinserts e he ?_))
      (h.waits e he nodeId envelope hop hok)
    rw [hop]
    exact List.mem_singleton_self _

/-- One more action: what it draws leads, and what it inserts waits. -/
theorem InFlight.Ahead.concat
    {f : InFlight} {db : Database} (h : f.Ahead crates db) (e : ThreadEntry)
    (rest : Program Action Action.Ret (Except HttpError f.request.Reply))
    (hdraws : ∀ drawn ∈ e.op.draws
        (PostgresShared.act crates e.op e.choice e.before.2).1,
      LeasedBelow drawn db)
    (hinserts : ∀ nodeId envelope,
      e.op = .statement (.insertRunnerCommand nodeId envelope) →
      ((Statement.insertRunnerCommand nodeId envelope).exec
        (e.choice.statement 0) e.before.2.database).1 = .ok () →
      Waits nodeId envelope db) :
    InFlight.Ahead crates ⟨f.request, f.entries ++ [e], rest⟩ db where
  leads drawn hmem := by
    rw [InFlight.drawn, Program.drawnBy_append] at hmem
    rcases List.mem_append.mp hmem with hmem | hmem
    · exact h.leads drawn hmem
    · exact hdraws drawn hmem
  waits e' he' := by
    rcases List.mem_append.mp he' with he' | he'
    · exact h.waits e' he'
    · obtain rfl := List.mem_singleton.mp he'
      exact hinserts

/-- A sequence that is allocated leads the leased rows of its node. -/
theorem leasedBelow_allocated
    {started : List (String × Int64)} {held : List (String × UInt64)}
    {s : PostgresShared} {nodeId : String}
    (hfresh : SequencesFresh started held s.counter (commandKeys s.database))
    (hfits : s.counter nodeId + 1 < 2 ^ 63)
    (hstarted : ∀ row ∈ s.database.runnerCommands, row.nodeId = nodeId →
      row.status = "leased" → (nodeId, row.sequence) ∈ started →
      row.sequence < (s.upcoming nodeId).toInt64) :
    LeasedBelow (nodeId, s.upcoming nodeId) s.database := by
  have hnext : (s.upcoming nodeId).toNat = s.counter nodeId + 1 := by
    simp only [PostgresShared.upcoming, PostgresShared.counter] at hfits ⊢
    rw [UInt64.toNat_add]
    exact Nat.mod_eq_of_lt (hfits.trans (by decide))
  intro row hrow hnode hleased
  have hkey : (nodeId, row.sequence) ∈ commandKeys s.database :=
    List.mem_map.mpr ⟨row, hrow, by rw [hnode]⟩
  rcases hfresh.origin _ hkey with hfound | ⟨drawn, heq, hle⟩
  · exact hstarted row hrow hnode hleased hfound
  · obtain ⟨rfl, hdrawn⟩ := Prod.mk.inj heq
    rw [hdrawn]
    refine Wrapping.toInt64_lt ?_ ?_
    · show drawn.2.toNat < (s.upcoming drawn.1).toNat
      omega
    · show (s.upcoming drawn.1).toNat < 2 ^ 63
      omega

end Act

/-- A request, while it is at work and when it replies, is ahead. -/
def InFlight.Safe (crates : Crates) (f : InFlight) (db : Database) : Prop :=
  (f.replied = false → f.Ahead crates db) ∧
    ∀ s ∈ f.left crates, f.replied = true → f.Ahead crates s.database

theorem OrderlyRun.safe
    {p : Process} (h : OrderlyRun crates app p) :
    ∀ f ∈ p.threads, f.Safe crates p.world.2.database := by
  induction h with
  | migrated | restart =>
      intro f hf
      cases hf
  | request _ request ih =>
      refine List.forall_mem_append.mpr ⟨ih, ?_⟩
      intro f hf
      obtain rfl := List.mem_singleton.mp hf
      refine ⟨fun _ => ⟨?_, ?_⟩, ?_⟩
      · intro drawn hdrawn
        cases hdrawn
      · intro e he
        cases he
      · intro s hs
        cases hs
  | @act started world before after request entries a next h t hstep ih =>
      have hreaches := h.run.reaches _ mem_middle
      obtain ⟨hwell, -⟩ :=
        hreaches.all (app.actionsOf_wellformed crates request)
      have hdrawn : ∀ f ∈ before ++ ⟨request, entries, .call a next⟩ :: after,
          ∀ e ∈ f.entries, e.op.uses ⊆ f.drawn crates :=
        fun f hf => (h.run.reaches f hf).uses_subset_drawnBy
          (app.affords_serve crates f.request)
      have hothers : ∀ f ∈ before ++ ⟨request, entries, .call a next⟩ :: after,
          f.Safe crates
            (PostgresShared.act crates a t world.2).2.database := by
        intro f hf
        refine ⟨fun hreplied => ?_, (ih f hf).2⟩
        exact ((ih f hf).1 hreplied).act hf hreplied (hdrawn f hf) hwell hstep
      refine forall_mem_middle hothers ?_
      obtain ⟨-, hfree⟩ := (h.run.act t).fresh
        (OrderlyRun.act h t hstep).allocatesFresh
      obtain ⟨hfresh, -⟩ := h.run.fresh h.allocatesFresh
      have hdraws : ∀ drawn ∈ a.draws (PostgresShared.act crates a t world.2).1,
          LeasedBelow drawn (PostgresShared.act crates a t world.2).2.database := by
        intro drawn hmem
        cases a with
        | nextSequence nodeId =>
            obtain rfl := List.mem_singleton.mp hmem
            obtain ⟨hfits, -, hstarted⟩ := hstep
            exact leasedBelow_allocated hfresh hfits hstarted
        | _ => cases hmem
      have hinserts : ∀ nodeId envelope,
          a = .statement (.insertRunnerCommand nodeId envelope) →
          ((Statement.insertRunnerCommand nodeId envelope).exec (t.statement 0)
            world.2.database).1 = .ok () →
          Waits nodeId envelope
            (PostgresShared.act crates a t world.2).2.database := by
        rintro nodeId envelope rfl hok
        refine ⟨_, queue_insert_of_free hok ?_, rfl, rfl, rfl, rfl⟩
        exact hfree _ mem_middle _
          (List.mem_append_right _ (List.mem_singleton_self _)) nodeId envelope rfl
      have hahead := ((hothers _ mem_middle).1 rfl).concat ⟨a, t, world⟩
        (next (PostgresShared.act crates a t world.2).1) hdraws hinserts
      refine ⟨fun _ => hahead, ?_⟩
      intro s hs _
      rw [InFlight.left, List.getLast?_concat, Option.map_some] at hs
      obtain rfl := Option.some.inj hs
      exact hahead

end Orderly

/-- A request that returns success has inserted a command for its node. -/
theorem inserted_of_accepts
    {crates : Crates} {app : AppState} {request : Request}
    {entries : List ThreadEntry} {reply : request.Reply}
    (h : Program.Reaches (Program.logged (PostgresShared.act crates))
      (app.actionsOf crates request) entries (.done (.ok reply)))
    (haccepts : AcceptsCommand request reply = true) :
    ∃ nodeId, (∀ target ∈ request.target, nodeId = target) ∧
      Inserted crates app nodeId entries := by
  cases request with
  | compileDeployment headers req =>
      refine ⟨req.nodeId, fun target htarget => Option.some.inj htarget, ?_⟩
      refine h.accounts (app.leads_compileDeployment crates headers req) reply rfl
        ?_
      cases reply with
      | compiled response => rfl
      | cached body => cases haccepts
  | queueRollback deploymentId =>
      obtain ⟨nodeId, hinserted⟩ :=
        h.accounts (app.leads_enqueueRollbackCommand crates deploymentId) reply
          rfl
      exact ⟨nodeId, fun target htarget => (by cases htarget), hinserted⟩
  | _ => cases haccepts

/--
Restarts included, an accepted command is stored ahead of the leased ones when its
request replies, in every run whose allocations and polls are orderly.
-/
theorem accepted_commands_stored
    (crates : Crates) (app : AppState)
    {p : Process} (h : OrderlyRun crates app p) :
    p.CommandsStored crates app := by
  intro f hf reply hreply haccepts
  have hreaches := h.run.reaches f hf
  obtain ⟨nodeId, htarget, envelope, t, w, hentry, hok, hsigned⟩ :=
    inserted_of_accepts (hreply ▸ hreaches) haccepts
  have hdrawn : (nodeId, envelope.command.sequence) ∈ f.drawn crates :=
    hreaches.uses_subset_drawnBy (app.affords_serve crates f.request) _ hentry
      (List.mem_singleton_self _)
  have hreplied : f.replied = true := by
    unfold InFlight.replied
    split
    · rfl
    · rename_i hno
      exact (hno _ _ _ (by rw [← hreply])).elim
  obtain ⟨s, hs⟩ : ∃ s, f.left crates = some s := by
    rw [InFlight.left, List.getLast?_eq_some_getLast (List.ne_nil_of_mem hentry)]
    exact ⟨_, rfl⟩
  obtain ⟨hleads, hwaits⟩ := (h.safe f hf).2 s hs hreplied
  obtain ⟨row, hrow, hnode, henvelope, hpending, hsequence⟩ :=
    hwaits _ hentry nodeId envelope rfl hok
  refine ⟨nodeId, envelope, ⟨_, hentry, rfl⟩, hsigned, htarget, s, hs, row, hrow,
    hnode, henvelope, hpending, ?_⟩
  rw [hsequence]
  exact hleads _ hdrawn

/-! ### Compilations, polls and a restart -/

instance
    (crates : Crates) (p : Process) (t : StoreTick) (a : Action) :
    Decidable (p.Orderly crates t a) := by
  unfold Process.Orderly
  split <;> infer_instance

/-- The next action of a thread, if the thread has one and it is orderly. -/
def Process.advance
    (crates : Crates) (t : StoreTick) (i : ℕ) (p : Process) : Option Process :=
  match p.threads.drop i with
  | ⟨request, entries, .call a next⟩ :: after =>
      if p.Orderly crates t a then
        some ⟨p.started,
          (Program.logged (PostgresShared.act crates) a t p.world).2,
          p.threads.take i ++ ⟨request, entries ++ [⟨a, t, p.world⟩],
            next (PostgresShared.act crates a t p.world.2).1⟩ :: after⟩
      else none
  | _ => none

theorem OrderlyRun.advance
    {crates : Crates} {app : AppState} {p p' : Process} {t : StoreTick} {i : ℕ}
    (h : OrderlyRun crates app p) (hp : p.advance crates t i = some p') :
    OrderlyRun crates app p' := by
  unfold Process.advance at hp
  split at hp
  · rename_i request entries a next after hdrop
    split_ifs at hp with hstep
    obtain rfl := Option.some.inj hp
    obtain ⟨started, world, threads⟩ := p
    have hthreads : threads =
        threads.take i ++ ⟨request, entries, .call a next⟩ :: after := by
      rw [← hdrop, List.take_append_drop]
    generalize hbefore : threads.take i = before at hthreads ⊢
    subst hthreads
    exact h.act t hstep
  · cases hp

/-- Threads that take turns at their actions. -/
def Process.takeTurns
    (crates : Crates) (env : ℕ → StoreTick) (p : Process) (turns : List ℕ) :
    Option Process :=
  turns.zipIdx.foldlM
    (fun p turn => p.advance crates (env turn.2) turn.1) p

theorem OrderlyRun.takeTurns
    {crates : Crates} {app : AppState} {env : ℕ → StoreTick} {turns : List ℕ}
    {p p' : Process} (h : OrderlyRun crates app p)
    (hp : p.takeTurns crates env turns = some p') :
    OrderlyRun crates app p' := by
  unfold Process.takeTurns at hp
  generalize turns.zipIdx = steps at hp
  induction steps generalizing p with
  | nil =>
      obtain rfl := Option.some.inj hp
      exact h
  | cons step steps ih =>
      obtain ⟨mid, hmid, hrest⟩ := Option.bind_eq_some_iff.mp hp
      exact ih (h.advance hmid) hrest

/-- Whether a request has returned success for a command of its own. -/
def InFlight.accepted : InFlight → Bool
  | ⟨request, _, .done (.ok reply)⟩ => AcceptsCommand request reply
  | _ => false

theorem InFlight.exists_of_accepted
    {f : InFlight} (h : f.accepted = true) :
    ∃ reply, f.rest = .done (.ok reply) ∧ AcceptsCommand f.request reply = true := by
  unfold accepted at h
  split at h
  · exact ⟨_, rfl, h⟩
  · cases h

def processEnv (stem : String) : ℕ → StoreTick :=
  fun n => referenceStoreTick (1700000000 + n) stem

/-- A process with the given requests. -/
def processOf (requests : List Request) : Process :=
  { Process.start .empty [] with
    threads := requests.map (InFlight.new referenceCrates referenceApp) }

theorem orderlyRun_requests (requests : List Request) :
    OrderlyRun referenceCrates referenceApp (processOf requests) := by
  suffices hmore : ∀ p, OrderlyRun referenceCrates referenceApp p →
      OrderlyRun referenceCrates referenceApp
        { p with threads := p.threads ++
            requests.map (InFlight.new referenceCrates referenceApp) } from
    hmore _ .migrated
  induction requests with
  | nil =>
      intro p hp
      simpa using hp
  | cons request requests ih =>
      intro p hp
      have hrest := ih _ (hp.request request)
      simpa using hrest

/-- Two compilations that overlap, and a poll amid the second one. -/
def interleavedProcess : Option Process :=
  (processOf
    [ registration "dev-registration-token" "node" 1,
      .createVlessRealityProfile "profile" "example.com",
      .compileDeployment [] ⟨"profile", "node"⟩,
      .compileDeployment [] ⟨"profile", "node"⟩,
      .nextRunnerCommand "node" none runnerHeaders ]).takeTurns referenceCrates
    (processEnv "a")
    (.replicate 8 0 ++ .replicate 7 1 ++ .replicate 10 2 ++ .replicate 20 3 ++
      .replicate 22 2 ++ .replicate 5 3 ++ .replicate 3 4 ++ .replicate 7 3)

/-- The sequences of the queue and what has become of them. -/
def Process.queue (p : Process) : List (Int64 × String) :=
  p.world.2.database.runnerCommands.map (fun row => (row.sequence, row.status))

theorem accepted_commands_stored_interleaved :
    ∃ p ∈ interleavedProcess,
      p.CommandsStored referenceCrates referenceApp ∧
        (p.threads.map InFlight.accepted).count true = 2 ∧
        p.queue = [(1, "leased"), (2, "pending")] := by
  have hends : interleavedProcess.any (fun p =>
      decide ((p.threads.map InFlight.accepted).count true = 2 ∧
        p.queue = [(1, "leased"), (2, "pending")])) = true := by
    decide +kernel
  obtain ⟨p, hp, hqueue⟩ := (Option.any_eq_true _ _).mp hends
  have hrun : OrderlyRun referenceCrates referenceApp p :=
    (orderlyRun_requests _).takeTurns hp
  exact ⟨p, hp, accepted_commands_stored _ _ hrun, of_decide_eq_true hqueue⟩

/-! ### A restart between two compilations -/

/-- A process that registers a node, stores a profile and compiles it. -/
def firstProcess : Process :=
  ((Process.start .empty []).serveAlone referenceCrates referenceApp
    (registration "dev-registration-token" "node" 1) (processEnv "a")).serveAlone
      referenceCrates referenceApp
        (.createVlessRealityProfile "profile" "example.com") (processEnv "a")
  |>.serveAlone referenceCrates referenceApp
      (.compileDeployment [] ⟨"profile", "node"⟩) (processEnv "a")

/-- The same database after a restart, and the same compilation again. -/
def secondProcess : Process :=
  (Process.start firstProcess.world.2.database firstProcess.world.1).serveAlone
    referenceCrates referenceApp (.compileDeployment [] ⟨"profile", "node"⟩)
      (processEnv "b")

/-- Whether the queue has no row with the nonce of an inserted command. -/
def lacks (db : Database) (e : ThreadEntry) : Bool :=
  match e.op with
  | .statement (.insertRunnerCommand _ command) =>
      db.runnerCommands.all
        (fun row => row.envelopeJson.command.nonce ≠ command.command.nonce)
  | _ => true

/-- After a restart the first sequence is allocated again, and its row is lost. -/
theorem accepted_command_lost :
    ¬ ∀ p, PostgresRun referenceCrates referenceApp p →
      p.CommandsStored referenceCrates referenceApp := by
  intro hclaim
  have hrun : PostgresRun referenceCrates referenceApp secondProcess :=
    (((PostgresRun.migrated.serveAlone _ _).serveAlone _ _).serveAlone _
      _).restart.serveAlone _ _
  have hall : ∀ f ∈ secondProcess.threads, f.accepted = true ∧
      ∀ e ∈ f.entries, (f.left referenceCrates).all
        (fun s => lacks s.database e) = true := by
    decide +kernel
  have hlength : secondProcess.threads.length = 1 := rfl
  obtain ⟨f, hthreads⟩ := List.length_eq_one_iff.mp hlength
  have hf : f ∈ secondProcess.threads := by
    rw [hthreads]
    exact List.mem_singleton_self f
  obtain ⟨haccepted, hlost⟩ := hall f hf
  obtain ⟨reply, hreply, haccepts⟩ := f.exists_of_accepted haccepted
  obtain ⟨nodeId, envelope, ⟨e, he, hop⟩, -, -, s, hs, row, hrow, -, rfl, -⟩ :=
    hclaim _ hrun f hf reply hreply haccepts
  have hlacks := (Option.all_eq_true _ _).mp (hlost e he) s hs
  simp only [lacks, hop] at hlacks
  have hnonce := List.all_eq_true.mp hlacks row hrow
  simp at hnonce

end ProxyControl
