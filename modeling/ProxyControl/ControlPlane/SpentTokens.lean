import ProxyControl.ControlPlane.AcceptedCommands
import ProxyControl.Storage.PostgresRuns

/-!
# Registration tokens over Postgres

A registration inserts the node and uses up its token in one transaction.  No
statement makes a used token active again: an insertion leaves a token alone
that is there already.

So over Postgres a token opens the door once, in all the processes that follow
each other over the database, whatever faults and interleavings there are; and
behind the door are only nodes that have used up a token.
-/

namespace ProxyControl

open Effects PostgresStore

/-! ## What a token goes through -/

/-- The token has been used up, by the node. -/
def SpentOn (token nodeId : String) (db : Database) : Prop :=
  ∃ row, registrationToken token db = some row ∧ row.status = "used" ∧
    row.usedByNodeId = some nodeId

/-- A registration of the node with the token that is committed. -/
def Registers
    (crates : Crates) (token nodeId : String) (e : ActionEntry) : Prop :=
  ∃ node record,
    e.op = .transaction (.registerNodeWithRegistrationToken node token) ∧
      node.nodeId = nodeId ∧
      (PostgresStore.exec crates
        (.registerNodeWithRegistrationToken node token) e.choice
          e.before.database).1 = .ok record

section Statements

variable {token : String} {row : NodeRegistrationTokenRecord} {db : Database}

theorem registrationToken_of_rows
    {db' : Database}
    (h : Database.rows db' .nodeRegistrationTokens =
      Database.rows db .nodeRegistrationTokens) (token : String) :
    registrationToken token db' = registrationToken token db := by
  simp only [Database.rows] at h
  rw [registrationToken, h, registrationToken]

theorem writes_nodeRegistrationTokens
    {s : Statement} (h : s.writes = some .nodeRegistrationTokens) :
    (∃ record, s = .insertRegistrationToken record) ∨
      ∃ token nodeId, s = .useRegistrationToken token nodeId := by
  cases s with
  | insertRegistrationToken record => exact .inl ⟨record, rfl⟩
  | useRegistrationToken token nodeId => exact .inr ⟨token, nodeId, rfl⟩
  | _ => cases h

/-- An insertion leaves every token alone that is there. -/
theorem registrationToken_insert
    {record : NodeRegistrationTokenRecord} {n : ℕ} {db' : Database}
    (h : insertRegistrationToken record db = .ok (n, db'))
    (hrow : registrationToken token db = some row) :
    registrationToken token db' = some row := by
  unfold insertRegistrationToken at h
  split_ifs at h with htaken
  · obtain ⟨-, rfl⟩ := Prod.mk.inj (Except.ok.inj h)
    exact hrow
  · simp only [unique_bind_eq_ok, references_bind_eq_ok, pure_eq_ok] at h
    obtain ⟨-, rfl⟩ := Prod.mk.inj h.2.2.2
    unfold registrationToken at hrow ⊢
    rw [Table.lookup_append_single, hrow, Option.some_or]

/-- What a use finds and leaves. -/
theorem useRegistrationToken_eq_ok
    {now : Calendar.DateTime} {nodeId : String}
    {answer : Option NodeRegistrationTokenRecord} {db' : Database}
    (h : useRegistrationToken now token nodeId db = .ok (answer, db')) :
    answer = none ∧ db' = db ∨
      ∃ row, registrationToken token db = some row ∧ row.status = "active" ∧
        answer = some (row.markUsed nodeId now) ∧
        db' = { db with
          nodeRegistrationTokens := Table.updateWhere
            (fun row => row.token = token && row.status = "active")
            (fun row => row.markUsed nodeId now) db.nodeRegistrationTokens } := by
  unfold useRegistrationToken at h
  cases hrow : registrationToken token db with
  | none =>
      rw [hrow] at h
      obtain ⟨rfl, rfl⟩ := Prod.mk.inj (Except.ok.inj h)
      exact .inl ⟨rfl, rfl⟩
  | some row =>
      simp only [hrow] at h
      split_ifs at h with hactive
      · obtain ⟨rfl, rfl⟩ := Prod.mk.inj (Except.ok.inj h)
        exact .inl ⟨rfl, rfl⟩
      · simp only [references_bind_eq_ok, pure_eq_ok] at h
        obtain ⟨rfl, rfl⟩ := Prod.mk.inj h.2
        exact .inr ⟨row, rfl, not_not.mp hactive, rfl, rfl⟩

/-- The row of each token after a use. -/
theorem registrationToken_use
    (now : Calendar.DateTime) (used nodeId token : String) (db : Database) :
    registrationToken token { db with
        nodeRegistrationTokens := Table.updateWhere
          (fun row => row.token = used && row.status = "active")
          (fun row => row.markUsed nodeId now) db.nodeRegistrationTokens } =
      (registrationToken token db).map (fun row =>
        if row.token = used && row.status = "active" then
          row.markUsed nodeId now
        else
          row) :=
  Table.lookup_updateWhere NodeRegistrationTokenRecord.token
    (f := fun row => row.markUsed nodeId now) (fun _ _ => rfl) token
    db.nodeRegistrationTokens

/-- A use of an active token spends it. -/
theorem spentOn_use
    (now : Calendar.DateTime) {nodeId : String}
    (hrow : registrationToken token db = some row) (hactive : row.status = "active") :
    SpentOn token nodeId { db with
      nodeRegistrationTokens := Table.updateWhere
        (fun row => row.token = token && row.status = "active")
        (fun row => row.markUsed nodeId now) db.nodeRegistrationTokens } := by
  have hused : (row.token = token && row.status = "active") = true := by
    simp [hactive, (Table.lookup_mem _ hrow).2]
  refine ⟨row.markUsed nodeId now, ?_, rfl, rfl⟩
  rw [registrationToken_use, hrow, Option.map_some, if_pos hused]

/-- A token that is not active stays as it is. -/
theorem registrationToken_exec
    (s : Statement) (t : StatementTick)
    (hrow : registrationToken token db = some row) (hspent : row.status ≠ "active") :
    registrationToken token (s.exec t db).2 = some row := by
  by_cases hwrites : s.writes = some .nodeRegistrationTokens
  swap
  · rwa [registrationToken_of_rows (Statement.exec_frame hwrites t db)]
  refine Statement.exec_keeps (P := fun db' =>
    registrationToken token db' = some row) ?_ hrow
  intro value db' happlies
  rcases writes_nodeRegistrationTokens hwrites with
    ⟨record, rfl⟩ | ⟨used, nodeId, rfl⟩
  · exact registrationToken_insert happlies.2 hrow
  · rcases useRegistrationToken_eq_ok happlies.2 with ⟨-, rfl⟩ | ⟨other, -, -, -, rfl⟩
    · exact hrow
    · rw [registrationToken_use, hrow]
      simp [hspent]

theorem SpentOn.exec
    {nodeId : String} (h : SpentOn token nodeId db)
    (s : Statement) (t : StatementTick) :
    SpentOn token nodeId (s.exec t db).2 := by
  obtain ⟨row, hrow, hused, hnode⟩ := h
  exact ⟨row, registrationToken_exec s t hrow (by simp [hused]), hused, hnode⟩

end Statements

/-! ## The transaction -/

/-- The tables of the rows of a node. -/
theorem registerNodeRows_writes (node : NodeRecord) :
    Makes (WritesWithin [.tenants, .nodes, .nodeCapabilities, .nodeIdentities])
      (registerNodeRows node) := by
  refine (makes_query (writesWithin_some rfl (by decide))).bind fun _ => ?_
  refine (makes_query (writesWithin_some rfl (by decide))).bind fun _ => ?_
  refine (makes_query (writesWithin_some rfl (by decide))).bind fun _ => ?_
  unfold registerIdentity
  split_ifs
  · exact makes_pure _
  · exact makes_query (writesWithin_some rfl (by decide))

/-- A registration that is committed finds its token active and spends it. -/
theorem exec_registerNode_eq_ok
    {crates : Crates} {node : NodeRecord} {token : String} {t : StoreTick}
    {db db' : Database} {record : NodeRegistrationTokenRecord}
    (h : PostgresStore.exec crates
      (.registerNodeWithRegistrationToken node token) t db = (.ok record, db')) :
    (∃ row, registrationToken token db = some row ∧ row.status = "active") ∧
      SpentOn token node.nodeId db' := by
  have hruns := exec_eq_ok.mp h
  simp only [body, PostgresStore.registerNodeWithRegistrationToken] at hruns
  obtain ⟨_, db₀, hbegin, hruns⟩ := runs_query_bind.mp hruns
  obtain ⟨_, db₁, hrows, hruns⟩ := runs_bind.mp hruns
  obtain ⟨answer, db₂, huse, hruns⟩ := runs_query_bind.mp hruns
  -- neither the start nor the rows of the node touch the tokens
  have hbefore : Database.rows db₁ .nodeRegistrationTokens =
      Database.rows db .nodeRegistrationTokens := by
    refine hrows.keeps (P := fun db' => Database.rows db' .nodeRegistrationTokens =
      Database.rows db .nodeRegistrationTokens) (registerNodeRows_writes node) ?_ ?_
    · intro s t db' hs hdb'
      refine (Statement.exec_frame (fun hwrites => ?_) t db').trans hdb'
      exact absurd (hs _ hwrites) (by decide)
    · rw [(Prod.mk.inj (Except.ok.inj hbegin.2)).2]
  have htoken := registrationToken_of_rows hbefore token
  rcases useRegistrationToken_eq_ok huse.2 with
    ⟨rfl, -⟩ | ⟨row, hrow, hactive, rfl, rfl⟩
  · obtain ⟨_, _, -, hthrow⟩ := runs_query_bind.mp hruns
    exact absurd hthrow not_runs_throw
  · refine ⟨⟨row, htoken ▸ hrow, hactive⟩, ?_⟩
    refine hruns.keeps (Program.all_of_forall (fun _ => True.intro) _)
      (fun s t db _ hdb => hdb.exec s t) ?_
    exact spentOn_use _ hrow hactive

/-- What a transaction has done is undone when it fails. -/
theorem exec_rolledBack
    {crates : Crates} {op : StoreCall} {t : StoreTick} {db : Database}
    {error : StoreError} (hop : transactional op = true)
    (h : (PostgresStore.exec crates op t db).1 = .error error) :
    (PostgresStore.exec crates op t db).2 = db := by
  unfold PostgresStore.exec at h ⊢
  split
  · rename_i value db' hrun
    rw [hrun] at h
    cases h
  · exact if_pos hop

theorem SpentOn.transaction
    {crates : Crates} {token nodeId : String} {db : Database}
    (h : SpentOn token nodeId db) (op : StoreCall) (t : StoreTick) :
    SpentOn token nodeId (PostgresStore.exec crates op t db).2 :=
  exec_keeps (Program.all_of_forall (fun _ => True.intro) _)
    (fun s t _ _ hdb => hdb.exec s t) h

/-- A statement adds a node only by its upsert. -/
theorem hasNode_exec
    {s : Statement} {t : StatementTick} {db : Database} {nodeId : String}
    (h : Database.hasNode (s.exec t db).2 nodeId = true) :
    Database.hasNode db nodeId = true ∨ ∃ tenantId, s = .upsertNode nodeId tenantId := by
  by_cases hwrites : s.writes = some .nodes
  swap
  · have hrows := Statement.exec_frame hwrites t db
    simp only [Database.rows] at hrows
    rw [Database.hasNode, hrows] at h
    exact .inl h
  cases s with
  | upsertNode other tenantId =>
      revert h
      refine Statement.exec_keeps (P := fun db' =>
        Database.hasNode db' nodeId = true → _) ?_ .inl
      intro _ db' happlies hhas
      have happly := happlies.2
      simp only [Statement.apply, execute_eq_ok, PostgresStore.upsertNode,
        referencing_eq_ok] at happly
      obtain ⟨-, rfl⟩ := happly
      rcases (Table.hasKey_upsert_iff NodeRow.id
        (f := fun row => { row with status := "registered" }) (fun _ => rfl)
        nodeId _ _).mp hhas with rfl | hhas
      · exact .inr ⟨tenantId, rfl⟩
      · exact .inl hhas
  | _ => cases hwrites

/-- A registration adds no node but its own. -/
theorem hasNode_registerNode
    {crates : Crates} {node : NodeRecord} {token : String} {t : StoreTick}
    {db : Database} {nodeId : String}
    (h : Database.hasNode (PostgresStore.exec crates
      (.registerNodeWithRegistrationToken node token) t db).2 nodeId = true) :
    Database.hasNode db nodeId = true ∨ nodeId = node.nodeId := by
  have hbody : Makes (fun s => ∀ other tenantId, s = .upsertNode other tenantId →
      other = node.nodeId) (body crates t.tick
        (.registerNodeWithRegistrationToken node token)) := by
    simp only [body, PostgresStore.registerNodeWithRegistrationToken,
      registerNodeRows, registerIdentity, recordEvent]
    repeat' first
      | exact makes_query (fun _ _ heq => (Statement.upsertNode.inj heq).1.symm)
      | exact makes_query (by rintro _ _ ⟨⟩)
      | exact makes_pure _
      | exact makes_throw _
      | refine Makes.bind ?_ (fun _ => ?_)
      | split
  refine exec_keeps (P := fun db' => Database.hasNode db' nodeId = true →
    Database.hasNode db nodeId = true ∨ nodeId = node.nodeId) hbody ?_ .inl h
  intro s t db' hs hdb' hhas
  rcases hasNode_exec hhas with hhas | ⟨tenantId, rfl⟩
  · exact hdb' hhas
  · exact .inr (hs nodeId tenantId rfl)

/-! ## Runs -/

/-- What a request does: nodes are inserted by registrations only. -/
def Action.Admits : Action → Prop
  | .statement s => s.writes ≠ some .nodes
  | .transaction op => ∃ node token,
      op = .registerNodeWithRegistrationToken node token
  | _ => True

section Runs

variable {crates : Crates} {app : AppState}

theorem AppState.actionsOf_admits (request : Request) :
    (app.actionsOf crates request).All Action.Admits := by
  refine Program.All.implement (AppState.serve_makes crates app request) ?_
  intro op hop
  cases op with
  | store op =>
      simp only [actions]
      split_ifs with htransactional
      · refine ⟨?_, fun _ => trivial⟩
        cases op with
        | registerNodeWithRegistrationToken node token =>
            exact ⟨node, token, rfl⟩
        | _ => cases htransactional
      · refine ⟨trivial, fun t => Program.All.implement (body_writes crates t op)
          fun s hs => ⟨fun hwrites => ?_, fun _ => trivial⟩⟩
        have hmem := hs _ hwrites
        cases op with
        | registerNode node => cases hop
        | registerNodeWithRegistrationToken node token =>
            exact htransactional rfl
        | _ => exact absurd hmem (by simp [tables])
  | _ => exact ⟨trivial, fun _ => trivial⟩

/-- What the log says about the tokens and the nodes. -/
structure TokensSpent (crates : Crates) (w : PostgresWorld) : Prop where
  spent : ∀ e ∈ w.1, ∀ token nodeId, Registers crates token nodeId e →
    SpentOn token nodeId w.2.database
  once : w.1.Pairwise (fun e e' => ∀ token nodeId nodeId',
    Registers crates token nodeId e → ¬ Registers crates token nodeId' e')
  nodes : ∀ nodeId, Database.hasNode w.2.database nodeId = true →
    ∃ e ∈ w.1, ∃ token, Registers crates token nodeId e

/-- A registration finds its token active, and leaves it spent. -/
theorem Registers.spends
    {token nodeId : String} {e : ActionEntry}
    (h : Registers crates token nodeId e) :
    (∃ row, registrationToken token e.before.database = some row ∧
        row.status = "active") ∧
      SpentOn token nodeId
        (PostgresShared.act crates e.op e.choice e.before).2.database := by
  obtain ⟨op, t, w⟩ := e
  obtain ⟨node, record, rfl, rfl, hok⟩ := h
  exact exec_registerNode_eq_ok (Prod.ext hok rfl)

theorem SpentOn.act
    {token nodeId : String} {w : PostgresShared}
    (h : SpentOn token nodeId w.database) (a : Action) (t : StoreTick) :
    SpentOn token nodeId (PostgresShared.act crates a t w).2.database := by
  cases a with
  | statement s => exact h.exec s (t.statement 0)
  | transaction op => exact h.transaction op t
  | _ => exact h

/-- A node that an action adds is registered by it. -/
theorem registers_of_hasNode
    {a : Action} {t : StoreTick} {w : PostgresShared} {nodeId : String}
    (ha : a.Admits)
    (h : Database.hasNode (PostgresShared.act crates a t w).2.database nodeId =
      true) :
    Database.hasNode w.database nodeId = true ∨
      ∃ token, Registers crates token nodeId ⟨a, t, w⟩ := by
  cases a with
  | statement s =>
      refine (hasNode_exec h).imp_right ?_
      rintro ⟨tenantId, rfl⟩
      exact absurd rfl ha
  | transaction op =>
      obtain ⟨node, token, rfl⟩ := ha
      rcases hasNode_registerNode h with hhas | rfl
      · exact .inl hhas
      cases hanswer : (PostgresStore.exec crates
        (.registerNodeWithRegistrationToken node token) t w.database).1 with
      | ok record => exact .inr ⟨token, node, record, rfl, rfl, hanswer⟩
      | error error =>
          -- what was not committed is rolled back
          refine .inl ?_
          rwa [PostgresShared.act, exec_rolledBack rfl hanswer] at h
  | _ => exact .inl h

theorem TokensSpent.act
    {a : Action} {w : PostgresWorld} (hw : TokensSpent crates w)
    (ha : a.Admits) (t : StoreTick) :
    TokensSpent crates
      (Program.logged (PostgresShared.act crates) a t w).2 where
  spent e he token nodeId hregisters := by
    rcases List.mem_append.mp he with he | he
    · exact (hw.spent e he token nodeId hregisters).act a t
    · obtain rfl := List.mem_singleton.mp he
      exact hregisters.spends.2
  once := by
    refine List.pairwise_append.mpr ⟨hw.once, List.pairwise_singleton _ _, ?_⟩
    intro e he last hlast token nodeId nodeId' hregisters hagain
    obtain rfl := List.mem_singleton.mp hlast
    -- the token was used before, so it was not active
    obtain ⟨row, hrow, hused, -⟩ := hw.spent e he token nodeId hregisters
    obtain ⟨⟨other, hother, hactive⟩, -⟩ := hagain.spends
    obtain rfl := Option.some.inj (hrow.symm.trans hother)
    rw [hused] at hactive
    exact absurd hactive (by decide)
  nodes nodeId hnode := by
    rcases registers_of_hasNode ha hnode with hhas | ⟨token, hregisters⟩
    · obtain ⟨e, he, hregisters⟩ := hw.nodes nodeId hhas
      exact ⟨e, List.mem_append_left _ he, hregisters⟩
    · exact ⟨_, List.mem_append_right _ (List.mem_singleton_self _), token,
        hregisters⟩

theorem PostgresRun.tokensSpent
    {p : Process} (h : PostgresRun crates app p) :
    TokensSpent crates p.world :=
  (h.invariant_of AppState.actionsOf_admits
    ⟨by simp, .nil, by simp [PostgresShared.over, Database.hasNode,
      Database.empty, Table.hasKey]⟩
    (fun _ hw => ⟨hw.spent, hw.once, hw.nodes⟩)
    (fun _ t _ ha hw => hw.act ha t)).1

/-! ## Requests -/

/-- A registration that has been answered with success. -/
def InFlight.Registered (f : InFlight) (token nodeId : String) : Prop :=
  ∃ req entries reply, f = ⟨.registerNode req, entries, .done (.ok reply)⟩ ∧
    req.registrationToken = token ∧ req.nodeId = nodeId

theorem Handler.leads_transaction_bind
    {β : Type} {op : StoreCall} (hop : transactional op = true)
    {f : op.Ret → Handler β} {post : List ThreadEntry → β → Prop}
    (h : ∀ t w r, (PostgresStore.exec crates op t w.2.database).1 = r →
      Handler.Leads crates (f r)
        (fun rest b => post (⟨.transaction op, t, w⟩ :: rest) b)) :
    Handler.Leads crates (Handler.perform (.store op) >>= f) post := by
  have hactions : actions crates (.store op) =
      .call (.transaction op) .done := by
    simp [actions, hop]
  have hrun : (Handler.perform (.store op) >>= f).run.implement (actions crates) =
      actions crates (.store op) >>= fun r =>
        (f r).run.implement (actions crates) := rfl
  unfold Handler.Leads
  rw [hrun, hactions]
  intro t w
  exact h t w _ rfl

theorem AppState.leads_registerNode (req : RegisterNodeRequest) :
    (app.registerNode req).Leads crates (fun entries _ => ∃ e ∈ entries,
      Registers crates req.registrationToken req.nodeId
        (ThreadEntry.action e)) := by
  have hafter : ∀ (entries rest : List ThreadEntry) (_ : RegisterNodeResponse),
      (∃ e ∈ rest, Registers crates req.registrationToken req.nodeId
        (ThreadEntry.action e)) →
      ∃ e ∈ entries ++ rest, Registers crates req.registrationToken req.nodeId
        (ThreadEntry.action e) := by
    rintro entries rest _ ⟨e, he, hregisters⟩
    exact ⟨e, List.mem_append_right _ he, hregisters⟩
  unfold AppState.registerNode
  refine Handler.leads_bind_right hafter fun _ => ?_
  refine Handler.leads_bind_right hafter fun now => ?_
  refine Handler.leads_transaction_bind rfl fun t w r hr => ?_
  cases r with
  | ok record =>
      exact Handler.leads_pure ⟨_, List.mem_cons_self, _, record, rfl, rfl, hr⟩
  | error error =>
      cases error <;>
      · intro reply hreply
        cases hreply

/-- A registration that succeeds is in the log. -/
theorem PostgresRun.exists_registers
    {p : Process} (h : PostgresRun crates app p)
    {f : InFlight} (hf : f ∈ p.threads) {token nodeId : String}
    (hregistered : f.Registered token nodeId) :
    ∃ e ∈ f.entries, Registers crates token nodeId (ThreadEntry.action e) := by
  obtain ⟨req, entries, reply, rfl, rfl, rfl⟩ := hregistered
  exact (h.reaches _ hf).accounts (app.leads_registerNode req) reply rfl

/--
Over all processes a token is used for one registration at most, and stays
spent; every node that is stored has spent a token; and no two requests of a
process are admitted with the same one.
-/
theorem registrations_spend_tokens
    {p : Process} (h : PostgresRun crates app p) :
    (p.world.1.Pairwise fun e e' => ∀ token nodeId nodeId',
      Registers crates token nodeId e → ¬ Registers crates token nodeId' e') ∧
    (∀ e ∈ p.world.1, ∀ token nodeId, Registers crates token nodeId e →
      SpentOn token nodeId p.world.2.database) ∧
    (∀ nodeId, Database.hasNode p.world.2.database nodeId = true →
      ∃ token, SpentOn token nodeId p.world.2.database) ∧
    (∀ f ∈ p.threads, ∀ token nodeId, f.Registered token nodeId →
      SpentOn token nodeId p.world.2.database) ∧
    p.threads.Pairwise fun f g => ∀ token nodeId nodeId',
      f.Registered token nodeId → ¬ g.Registered token nodeId' := by
  obtain ⟨hspent, honce, hnodes⟩ := h.tokensSpent
  refine ⟨honce, hspent, ?_, ?_, ?_⟩
  · intro nodeId hnode
    obtain ⟨e, he, token, hregisters⟩ := hnodes nodeId hnode
    exact ⟨token, hspent e he token nodeId hregisters⟩
  · intro f hf token nodeId hregistered
    obtain ⟨e, he, hregisters⟩ := h.exists_registers hf hregistered
    exact hspent _ (h.mem_log hf he) token nodeId hregisters
  · refine (h.pairwise_threads (R := fun e e' => ∀ token nodeId nodeId',
      Registers crates token nodeId e → ¬ Registers crates token nodeId' e')
      (fun e e' hR token nodeId nodeId' he he' =>
        hR token nodeId' nodeId he' he) honce).imp_of_mem ?_
    intro f g hf hg hapart token nodeId nodeId' hregistered hagain
    obtain ⟨e, he, hregisters⟩ := h.exists_registers hf hregistered
    obtain ⟨e', he', hregisters'⟩ := h.exists_registers hg hagain
    exact hapart e he e' he' token nodeId nodeId' hregisters hregisters'

end Runs

/-- A node is registered, and after a restart another one with its token. -/
def registeredTwice : Process :=
  let first := (Process.start .empty []).serveAlone referenceCrates referenceApp
    (registration "dev-registration-token" "node" 1) (processEnv "a")
  (Process.start first.world.2.database first.world.1).serveAlone
    referenceCrates referenceApp
      (registration "dev-registration-token" "other" 2) (processEnv "b")

theorem registeredTwice_run :
    PostgresRun referenceCrates referenceApp registeredTwice :=
  ((PostgresRun.migrated.serveAlone _ _).restart).serveAlone _ _

theorem registrations_spend_tokens_once :
    (∃ token, SpentOn token "node" registeredTwice.world.2.database) ∧
      Database.hasNode registeredTwice.world.2.database "other" = false := by
  obtain ⟨-, -, hnodes, -⟩ := registrations_spend_tokens registeredTwice_run
  exact ⟨hnodes "node" (by decide +kernel), by decide +kernel⟩

end ProxyControl
