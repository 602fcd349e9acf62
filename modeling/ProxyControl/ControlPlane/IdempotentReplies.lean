import ProxyControl.ControlPlane.TokenGate

/-!
# Replies kept under a key

Over Postgres a reply is inserted under its key where there is none yet, and no
statement changes it.  So the first reply that is recorded is final, in all the
processes that follow: whoever asks with the key from then on gets this reply or
an error, and does nothing but look it up.
-/

namespace ProxyControl

open Effects PostgresStore

/-- The reply that the database keeps under the key of the tenant. -/
def Recorded (tenantId key : String) (body : Json.Value) (db : Database) : Prop :=
  (Table.lookup idempotencyKey (tenantId, key) db.idempotencyKeys).map
    IdempotencyKeyRow.responseJson = some body

section Statements

variable {tenantId key : String} {body : Json.Value} {db : Database}

theorem writes_idempotencyKeys
    {s : Statement} (h : s.writes = some .idempotencyKeys) :
    ∃ tenantId key body, s = .insertIdempotencyKey tenantId key body := by
  cases s with
  | insertIdempotencyKey tenantId key body => exact ⟨tenantId, key, body, rfl⟩
  | _ => cases h

/-- No statement changes a reply. -/
theorem Recorded.exec
    (h : Recorded tenantId key body db) (s : Statement) (t : StatementTick) :
    Recorded tenantId key body (s.exec t db).2 := by
  by_cases hwrites : s.writes = some .idempotencyKeys
  swap
  · have hrows := Statement.exec_frame hwrites t db
    simp only [Database.rows] at hrows
    rwa [Recorded, hrows]
  obtain ⟨other, otherKey, otherBody, rfl⟩ := writes_idempotencyKeys hwrites
  refine Statement.exec_keeps (P := Recorded tenantId key body) ?_ h
  intro _ db' happlies
  have happly := happlies.2
  simp only [Statement.apply, execute_eq_ok, PostgresStore.insertIdempotencyKey,
    referencing_eq_ok] at happly
  obtain ⟨-, rfl⟩ := happly
  obtain ⟨row, hrow, hbody⟩ := Option.map_eq_some_iff.mp h
  rw [Recorded, Table.lookup_insertNew, hrow, Option.some_or, Option.map_some,
    hbody]

end Statements

section Runs

variable {crates : Crates} {app : AppState} {tenantId key : String}
variable {body : Json.Value}

theorem Recorded.act
    {w : PostgresShared} (h : Recorded tenantId key body w.database)
    (a : Action) (t : StoreTick) :
    Recorded tenantId key body (PostgresShared.act crates a t w).2.database := by
  cases a with
  | statement s => exact h.exec s (t.statement 0)
  | transaction op =>
      exact exec_keeps (Program.all_of_forall (fun _ => True.intro) _)
        (fun s t _ _ hdb => hdb.exec s t) h
  | _ => exact h

/-- Every reply that was there at an earlier action is there still. -/
def KeepsReplies (w : PostgresWorld) : Prop :=
  ∀ e ∈ w.1, ∀ tenantId key body,
    Recorded tenantId key body e.before.database →
      Recorded tenantId key body w.2.database

theorem PostgresRun.keepsReplies
    {p : Process} (h : PostgresRun crates app p) :
    KeepsReplies p.world ∧
      ∀ f ∈ p.threads, ∀ e ∈ f.entries, KeepsReplies e.before := by
  refine h.invariant (by simp [KeepsReplies]) (fun w hw => hw) ?_
  intro a t w _ hw e he tenantId key body hrecorded
  rcases List.mem_append.mp he with he | he
  · exact (hw e he tenantId key body hrecorded).act a t
  · obtain rfl := List.mem_singleton.mp he
    exact hrecorded.act a t

/-! ## Requests with a key -/

/-- An action that reads the database, or nothing but the environment. -/
def Action.Reads : Action → Prop
  | .statement s => s.writes = none
  | .environment => True
  | _ => False

/-- The key of the request is in its headers. -/
theorem optionalHeaderValue_of_lookup
    {headers : Headers} {name value : String}
    (h : headers.lookup name = some (some value)) :
    AppState.optionalHeaderValue headers name = pure (some value) := by
  rw [AppState.optionalHeaderValue, h]

/-- What a look-up finds. -/
theorem lookup_eq_some_iff
    {db : Database} {t : StatementTick} {found : Option Json.Value}
    (h : ((Statement.idempotencyResponse tenantId key).exec t db).1 = .ok found) :
    found = some body ↔ Recorded tenantId key body db := by
  obtain ⟨-, happly⟩ := Statement.apply_of_exec h
  rw [← (Prod.mk.inj (Except.ok.inj happly)).1]
  rfl

/-- Where a reply is recorded, a compilation looks it up and returns it. -/
theorem AppState.compileDeployment_promises
    {headers : Headers} (req : CompileDeploymentRequest)
    (hkey : headers.lookup "idempotency-key" = some (some key)) :
    Program.Promises (Program.logged (PostgresShared.act crates))
      (fun w => Recorded app.tenantId key body w.2.database) Action.Reads
      (app.actionsOf crates (.compileDeployment headers req))
      (fun r => ∀ reply, r = .ok reply → reply = .cached body) := by
  change Program.Promises _ _ _
    ((app.compileDeployment crates headers req).run.implement (actions crates)) _
  rw [AppState.compileDeployment, optionalHeaderValue_of_lookup hkey, pure_bind]
  refine ⟨trivial, fun t w _ => ⟨rfl, fun t' w' hw' => ?_⟩⟩
  cases hanswer : ((Statement.idempotencyResponse app.tenantId key).exec
      (t'.statement 0) w'.2.database).1 with
  | ok found =>
      obtain rfl := (lookup_eq_some_iff hanswer).mpr hw'
      simp only [Program.logged, PostgresShared.act, hanswer]
      intro reply hreply
      exact (Except.ok.inj hreply).symm
  | error error =>
      simp only [Program.logged, PostgresShared.act, hanswer]
      intro reply hreply
      cases hreply

/-- A cached reply was found in the database. -/
theorem AppState.leads_cached
    {headers : Headers} (req : CompileDeploymentRequest)
    (hkey : headers.lookup "idempotency-key" = some (some key)) :
    (app.compileDeployment crates headers req).Leads crates
      (fun entries reply => ∀ body, reply = .cached body →
        ∃ e ∈ entries, Recorded app.tenantId key body e.before.2.database) := by
  have hlookup : Handler.Leads crates
      (Handler.store (.idempotencyResponse app.tenantId key))
      (fun entries cached => ∀ body, cached = some body →
        ∃ e ∈ entries, Recorded app.tenantId key body e.before.2.database) := by
    refine Handler.leads_store rfl (fun t => ?_) ?_
    · change PostgresStore.Leads crates
        (query (.idempotencyResponse app.tenantId key)) _
      rw [← bind_pure (query _)]
      refine leads_query_bind fun t w found hfound => leads_pure fun body hbody => ?_
      exact ⟨_, List.mem_cons_self, (lookup_eq_some_iff hfound).mp hbody⟩
    · rintro e entries cached h body hbody
      obtain ⟨e', he', hrecorded⟩ := h body hbody
      exact ⟨e', List.mem_cons_of_mem _ he', hrecorded⟩
  rw [AppState.compileDeployment, optionalHeaderValue_of_lookup hkey, pure_bind]
  refine hlookup.bind fun entries cached hcached => ?_
  cases cached with
  | some cached =>
      refine Handler.leads_pure fun body hbody => ?_
      obtain ⟨e, he, hrecorded⟩ := hcached body (by simpa using hbody)
      exact ⟨e, List.mem_append_left _ he, hrecorded⟩
  | none =>
      -- the rest compiles, and answers with what it has compiled
      refine Handler.Leads.mono ?_
        (fun _ reply (h : ∀ body, reply ≠ .cached body) body hbody =>
          absurd hbody (h body))
      refine Handler.leads_bind_right (fun _ _ _ h => h) fun response => ?_
      refine Handler.leads_bind_right (fun _ _ _ h => h) fun _ => ?_
      exact Handler.leads_pure (by simp)

/--
A reply that was recorded at an action of any process is recorded still.  A
cached reply is the one that is recorded; and a request that begins after a
reply was recorded under its key reads only, and answers with this reply or an
error.
-/
theorem recorded_replies_are_final
    {p : Process} (h : PostgresRun crates app p) :
    (∀ e ∈ p.world.1, ∀ tenantId key body,
      Recorded tenantId key body e.before.database →
        Recorded tenantId key body p.world.2.database) ∧
    ∀ headers req entries rest key,
      ⟨.compileDeployment headers req, entries, rest⟩ ∈ p.threads →
      headers.lookup "idempotency-key" = some (some key) →
        (∀ body, rest = .done (.ok (.cached body)) →
          Recorded app.tenantId key body p.world.2.database) ∧
        ∀ first ∈ entries.head?, ∀ body,
          Recorded app.tenantId key body first.before.2.database →
            (∀ e ∈ entries, e.op.Reads) ∧
              ∀ reply, rest = .done (.ok reply) → reply = .cached body := by
  obtain ⟨hkept, hkeptAt⟩ := h.keepsReplies
  refine ⟨hkept, ?_⟩
  intro headers req entries rest key hf hkey
  have hreaches := h.reaches _ hf
  constructor
  · rintro body rfl
    obtain ⟨e, he, hrecorded⟩ :=
      hreaches.accounts (AppState.leads_cached req hkey) _ rfl body rfl
    exact hkept _ (h.mem_log hf he) app.tenantId key body hrecorded
  · intro first hfirst body hrecorded
    obtain ⟨later, rfl⟩ := List.head?_eq_some_iff.mp hfirst
    -- the reply is there at every later action of the request
    have hthere : ∀ e ∈ first :: later,
        Recorded app.tenantId key body e.before.2.database := by
      intro e he
      rcases List.mem_cons.mp he with rfl | he
      · exact hrecorded
      · have hlogged := (List.pairwise_cons.mp (h.entries_logged hf)).1 e he
        exact hkeptAt _ hf e (List.mem_cons_of_mem _ he) _ hlogged app.tenantId key
          body hrecorded
    obtain ⟨hreads, hrest⟩ := hreaches.promises
      (AppState.compileDeployment_promises req hkey) hthere
    refine ⟨hreads, ?_⟩
    rintro reply rfl
    exact hrest reply rfl

end Runs

/-- A request that was answered from the database under the key. -/
def InFlight.answeredFromKey (key : String) : InFlight → Bool
  | ⟨.compileDeployment headers _, _, .done (.ok (.cached _))⟩ =>
      headers.lookup "idempotency-key" = some (some key)
  | _ => false

theorem InFlight.exists_of_answeredFromKey
    {key : String} {f : InFlight} (h : f.answeredFromKey key = true) :
    ∃ headers req entries body,
      f = ⟨.compileDeployment headers req, entries, .done (.ok (.cached body))⟩ ∧
        headers.lookup "idempotency-key" = some (some key) := by
  unfold InFlight.answeredFromKey at h
  split at h
  · exact ⟨_, _, _, _, rfl, of_decide_eq_true h⟩
  · cases h

/-- A compilation under a key, and after a restart another one under it. -/
def compiledTwiceUnderKey : Process :=
  let first := ((Process.start .empty []).serveAlone referenceCrates referenceApp
    (registration "dev-registration-token" "node" 1) (processEnv "a")).serveAlone
      referenceCrates referenceApp
        (.createVlessRealityProfile "profile" "example.com") (processEnv "a")
    |>.serveAlone referenceCrates referenceApp
        (.compileDeployment [("idempotency-key", some "key")]
          ⟨"profile", "node"⟩) (processEnv "a")
  (Process.start first.world.2.database first.world.1).serveAlone
    referenceCrates referenceApp
      (.compileDeployment [("idempotency-key", some "key")] ⟨"profile", "node"⟩)
      (processEnv "b")

theorem compiledTwiceUnderKey_run :
    PostgresRun referenceCrates referenceApp compiledTwiceUnderKey :=
  ((((PostgresRun.migrated.serveAlone _ _).serveAlone _ _).serveAlone _
    _).restart).serveAlone _ _

theorem recorded_replies_are_final_restarted :
    ∃ body, Recorded referenceApp.tenantId "key" body
      compiledTwiceUnderKey.world.2.database := by
  have hanswered : ∃ f ∈ compiledTwiceUnderKey.threads,
      f.answeredFromKey "key" = true := by
    decide +kernel
  obtain ⟨f, hf, hanswered⟩ := hanswered
  obtain ⟨headers, req, entries, body, rfl, hkey⟩ :=
    InFlight.exists_of_answeredFromKey hanswered
  obtain ⟨-, hreplies⟩ := recorded_replies_are_final compiledTwiceUnderKey_run
  exact ⟨body, (hreplies headers req entries _ "key" hf hkey).1 body rfl⟩

end ProxyControl
