import ProxyControl.ControlPlane.AcceptedCommands
import ProxyControl.Storage.PostgresRuns

/-!
# The gate of the subscriptions

Over Postgres a request without a token counts the active tokens of its profile.
A rotation deactivates them in one statement and inserts the new one in another;
what the count sees in between, or after an insertion that failed, is no token.

The log of a run tells what the table holds: there is an active token exactly if
one was inserted and no rotation is pending.
-/

namespace ProxyControl

open Effects PostgresStore

/-! ## The statements that write tokens -/

/-- The action is the statement, and it goes through. -/
def StatementCompletes (s : Statement) (e : ActionEntry) : Prop :=
  e.op = .statement s ∧
    ∃ value, (s.exec (e.choice.statement 0) e.before.database).1 = .ok value

/-- A token of the profile is inserted, by an issue or a rotation. -/
def InsertsToken (profileId : String) (e : ActionEntry) : Prop :=
  ∃ tokenId tenantId tokenHash,
    StatementCompletes (.insertSubscriptionToken tokenId tenantId profileId tokenHash) e

/-- The active tokens of the profile are deactivated, by a rotation. -/
def DeactivatesTokens (profileId : String) (e : ActionEntry) : Prop :=
  StatementCompletes (.rotateSubscriptionTokens profileId) e

/-- A token has been issued for the profile. -/
def TokenIssued (profileId : String) (log : List ActionEntry) : Prop :=
  ∃ e ∈ log, InsertsToken profileId e

/-- The tokens of the profile were deactivated, and none inserted since. -/
def RotationPending (profileId : String) (log : List ActionEntry) : Prop :=
  Since (DeactivatesTokens profileId) (InsertsToken profileId) log

theorem tokenIssued_append
    {profileId : String} {log : List ActionEntry} {e : ActionEntry} :
    TokenIssued profileId (log ++ [e]) ↔
      InsertsToken profileId e ∨ TokenIssued profileId log := by
  simp only [TokenIssued, List.mem_append, List.mem_singleton, or_and_right,
    exists_or, exists_eq_left]
  exact or_comm

theorem rotationPending_append
    {profileId : String} {log : List ActionEntry} {e : ActionEntry} :
    RotationPending profileId (log ++ [e]) ↔
      DeactivatesTokens profileId e ∨
        RotationPending profileId log ∧ ¬ InsertsToken profileId e :=
  since_append

theorem TokenIssued.mono
    {profileId : String} {log log' : List ActionEntry}
    (h : TokenIssued profileId log) (hlog : log <+: log') :
    TokenIssued profileId log' := by
  obtain ⟨e, he, hinserts⟩ := h
  exact ⟨e, hlog.subset he, hinserts⟩

theorem writes_subscriptionTokens
    {s : Statement} (h : s.writes = some .subscriptionTokens) :
    (∃ tokenId tenantId profileId tokenHash,
        s = .insertSubscriptionToken tokenId tenantId profileId tokenHash) ∨
      ∃ profileId, s = .rotateSubscriptionTokens profileId := by
  cases s with
  | insertSubscriptionToken tokenId tenantId profileId tokenHash =>
      exact .inl ⟨tokenId, tenantId, profileId, tokenHash, rfl⟩
  | rotateSubscriptionTokens profileId => exact .inr ⟨profileId, rfl⟩
  | _ => cases h

/-! ## The active tokens -/

theorem activeTokens_of_rows
    {db db' : Database}
    (h : Database.rows db' .subscriptionTokens =
      Database.rows db .subscriptionTokens) (profileId : String) :
    activeTokens profileId db' = activeTokens profileId db := by
  simp only [Database.rows] at h
  rw [activeTokens, h, activeTokens]

theorem applies_insertSubscriptionToken
    {tokenId tenantId profileId tokenHash : String} {t : StatementTick}
    {db db' : Database} {u : Unit}
    (h : (Statement.insertSubscriptionToken tokenId tenantId profileId
      tokenHash).Applies t db u db') :
    db' = { db with subscriptionTokens := db.subscriptionTokens ++
      [⟨tenantId, tokenId, profileId, tokenHash, "active", t.now, none⟩] } := by
  simp only [Statement.Applies, Statement.apply, execute_eq_ok,
    insertSubscriptionToken, unique_bind_eq_ok, references_bind_eq_ok,
    pure_eq_ok] at h
  exact h.2.2.2.2

/-- An inserted token is active. -/
theorem activeTokens_insert
    {tokenId tenantId other tokenHash : String} {t : StatementTick}
    {db db' : Database} {u : Unit}
    (h : (Statement.insertSubscriptionToken tokenId tenantId other
      tokenHash).Applies t db u db') (profileId : String) :
    0 < activeTokens profileId db' ↔
      other = profileId ∨ 0 < activeTokens profileId db := by
  obtain rfl := applies_insertSubscriptionToken h
  simp only [activeTokens, isActive, List.countP_append, List.countP_singleton,
    decide_true, Bool.and_true, decide_eq_true_eq]
  by_cases hother : other = profileId
  · simp [hother]
  · simp [hother]

/-- After a deactivation the profile has no active token. -/
theorem activeTokens_rotate
    (now : Calendar.DateTime) (other profileId : String) (db : Database) :
    0 < activeTokens profileId
        (PostgresStore.rotateSubscriptionTokens now other db) ↔
      other ≠ profileId ∧ 0 < activeTokens profileId db := by
  have hrotated : ("rotated" = "active") = False := by simp
  simp only [activeTokens, List.countP_pos_iff,
    PostgresStore.rotateSubscriptionTokens, Table.updateWhere, List.mem_map,
    isActive, Bool.and_eq_true, decide_eq_true_eq]
  constructor
  · rintro ⟨_, ⟨row, hrow, rfl⟩, hprofile, hactive⟩
    split_ifs at hprofile hactive with hrotates
    · rw [hrotated] at hactive
      exact hactive.elim
    · refine ⟨?_, row, hrow, hprofile, hactive⟩
      rintro rfl
      exact hrotates ⟨hprofile, hactive⟩
  · rintro ⟨hne, row, hrow, rfl, hactive⟩
    refine ⟨row, ⟨row, hrow, if_neg ?_⟩, rfl, hactive⟩
    rintro ⟨heq, -⟩
    exact hne heq.symm

/-- What a statement that goes through does to the active tokens of a profile. -/
theorem activeTokens_applies
    {s : Statement} {t : StoreTick} {w : PostgresShared} {value : s.Value}
    {db' : Database} (h : s.Applies (t.statement 0) w.database value db')
    (hwrites : s.writes = some .subscriptionTokens) (profileId : String) :
    0 < activeTokens profileId db' ↔
      InsertsToken profileId ⟨.statement s, t, w⟩ ∨
        0 < activeTokens profileId w.database ∧
          ¬ DeactivatesTokens profileId ⟨.statement s, t, w⟩ := by
  have hvalue := congrArg Prod.fst (Statement.applies_iff.mp h)
  rcases writes_subscriptionTokens hwrites with
    ⟨tokenId, tenantId, other, tokenHash, rfl⟩ | ⟨other, rfl⟩
  · rw [activeTokens_insert h]
    refine or_congr ⟨?_, ?_⟩ ⟨fun hpos => ⟨hpos, ?_⟩, fun hpos => hpos.1⟩
    · rintro rfl
      exact ⟨_, _, _, rfl, value, hvalue⟩
    · rintro ⟨_, _, _, hop, -⟩
      exact (Statement.insertSubscriptionToken.inj
        (Action.statement.inj hop)).2.2.1
    · rintro ⟨hop, -⟩
      cases hop
  · have hinserts : ¬ InsertsToken profileId
        ⟨.statement (.rotateSubscriptionTokens other), t, w⟩ := by
      rintro ⟨_, _, _, hop, -⟩
      cases hop
    rw [← (Prod.mk.inj (Except.ok.inj h.2)).2, activeTokens_rotate,
      or_iff_right hinserts, and_comm]
    refine and_congr_right fun _ => not_congr ⟨?_, ?_⟩
    · rintro rfl
      exact ⟨rfl, value, hvalue⟩
    · rintro ⟨hop, -⟩
      exact Statement.rotateSubscriptionTokens.inj (Action.statement.inj hop)

/-- What one action does to the active tokens of a profile. -/
theorem activeTokens_act
    (crates : Crates) {a : Action} (hwell : a.Wellformed) (t : StoreTick)
    (w : PostgresShared) (profileId : String) :
    0 < activeTokens profileId (PostgresShared.act crates a t w).2.database ↔
      InsertsToken profileId ⟨a, t, w⟩ ∨
        0 < activeTokens profileId w.database ∧
          ¬ DeactivatesTokens profileId ⟨a, t, w⟩ := by
  -- an action that completes no statement on the table leaves the tokens alone
  have hsame
      (hnone : ∀ s, s.writes = some .subscriptionTokens →
        ¬ StatementCompletes s ⟨a, t, w⟩)
      (hrows : Database.rows (PostgresShared.act crates a t w).2.database
          .subscriptionTokens = Database.rows w.database .subscriptionTokens) :
      0 < activeTokens profileId (PostgresShared.act crates a t w).2.database ↔
        InsertsToken profileId ⟨a, t, w⟩ ∨
          0 < activeTokens profileId w.database ∧
            ¬ DeactivatesTokens profileId ⟨a, t, w⟩ := by
    have hinserts : ¬ InsertsToken profileId ⟨a, t, w⟩ := by
      rintro ⟨tokenId, tenantId, tokenHash, h⟩
      exact hnone _ rfl h
    have hdeactivates : ¬ DeactivatesTokens profileId ⟨a, t, w⟩ := hnone _ rfl
    rw [activeTokens_of_rows hrows]
    simp [hinserts, hdeactivates]
  cases a with
  | statement s =>
      by_cases hwrites : s.writes = some .subscriptionTokens
      · cases hvalue : (s.exec (t.statement 0) w.database).1 with
        | ok value =>
            exact activeTokens_applies
              (Statement.applies_iff.mpr (Prod.ext hvalue rfl)) hwrites profileId
        | error e =>
            refine hsame ?_ ?_
            · rintro s' - ⟨hop, value, hok⟩
              obtain rfl := Action.statement.inj hop
              cases hvalue.symm.trans hok
            · rw [PostgresShared.act, Statement.exec_of_error hvalue]
      · refine hsame ?_ (Statement.exec_frame hwrites _ w.database)
        rintro s' hs' ⟨hop, -⟩
        obtain rfl := Action.statement.inj hop
        exact hwrites hs'
  | transaction op =>
      have htable : TableName.subscriptionTokens ∉ tables op := by
        cases op with
        | registerNodeWithRegistrationToken => simp [tables]
        | _ => cases hwell
      refine hsame ?_ (exec_frame crates htable t w.database)
      rintro s - ⟨hop, -⟩
      cases hop
  | _ =>
      refine hsame ?_ rfl
      rintro s - ⟨hop, -⟩
      cases hop

/-! ## What the count sees -/

theorem not_deactivates_of_inserts
    {profileId : String} {e : ActionEntry} (h : InsertsToken profileId e) :
    ¬ DeactivatesTokens profileId e := by
  obtain ⟨_, _, _, hinserts, -⟩ := h
  rintro ⟨hdeactivates, -⟩
  cases hinserts.symm.trans hdeactivates

/-- The log tells whether the profile has an active token. -/
def TokensLogged (w : PostgresWorld) : Prop :=
  ∀ profileId, 0 < activeTokens profileId w.2.database ↔
    TokenIssued profileId w.1 ∧ ¬ RotationPending profileId w.1

variable {crates : Crates} {app : AppState}

theorem TokensLogged.act
    {w : PostgresWorld} (h : TokensLogged w) {a : Action} (hwell : a.Wellformed)
    (t : StoreTick) :
    TokensLogged (Program.logged (PostgresShared.act crates) a t w).2 := by
  intro profileId
  have hexcludes := @not_deactivates_of_inserts profileId ⟨a, t, w.2⟩
  simp only [Program.logged]
  rw [activeTokens_act crates hwell, h profileId, tokenIssued_append,
    rotationPending_append]
  tauto

theorem PostgresRun.tokensLogged
    {p : Process} (h : PostgresRun crates app p) :
    TokensLogged p.world ∧ ∀ f ∈ p.threads, ∀ e ∈ f.entries,
      TokensLogged e.before := by
  refine h.invariant ?_ (fun w hw => hw) (fun a t w hwell hw => hw.act hwell t)
  intro profileId
  have hissued : ¬ TokenIssued profileId [] := by
    rintro ⟨e, he, -⟩
    cases he
  have hnone : ¬ 0 < activeTokens profileId Database.empty :=
    Nat.lt_irrefl 0
  exact iff_of_false hnone (fun hgate => hissued hgate.1)

/-! ## Requests without a token -/

/-- The active tokens of the profile were counted, and there were none. -/
def CountsNone (profileId : String) (entries : List ThreadEntry) : Prop :=
  ∃ e ∈ entries, e.op = .statement (.activeTokenCount profileId) ∧
    activeTokens profileId e.before.2.database = 0

theorem CountsNone.mono
    {profileId : String} {entries entries' : List ThreadEntry}
    (h : CountsNone profileId entries) (hmem : entries ⊆ entries') :
    CountsNone profileId entries' := by
  obtain ⟨e, he, hcounts⟩ := h
  exact ⟨e, hmem he, hcounts⟩

namespace PostgresStore

/-- A part of a method that succeeds has done what `post` says, whatever it met. -/
def Leads
    {α : Type} (crates : Crates) (part : Sql α)
    (post : List ThreadEntry → α → Prop) : Prop :=
  Program.Accounts (Program.logged (PostgresShared.act crates))
    (part.run.implement (fun s => .call (.statement s) .done))
    (fun entries r => ∀ a, r = .ok a → post entries a)

variable {α β : Type} {crates : Crates}

theorem leads_pure
    {a : α} {post : List ThreadEntry → α → Prop} (h : post [] a) :
    Leads crates (pure a : Sql α) post := by
  intro a' ha'
  obtain rfl := Except.ok.inj ha'
  exact h

theorem leads_query_bind
    {s : Statement} {f : s.Value → Sql β} {post : List ThreadEntry → β → Prop}
    (h : ∀ t w value,
      (s.exec (t.statement 0) w.2.database).1 = .ok value →
        Leads crates (f value)
          (fun rest b => post (⟨.statement s, t, w⟩ :: rest) b)) :
    Leads crates (query s >>= f) post := by
  intro t w
  have hanswer : (Program.logged (PostgresShared.act crates) (.statement s) t
      w).1 = (s.exec (t.statement 0) w.2.database).1 := rfl
  rw [hanswer]
  cases hvalue : (s.exec (t.statement 0) w.2.database).1 with
  | ok value => exact h t w value hvalue
  | error e =>
      intro b hb
      cases hb

theorem leads_orNotFound_bind
    {record : String} {row : Option α} {f : α → Sql β}
    {post : List ThreadEntry → β → Prop}
    (h : ∀ a, row = some a → Leads crates (f a) post) :
    Leads crates (orNotFound record row >>= f) post := by
  cases row with
  | some a => exact h a rfl
  | none =>
      intro b hb
      cases hb

end PostgresStore

theorem leads_subscriptionTokenRequired
    (profileId : String) :
    Leads crates (PostgresStore.subscriptionTokenRequired profileId)
      (fun entries required => required = false →
        CountsNone profileId entries) := by
  unfold PostgresStore.subscriptionTokenRequired PostgresStore.profile
  simp only [bind_assoc, pure_bind]
  refine leads_query_bind fun t w row _ => ?_
  refine leads_orNotFound_bind fun _ _ => ?_
  refine leads_query_bind fun t' w' count hcount => ?_
  refine leads_pure fun hrequired => ?_
  obtain ⟨-, happly⟩ := Statement.apply_of_exec hcount
  obtain rfl := (Prod.mk.inj (Except.ok.inj happly)).1
  refine ⟨⟨.statement (.activeTokenCount profileId), t', w'⟩, by simp, rfl, ?_⟩
  exact Nat.eq_zero_of_not_pos (of_decide_eq_false hrequired)

/-- The environment is asked, and then the method does what it does. -/
theorem Handler.leads_store_of
    {op : StoreCall} (hop : transactional op = false)
    {post : List ThreadEntry → op.Value → Prop}
    (h : ∀ t, PostgresStore.Leads crates (body crates t op) post)
    (hpost : ∀ e : ThreadEntry, e.op = .environment →
      ∀ entries a, post entries a → post (e :: entries) a) :
    Handler.Leads crates (Handler.store op) post := by
  have hactions : actions crates (.store op) =
      .call .environment (fun t => (body crates t op).run.implement
        (fun s => .call (.statement s) .done)) := by
    simp [actions, hop]
  have hrun : (Handler.store op).run.implement (actions crates) =
      actions crates (.store op) >>= fun r =>
        .done (r.mapError toHttpError) := rfl
  unfold Handler.Leads
  rw [hrun, Program.accounts_bind, hactions]
  intro t w
  refine Program.Accounts.mono (h t.tick) ?_
  intro entries r hr a ha
  rw [List.append_nil]
  exact hpost _ rfl _ _ (hr a (Handler.mapError_eq_ok ha))

/-- A store call that succeeds has done what its method does. -/
theorem Handler.leads_store
    {op : StoreCall} (hop : transactional op = false)
    {post : List ThreadEntry → op.Value → Prop}
    (h : ∀ t, PostgresStore.Leads crates (body crates t op) post)
    (hpost : ∀ e entries a, post entries a → post (e :: entries) a) :
    Handler.Leads crates (Handler.store op) post :=
  Handler.leads_store_of hop h (fun e _ => hpost e)

/-- A request without a token that is served has counted no active tokens. -/
theorem AppState.leads_getSubscription
    (crates : Crates) (app : AppState) (profileId : String) (headers : Headers) :
    (app.getSubscription crates profileId none headers).Leads crates
      (fun entries _ => CountsNone profileId entries) := by
  have hrequired : Handler.Leads crates
      (Handler.store (.subscriptionTokenRequired profileId))
      (fun entries required => required = false →
        CountsNone profileId entries) :=
    Handler.leads_store rfl
      (fun _ => leads_subscriptionTokenRequired profileId)
      (fun e entries _ h hfalse => (h hfalse).mono (List.subset_cons_self _ _))
  refine hrequired.bind ?_
  intro entries required hcounts
  cases required with
  | true =>
      intro b hb
      cases hb
  | false =>
      exact (Program.accounts_true _).mono (fun rest _ _ _ _ =>
        (hcounts rfl).mono (List.subset_append_left _ _))

/-! ## The gate -/

/--
Once a token has been issued for a profile, no request without a token is
answered with the subscription.
-/
def Process.GateKept (p : Process) : Prop :=
  ∀ f ∈ p.threads, ∀ profileId headers,
    f.request = .getSubscription profileId none headers →
      (∃ reply, f.rest = .done (.ok reply)) →
        ∀ e ∈ f.entries.head?, ¬ TokenIssued profileId e.before.1

/-- Where tokens are counted, a rotation has not deactivated the last one. -/
def Process.CountsBetweenRotations (p : Process) : Prop :=
  ∀ f ∈ p.threads, ∀ e ∈ f.entries, ∀ profileId,
    e.op = .statement (.activeTokenCount profileId) →
      TokenIssued profileId e.before.1 → ¬ RotationPending profileId e.before.1

/-- A count finds no token exactly before the first one and during a rotation. -/
theorem PostgresRun.count_eq_zero_iff
    {p : Process} (h : PostgresRun crates app p)
    {f : InFlight} (hf : f ∈ p.threads) {e : ThreadEntry} (he : e ∈ f.entries)
    (profileId : String) :
    activeTokens profileId e.before.2.database = 0 ↔
      (TokenIssued profileId e.before.1 → RotationPending profileId e.before.1) := by
  have hlogged := h.tokensLogged.2 f hf e he profileId
  rw [← not_iff_not, ← ne_eq, ← Nat.pos_iff_ne_zero, hlogged]
  tauto

/--
The gate is kept in every run in which no tokens are counted while a rotation
has deactivated the last one and not inserted its own.
-/
theorem token_gate_kept
    (crates : Crates) (app : AppState)
    {p : Process} (h : PostgresRun crates app p)
    (hcounts : p.CountsBetweenRotations) :
    p.GateKept := by
  rintro ⟨request, entries, rest⟩ hf profileId headers rfl ⟨reply, hreply⟩
  rintro first hfirst hissued
  have hreaches := h.reaches _ hf
  rw [hreply] at hreaches
  obtain ⟨e, he, hop, hzero⟩ :=
    hreaches.accounts (app.leads_getSubscription crates profileId headers) reply
      rfl
  have hgrown : first.before.1 <+: e.before.1 := by
    obtain ⟨hpairwise, -⟩ := h.logs_grow _ hf
    obtain ⟨later, rfl⟩ := List.head?_eq_some_iff.mp hfirst
    rcases List.mem_cons.mp he with rfl | he
    · exact List.prefix_refl _
    · exact (List.pairwise_cons.mp hpairwise).1 e he
  have hissued' := hissued.mono hgrown
  exact hcounts _ hf e he profileId hop hissued'
    ((h.count_eq_zero_iff hf he profileId).mp hzero hissued')

/-! ### A rotation that stops half way -/

/-- Requests that are served one after the other over an empty database. -/
def servedInTurn (requests : List (Request × (ℕ → StoreTick))) : Process :=
  requests.foldl
    (fun p r => p.serveAlone referenceCrates referenceApp r.1 r.2)
    (.start .empty [])

/-- A node and a profile with a token. -/
def tokenRequests : List (Request × (ℕ → StoreTick)) :=
  [(registration "dev-registration-token" "node" 1, processEnv "a"),
    (.createVlessRealityProfile "profile" "example.com", processEnv "a"),
    (.issueSubscriptionToken "profile", processEnv "a")]

/-- The insertion of a rotation is its fourth action. -/
def withoutInsertion (n : ℕ) : StoreTick :=
  if n = 3 then
    { processEnv "b" n with
      statement := fun k => { (processEnv "b" n).statement k with
        fault := some "connection reset" } }
  else
    processEnv "b" n

theorem servedInTurn_run
    (requests : List (Request × (ℕ → StoreTick))) :
    PostgresRun referenceCrates referenceApp (servedInTurn requests) :=
  List.foldlRecOn requests _ .migrated (fun _ h r _ => h.serveAlone r.1 r.2)

/-- Whether the action inserts a token of the profile. -/
def insertsToken (profileId : String) (e : ActionEntry) : Bool :=
  match e.op with
  | .statement (.insertSubscriptionToken tokenId tenantId other tokenHash) =>
      other = profileId &&
        ((Statement.insertSubscriptionToken tokenId tenantId other tokenHash).exec
          (e.choice.statement 0) e.before.database).1.isOk
  | _ => false

theorem insertsToken_sound
    {profileId : String} {e : ActionEntry} (h : insertsToken profileId e = true) :
    InsertsToken profileId e := by
  unfold insertsToken at h
  split at h
  · rename_i tokenId tenantId other tokenHash hop
    obtain ⟨hother, hok⟩ := (Bool.and_eq_true _ _).mp h
    obtain rfl := of_decide_eq_true hother
    refine ⟨tokenId, tenantId, tokenHash, hop, ?_⟩
    cases hvalue : ((Statement.insertSubscriptionToken tokenId tenantId other
        tokenHash).exec (e.choice.statement 0) e.before.database).1 with
    | ok value => exact ⟨value, rfl⟩
    | error error =>
        rw [hvalue] at hok
        cases hok
  · cases h

/-- The answers of the requests without a token that began after an issue. -/
def InFlight.ungated (profileId : String) : InFlight → Option Bool
  | ⟨.getSubscription other none _, entries, .done result⟩ =>
      if other = profileId ∧ entries.head?.any
          (fun e => e.before.1.any (insertsToken profileId)) then
        some result.isOk
      else
        none
  | _ => none

/-- A rotation whose deactivation goes through and whose insertion fails. -/
def halfRotated : Process :=
  servedInTurn (tokenRequests ++
    [(.rotateSubscriptionToken "profile", withoutInsertion),
      (.getSubscription "profile" none [], processEnv "c")])

/-- A token is issued, and a request without it refused. -/
def issuedAndRefused : Process :=
  servedInTurn (tokenRequests ++
    [(.getSubscription "profile" none [], processEnv "c")])

def rotatesTokens : Action → Bool
  | .statement (.rotateSubscriptionTokens _) => true
  | _ => false

theorem token_gate_kept_issued :
    issuedAndRefused.GateKept ∧
      (issuedAndRefused.threads.map (InFlight.ungated "profile")).contains
        (some false) = true := by
  refine ⟨?_, by decide +kernel⟩
  apply token_gate_kept referenceCrates referenceApp (servedInTurn_run _)
  have hnone : (issuedAndRefused.threads.all fun f => f.entries.all fun e =>
      e.before.1.all fun a => !rotatesTokens a.op) = true := by
    decide +kernel
  rintro f hf e he profileId - - ⟨before, a, later, hlog, ⟨hop, -⟩, -⟩
  have ha : a ∈ e.before.1 := by simp [hlog]
  have hrotates := List.all_eq_true.mp
    (List.all_eq_true.mp (List.all_eq_true.mp hnone f hf) e he) a ha
  rw [hop] at hrotates
  cases hrotates

/-- After half a rotation the subscription is served without a token. -/
theorem token_gate_reopened :
    ¬ ∀ (crates : Crates) (app : AppState) (p : Process),
      PostgresRun crates app p → p.GateKept := by
  intro hclaim
  have hserved : (halfRotated.threads.map (InFlight.ungated "profile")).contains
      (some true) = true := by
    decide +kernel
  obtain ⟨f, hf, hungated⟩ := List.mem_map.mp (List.contains_iff_mem.mp hserved)
  have hkept := hclaim _ _ _ (servedInTurn_run _) f hf
  unfold InFlight.ungated at hungated
  split at hungated
  · rename_i other headers entries result
    split_ifs at hungated with hissued
    obtain ⟨rfl, hissued⟩ := hissued
    cases result with
    | error e => cases hungated
    | ok reply =>
        obtain ⟨first, hfirst, hany⟩ := (Option.any_eq_true _ _).mp hissued
        obtain ⟨a, ha, hinserts⟩ := List.any_eq_true.mp hany
        exact hkept _ _ rfl ⟨reply, rfl⟩ first hfirst
          ⟨a, ha, insertsToken_sound hinserts⟩
  · cases hungated

end ProxyControl
