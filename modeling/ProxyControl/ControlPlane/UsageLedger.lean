import ProxyControl.ControlPlane.TokenGate
import ProxyControl.Storage.UsageRollups

/-!
# Usage over Postgres

A report inserts its record in one statement and adds to each of its rollups in
a statement of its own, so reports of the same credential mix, and a report that
a fault hits has been added in part.

The rows are nevertheless an account of what was reported: what the rollups are
short of is what the reports of the process owe, and a report that has been
answered with success owes nothing.
-/

namespace ProxyControl

open Calendar Effects PostgresStore

/-- Bytes sent and received; a `bigint` that overflows is an error. -/
abbrev Volume : Type :=
  ℤ × ℤ

def UsageRollupRecord.volume (rollup : UsageRollupRecord) : Volume :=
  (rollup.uplinkBytes.toInt, rollup.downlinkBytes.toInt)

def UsageSampleRecord.volume (usage : UsageSampleRecord) : Volume :=
  (usage.uplinkBytes.toInt, usage.downlinkBytes.toInt)

section Ledger

variable (c : Option String) (P : String × DateTime → Bool)

/-- What a rollup holds for one credential in the selected buckets. -/
def volumeOf (rollup : UsageRollupRecord) : Volume :=
  if rollup.credentialId = c ∧ P (rollup.bucket, rollup.bucketStart) then
    rollup.volume
  else
    0

/-- What a sample is to put into the selected buckets of one credential. -/
def sampleVolume (usage : UsageSampleRecord) : Volume :=
  (granularities.map (fun g =>
    volumeOf c P (rollupOf usage (g, startOf g usage.sampledAt)))).sum

/-- What has been recorded of a credential and is missing in its rollups. -/
def shortfall (db : Database) : Volume :=
  (db.usageRecords.map (sampleVolume c P)).sum -
    (db.usageRollups.map (volumeOf c P)).sum

/-- What a statement that goes through adds to the shortfall. -/
def PostgresStore.Statement.owes : Statement → Volume
  | .insertUsageRecord usage => sampleVolume c P usage
  | .addUsageRollup row => -volumeOf c P row
  | _ => 0

/-- Whether the statement goes through. -/
def PostgresStore.Statement.succeeds (s : Statement) (t : StatementTick) (db : Database) : Bool :=
  (s.exec t db).1.isOk

/-- What an action adds to the shortfall. -/
def Action.owes (a : Action) (t : StoreTick) (w : PostgresShared) : Volume :=
  match a with
  | .statement s =>
      if s.succeeds (t.statement 0) w.database then s.owes c P else 0
  | _ => 0

/-- What a request has recorded, less what it has added to the rollups. -/
def InFlight.owed (f : InFlight) : Volume :=
  (f.entries.map (fun e => Action.owes c P e.op e.choice e.before.2)).sum

end Ledger

/-! ## Statements -/

/-- Two rollups of a credential are of different buckets. -/
def UniqueRollups (db : Database) : Prop :=
  db.usageRollups.Pairwise (fun row other => sameRollup row other = false)

def rollupKey (row : UsageRollupRecord) :
    String × Option String × String × DateTime :=
  (row.tenantId, row.credentialId, row.bucket, row.bucketStart)

theorem sameRollup_iff {row other : UsageRollupRecord} :
    sameRollup row other = true ↔
      row.credentialId.isSome = true ∧ rollupKey other = rollupKey row := by
  simp only [sameRollup, rollupKey, Bool.and_eq_true, decide_eq_true_eq,
    Prod.mk.injEq]
  tauto

theorem rollupKey_eq_iff {row other : UsageRollupRecord} :
    rollupKey other = rollupKey row ↔ other.tenantId = row.tenantId ∧
      other.credentialId = row.credentialId ∧ other.bucket = row.bucket ∧
        other.bucketStart = row.bucketStart := by
  simp only [rollupKey, Prod.mk.injEq]

theorem sameRollup_comm (row other : UsageRollupRecord) :
    sameRollup row other = sameRollup other row := by
  rw [Bool.eq_iff_iff, sameRollup_iff, sameRollup_iff]
  constructor <;>
  · rintro ⟨hsome, hkey⟩
    obtain ⟨-, hcredential, -⟩ := rollupKey_eq_iff.mp hkey
    exact ⟨hcredential ▸ hsome, hkey.symm⟩

/-- Where one row is of the bucket of another, a third is of both or neither. -/
theorem sameRollup_congr
    {row other : UsageRollupRecord} (h : sameRollup row other = true)
    (third : UsageRollupRecord) :
    sameRollup row third = sameRollup other third := by
  obtain ⟨-, hkey⟩ := sameRollup_iff.mp h
  obtain ⟨-, hcredential, -⟩ := rollupKey_eq_iff.mp hkey
  rw [Bool.eq_iff_iff, sameRollup_iff, sameRollup_iff, hkey, hcredential]

theorem bigint_eq_ok {n : ℤ} {x : Int64} :
    bigint n = .ok x ↔ Wrapping.Fits n ∧ x = Int64.ofInt n := by
  unfold bigint
  split_ifs with hfits
  · simp [hfits, eq_comm]
  · simp [hfits]

theorem toInt_of_bigint {n : ℤ} {x : Int64} (h : bigint n = .ok x) :
    x.toInt = n := by
  obtain ⟨hfits, rfl⟩ := bigint_eq_ok.mp h
  exact Int64.toInt_ofInt.trans hfits.bmod_eq

/-- What an addition that goes through leaves. -/
theorem addUsageRollup_eq_ok
    {row : UsageRollupRecord} {db db' : Database}
    (hunique : UniqueRollups db) (h : addUsageRollup row db = .ok db') :
    UniqueRollups db' ∧ db'.usageRecords = db.usageRecords ∧
      ∀ c P, (db'.usageRollups.map (volumeOf c P)).sum =
        (db.usageRollups.map (volumeOf c P)).sum + volumeOf c P row := by
  unfold addUsageRollup at h
  cases hfound : db.usageRollups.find? (sameRollup row) with
  | none =>
      simp only [hfound, references_bind_eq_ok, pure_eq_ok] at h
      obtain ⟨-, -, rfl⟩ := h
      refine ⟨?_, rfl, ?_⟩
      · refine List.pairwise_append.mpr ⟨hunique, List.pairwise_singleton _ _, ?_⟩
        intro other hother last hlast
        obtain rfl := List.mem_singleton.mp hlast
        rw [sameRollup_comm]
        exact Bool.not_eq_true _ ▸ List.find?_eq_none.mp hfound other hother
      · intro c P
        rw [List.map_append, List.sum_append, List.map_singleton,
          List.sum_singleton]
  | some other =>
      simp only [hfound] at h
      cases hup : bigint (other.uplinkBytes.toInt + row.uplinkBytes.toInt) with
      | error e =>
          rw [hup] at h
          cases h
      | ok uplinkBytes =>
      cases hdown : bigint
          (other.downlinkBytes.toInt + row.downlinkBytes.toInt) with
      | error e =>
          rw [hup, hdown] at h
          cases h
      | ok downlinkBytes =>
      rw [hup, hdown] at h
      obtain rfl := Except.ok.inj h
      have hsame := List.find?_some hfound
      obtain ⟨-, hkey⟩ := sameRollup_iff.mp hsame
      refine ⟨?_, rfl, fun c P => Table.sum_map_updateWhere hfound ?_ ?_⟩
      · refine List.pairwise_map.mpr (hunique.imp ?_)
        intro a b hab
        rw [← hab]
        split_ifs <;> rfl
      · refine hunique.imp ?_
        intro a b hab ha
        rw [sameRollup_congr ha, hab]
      · obtain ⟨-, hcredential, hbucket, hstart⟩ := rollupKey_eq_iff.mp hkey
        simp only [volumeOf, hcredential, hbucket, hstart]
        split_ifs
        · simp only [UsageRollupRecord.volume, toInt_of_bigint hup,
            toInt_of_bigint hdown, Prod.mk_add_mk]
        · rw [add_zero]

theorem shortfall_of_rows
    {db db' : Database}
    (hrecords : Database.rows db' .usageRecords = Database.rows db .usageRecords)
    (hrollups : Database.rows db' .usageRollups = Database.rows db .usageRollups) :
    (UniqueRollups db → UniqueRollups db') ∧
      ∀ c P, shortfall c P db' = shortfall c P db := by
  simp only [Database.rows] at hrecords hrollups
  exact ⟨fun h => by rwa [UniqueRollups, hrollups],
    fun c P => by rw [shortfall, shortfall, hrecords, hrollups]⟩

/-- What a statement does to the shortfall. -/
theorem shortfall_exec
    (s : Statement) (t : StatementTick) {db : Database}
    (hunique : UniqueRollups db) :
    UniqueRollups (s.exec t db).2 ∧ ∀ c P,
      shortfall c P (s.exec t db).2 = shortfall c P db +
        if s.succeeds t db then s.owes c P else 0 := by
  unfold Statement.succeeds
  cases hanswer : (s.exec t db).1 with
  | error e =>
      rw [Statement.exec_of_error hanswer]
      exact ⟨hunique, fun c P => (add_zero _).symm⟩
  | ok value =>
      obtain ⟨db', hleaves⟩ : ∃ db', (s.exec t db).2 = db' := ⟨_, rfl⟩
      have happlies := Statement.applies_iff.mpr (Prod.ext hanswer hleaves)
      simp only [hleaves, Except.isOk, Except.toBool, if_true]
      have hothers (hrecords : s.writes ≠ some .usageRecords)
          (hrollups : s.writes ≠ some .usageRollups)
          (howes : ∀ c P, s.owes c P = 0) :
          UniqueRollups db' ∧ ∀ c P,
            shortfall c P db' = shortfall c P db + s.owes c P := by
        obtain ⟨hkeeps, hsame⟩ := shortfall_of_rows
          (Statement.exec_frame hrecords t db) (Statement.exec_frame hrollups t db)
        rw [hleaves] at hkeeps hsame
        exact ⟨hkeeps hunique, fun c P => by rw [hsame, howes, add_zero]⟩
      cases s with
      | insertUsageRecord usage =>
          have happly := happlies.2
          simp only [Statement.apply, execute_eq_ok, insertUsageRecord,
            references_bind_eq_ok, pure_eq_ok] at happly
          obtain ⟨-, -, -, rfl⟩ := happly
          refine ⟨hunique, fun c P => ?_⟩
          simp only [shortfall, Statement.owes, List.map_append, List.sum_append,
            List.map_singleton, List.sum_singleton]
          exact add_sub_right_comm _ _ _
      | addUsageRollup row =>
          obtain ⟨hunique', hrecords, hrollups⟩ := addUsageRollup_eq_ok hunique
            (execute_eq_ok.mp happlies.2)
          refine ⟨hunique', fun c P => ?_⟩
          rw [shortfall, shortfall, hrecords, hrollups, Statement.owes, sub_add_eq_sub_sub,
            sub_eq_add_neg]
      | _ =>
          exact hothers (by simp [Statement.writes]) (by simp [Statement.writes])
            (fun _ _ => rfl)

section Runs

variable {crates : Crates} {app : AppState}

theorem shortfall_act
    {a : Action} (ha : a.Wellformed) (t : StoreTick) {w : PostgresShared}
    (hunique : UniqueRollups w.database) :
    UniqueRollups (PostgresShared.act crates a t w).2.database ∧ ∀ c P,
      shortfall c P (PostgresShared.act crates a t w).2.database =
        shortfall c P w.database + a.owes c P t w := by
  cases a with
  | statement s => exact shortfall_exec s (t.statement 0) hunique
  | transaction op =>
      have hframe : ∀ {name : TableName}, name ∉ tables op →
          Database.rows (PostgresStore.exec crates op t w.database).2 name =
            Database.rows w.database name :=
        fun hname => PostgresStore.exec_frame crates hname t w.database
      cases op with
      | registerNodeWithRegistrationToken node token =>
          obtain ⟨hkeeps, hsame⟩ := shortfall_of_rows
            (hframe (by simp [tables])) (hframe (by simp [tables]))
          exact ⟨hkeeps hunique, fun c P => (hsame c P).trans (add_zero _).symm⟩
      | _ => cases ha
  | _ => exact ⟨hunique, fun c P => (add_zero _).symm⟩

theorem PostgresRun.uniqueRollups
    {p : Process} (h : PostgresRun crates app p) :
    UniqueRollups p.world.2.database :=
  (h.invariant (P := fun w => UniqueRollups w.2.database) List.Pairwise.nil
    (fun _ hw => hw) (fun _ t _ ha hw => (shortfall_act ha t hw).1)).1

/-- What is missing in the rollups is what the requests owe. -/
theorem PostgresRun.shortfall_eq
    {p : Process} (h : PostgresRun crates app p)
    (c : Option String) (P : String × DateTime → Bool) :
    shortfall c P p.world.2.database =
      shortfall c P p.started +
        (p.threads.map (fun f => f.owed c P)).sum := by
  induction h with
  | migrated => exact (add_zero _).symm
  | request _ request ih =>
      rw [ih, List.map_append, List.sum_append]
      simp [InFlight.new, InFlight.owed]
  | @act started world before after request entries a next h t ih =>
      obtain ⟨hwell, -⟩ :=
        (h.reaches _ (List.mem_append_right _ (List.mem_cons_self ..))).all
          (app.actionsOf_wellformed crates request)
      have hstep :
          shortfall c P (PostgresShared.act crates a t world.2).2.database = _ :=
        (shortfall_act hwell t h.uniqueRollups).2 c P
      refine hstep.trans ?_
      simp only [ih, List.map_append, List.sum_append, List.map_cons,
        List.sum_cons, InFlight.owed, List.map_nil, List.sum_nil]
      abel
  | restart _ _ => exact (add_zero _).symm

/-! ## Requests -/

/-- An action that has nothing to do with the account. -/
def Action.Owes0 (a : Action) : Prop :=
  ∀ c P t w, a.owes c P t w = 0

theorem owes_of_writes
    {s : Statement} (hrecords : s.writes ≠ some .usageRecords)
    (hrollups : s.writes ≠ some .usageRollups) :
    (Action.statement s).Owes0 := by
  intro c P t w
  cases s with
  | insertUsageRecord usage => exact absurd rfl hrecords
  | addUsageRollup row => exact absurd rfl hrollups
  | _ => exact ite_self 0

/-- Only a report has to do with the account. -/
theorem AppState.actionsOf_owes
    {request : Request}
    (hreport : ∀ nodeId headers req,
      request ≠ .runnerUsage nodeId headers req) :
    (app.actionsOf crates request).All Action.Owes0 := by
  refine Program.All.implement (AppState.serve_makes crates app request) ?_
  intro op hop
  cases op with
  | store op =>
      simp only [actions]
      split_ifs with htransactional
      · exact ⟨fun _ _ _ _ => rfl, fun _ => trivial⟩
      · refine ⟨fun _ _ _ _ => rfl, fun t => Program.All.implement
          (body_writes crates t op) fun s hs => ⟨?_, fun _ => trivial⟩⟩
        cases op with
        | recordUsageSample usage =>
            cases request with
            | runnerUsage nodeId headers req =>
                exact absurd rfl (hreport nodeId headers req)
            | _ => cases hop
        | _ =>
            exact owes_of_writes
              (fun hwrites => absurd (hs _ hwrites) (by simp [tables]))
              (fun hwrites => absurd (hs _ hwrites) (by simp [tables]))
  | _ => exact ⟨fun _ _ _ _ => rfl, fun _ => trivial⟩

/-- What the actions of a request add up to, in the order they were taken. -/
def OwesTotal (owed : (c : Option String) → (P : String × DateTime → Bool) → Volume)
    (entries : List ThreadEntry) : Prop :=
  ∀ c P, (entries.map (fun e => Action.owes c P e.op e.choice e.before.2)).sum =
    owed c P

theorem owesTotal_of_owes
    {entries : List ThreadEntry} (h : ∀ e ∈ entries, Action.Owes0 e.op) :
    OwesTotal (fun _ _ => 0) entries := by
  intro c P
  refine List.sum_eq_zero ?_
  intro volume hvolume
  obtain ⟨e, he, rfl⟩ := List.mem_map.mp hvolume
  exact h e he c P e.choice e.before.2

theorem OwesTotal.append
    {owed owed' : (c : Option String) → (P : String × DateTime → Bool) → Volume}
    {entries entries' : List ThreadEntry} (h : OwesTotal owed entries)
    (h' : OwesTotal owed' entries') :
    OwesTotal (fun c P => owed c P + owed' c P) (entries ++ entries') := by
  intro c P
  rw [List.map_append, List.sum_append, h, h']

theorem owes_of_ok
    {s : Statement} {t : StoreTick} {w : PostgresShared} {value : s.Value}
    (h : (s.exec (t.statement 0) w.database).1 = .ok value)
    (c : Option String) (P : String × DateTime → Bool) :
    (Action.statement s).owes c P t w = s.owes c P := by
  have hsucceeds : s.succeeds (t.statement 0) w.database = true := by
    rw [Statement.succeeds, h]
    rfl
  exact if_pos hsucceeds

/-- The additions to the rollups that go through. -/
theorem leads_addUsageRollups
    (usage : UsageSampleRecord) (buckets : List (String × DateTime)) :
    PostgresStore.Leads crates
      (buckets.forM (fun bucket => query (.addUsageRollup (rollupOf usage bucket))))
      (fun entries _ => OwesTotal (fun c P => -(buckets.map
        (fun bucket => volumeOf c P (rollupOf usage bucket))).sum) entries) := by
  induction buckets with
  | nil =>
      refine leads_pure fun c P => ?_
      simp
  | cons bucket buckets ih =>
      refine leads_query_bind fun t w _ hok => ?_
      refine Program.Accounts.mono ih ?_
      intro entries r hr a ha c P
      have hrest := hr a ha c P
      simp only [List.map_cons, List.sum_cons, owes_of_ok hok, hrest,
        Statement.owes, neg_add]

/-- A report that goes through adds what it records. -/
theorem leads_recordUsageSample (usage : UsageSampleRecord) :
    PostgresStore.Leads crates (PostgresStore.recordUsageSample usage)
      (fun entries _ => OwesTotal (fun _ _ => 0) entries) := by
  unfold PostgresStore.recordUsageSample
  refine leads_query_bind fun t w _ hok => ?_
  cases hbuckets : usageBucketStarts usage.sampledAt with
  | none =>
      intro u hu
      cases hu
  | some buckets =>
      refine Program.Accounts.mono (leads_addUsageRollups usage buckets) ?_
      intro entries r hr a ha c P
      have hperiods := bucketsOf_eq (t := usage.sampledAt) (by rw [hbuckets]; rfl)
      rw [bucketsOf, hbuckets, Option.getD_some] at hperiods
      have hrest := hr a ha c P
      simp only [hperiods, List.map_map] at hrest
      simp only [List.map_cons, List.sum_cons, owes_of_ok hok, hrest,
        Statement.owes]
      exact add_neg_cancel _

/-- A part of a handler that has nothing to do with the account. -/
theorem leads_owes0
    {α : Type} {handler : Handler α}
    (h : Handler.Calls (fun op => (actions crates op).All Action.Owes0) handler) :
    Handler.Leads crates handler (fun entries _ => OwesTotal (fun _ _ => 0) entries) :=
  (Program.All.accounts (Program.All.implement h fun _ hop => hop)).mono
    (fun _ _ hentries _ _ => owesTotal_of_owes hentries)

/-- A report that is answered with success owes nothing. -/
theorem AppState.leads_runnerUsage
    (nodeId : String) (headers : Headers) (req : RunnerUsageRequest) :
    (app.runnerUsage nodeId headers req).Leads crates
      (fun entries _ => OwesTotal (fun _ _ => 0) entries) := by
  have hsettles {α β : Type} {first : Handler α} {second : α → Handler β}
      (hfirst : Handler.Leads crates first
        (fun entries _ => OwesTotal (fun _ _ => 0) entries))
      (hsecond : ∀ a, Handler.Leads crates (second a)
        (fun entries _ => OwesTotal (fun _ _ => 0) entries)) :
      Handler.Leads crates (first >>= second)
        (fun entries _ => OwesTotal (fun _ _ => 0) entries) := by
    refine hfirst.bind fun entries a hentries => ?_
    refine (hsecond a).mono fun rest _ hrest c P => ?_
    exact (hentries.append hrest c P).trans (add_zero _)
  have hquiet {α : Type} (a : α) :
      Handler.Leads crates (pure a)
        (fun entries _ => OwesTotal (fun _ _ => 0) entries) :=
    Handler.leads_pure fun _ _ => rfl
  have hrecord (sampledAt : DateTime) :
      Handler.Leads crates (Handler.store (.recordUsageSample
        ⟨app.tenantId, nodeId, req.credentialId, req.uplinkBytes,
          req.downlinkBytes, sampledAt⟩))
        (fun entries _ => OwesTotal (fun _ _ => 0) entries) := by
    refine Handler.leads_store_of rfl (fun _ => leads_recordUsageSample _) ?_
    intro e he entries _ hentries c P
    rw [List.map_cons, List.sum_cons, hentries c P, he]
    exact add_zero _
  unfold AppState.runnerUsage
  refine hsettles (leads_owes0 ?_) fun _ => ?_
  · unfold requireRunnerToken
    split_ifs
    · exact Handler.calls_pure _
    · exact Handler.calls_throw _
  · cases req.sampledAt with
    | some sampledAt =>
        exact hsettles (hquiet sampledAt) fun sampledAt =>
          hsettles (hrecord sampledAt) fun _ => hquiet _
    | none =>
        have hnow : Handler.Calls
            (fun op => (actions crates op).All Action.Owes0) Handler.now :=
          Handler.calls_perform ⟨fun _ _ _ _ => rfl, fun _ => trivial⟩
        exact hsettles (leads_owes0 hnow) fun sampledAt =>
          hsettles (hrecord sampledAt) fun _ => hquiet _

/-- The request is not a report, or is one answered with success. -/
def InFlight.Settled (f : InFlight) : Prop :=
  (∀ nodeId headers req, f.request ≠ .runnerUsage nodeId headers req) ∨
    ∃ reply, f.rest = .done (.ok reply)

theorem PostgresRun.owed_eq_zero
    {p : Process} (h : PostgresRun crates app p)
    {f : InFlight} (hf : f ∈ p.threads) (hsettled : f.Settled)
    (c : Option String) (P : String × DateTime → Bool) :
    f.owed c P = 0 := by
  have hreaches := h.reaches f hf
  by_cases hreport : ∃ nodeId headers req,
      f.request = .runnerUsage nodeId headers req
  · obtain ⟨request, entries, rest⟩ := f
    obtain ⟨nodeId, headers, req, rfl⟩ := hreport
    rcases hsettled with hother | hanswered
    · exact absurd rfl (hother nodeId headers req)
    · obtain ⟨reply, rfl⟩ : ∃ reply, rest = .done (.ok reply) := hanswered
      exact hreaches.accounts (app.leads_runnerUsage nodeId headers req) reply rfl
        c P
  · have hother : ∀ nodeId headers req,
        f.request ≠ .runnerUsage nodeId headers req :=
      fun nodeId headers req hrequest => hreport ⟨nodeId, headers, req, hrequest⟩
    exact owesTotal_of_owes (hreaches.made (app.actionsOf_owes hother)) c P

end Runs

/-! ## Quotas -/

/-- Bytes sent and received together. -/
def Volume.total : Volume →+ ℤ :=
  (AddMonoidHom.id ℤ).coprod (AddMonoidHom.id ℤ)

theorem toInt_of_mapM_bigint
    {α : Type} {f : α → ℤ} {rows : List α} {used : List Int64}
    (h : rows.mapM (fun row => bigint (f row)) = .ok used) :
    used.map Int64.toInt = rows.map f := by
  induction rows generalizing used with
  | nil =>
      obtain rfl := Except.ok.inj h
      rfl
  | cons row rows ih =>
      rw [List.mapM_cons] at h
      cases hrow : bigint (f row) with
      | error e =>
          rw [hrow] at h
          cases h
      | ok first =>
      cases hrest : rows.mapM (fun row => bigint (f row)) with
      | error e =>
          rw [hrow, hrest] at h
          cases h
      | ok rest =>
      rw [hrow, hrest] at h
      obtain rfl := Except.ok.inj h
      rw [List.map_cons, List.map_cons, toInt_of_bigint hrow, ih hrest]

/-- The buckets that a quota is measured in. -/
def hourly (bucket : String × DateTime) : Bool :=
  bucket.1 = "hour"

theorem toInt_usedBytesOf
    {credentialId : String} {db : Database} {used : Int64}
    (h : usedBytesOf credentialId db = .ok used) :
    used.toInt = Volume.total
      (db.usageRollups.map (volumeOf (some credentialId) hourly)).sum := by
  unfold usedBytesOf at h
  cases hrows : (db.usageRollups.filter (fun row =>
      row.credentialId = some credentialId && row.bucket = "hour")).mapM
    (fun row => bigint (row.uplinkBytes.toInt + row.downlinkBytes.toInt)) with
  | error e =>
      rw [hrows] at h
      cases h
  | ok rows =>
  rw [hrows] at h
  rw [toInt_of_bigint h, toInt_of_mapM_bigint hrows, sum_map_filter, map_list_sum,
    List.map_map]
  refine congrArg List.sum (List.map_congr_left fun row _ => ?_)
  simp only [Function.comp_apply, volumeOf, hourly, Bool.and_eq_true,
    decide_eq_true_eq]
  split_ifs
  · rfl
  · exact (map_zero _).symm

theorem total_sampleVolume (credentialId : String) (usage : UsageSampleRecord) :
    Volume.total (sampleVolume (some credentialId) hourly usage) =
      if usage.credentialId = some credentialId then
        usage.uplinkBytes.toInt + usage.downlinkBytes.toInt
      else
        0 := by
  by_cases hcredential : usage.credentialId = some credentialId
  · simp [sampleVolume, granularities, volumeOf, rollupOf, hourly, hcredential,
      Volume.total, UsageRollupRecord.volume]
  · simp [sampleVolume, granularities, volumeOf, rollupOf, hcredential]

/--
What is missing in the rollups is what the reports of the process have left out,
and a report answered with success has left out nothing.  If this holds of all
of them, and nothing was missing at the start, then a quota is measured by all
the samples of its credential.
-/
theorem usage_accounted
    {crates : Crates} {app : AppState}
    {p : Process} (h : PostgresRun crates app p) :
    (∀ c P, shortfall c P p.world.2.database = shortfall c P p.started +
      (p.threads.map (fun f => f.owed c P)).sum) ∧
    (∀ f ∈ p.threads, f.Settled → ∀ c P, f.owed c P = 0) ∧
    ((∀ f ∈ p.threads, f.Settled) → (∀ c P, shortfall c P p.started = 0) →
      ∀ t credentialId used,
        ((Statement.usedBytes credentialId).exec t p.world.2.database).1 =
          .ok used →
        used.toInt = ((p.world.2.database.usageRecords.filter
          (fun usage => usage.credentialId = some credentialId)).map
            (fun usage =>
              usage.uplinkBytes.toInt + usage.downlinkBytes.toInt)).sum) := by
  have howed := h.shortfall_eq
  have hzero : ∀ f ∈ p.threads, f.Settled → ∀ c P, f.owed c P = 0 :=
    fun f hf hsettled => h.owed_eq_zero hf hsettled
  refine ⟨howed, hzero, ?_⟩
  intro hsettled hstart t credentialId used hused
  have hnone : (p.threads.map
      (fun f => f.owed (some credentialId) hourly)).sum = 0 := by
    refine List.sum_eq_zero ?_
    intro volume hvolume
    obtain ⟨f, hf, rfl⟩ := List.mem_map.mp hvolume
    exact hzero f hf (hsettled f hf) _ _
  have hbalanced := howed (some credentialId) hourly
  rw [hstart, hnone, add_zero, shortfall, sub_eq_zero] at hbalanced
  obtain ⟨-, happly⟩ := Statement.apply_of_exec hused
  have hbytes : usedBytesOf credentialId p.world.2.database = .ok used := by
    simp only [Statement.apply] at happly
    cases hof : usedBytesOf credentialId p.world.2.database with
    | error e =>
        rw [hof] at happly
        cases happly
    | ok used' =>
        rw [hof] at happly
        rw [(Prod.mk.inj (Except.ok.inj happly)).1]
  rw [toInt_usedBytesOf hbytes, ← hbalanced, map_list_sum, List.map_map,
    sum_map_filter]
  refine congrArg List.sum (List.map_congr_left fun usage _ => ?_)
  simp only [Function.comp_apply, total_sampleVolume, decide_eq_true_eq]

/-- A node and a profile with one client. -/
def meteredProcess : Process :=
  ((((Process.start .empty []).serveAlone referenceCrates referenceApp
    (registration "dev-registration-token" "node" 1) (processEnv "a")).serveAlone
      referenceCrates referenceApp
        (.createVlessRealityProfile "profile" "example.com") (processEnv "b")).serveAlone
          referenceCrates referenceApp
            (.createClient ⟨"client", "profile", "Client", some "uuid", none, none,
              none, some 100, none⟩) (processEnv "c"))

def meterReading : AppState.RunnerUsageRequest :=
  ⟨some "client", 5, 7, none⟩

def reportedUsage : Process :=
  meteredProcess.serveAlone referenceCrates referenceApp
    (.runnerUsage "node" runnerHeaders meterReading) (processEnv "d")

theorem reportedUsage_run :
    PostgresRun referenceCrates referenceApp reportedUsage :=
  (((PostgresRun.migrated.serveAlone _ _).serveAlone _ _).serveAlone _ _).serveAlone
    _ _

theorem reportedUsage_settled :
    ∀ f ∈ reportedUsage.threads, f.Settled := by
  have hreply : ((referenceApp.actionsOf referenceCrates
      (.runnerUsage "node" runnerHeaders meterReading)).run
      (Program.logged (Program.logged (PostgresShared.act referenceCrates)))
      (processEnv "d") ([], meteredProcess.world)).1 = .ok ⟨"node", true⟩ := by
    decide +kernel
  intro f hf
  rcases List.mem_append.mp hf with hbefore | hreport
  · have hrequests : f.request ∈ meteredProcess.threads.map InFlight.request :=
      List.mem_map_of_mem hbefore
    refine .inl ?_
    intro nodeId headers req hrequest
    rw [hrequest] at hrequests
    simp [meteredProcess, Process.serveAlone, Process.start, registration]
      at hrequests
  · obtain rfl := List.mem_singleton.mp hreport
    exact .inr ⟨_, congrArg Program.done hreply⟩

theorem usage_accounted_reported :
    ((Statement.usedBytes "client").exec ((processEnv "e" 0).statement 0)
        reportedUsage.world.2.database).1 = .ok 12 ∧
      ((reportedUsage.world.2.database.usageRecords.filter
        (fun usage => usage.credentialId = some "client")).map (fun usage =>
          usage.uplinkBytes.toInt + usage.downlinkBytes.toInt)).sum = 12 := by
  have hused : ((Statement.usedBytes "client").exec ((processEnv "e" 0).statement 0)
      reportedUsage.world.2.database).1 = .ok 12 := by
    decide +kernel
  obtain ⟨-, -, hquota⟩ := usage_accounted reportedUsage_run
  exact ⟨hused, (hquota reportedUsage_settled (fun _ _ => rfl) _ _ _ hused).symm⟩

end ProxyControl
