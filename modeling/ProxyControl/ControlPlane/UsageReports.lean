import ProxyControl.ControlPlane.History
import ProxyControl.Storage.AuditTrail
import ProxyControl.Storage.UsageAccounting

/-!
# Usage reports

A runner reports bytes as signed 64-bit numbers, and the rollups add them with
wrapping.  So the usage on which a quota is decided grows with a report exactly
when the reported bytes are not negative and do not overflow the total, or are
so negative that they wrap around above it.
-/

namespace ProxyControl

open Calendar Effects HashTable Wrapping MemoryStore

/-- Added to the total with wrapping, the bytes do not lower it. -/
def AddsUp (total added : Int) : Prop :=
  (0 ≤ added.bmod (2 ^ 64) ∧
      total.bmod (2 ^ 64) + added.bmod (2 ^ 64) < 2 ^ 63) ∨
    total.bmod (2 ^ 64) + added.bmod (2 ^ 64) < -2 ^ 63

instance (total added : Int) : Decidable (AddsUp total added) :=
  inferInstanceAs (Decidable (_ ∨ _))

section Reports

variable (crates : Crates) (app : AppState)

/-- The state that a request leaves. -/
def Exchange.after (x : Exchange) : Shared :=
  app.serveAlone crates x.request x.env x.before

/-- The bytes of a credential in a report, if it is accepted. -/
def Exchange.reported (x : Exchange) (credentialId : String) : Int :=
  let isAccepted := (x.reply crates app).isOk
  match x.request with
  | .runnerUsage _ _ req =>
      if isAccepted ∧ req.credentialId = some credentialId then
        req.uplinkBytes.toInt + req.downlinkBytes.toInt
      else
        0
  | _ => 0

/-- The report adds up for every credential that has a quota. -/
def Exchange.AddsUp (x : Exchange) : Prop :=
  ∀ credentialId,
    x.before.store.credentialQuotas.containsKey credentialId = true →
    ProxyControl.AddsUp (meteredBytes credentialId x.before.store)
      (x.reported crates app credentialId)

/-- The request lowers the used bytes of no credential. -/
def Exchange.KeepsUsage (x : Exchange) : Prop :=
  ∀ credentialId decision decision',
    credentialQuotaDecision credentialId x.before.store = .ok decision →
    credentialQuotaDecision credentialId (x.after crates app).store =
      .ok decision' →
    decision.usedBytes ≤ decision'.usedBytes

/-- Usage never decreases, so a denied credential stays denied. -/
structure UsageOnlyGrows
    (history : List Exchange) (s : Shared) : Prop where
  grows : ∀ x ∈ history, x.KeepsUsage crates app
  denied : ∀ x ∈ history, ∀ credentialId decision decision',
    credentialQuotaDecision credentialId x.before.store = .ok decision →
    decision.allowed = false →
    credentialQuotaDecision credentialId s.store = .ok decision' →
    decision'.quotaBytes = decision.quotaBytes →
    decision'.allowed = false

end Reports

variable {crates : Crates} {app : AppState}

/-! ## The store of the control plane -/

theorem History.storeReached
    {history : List Exchange} {s : Shared}
    (h : History crates app history s) :
    Reached crates app.tenantId s.store := by
  refine @History.invariant crates app
    (fun _ s => Reached crates app.tenantId s.store) .default ?_ history s h
  intro request log s hs
  refine ensures_of_makes ?_ hs
  intro op t log s _ hs
  cases op with
  | store op => exact hs.call op t
  | nextSequence | pushRunnerResult | runnerResultCount | now | uuid =>
      exact hs

theorem History.reached_before
    {history : List Exchange} {s : Shared}
    (h : History crates app history s) :
    ∀ x ∈ history, Reached crates app.tenantId x.before.store := by
  induction h with
  | new =>
      intro x hx
      exact absurd hx List.not_mem_nil
  | request h request env ih =>
      intro x hx
      rcases List.mem_append.mp hx with hx | hx
      · exact ih x hx
      · obtain rfl := List.mem_singleton.mp hx
        exact h.storeReached

theorem History.reached_after
    {history : List Exchange} {s : Shared}
    (h : History crates app history s) :
    ∀ x ∈ history, Reached crates app.tenantId (x.after crates app).store := by
  induction h with
  | new =>
      intro x hx
      exact absurd hx List.not_mem_nil
  | request h request env ih =>
      intro x hx
      rcases List.mem_append.mp hx with hx | hx
      · exact ih x hx
      · obtain rfl := List.mem_singleton.mp hx
        exact (h.request request env).storeReached

/-- Quotas are replaced, never removed. -/
theorem containsKey_credentialQuotas_exec
    (tenantId : String) (op : StoreCall) (t : Tick) {s : MemoryState}
    {credentialId : String}
    (h : s.credentialQuotas.containsKey credentialId = true) :
    (exec crates tenantId op t s).2.credentialQuotas.containsKey
      credentialId = true := by
  cases op with
  | setCredentialQuota other quotaBytes =>
      simp only [exec, setCredentialQuota, containsKey_insert, h, Bool.or_true]
  | _ =>
      rw [(exec_credentialTables crates tenantId _ t s).2 rfl]
      exact h

theorem containsKey_credentialQuotas_after
    (x : Exchange) {credentialId : String}
    (h : x.before.store.credentialQuotas.containsKey credentialId = true) :
    (x.after crates app).store.credentialQuotas.containsKey credentialId =
      true := by
  refine @ensures_of_makes crates app
    (fun _ s => s.store.credentialQuotas.containsKey credentialId = true)
    x.request ?_ [] x.before h x.env
  intro op t log s _ hs
  cases op with
  | store op =>
      exact containsKey_credentialQuotas_exec app.tenantId op t hs
  | nextSequence | pushRunnerResult | runnerResultCount | now | uuid =>
      exact hs

/-! ## One report -/

/-- The sample that a report is recorded as. -/
def AppState.reportedSample
    (app : AppState) (nodeId : String) (req : AppState.RunnerUsageRequest)
    (sampledAt : DateTime) : UsageSampleRecord :=
  ⟨app.tenantId, nodeId, req.credentialId, req.uplinkBytes, req.downlinkBytes,
    sampledAt⟩

/-- How a report ends. -/
inductive ReportEnds
    (app : AppState) (nodeId : String) (req : AppState.RunnerUsageRequest)
    (s : Shared) (outcome : Except HttpError AppState.RunnerAccepted × Shared) :
    Prop
  | recorded
      (sampledAt : DateTime) (haccepted : outcome.1.isOk = true)
      (hok : (recordUsageSample (app.reportedSample nodeId req sampledAt)
        s.store).1 = .ok ())
      (hstore : outcome.2.store =
        (recordUsageSample (app.reportedSample nodeId req sampledAt)
          s.store).2)
  | refused
      (hrefused : outcome.1.isOk = false)
      (hstore : outcome.2.store = s.store)

theorem reportEnds_store
    (nodeId : String) (req : AppState.RunnerUsageRequest)
    (sampledAt : DateTime) (env : ℕ → Tick) (s : Shared) :
    ReportEnds app nodeId req s
      ((Handler.store (.recordUsageSample
          (app.reportedSample nodeId req sampledAt)) >>= fun _ =>
        (pure ⟨nodeId, true⟩ : Handler AppState.RunnerAccepted)).runAlone
          crates app env s) := by
  rw [Handler.runAlone_store_bind]
  have hatomic := exec_atomicAndLogged crates app.tenantId
    (.recordUsageSample (app.reportedSample nodeId req sampledAt)) (env 0)
    s.store
  cases hexec : (exec crates app.tenantId (.recordUsageSample
      (app.reportedSample nodeId req sampledAt)) (env 0) s.store).1 with
  | ok a =>
      exact .recorded sampledAt rfl hexec rfl
  | error e =>
      exact .refused rfl (hatomic.onError e hexec)

/-- A report is recorded as it is, or refused without a trace. -/
theorem reportEnds
    (nodeId : String) (headers : Headers) (req : AppState.RunnerUsageRequest)
    (env : ℕ → Tick) (s : Shared) :
    ReportEnds app nodeId req s
      ((app.runnerUsage nodeId headers req).runAlone crates app env s) := by
  unfold AppState.runnerUsage
  rw [Handler.runAlone_requireRunnerToken_bind]
  split
  · cases hsampled : req.sampledAt with
    | some sampledAt =>
        exact reportEnds_store nodeId req sampledAt env s
    | none =>
        -- without a timestamp the sample is taken now
        exact reportEnds_store nodeId req (env 0).now (fun n => env (n + 1)) s
  · exact .refused rfl rfl

theorem usageSamples_of_ok
    {usage : UsageSampleRecord} {s : MemoryState}
    (h : (recordUsageSample usage s).1 = .ok ()) :
    (recordUsageSample usage s).2.usageSamples = s.usageSamples ++ [usage] := by
  unfold recordUsageSample at h ⊢
  split_ifs at h ⊢ with hnode
  split at h <;> simp_all

theorem meteredBytes_append
    (credentialId : String) (s s' : MemoryState) (usage : UsageSampleRecord)
    (h : s'.usageSamples = s.usageSamples ++ [usage]) :
    meteredBytes credentialId s' =
      meteredBytes credentialId s +
        if usage.credentialId = some credentialId then
          usage.uplinkBytes.toInt + usage.downlinkBytes.toInt
        else 0 := by
  unfold meteredBytes samplesOf
  rw [h, List.filter_append, List.map_append, List.sum_append]
  by_cases hc : usage.credentialId = some credentialId <;> simp [hc]

/-- Whether the request reports usage. -/
def isReport : Request → Bool
  | .runnerUsage .. => true
  | _ => false

/-- Only a report writes the usage tables. -/
theorem writes_usage_eq_false
    {request : Request} (h : isReport request = false)
    {op : StoreCall} (hop : request.mayMake op = true) :
    writes .usage op = false := by
  cases op with
  | recordUsageSample usage =>
      cases request with
      | runnerUsage => cases h
      | _ => cases hop
  | _ => rfl

theorem meteredBytes_after_other
    {x : Exchange} (h : isReport x.request = false)
    (credentialId : String) :
    meteredBytes credentialId (x.after crates app).store =
      meteredBytes credentialId x.before.store := by
  have hsamples := (@serveAlone_frame crates app .usage x.request
    (fun op hop => writes_usage_eq_false h hop) x.env x.before).1
  unfold meteredBytes
  exact congrArg (fun samples =>
    ((samplesOf (some credentialId) samples).map (fun usage =>
      usage.uplinkBytes.toInt + usage.downlinkBytes.toInt)).sum) hsamples

/-- What a request adds to the bytes of a credential. -/
theorem meteredBytes_after
    (x : Exchange) (credentialId : String) :
    meteredBytes credentialId (x.after crates app).store =
      meteredBytes credentialId x.before.store +
        x.reported crates app credentialId := by
  obtain ⟨request, env, s⟩ := x
  cases request with
  | runnerUsage nodeId headers req =>
      have hends := @reportEnds crates app nodeId headers req env s
      generalize hrun : (app.runnerUsage nodeId headers req).runAlone crates app
        env s = outcome at hends
      have hreported :
          Exchange.reported crates app ⟨.runnerUsage nodeId headers req, env, s⟩
              credentialId =
            if outcome.1.isOk ∧ req.credentialId = some credentialId then
              req.uplinkBytes.toInt + req.downlinkBytes.toInt
            else 0 := by
        rw [← hrun]
        rfl
      have hafter :
          Exchange.after crates app ⟨.runnerUsage nodeId headers req, env, s⟩ =
            outcome.2 := by
        rw [← hrun]
        rfl
      rw [hreported, hafter]
      cases hends with
      | recorded sampledAt haccepted hok hstore =>
          have hsamples := usageSamples_of_ok hok
          rw [hstore, haccepted, meteredBytes_append credentialId _ _ _ hsamples]
          by_cases hc : req.credentialId = some credentialId <;>
            simp [AppState.reportedSample, hc]
      | refused hrefused hstore =>
          rw [hstore, hrefused]
          simp
  | _ =>
      rw [meteredBytes_after_other rfl]
      exact (add_zero _).symm

/-! ## The used bytes -/

/-- The bytes on which the quota of a credential is decided. -/
def usedIn (credentialId : String) (s : MemoryState) : Int64 :=
  usedBytes (s.usageRollups.values.filter (fun rollup =>
    rollup.credentialId = some credentialId && rollup.bucket = "hour"))

@[simp] theorem quotaDecision_usedBytes
    (credentialId : String) (quotaBytes used : Int64) :
    (quotaDecision credentialId quotaBytes used).usedBytes = used := by
  rfl

theorem credentialQuotaDecision_of_get
    {credentialId : String} {s : MemoryState} {quotaBytes : Int64}
    (h : get s.credentialQuotas credentialId = some quotaBytes) :
    credentialQuotaDecision credentialId s =
      .ok (quotaDecision credentialId quotaBytes (usedIn credentialId s)) := by
  unfold credentialQuotaDecision okOr
  rw [h]
  rfl

theorem credentialQuotaDecision_eq_ok
    {credentialId : String} {s : MemoryState}
    {decision : CredentialQuotaDecision}
    (h : credentialQuotaDecision credentialId s = .ok decision) :
    ∃ quotaBytes, get s.credentialQuotas credentialId = some quotaBytes ∧
      decision = quotaDecision credentialId quotaBytes
        (usedIn credentialId s) := by
  cases hget : get s.credentialQuotas credentialId with
  | none =>
      unfold credentialQuotaDecision okOr at h
      rw [hget] at h
      cases h
  | some quotaBytes =>
      rw [credentialQuotaDecision_of_get hget] at h
      exact ⟨quotaBytes, rfl, (Except.ok.inj h).symm⟩

/-- Wrapped totals are ordered as the added bytes say. -/
theorem bmod_le_bmod_add_iff
    (total added : Int) :
    total.bmod (2 ^ 64) ≤ (total + added).bmod (2 ^ 64) ↔
      AddsUp total added := by
  unfold AddsUp
  simp only [Int.bmod_def]
  split_ifs <;> omega

theorem addsUp_zero
    (total : Int) :
    AddsUp total 0 := by
  rw [← bmod_le_bmod_add_iff, add_zero]

/-- A request keeps the used bytes exactly when its report adds up. -/
theorem keepsUsage_iff
    {x : Exchange} (hx : Reached crates app.tenantId x.before.store)
    (hafter : Reached crates app.tenantId (x.after crates app).store) :
    x.KeepsUsage crates app ↔ x.AddsUp crates app := by
  have hused : ∀ credentialId,
      usedIn credentialId x.before.store ≤
          usedIn credentialId (x.after crates app).store ↔
        AddsUp (meteredBytes credentialId x.before.store)
          (x.reported crates app credentialId) := by
    intro credentialId
    have hbefore := (UsageInvariant.of_reached hx).usedBytes_hour credentialId
    have hlater :=
      (UsageInvariant.of_reached hafter).usedBytes_hour credentialId
    rw [Int64.le_iff_toInt_le, usedIn, usedIn, hbefore, hlater,
      meteredBytes_after, bmod_le_bmod_add_iff]
  constructor
  · intro h credentialId hquota
    obtain ⟨quotaBytes, hget⟩ := (containsKey_iff _ _).mp hquota
    have hquota' :
        (x.after crates app).store.credentialQuotas.containsKey credentialId =
          true :=
      containsKey_credentialQuotas_after x hquota
    obtain ⟨quotaBytes', hget'⟩ := (containsKey_iff _ _).mp hquota'
    have hle := h credentialId _ _ (credentialQuotaDecision_of_get hget)
      (credentialQuotaDecision_of_get hget')
    rw [quotaDecision_usedBytes, quotaDecision_usedBytes] at hle
    exact (hused credentialId).mp hle
  · intro h credentialId decision decision' hdecision hdecision'
    obtain ⟨quotaBytes, hget, rfl⟩ :=
      credentialQuotaDecision_eq_ok hdecision
    obtain ⟨quotaBytes', -, rfl⟩ := credentialQuotaDecision_eq_ok hdecision'
    rw [quotaDecision_usedBytes, quotaDecision_usedBytes]
    exact (hused credentialId).mpr (h credentialId
      ((containsKey_iff _ _).mpr ⟨_, hget⟩))

/-- While every report adds up, the used bytes only grow. -/
theorem History.usedIn_le
    {history : List Exchange} {s : Shared}
    (h : History crates app history s)
    (hadds : ∀ x ∈ history, x.AddsUp crates app) :
    ∀ x ∈ history, ∀ credentialId,
      x.before.store.credentialQuotas.containsKey credentialId = true →
      s.store.credentialQuotas.containsKey credentialId = true ∧
        usedIn credentialId x.before.store ≤ usedIn credentialId s.store := by
  induction h with
  | new =>
      intro x hx
      exact absurd hx List.not_mem_nil
  | @request history s h request env ih =>
      intro x hx credentialId hquota
      have hlast := (List.mem_append_right history
        (List.mem_singleton_self (⟨request, env, s⟩ : Exchange)))
      have hs : s.store.credentialQuotas.containsKey credentialId = true ∧
          usedIn credentialId x.before.store ≤ usedIn credentialId s.store := by
        rcases List.mem_append.mp hx with hx | hx
        · exact ih (fun y hy => hadds y (List.mem_append_left _ hy)) x hx
            credentialId hquota
        · obtain rfl := List.mem_singleton.mp hx
          exact ⟨hquota, Int64.le_refl _⟩
      have hafter :
          (app.serveAlone crates request env s).store.credentialQuotas.containsKey
            credentialId = true :=
        containsKey_credentialQuotas_after ⟨request, env, s⟩ hs.1
      have hkeeps : (⟨request, env, s⟩ : Exchange).KeepsUsage crates app :=
        (keepsUsage_iff h.storeReached
          (h.request request env).storeReached).mpr (hadds _ hlast)
      obtain ⟨quotaBytes, hget⟩ := (containsKey_iff _ _).mp hs.1
      obtain ⟨quotaBytes', hget'⟩ := (containsKey_iff _ _).mp hafter
      have hle := hkeeps credentialId _ _ (credentialQuotaDecision_of_get hget)
        (credentialQuotaDecision_of_get hget')
      rw [quotaDecision_usedBytes, quotaDecision_usedBytes] at hle
      exact ⟨hafter, Int64.le_trans hs.2 hle⟩

/-! ## A client with a quota -/

/-- A client with a quota of 100 bytes. -/
def meteredClient : List (Request × (ℕ → Tick)) :=
  [ (registration "dev-registration-token" "node-a" 1,
      referenceEnv 1700000000 "a"),
    (.createVlessRealityProfile "profile" "example.com",
      referenceEnv 1700000100 "b"),
    (.createClient {
        clientId := "client"
        profileId := "profile"
        displayName := "Client"
        uuid := some "uuid"
        kind := none
        method := none
        password := none
        quotaBytes := some 100
        expiresAt := none }, referenceEnv 1700000200 "c") ]

/-- The client reports bytes sent. -/
def clientReport (bytes : Int64) : Request :=
  .runnerUsage "node-a" runnerHeaders ⟨some "client", bytes, 0, none⟩

theorem reported_clientReport_other
    {bytes : Int64} {env : ℕ → Tick} {s : Shared} {credentialId : String}
    (h : credentialId ≠ "client") :
    Exchange.reported crates app ⟨clientReport bytes, env, s⟩ credentialId =
      0 := by
  simp [Exchange.reported, clientReport, h.symm]

/-- The decision on the client after a sequence of requests. -/
def clientDecision
    (requests : List (Request × (ℕ → Tick))) :
    Option CredentialQuotaDecision :=
  (credentialQuotaDecision "client"
    (referenceApp.serveAll referenceCrates requests .new).store).toOption

/-- A denied client reports a negative number of bytes and is allowed again. -/
theorem clientDecision_reports :
    (∃ decision,
      clientDecision (meteredClient ++
        [(clientReport 150, referenceEnv 1700000300 "d")]) = some decision ∧
      decision.usedBytes = 150 ∧ decision.allowed = false) ∧
    ∃ decision,
      clientDecision ((meteredClient ++
        [(clientReport 150, referenceEnv 1700000300 "d")]) ++
          [(clientReport (-100), referenceEnv 1700000400 "e")]) =
        some decision ∧
      decision.usedBytes = 50 ∧ decision.allowed = true := by
  constructor
  · exact ⟨quotaDecision "client" 100 150, by decide +kernel⟩
  · exact ⟨quotaDecision "client" 100 50, by decide +kernel⟩

/--
In a run of the control plane usage only grows exactly when every accepted
report of a credential with a quota adds up.
-/
theorem usage_only_grows_iff
    (crates : Crates) (app : AppState)
    {history : List Exchange} {s : Shared}
    (h : History crates app history s) :
    UsageOnlyGrows crates app history s ↔
      ∀ x ∈ history, x.AddsUp crates app := by
  have hkeeps : ∀ x ∈ history,
      (x.KeepsUsage crates app ↔ x.AddsUp crates app) := by
    intro x hx
    exact keepsUsage_iff (h.reached_before x hx) (h.reached_after x hx)
  constructor
  · intro hgrows x hx
    exact (hkeeps x hx).mp (hgrows.grows x hx)
  · intro hadds
    refine ⟨fun x hx => (hkeeps x hx).mpr (hadds x hx), ?_⟩
    intro x hx credentialId decision decision' hdecision hdenied hdecision'
      hquota
    obtain ⟨quotaBytes, hget, rfl⟩ :=
      credentialQuotaDecision_eq_ok hdecision
    obtain ⟨quotaBytes', -, rfl⟩ := credentialQuotaDecision_eq_ok hdecision'
    obtain rfl : quotaBytes' = quotaBytes := hquota
    obtain ⟨-, hle⟩ := h.usedIn_le hadds x hx credentialId
      ((containsKey_iff _ _).mpr ⟨_, hget⟩)
    simp only [quotaDecision, decide_eq_false_iff_not] at hdenied ⊢
    intro hallowed
    exact hdenied (Int64.le_trans hle hallowed)

/-- A first report of 40 bytes adds up. -/
theorem usage_only_grows_first :
    UsageOnlyGrows referenceCrates referenceApp
      ([] ++ exchanges referenceCrates referenceApp
        (meteredClient ++ [(clientReport 40, referenceEnv 1700000300 "d")])
        .new)
      (referenceApp.serveAll referenceCrates
        (meteredClient ++ [(clientReport 40, referenceEnv 1700000300 "d")])
        .new) := by
  refine (usage_only_grows_iff referenceCrates referenceApp
    (History.new.serveAll _)).mpr ?_
  intro x hx credentialId hquota
  simp only [List.nil_append, meteredClient, List.cons_append, exchanges,
    List.mem_cons, List.not_mem_nil, or_false] at hx
  rcases hx with rfl | rfl | rfl | rfl
  · exact addsUp_zero _
  · exact addsUp_zero _
  · exact addsUp_zero _
  · by_cases hc : credentialId = "client"
    · subst hc
      decide +kernel
    · rw [reported_clientReport_other hc]
      exact addsUp_zero _

theorem negative_report_lowers_usage :
    ¬ ∀ (crates : Crates) (app : AppState)
      (history : List Exchange) (s : Shared),
      History crates app history s →
      UsageOnlyGrows crates app history s := by
  intro h
  obtain ⟨⟨decision, hbefore, hused, -⟩, decision', hafter, hused', -⟩ :=
    clientDecision_reports
  have hafter' :
      (credentialQuotaDecision "client" (referenceApp.serveAlone
        referenceCrates (clientReport (-100)) (referenceEnv 1700000400 "e")
        (referenceApp.serveAll referenceCrates (meteredClient ++
          [(clientReport 150, referenceEnv 1700000300 "d")])
          .new)).store).toOption = some decision' := by
    rw [← hafter, clientDecision, AppState.serveAll, List.foldl_append]
    rfl
  have hgrows := (h referenceCrates referenceApp _ _
    ((History.new.serveAll _).request (clientReport (-100))
      (referenceEnv 1700000400 "e"))).grows _
    (List.mem_append_right _ (List.mem_singleton_self _)) "client"
    decision decision' (eq_ok_of_toOption hbefore)
    (eq_ok_of_toOption hafter')
  rw [hused, hused'] at hgrows
  exact absurd hgrows (by decide)

end ProxyControl
