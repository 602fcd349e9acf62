import ProxyControl.Storage.UsageRollups
import ProxyControl.Subscription

/-!
# Usage accounting

In every reachable state the rollups of a credential at one granularity sum to
what its samples sum to, and all its rollups together to three times that.

The quota decision sums one granularity and the subscription filter all three:
the two agree on a credential exactly when its quota does not lie between its
usage and three times its usage.
-/

namespace ProxyControl

open Calendar HashTable Wrapping MemoryStore

/-- The bytes of one rollup, in both directions. -/
def UsageRollupRecord.bytes (rollup : UsageRollupRecord) : Int64 :=
  rollup.uplinkBytes + rollup.downlinkBytes

/-- The bytes of one sample, in both directions. -/
def UsageSampleRecord.bytes (usage : UsageSampleRecord) : Int64 :=
  usage.uplinkBytes + usage.downlinkBytes

/-- The bytes a rollup holds for one credential at one granularity. -/
def shareOf (c : Option String) (bucket : String)
    (rollup : UsageRollupRecord) : Int64 :=
  if rollup.credentialId = c ∧ rollup.bucket = bucket then rollup.bytes else 0

/-- A rollup stands under its own credential and granularity. -/
def Keyed (rollups : HashTable RollupKey UsageRollupRecord) : Prop :=
  ∀ key rollup, get rollups key = some rollup →
    rollup.credentialId = key.1 ∧ rollup.bucket = key.2.1 ∧
      rollup.bucket ∈ granularities

/-- What the rollups know about the samples. -/
structure UsageInvariant (s : MemoryState) : Prop where
  keyed : Keyed s.usageRollups
  total : ∀ c, ∀ bucket ∈ granularities,
    sumValues (shareOf c bucket) s.usageRollups =
      ((samplesOf c s.usageSamples).map UsageSampleRecord.bytes).sum

/-- The bytes of a sum of loads. -/
theorem bytes_sum_loads
    {α : Type} (f : α → Load) (l : List α) :
    ((l.map f).sum).1 + ((l.map f).sum).2 =
      (l.map (fun a => (f a).1 + (f a).2)).sum := by
  induction l with
  | nil => rfl
  | cons a l ih =>
      simp only [List.map_cons, List.sum_cons, ← ih, Prod.fst_add,
        Prod.snd_add]
      abel

/-- At each granularity a sample counts once, for its own credential. -/
theorem RollupInvariant.total_bytes
    {s : MemoryState} (h : RollupInvariant s) (c : Option String)
    {bucket : String} (hb : bucket ∈ granularities) :
    sumValues (shareOf c bucket) s.usageRollups =
      ((samplesOf c s.usageSamples).map UsageSampleRecord.bytes).sum := by
  have htotal := congrArg (fun load : Load => load.1 + load.2)
    (h.total c (fun b => b.1 = bucket))
  simp only [sumValues, bytes_sum_loads] at htotal
  rw [samplesOf, sum_map_filter, sumValues]
  refine Eq.trans ?_ (htotal.trans ?_)
  · congr 2
    funext rollup
    simp only [shareOf, loadOf, decide_eq_true_eq]
    split_ifs <;> rfl
  · congr 1
    apply List.map_congr_left
    intro usage hmem
    rw [sampleLoad_of_one hb (fun b hb => of_decide_eq_true hb)
      (h.bucketed usage hmem)]
    simp only [decide_true, and_true, decide_eq_true_eq]
    split_ifs <;> rfl

/-- The rollups account for the samples in every reachable state. -/
theorem UsageInvariant.of_reached
    {crates : Crates} {tenantId : String} {s : MemoryState}
    (h : Reached crates tenantId s) :
    UsageInvariant s := by
  have hinv := RollupInvariant.of_reached h
  constructor
  · rintro ⟨c, g, start⟩ rollup hget
    obtain ⟨hg, -⟩ := hinv.start hget
    obtain ⟨hc, hb⟩ := Prod.mk.inj (hinv.indexed _ _ hget)
    obtain ⟨rfl, -⟩ := Prod.mk.inj hb
    exact ⟨hc, rfl, hg⟩
  · intro c bucket hb
    exact hinv.total_bytes c hb

/-! ## What the two code paths sum -/

/-- The bytes reported for a credential, as an integer. -/
def meteredBytes (credentialId : String) (s : MemoryState) : Int :=
  ((samplesOf (some credentialId) s.usageSamples).map
    (fun usage => usage.uplinkBytes.toInt + usage.downlinkBytes.toInt)).sum

theorem usedBytes_eq_sum
    (rollups : List UsageRollupRecord) :
    usedBytes rollups = (rollups.map UsageRollupRecord.bytes).sum := by
  rw [List.sum_eq_foldl]
  rfl

/-- The bytes of a sample sum, taken as an integer. -/
theorem toInt_sum_samples
    (credentialId : String) (s : MemoryState) :
    (((samplesOf (some credentialId) s.usageSamples).map
      UsageSampleRecord.bytes).sum).toInt =
      (meteredBytes credentialId s).bmod (2 ^ 64) := by
  apply toInt_sum_map
  intro usage
  exact Int64.toInt_add _ _

section Sums

variable {s : MemoryState} (h : UsageInvariant s) (credentialId : String)
include h

/-- The hour rollups of a credential hold its usage. -/
theorem UsageInvariant.usedBytes_hour :
    (usedBytes (s.usageRollups.values.filter (fun rollup =>
      rollup.credentialId = some credentialId && rollup.bucket = "hour"))).toInt =
      (meteredBytes credentialId s).bmod (2 ^ 64) := by
  have hsum := h.total (some credentialId) "hour" (by simp [granularities])
  rw [← toInt_sum_samples, ← hsum, usedBytes_eq_sum, sum_map_filter]
  simp only [sumValues, Bool.and_eq_true, decide_eq_true_eq]
  rfl

/-- All rollups of a credential hold its usage three times. -/
theorem UsageInvariant.usedBytes_all :
    (usedBytes (s.usageRollups.values.filter (fun rollup =>
      rollup.credentialId = some credentialId))).toInt =
      (3 * meteredBytes credentialId s).bmod (2 ^ 64) := by
  have hsplit :
      usedBytes (s.usageRollups.values.filter (fun rollup =>
        rollup.credentialId = some credentialId)) =
        sumValues (shareOf (some credentialId) "hour") s.usageRollups +
          sumValues (shareOf (some credentialId) "day") s.usageRollups +
          sumValues (shareOf (some credentialId) "month") s.usageRollups := by
    rw [usedBytes_eq_sum, sum_map_filter]
    simp only [sumValues, ← List.sum_map_add]
    congr 1
    apply List.map_congr_left
    intro rollup hmem
    obtain ⟨key, hkey⟩ := (mem_values _ _).mp hmem
    obtain ⟨-, -, hbucket⟩ := h.keyed key rollup hkey
    simp only [granularities, List.mem_cons, List.not_mem_nil, or_false]
      at hbucket
    rcases hbucket with hb | hb | hb <;>
      by_cases hc : rollup.credentialId = some credentialId <;>
        simp [shareOf, hb, hc]
  have hu := toInt_sum_samples credentialId s
  rw [hsplit,
    h.total _ "hour" (by simp [granularities]),
    h.total _ "day" (by simp [granularities]),
    h.total _ "month" (by simp [granularities]),
    show 3 * meteredBytes credentialId s =
      meteredBytes credentialId s + meteredBytes credentialId s +
        meteredBytes credentialId s by omega]
  exact toInt_add_bmod (toInt_add_bmod hu hu) hu

end Sums

/-! ## Visibility -/

/-- The answer of the quota decision; without a quota there is no limit. -/
def quotaAllows (s : MemoryState) (credentialId : String) : Bool :=
  match credentialQuotaDecision credentialId s with
  | .ok decision => decision.allowed
  | .error _ => true

/-- The answer of the expiry decision at `now`. -/
def expiryAllows
    (s : MemoryState) (now : DateTime) (credentialId : String) : Bool :=
  match credentialExpiryDecision now credentialId s with
  | .ok decision => decision.allowed
  | .error _ => false

/-- The credentials of a profile that both decisions allow. -/
def allowedCredentials
    (s : MemoryState) (now : DateTime) (profileId : String) :
    List Credential :=
  (credentialsOf profileId s).filter (fun credential =>
    quotaAllows s credential.id && expiryAllows s now credential.id)

/-- The subscription shows the credentials that the decisions allow. -/
structure VisibilityAgrees
    (crates : Crates) (s : MemoryState) (now : DateTime) (profileId : String)
    (deployed : DeployedProfile) : Prop where
  credentials :
    deployed.credentials = allowedCredentials s now profileId
  links : ∀ id tenantId actor,
    (generateSubscriptionArtifact crates id now tenantId deployed
      actor).bodyBase64 =
      crates.base64Encode (utf8 ("\n".intercalate
        (((allowedCredentials s now profileId).filter
          Credential.isActive).map (subscriptionLink crates deployed))))

/-- No quota of the credential lies between its usage and three times it. -/
def QuotaOutsideGap (s : MemoryState) (credentialId : String) : Prop :=
  ∀ quota ∈ get s.credentialQuotas credentialId,
    (3 * meteredBytes credentialId s ≤ quota.toInt ↔
      meteredBytes credentialId s ≤ quota.toInt)

instance (s : MemoryState) (credentialId : String) :
    Decidable (QuotaOutsideGap s credentialId) :=
  Option.decidableForallMem (get s.credentialQuotas credentialId)

theorem filter_eq_filter_iff
    {α : Type} (p q : α → Bool) (l : List α) :
    l.filter p = l.filter q ↔ ∀ a ∈ l, p a = q a := by
  constructor
  · intro h a ha
    have hmem : a ∈ l.filter p ↔ a ∈ l.filter q := by rw [h]
    simp only [List.mem_filter, ha, true_and] at hmem
    exact Bool.eq_iff_iff.mpr hmem
  · exact List.filter_congr

/-- A credential of some profile has an expiry decision. -/
theorem expiryAllows_eq
    {s : MemoryState} {profileId : String} {credential : Credential}
    (h : credential ∈ credentialsOf profileId s) (now : DateTime) :
    expiryAllows s now credential.id =
      !credentialExpiredInMemory s credential.id now := by
  have hknown :
      s.credentialsByProfile.values.flatten.any
        (fun other => other.id = credential.id) = true := by
    unfold credentialsOf at h
    cases hget : get s.credentialsByProfile profileId with
    | none =>
        rw [hget] at h
        cases h
    | some credentials =>
        rw [hget] at h
        simp only [List.any_eq_true, List.mem_flatten, decide_eq_true_eq]
        exact ⟨credential,
          ⟨credentials, (mem_values _ _).mpr ⟨profileId, hget⟩, h⟩, rfl⟩
  simp only [expiryAllows, credentialExpiryDecision, hknown, if_true]
  rfl

/-- Within 64 bits, the two quota checks agree outside the gap only. -/
theorem quota_checks_agree_iff
    {s : MemoryState} (h : UsageInvariant s) {credentialId : String}
    (hfits : Fits (3 * meteredBytes credentialId s)) :
    (!credentialQuotaExceededInMemory s credentialId) =
        quotaAllows s credentialId ↔
      QuotaOutsideGap s credentialId := by
  have hfits' : Fits (meteredBytes credentialId s) := by
    obtain ⟨h₁, h₂⟩ := hfits
    constructor <;> omega
  have hhour := (h.usedBytes_hour credentialId).trans hfits'.bmod_eq
  have hall := (h.usedBytes_all credentialId).trans hfits.bmod_eq
  unfold credentialQuotaExceededInMemory quotaAllows QuotaOutsideGap
  cases hquota : get s.credentialQuotas credentialId with
  | none =>
      simp [credentialQuotaDecision, okOr, hquota, bind, Except.bind]
  | some quota =>
      simp only [credentialQuotaDecision, okOr, hquota, bind, Except.bind,
        pure, Except.pure, quotaDecision, Option.mem_def, Option.some.injEq,
        forall_eq']
      rw [Bool.eq_iff_iff]
      simp only [Bool.not_eq_true', decide_eq_false_iff_not,
        decide_eq_true_eq, Int64.lt_iff_toInt_lt, Int64.le_iff_toInt_le,
        hhour, hall, not_lt]

/--
The subscription of a profile agrees with the decisions exactly when every
credential that has not expired keeps its quota outside the gap.
-/
theorem visibility_agrees_iff
    (crates : Crates) (tenantId : String) {s : MemoryState}
    (hs : Reached crates tenantId s)
    (now : DateTime) (order : IterationOrder) (profileId : String)
    {deployed : DeployedProfile}
    (hdeployed :
      deployedProfileForSubscription now order profileId s = .ok deployed)
    (hfits : ∀ credential ∈ credentialsOf profileId s,
      Fits (3 * meteredBytes credential.id s)) :
    VisibilityAgrees crates s now profileId deployed ↔
      ∀ credential ∈ credentialsOf profileId s,
        credentialExpiredInMemory s credential.id now = true ∨
          QuotaOutsideGap s credential.id := by
  have hinv := UsageInvariant.of_reached hs
  have hshown :
      deployed.credentials = (credentialsOf profileId s).filter
        (fun credential =>
          !credentialQuotaExceededInMemory s credential.id &&
            !credentialExpiredInMemory s credential.id now) := by
    simp only [deployedProfileForSubscription, bind, Except.bind] at hdeployed
    split at hdeployed
    · cases hdeployed
    · split at hdeployed
      · cases hdeployed
      · split at hdeployed
        · cases hdeployed
        · obtain rfl := Except.ok.inj hdeployed
          rfl
  have hcredentials :
      deployed.credentials = allowedCredentials s now profileId ↔
        ∀ credential ∈ credentialsOf profileId s,
          credentialExpiredInMemory s credential.id now = true ∨
            QuotaOutsideGap s credential.id := by
    rw [hshown, allowedCredentials, filter_eq_filter_iff]
    apply forall₂_congr
    intro credential hmem
    rw [expiryAllows_eq hmem now,
      ← quota_checks_agree_iff hinv (hfits credential hmem)]
    cases credentialExpiredInMemory s credential.id now <;> simp
  constructor
  · intro h
    exact hcredentials.mp h.credentials
  · intro h
    have heq := hcredentials.mpr h
    refine ⟨heq, ?_⟩
    intro id tenantId' actor
    rw [← heq]
    rfl

/-! ## A quota in the gap -/

/-- One client with a quota of 100 bytes and one sample of 40 bytes. -/
def gapCalls : List (StoreCall × Tick) :=
  [ (.registerNode (.new "tenant" "node" "node.example" "1.8.0" ⟨0, 0⟩)),
    (.createProfile
      ⟨"tenant", "profile", .vlessRealityExample "group" "secret", ⟨0, 0⟩⟩),
    (.addCredential "profile" (.activeVless "client" "group" "uuid" "Client")),
    (.setCredentialQuota "client" 100),
    (.recordUsageSample
      ⟨"tenant", "node", some "client", 30, 10, ⟨1700000000, 0⟩⟩) ].map
    (fun call => (call, referenceTick 1700000000 "id"))

def gapState : MemoryState :=
  execAll referenceCrates "tenant" gapCalls .default

/-- The client whose quota lies in the gap is allowed and yet not shown. -/
theorem visibility_disagrees_in_gap :
    ¬ ∀ (crates : Crates) (tenantId : String) (s : MemoryState),
      Reached crates tenantId s →
      ∀ (now : DateTime) (order : IterationOrder) (profileId : String)
        (deployed : DeployedProfile),
        deployedProfileForSubscription now order profileId s = .ok deployed →
        (∀ credential ∈ credentialsOf profileId s,
          Fits (3 * meteredBytes credential.id s)) →
        VisibilityAgrees crates s now profileId deployed := by
  intro h
  have hdisagree :
      ∃ deployed,
        deployedProfileForSubscription ⟨1700000000, 0⟩
          IterationOrder.entryOrder "profile" gapState = .ok deployed ∧
        deployed.credentials ≠
          allowedCredentials gapState ⟨1700000000, 0⟩ "profile" :=
    ⟨_, rfl, by decide +kernel⟩
  obtain ⟨deployed, hok, hne⟩ := hdisagree
  refine hne (h referenceCrates "tenant" gapState
    (Reached.default.execAll gapCalls) _ _ "profile" deployed hok ?_).credentials
  decide +kernel

/-- The same client with a quota of 200 bytes, outside the gap. -/
def roomyState : MemoryState :=
  execAll referenceCrates "tenant"
    (gapCalls ++
      [(.setCredentialQuota "client" 200, referenceTick 1700000000 "id")])
    .default

theorem visibility_agrees_iff_roomy :
    ∃ deployed,
      deployedProfileForSubscription ⟨1700000000, 0⟩
        IterationOrder.entryOrder "profile" roomyState = .ok deployed ∧
      VisibilityAgrees referenceCrates roomyState ⟨1700000000, 0⟩ "profile"
        deployed := by
  have hanswered :
      (deployedProfileForSubscription ⟨1700000000, 0⟩
        IterationOrder.entryOrder "profile" roomyState).isOk = true := by
    decide +kernel
  cases hok : deployedProfileForSubscription ⟨1700000000, 0⟩
      IterationOrder.entryOrder "profile" roomyState with
  | error e =>
      rw [hok] at hanswered
      cases hanswered
  | ok deployed =>
      refine ⟨deployed, rfl, ?_⟩
      refine (visibility_agrees_iff referenceCrates "tenant"
        (Reached.default.execAll _) _ _ "profile" hok ?_).mpr ?_
      · decide +kernel
      · decide +kernel

end ProxyControl
