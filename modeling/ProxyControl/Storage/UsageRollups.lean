import Mathlib.Algebra.Group.Prod
import ProxyControl.Lib.Wrapping
import ProxyControl.ReferenceCrates
import ProxyControl.Storage.ProxyStore

/-!
# Usage rollups

Every accepted sample is added to one hour, one day and one month rollup.
`RollupInvariant` says what this makes of the table, for any selection of
buckets: the selected rollups of a credential sum to what its samples put into
the selected buckets.

The buckets of one granularity partition time, and those of a finer one lie
within those of a coarser one.  So each rollup is the sum of the samples in its
bucket, and of the finer rollups in it.
-/

namespace ProxyControl

open Calendar HashTable Wrapping MemoryStore

/-- Bytes sent and received. -/
abbrev Load : Type :=
  Int64 × Int64

def UsageRollupRecord.load (rollup : UsageRollupRecord) : Load :=
  (rollup.uplinkBytes, rollup.downlinkBytes)

def UsageSampleRecord.load (usage : UsageSampleRecord) : Load :=
  (usage.uplinkBytes, usage.downlinkBytes)

/-- The three granularities. -/
def granularities : List String :=
  ["hour", "day", "month"]

/-- The samples of one credential. -/
def samplesOf (c : Option String) (samples : List UsageSampleRecord) :
    List UsageSampleRecord :=
  samples.filter (fun usage => usage.credentialId = c)

/-- The buckets into which a sample falls. -/
def bucketsOf (sampledAt : DateTime) : List (String × DateTime) :=
  (usageBucketStarts sampledAt).getD []

/-- What a rollup holds for one credential in the selected buckets. -/
def loadOf
    (c : Option String) (P : String × DateTime → Bool)
    (rollup : UsageRollupRecord) : Load :=
  if rollup.credentialId = c ∧ P (rollup.bucket, rollup.bucketStart) then
    rollup.load
  else
    0

/-- What a sample puts into one bucket, if it is selected. -/
def loadInto
    (c : Option String) (P : String × DateTime → Bool)
    (usage : UsageSampleRecord) (bucket : String × DateTime) : Load :=
  if usage.credentialId = c ∧ P bucket then usage.load else 0

/-- What a sample puts into the selected buckets of one credential. -/
def sampleLoad
    (c : Option String) (P : String × DateTime → Bool)
    (usage : UsageSampleRecord) : Load :=
  ((bucketsOf usage.sampledAt).map (loadInto c P usage)).sum

/-- A rollup stands under its own credential, granularity and start. -/
def Indexed (rollups : HashTable RollupKey UsageRollupRecord) : Prop :=
  ∀ key rollup, get rollups key = some rollup →
    (rollup.credentialId, rollup.bucket, rollup.bucketStart) = key

/-- What the rollups know about the samples. -/
structure RollupInvariant (s : MemoryState) : Prop where
  indexed : Indexed s.usageRollups
  total : ∀ c P, sumValues (loadOf c P) s.usageRollups =
    (s.usageSamples.map (sampleLoad c P)).sum
  stored : ∀ key, s.usageRollups.containsKey key = true ↔
    ∃ usage ∈ s.usageSamples, usage.credentialId = key.1 ∧
      key.2 ∈ bucketsOf usage.sampledAt
  bucketed : ∀ usage ∈ s.usageSamples,
    (usageBucketStarts usage.sampledAt).isSome = true

/-! ## One sample -/

/-- One bucket of one sample. -/
theorem addToRollup_spec
    (usage : UsageSampleRecord)
    {rollups : HashTable RollupKey UsageRollupRecord}
    (bucket : String × DateTime) (hindexed : Indexed rollups) :
    Indexed (addToRollup usage rollups bucket) ∧
      (∀ c P,
        sumValues (loadOf c P) (addToRollup usage rollups bucket) =
          sumValues (loadOf c P) rollups + loadInto c P usage bucket) ∧
      ∀ key, (addToRollup usage rollups bucket).containsKey key =
        (decide (key = (usage.credentialId, bucket)) ||
          rollups.containsKey key) := by
  obtain ⟨rollup, hinsert, hkey, hload⟩ :
      ∃ rollup,
        addToRollup usage rollups bucket =
          rollups.insert (usage.credentialId, bucket.1, bucket.2) rollup ∧
        (rollup.credentialId, rollup.bucket, rollup.bucketStart) =
          (usage.credentialId, bucket.1, bucket.2) ∧
        rollup.load =
          ((get rollups (usage.credentialId, bucket.1, bucket.2)).map
            UsageRollupRecord.load).getD 0 + usage.load := by
    refine ⟨_, rfl, ?_⟩
    cases hold : get rollups (usage.credentialId, bucket.1, bucket.2) with
    | none =>
        refine ⟨rfl, ?_⟩
        simp [UsageRollupRecord.load, UsageSampleRecord.load]
    | some old =>
        exact ⟨hindexed _ old hold, rfl⟩
  rw [hinsert]
  refine ⟨?_, ?_, ?_⟩
  · intro key r hr
    rw [get_insert] at hr
    split_ifs at hr with hk
    · obtain rfl := Option.some.inj hr
      rw [hkey, hk]
    · exact hindexed key r hr
  · intro c P
    apply sumValues_insert_add
    obtain ⟨hc, hb⟩ := Prod.mk.inj hkey
    have hbucket : (rollup.bucket, rollup.bucketStart) = bucket := hb
    unfold loadOf loadInto
    rw [hc, hbucket, hload]
    cases hold : get rollups (usage.credentialId, bucket.1, bucket.2) with
    | none => split_ifs <;> simp
    | some old =>
        obtain ⟨hc', hb'⟩ := Prod.mk.inj (hindexed _ old hold)
        have hbucket' : (old.bucket, old.bucketStart) = bucket := hb'
        simp only [Option.map_some, Option.getD_some, hc', hbucket']
        split_ifs <;> simp
  · intro key
    exact containsKey_insert ..

/-- All buckets of one sample. -/
theorem foldl_addToRollup_spec
    (usage : UsageSampleRecord) (buckets : List (String × DateTime))
    {rollups : HashTable RollupKey UsageRollupRecord}
    (hindexed : Indexed rollups) :
    Indexed (buckets.foldl (addToRollup usage) rollups) ∧
      (∀ c P,
        sumValues (loadOf c P) (buckets.foldl (addToRollup usage) rollups) =
          sumValues (loadOf c P) rollups +
            (buckets.map (loadInto c P usage)).sum) ∧
      ∀ key,
        (buckets.foldl (addToRollup usage) rollups).containsKey key = true ↔
          rollups.containsKey key = true ∨
            (usage.credentialId = key.1 ∧ key.2 ∈ buckets) := by
  induction buckets generalizing rollups with
  | nil =>
      refine ⟨hindexed, ?_, ?_⟩
      · intro c P
        simp
      · intro key
        simp
  | cons bucket buckets ih =>
      obtain ⟨hindexed', hsum, hkeys⟩ :=
        addToRollup_spec usage bucket hindexed
      obtain ⟨hindexed'', hsum', hkeys'⟩ := ih hindexed'
      refine ⟨hindexed'', ?_, ?_⟩
      · intro c P
        rw [List.foldl_cons, hsum' c P, hsum c P, List.map_cons, List.sum_cons,
          add_assoc]
      · intro key
        rw [List.foldl_cons, hkeys' key, hkeys key]
        obtain ⟨c, bucket'⟩ := key
        simp only [Bool.or_eq_true, decide_eq_true_eq, Prod.mk.injEq,
          List.mem_cons]
        constructor
        · rintro ((⟨rfl, rfl⟩ | hold) | ⟨hc, hmem⟩)
          · exact .inr ⟨rfl, .inl rfl⟩
          · exact .inl hold
          · exact .inr ⟨hc, .inr hmem⟩
        · rintro (hold | ⟨hc, rfl | hmem⟩)
          · exact .inl (.inr hold)
          · exact .inl (.inl ⟨hc.symm, rfl⟩)
          · exact .inr ⟨hc, hmem⟩

/-! ## Runs -/

theorem RollupInvariant.recordUsageSample
    {s : MemoryState} (h : RollupInvariant s) (usage : UsageSampleRecord) :
    RollupInvariant (recordUsageSample usage s).2 := by
  simp only [MemoryStore.recordUsageSample]
  split
  · split
    · exact h
    · rename_i buckets hbuckets
      have hof : bucketsOf usage.sampledAt = buckets := by
        rw [bucketsOf, hbuckets, Option.getD_some]
      obtain ⟨hindexed, hsum, hkeys⟩ :=
        foldl_addToRollup_spec usage buckets h.indexed
      refine ⟨hindexed, ?_, ?_, ?_⟩
      · intro c P
        rw [hsum c P, h.total c P, List.map_append, List.sum_append,
          List.map_singleton, List.sum_singleton, sampleLoad, hof]
      · intro key
        rw [hkeys key, h.stored key, ← hof]
        simp only [List.mem_append, List.mem_singleton]
        constructor
        · rintro (⟨old, hold, hkey⟩ | hkey)
          · exact ⟨old, .inl hold, hkey⟩
          · exact ⟨usage, .inr rfl, hkey⟩
        · rintro ⟨old, hold | rfl, hkey⟩
          · exact .inl ⟨old, hold, hkey⟩
          · exact .inr hkey
      · intro old hold
        rcases List.mem_append.mp hold with hold | hold
        · exact h.bucketed old hold
        · obtain rfl := List.mem_singleton.mp hold
          rw [hbuckets]
          rfl
  · exact h

/-- The rollups account for the samples in every reachable state. -/
theorem RollupInvariant.of_reached
    {crates : Crates} {tenantId : String} {s : MemoryState}
    (h : Reached crates tenantId s) :
    RollupInvariant s := by
  induction h with
  | default =>
      refine ⟨?_, ?_, ?_, ?_⟩
      · intro key rollup hget
        cases hget
      · intro c P
        rfl
      · intro key
        constructor
        · intro hkey
          cases hkey
        · rintro ⟨usage, hmem, -⟩
          cases hmem
      · intro usage hmem
        cases hmem
  | @call s _ op t ih =>
      by_cases hwrites : writes .usage op = true
      · -- a sample is the only call that writes the usage tables
        cases op with
        | recordUsageSample usage => exact ih.recordUsageSample usage
        | _ => cases hwrites
      · obtain ⟨hsamples, hrollups⟩ :=
          exec_frame crates tenantId (g := .usage)
            (Bool.not_eq_true _ ▸ hwrites) t s
        constructor <;> simp only [hrollups, hsamples]
        · exact ih.indexed
        · exact ih.total
        · exact ih.stored
        · exact ih.bucketed

/-! ## Buckets of time -/

/-- The first second after a bucket. -/
def bucketEnd (bucket : String × DateTime) : Int :=
  if bucket.1 = "hour" then bucket.2.secs + 3600
  else if bucket.1 = "day" then bucket.2.secs + 86400
  else bucket.2.secs + 86400 * monthDays bucket.2.dateNaive

/-- The instant lies in the hour, day or month that starts there. -/
def LiesIn (bucket : String × DateTime) (t : DateTime) : Prop :=
  bucket.2.secs ≤ t.secs ∧ t.secs < bucketEnd bucket

instance (bucket : String × DateTime) (t : DateTime) :
    Decidable (LiesIn bucket t) :=
  inferInstanceAs (Decidable (_ ∧ _))

/-- The start of the hour, the day or the month of an instant. -/
def startOf (granularity : String) (t : DateTime) : DateTime :=
  if granularity = "hour" then ⟨t.secs - t.secs % 3600, 0⟩
  else if granularity = "day" then ⟨t.secs - t.secs % 86400, 0⟩
  else ⟨86400 * monthFirst t.dateNaive, 0⟩

theorem fromTimestamp_eq
    {secs : Int} {t : DateTime} (h : fromTimestamp secs = some t) :
    t = ⟨secs, 0⟩ := by
  unfold fromTimestamp at h
  split at h
  · exact (Option.some.inj h).symm
  · cases h

/-- The buckets of an instant are those that start where its periods start. -/
theorem bucketsOf_eq
    {t : DateTime} (h : (usageBucketStarts t).isSome = true) :
    bucketsOf t = granularities.map (fun g => (g, startOf g t)) := by
  obtain ⟨buckets, hbuckets⟩ := Option.isSome_iff_exists.mp h
  rw [bucketsOf, hbuckets, Option.getD_some]
  simp only [usageBucketStarts, Option.bind_eq_bind, Option.bind_eq_some_iff,
    Option.pure_def, Option.some.injEq] at hbuckets
  obtain ⟨hour, hhour, day, hday, month, hmonth, rfl⟩ := hbuckets
  obtain rfl := fromTimestamp_eq hhour
  obtain rfl := fromTimestamp_eq hday
  have hstart : month = ⟨86400 * monthFirst t.dateNaive, 0⟩ := by
    simp only [monthBucketStart, withDay_one, Option.bind_eq_bind,
      Option.bind_some, andHms] at hmonth
    simp at hmonth
    rw [← hmonth, mul_comm]
  rw [hstart]
  rfl

/-- An instant lies in the period that starts where its own one starts. -/
theorem liesIn_iff
    {g : String} (hg : g ∈ granularities) (t₀ t : DateTime) :
    LiesIn (g, startOf g t₀) t ↔ startOf g t = startOf g t₀ := by
  simp only [granularities, List.mem_cons, List.not_mem_nil, or_false] at hg
  rcases hg with rfl | rfl | rfl
  · simp only [LiesIn, bucketEnd, startOf, if_true, DateTime.mk.injEq,
      and_true]
    omega
  · simp only [LiesIn, bucketEnd, startOf, if_true, DateTime.mk.injEq,
      and_true, String.reduceEq, if_false]
    omega
  · have hmonth := monthFirst_eq_iff t₀.dateNaive t.dateNaive
    have hstart : ∀ n : Int, 86400 * n / 86400 = n := by
      intro n
      omega
    simp only [LiesIn, bucketEnd, startOf, DateTime.mk.injEq, and_true,
      String.reduceEq, if_false, DateTime.dateNaive, hstart] at hmonth ⊢
    omega

/-- A period of a finer granularity lies within one of the coarser one. -/
theorem liesIn_startOf_iff
    {g g' : String} (hg : (g, g') ∈ [("hour", "day"), ("day", "month")])
    (t₀ t : DateTime) :
    LiesIn (g', startOf g' t₀) (startOf g t) ↔ LiesIn (g', startOf g' t₀) t := by
  simp only [List.mem_cons, Prod.mk.injEq, List.not_mem_nil, or_false] at hg
  rcases hg with ⟨rfl, rfl⟩ | ⟨rfl, rfl⟩
  · simp only [LiesIn, bucketEnd, startOf, if_true, String.reduceEq, if_false]
    omega
  · simp only [LiesIn, bucketEnd, startOf, if_true, String.reduceEq, if_false]
    omega

/-! ## What the rollups sum -/

/-- The samples of a credential in one bucket. -/
def samplesIn
    (c : Option String) (bucket : String × DateTime)
    (samples : List UsageSampleRecord) : List UsageSampleRecord :=
  (samplesOf c samples).filter (fun usage => LiesIn bucket usage.sampledAt)

/-- The rollups of a credential at one granularity within a bucket. -/
def rollupsWithin
    (c : Option String) (g : String) (bucket : String × DateTime)
    (s : MemoryState) : List UsageRollupRecord :=
  s.usageRollups.values.filter (fun rollup =>
    rollup.credentialId = c ∧ rollup.bucket = g ∧
      LiesIn bucket rollup.bucketStart)

theorem sum_map_filter
    {α M : Type} [AddCommMonoid M]
    (p : α → Bool) (f : α → M) (l : List α) :
    ((l.filter p).map f).sum =
      (l.map (fun a => if p a then f a else 0)).sum := by
  induction l with
  | nil =>
      rfl
  | cons a l ih =>
      by_cases ha : p a = true <;> simp [ha, ih]

theorem sum_samplesIn
    {M : Type} [AddCommMonoid M] (f : UsageSampleRecord → M)
    (c : Option String) (bucket : String × DateTime)
    (samples : List UsageSampleRecord) :
    ((samplesIn c bucket samples).map f).sum =
      (samples.map (fun usage =>
        if usage.credentialId = c ∧ LiesIn bucket usage.sampledAt then f usage
        else 0)).sum := by
  rw [samplesIn, samplesOf, List.filter_filter, sum_map_filter]
  congr 2
  funext usage
  simp [and_comm]

/-- A selection within one granularity takes a sample at most once. -/
theorem sampleLoad_of_one
    {c : Option String} {P : String × DateTime → Bool}
    {usage : UsageSampleRecord} {g : String} (hg : g ∈ granularities)
    (hP : ∀ bucket, P bucket = true → bucket.1 = g)
    (hbucketed : (usageBucketStarts usage.sampledAt).isSome = true) :
    sampleLoad c P usage =
      if usage.credentialId = c ∧ P (g, startOf g usage.sampledAt) = true then
        usage.load
      else
        0 := by
  have hother : ∀ g' start, g' ≠ g → P (g', start) = false := by
    intro g' start hne
    rw [Bool.eq_false_iff]
    intro h
    exact hne (hP _ h)
  rw [sampleLoad, bucketsOf_eq hbucketed]
  simp only [granularities, List.mem_cons, List.not_mem_nil, or_false] at hg
  rcases hg with rfl | rfl | rfl <;>
    simp [granularities, loadInto, hother]

section Sums

variable {s : MemoryState} (h : RollupInvariant s)
include h

/-- A stored bucket starts where the period of some sample starts. -/
theorem RollupInvariant.start
    {c : Option String} {g : String} {start : DateTime}
    {rollup : UsageRollupRecord}
    (hget : get s.usageRollups (c, g, start) = some rollup) :
    g ∈ granularities ∧ ∃ t, start = startOf g t := by
  have hstored := (h.stored (c, g, start)).mp
    ((containsKey_iff _ _).mpr ⟨rollup, hget⟩)
  obtain ⟨usage, hmem, -, hbucket⟩ := hstored
  rw [bucketsOf_eq (h.bucketed usage hmem)] at hbucket
  obtain ⟨g', hg', hstart⟩ := List.mem_map.mp hbucket
  obtain ⟨rfl, rfl⟩ := Prod.mk.inj hstart
  exact ⟨hg', usage.sampledAt, rfl⟩

/-- Each rollup holds the samples in its bucket. -/
theorem RollupInvariant.load_eq
    {c : Option String} {bucket : String × DateTime}
    {rollup : UsageRollupRecord}
    (hget : get s.usageRollups (c, bucket) = some rollup) :
    rollup.load =
      ((samplesIn c bucket s.usageSamples).map UsageSampleRecord.load).sum := by
  obtain ⟨g, start⟩ := bucket
  obtain ⟨hg, t₀, rfl⟩ := h.start hget
  have htotal := h.total c (fun bucket => bucket = (g, startOf g t₀))
  rw [sumValues_eq_of_only _ _ (c, g, startOf g t₀) ?_, hget] at htotal
  · obtain ⟨hc, hb⟩ := Prod.mk.inj (h.indexed _ _ hget)
    simp only [Option.map_some, Option.getD_some, loadOf, hc, hb,
      decide_true, and_self, if_true] at htotal
    rw [htotal, sum_samplesIn]
    congr 1
    apply List.map_congr_left
    intro usage hmem
    rw [sampleLoad_of_one hg ?_ (h.bucketed usage hmem)]
    · simp only [liesIn_iff hg, decide_eq_true_eq, Prod.mk.injEq, true_and]
    · intro bucket hbucket
      exact congrArg Prod.fst (of_decide_eq_true hbucket)
  · intro key other hother hne
    have hkey := h.indexed _ _ hother
    rw [loadOf, if_neg]
    rintro ⟨rfl, hb⟩
    rw [of_decide_eq_true hb] at hkey
    exact hne hkey.symm

/-- The samples in a bucket are those in the finer rollups within it. -/
theorem RollupInvariant.sum_within
    {M : Type} [AddCommMonoid M] (f : UsageSampleRecord → M)
    {c : Option String} {g g' : String} {start : DateTime}
    {rollup : UsageRollupRecord}
    (hg : (g, g') ∈ [("hour", "day"), ("day", "month")])
    (hget : get s.usageRollups (c, g', start) = some rollup) :
    ((rollupsWithin c g (g', start) s).map (fun inner =>
        ((samplesIn c (g, inner.bucketStart) s.usageSamples).map f).sum)).sum =
      ((samplesIn c (g', start) s.usageSamples).map f).sum := by
  obtain ⟨-, t₀, rfl⟩ := h.start hget
  have hfine : g ∈ granularities := by
    simp only [List.mem_cons, Prod.mk.injEq, List.not_mem_nil, or_false] at hg
    rcases hg with ⟨rfl, -⟩ | ⟨rfl, -⟩ <;> simp [granularities]
  -- what one rollup and one sample have to do with each other
  let share (inner : UsageRollupRecord) (usage : UsageSampleRecord) : M :=
    if (inner.credentialId = c ∧ inner.bucket = g ∧
        LiesIn (g', startOf g' t₀) inner.bucketStart) ∧
        usage.credentialId = c ∧
        LiesIn (g, inner.bucketStart) usage.sampledAt then
      f usage
    else 0
  have hrollups :
      ((rollupsWithin c g (g', startOf g' t₀) s).map (fun inner =>
        ((samplesIn c (g, inner.bucketStart) s.usageSamples).map f).sum)).sum =
        sumValues (fun inner => (s.usageSamples.map (share inner)).sum)
          s.usageRollups := by
    rw [rollupsWithin, sum_map_filter, sumValues]
    congr 2
    funext inner
    rw [sum_samplesIn]
    simp only [share, decide_eq_true_eq]
    split_ifs with hin
    · simp [hin]
    · simp [hin]
  have hsample : ∀ usage ∈ s.usageSamples,
      sumValues (fun inner => share inner usage) s.usageRollups =
        if usage.credentialId = c ∧
            LiesIn (g', startOf g' t₀) usage.sampledAt then f usage
        else 0 := by
    intro usage hmem
    rw [sumValues_eq_of_only _ _ (c, g, startOf g usage.sampledAt) ?_]
    · by_cases hc : usage.credentialId = c
      · have hstored := (h.stored (c, g, startOf g usage.sampledAt)).mpr
          ⟨usage, hmem, hc, by
            rw [bucketsOf_eq (h.bucketed usage hmem)]
            exact List.mem_map_of_mem hfine⟩
        obtain ⟨inner, hinner⟩ := (containsKey_iff _ _).mp hstored
        obtain ⟨hic, hib⟩ := Prod.mk.inj (h.indexed _ _ hinner)
        obtain ⟨hig, histart⟩ := Prod.mk.inj hib
        have hself : LiesIn (g, startOf g usage.sampledAt) usage.sampledAt :=
          (liesIn_iff hfine _ _).mpr rfl
        simp only [hinner, Option.map_some, Option.getD_some, share, hic, hig,
          histart, hc, liesIn_startOf_iff hg, hself, true_and, and_true]
      · simp only [share, hc, false_and, and_false, if_false]
        cases get s.usageRollups (c, g, startOf g usage.sampledAt) <;> rfl
    · intro key inner hinner hne
      simp only [share]
      rw [if_neg]
      rintro ⟨⟨rfl, rfl, -⟩, -, hin⟩
      have hkey := h.indexed _ _ hinner
      obtain ⟨-, t, ht⟩ := h.start (hkey ▸ hinner)
      rw [ht, liesIn_iff hfine] at hin
      rw [hin, ← ht, hkey] at hne
      exact hne rfl
  rw [hrollups, sumValues_sum_comm, sum_samplesIn]
  congr 1
  exact List.map_congr_left hsample

end Sums

/-! ## Conservation -/

/-- The sample that a call records. -/
def acceptedSample (e : StoreEntry) : Option UsageSampleRecord :=
  match e with
  | ⟨.recordUsageSample usage, _, s⟩ =>
      if (recordUsageSample usage s).1.isOk then some usage else none
  | _ => none

/-- The samples that a sequence of calls records, oldest first. -/
def accepted (log : List StoreEntry) : List UsageSampleRecord :=
  log.filterMap acceptedSample

/-- The bytes that a credential sent in a bucket, as an integer. -/
def uplinkIn
    (c : Option String) (bucket : String × DateTime)
    (samples : List UsageSampleRecord) : Int :=
  ((samplesIn c bucket samples).map (fun usage => usage.uplinkBytes.toInt)).sum

/-- The bytes that a credential received in a bucket, as an integer. -/
def downlinkIn
    (c : Option String) (bucket : String × DateTime)
    (samples : List UsageSampleRecord) : Int :=
  ((samplesIn c bucket samples).map
    (fun usage => usage.downlinkBytes.toInt)).sum

/-- The sums of every stored bucket fit in 64 bits. -/
def SumsFit (samples : List UsageSampleRecord) (s : MemoryState) : Prop :=
  ∀ rollup ∈ s.usageRollups.values,
    Fits (uplinkIn rollup.credentialId (rollup.bucket, rollup.bucketStart)
        samples) ∧
      Fits (downlinkIn rollup.credentialId (rollup.bucket, rollup.bucketStart)
        samples)

instance (samples : List UsageSampleRecord) (s : MemoryState) :
    Decidable (SumsFit samples s) :=
  inferInstanceAs (Decidable (∀ rollup ∈ s.usageRollups.values, _))

/-- No byte of the samples is lost or counted twice. -/
structure UsageConserved
    (samples : List UsageSampleRecord) (s : MemoryState) : Prop where
  rollup : ∀ c bucket r, get s.usageRollups (c, bucket) = some r →
    r.uplinkBytes.toInt = uplinkIn c bucket samples ∧
      r.downlinkBytes.toInt = downlinkIn c bucket samples
  within : ∀ c g g' start r, (g, g') ∈ [("hour", "day"), ("day", "month")] →
    get s.usageRollups (c, g', start) = some r →
    r.uplinkBytes.toInt =
        ((rollupsWithin c g (g', start) s).map
          (fun inner => inner.uplinkBytes.toInt)).sum ∧
      r.downlinkBytes.toInt =
        ((rollupsWithin c g (g', start) s).map
          (fun inner => inner.downlinkBytes.toInt)).sum
  partition : ∀ usage ∈ samples, ∀ g ∈ granularities,
    ∃! start, s.usageRollups.containsKey (usage.credentialId, g, start) ∧
      LiesIn (g, start) usage.sampledAt

theorem MemoryStore.History.usageSamples_eq
    {crates : Crates} {tenantId : String} {log : List StoreEntry}
    {s : MemoryState} (h : MemoryStore.History crates tenantId log s) :
    s.usageSamples = accepted log := by
  induction h with
  | new => rfl
  | @call log s _ op t ih =>
      have hlog : accepted (log ++ [⟨op, t, s⟩]) =
          accepted log ++ (acceptedSample ⟨op, t, s⟩).toList := by
        rw [accepted, List.filterMap_append]
        cases hsample : acceptedSample ⟨op, t, s⟩ <;>
          simp [accepted, hsample]
      rw [hlog, ← ih]
      by_cases hwrites : writes .usage op = true
      · cases op with
        | recordUsageSample usage =>
            simp only [afterCall, exec, acceptedSample,
              MemoryStore.recordUsageSample]
            split
            · split
              · exact (List.append_nil _).symm
              · rfl
            · exact (List.append_nil _).symm
        | _ => cases hwrites
      · have hnone : acceptedSample ⟨op, t, s⟩ = none := by
          cases op with
          | recordUsageSample usage => exact absurd rfl hwrites
          | _ => rfl
        have hframe := exec_frame crates tenantId (g := .usage)
          (Bool.not_eq_true _ ▸ hwrites) t s
        rw [hnone, Option.toList_none, List.append_nil]
        exact hframe.1

/-- The components of a sum of loads, as wrapped integers. -/
theorem toInt_sum_loads
    {α : Type} (f : α → Load) (l : List α) :
    ((l.map f).sum).1.toInt =
        ((l.map (fun a => (f a).1.toInt)).sum).bmod (2 ^ 64) ∧
      ((l.map f).sum).2.toInt =
        ((l.map (fun a => (f a).2.toInt)).sum).bmod (2 ^ 64) := by
  have hwrapped : ∀ n : Int64, n.toInt = n.toInt.bmod (2 ^ 64) := by
    intro n
    exact (Int64.toInt_bmod n).symm
  rw [← toInt_sum_map (fun a => (f a).1) _ (fun a => hwrapped _),
    ← toInt_sum_map (fun a => (f a).2) _ (fun a => hwrapped _)]
  induction l with
  | nil => exact ⟨rfl, rfl⟩
  | cons a l ih =>
      have hfst := Int64.toInt_inj.mp ih.1
      have hsnd := Int64.toInt_inj.mp ih.2
      simp [hfst, hsnd]

/--
After any sequence of calls whose sums fit in 64 bits, each rollup is the sum
of the accepted samples in its bucket, and of the finer rollups within it; and
each accepted sample lies in one stored bucket of each granularity.
-/
theorem usage_conserved
    (crates : Crates) (tenantId : String) {log : List StoreEntry}
    {s : MemoryState} (h : MemoryStore.History crates tenantId log s)
    (hfits : SumsFit (accepted log) s) :
    UsageConserved (accepted log) s := by
  have hinv := RollupInvariant.of_reached h.reached
  have hsamples := h.usageSamples_eq
  have hrollup : ∀ c bucket r, get s.usageRollups (c, bucket) = some r →
      r.uplinkBytes.toInt = uplinkIn c bucket (accepted log) ∧
        r.downlinkBytes.toInt = downlinkIn c bucket (accepted log) := by
    intro c bucket r hget
    have hfit := hfits r ((mem_values _ _).mpr ⟨_, hget⟩)
    obtain ⟨hc, hb⟩ := Prod.mk.inj (hinv.indexed _ _ hget)
    rw [hc, hb] at hfit
    have hload := hinv.load_eq hget
    rw [hsamples] at hload
    obtain ⟨hup, hdown⟩ := toInt_sum_loads UsageSampleRecord.load
      (samplesIn c bucket (accepted log))
    rw [← hload] at hup hdown
    exact ⟨hup.trans hfit.1.bmod_eq, hdown.trans hfit.2.bmod_eq⟩
  refine ⟨hrollup, ?_, ?_⟩
  · intro c g g' start r hg hget
    obtain ⟨hup, hdown⟩ := hrollup _ _ _ hget
    have hinner : ∀ inner ∈ rollupsWithin c g (g', start) s,
        inner.uplinkBytes.toInt =
            uplinkIn c (g, inner.bucketStart) (accepted log) ∧
          inner.downlinkBytes.toInt =
            downlinkIn c (g, inner.bucketStart) (accepted log) := by
      intro inner hinner
      obtain ⟨hmem, hin⟩ := List.mem_filter.mp hinner
      obtain ⟨hc, hb, -⟩ := of_decide_eq_true hin
      obtain ⟨key, hkey⟩ := (mem_values _ _).mp hmem
      have hindex := hinv.indexed _ _ hkey
      rw [hc, hb] at hindex
      exact hrollup _ _ _ (hindex ▸ hkey)
    rw [hup, hdown, uplinkIn, downlinkIn, ← hsamples,
      ← hinv.sum_within _ hg hget, ← hinv.sum_within _ hg hget, hsamples]
    constructor
    · congr 1
      apply List.map_congr_left
      intro inner hmem
      exact ((hinner inner hmem).1).symm
    · congr 1
      apply List.map_congr_left
      intro inner hmem
      exact ((hinner inner hmem).2).symm
  · intro usage hmem g hg
    rw [← hsamples] at hmem
    have hbuckets := bucketsOf_eq (hinv.bucketed usage hmem)
    refine ⟨startOf g usage.sampledAt, ⟨?_, ?_⟩, ?_⟩
    · refine (hinv.stored _).mpr ⟨usage, hmem, rfl, ?_⟩
      rw [hbuckets]
      exact List.mem_map_of_mem hg
    · exact (liesIn_iff hg _ _).mpr rfl
    · rintro start ⟨hstored, hin⟩
      obtain ⟨r, hget⟩ := (containsKey_iff _ _).mp hstored
      obtain ⟨-, t, rfl⟩ := hinv.start hget
      exact ((liesIn_iff hg _ _).mp hin).symm

/-- Samples out of order and before the epoch, and one of an unknown node. -/
def meteredCalls : List (StoreCall × Tick) :=
  [ (.registerNode (.new "tenant" "node" "node.example" "1.8.0" ⟨0, 0⟩)),
    (.recordUsageSample
      ⟨"tenant", "node", some "client", 30, 10, ⟨1700000000, 0⟩⟩),
    (.recordUsageSample
      ⟨"tenant", "node", some "client", 5, 2, ⟨1699990000, 0⟩⟩),
    (.recordUsageSample ⟨"tenant", "node", none, 7, -3, ⟨-1, 0⟩⟩),
    (.recordUsageSample
      ⟨"tenant", "other", some "client", 1, 1, ⟨1700000000, 0⟩⟩) ].map
    (fun call => (call, referenceTick 1700000000 "id"))

theorem usage_conserved_metered :
    (accepted (entriesFrom referenceCrates "tenant" meteredCalls
      .default)).length = 3 ∧
      UsageConserved
        (accepted (entriesFrom referenceCrates "tenant" meteredCalls .default))
        (execAll referenceCrates "tenant" meteredCalls .default) := by
  refine ⟨by decide +kernel, ?_⟩
  refine usage_conserved referenceCrates "tenant"
    (MemoryStore.History.new.execAll meteredCalls) ?_
  decide +kernel

end ProxyControl
