import Mathlib.Order.Bounds.Basic
import ProxyControl.Storage.UsageRollups

/-!
# The buckets of an instant

Every instant of a representable day has its three buckets: none of the
conversions that compute them fails.  Each bucket starts at the last boundary not after the
instant, so instants of one hour share their day, and those of one day their
month.
-/

namespace ProxyControl

open Calendar

/-- The start of an hour, of a day or of a month. -/
def IsBoundary (granularity : String) (b : DateTime) : Prop :=
  b.nanos = 0 ∧
    (if granularity = "hour" then b.secs % 3600 = 0
    else b.secs % 86400 = 0 ∧
      (granularity = "day" ∨ (civilFromDays b.dateNaive).2.2 = 1))

/-- The last boundary not after the instant. -/
def LastBoundary (granularity : String) (t b : DateTime) : Prop :=
  IsGreatest {b | IsBoundary granularity b ∧ b ≤ t} b

variable {t : DateTime}

/-! ## Instants and their seconds -/

theorem le_iff_secs_le
    {secs : Int} :
    (⟨secs, 0⟩ : DateTime) ≤ t ↔ secs ≤ t.secs := by
  have hkey : (⟨secs, 0⟩ : DateTime) ≤ t ↔
      toLex (secs, 0) ≤ toLex (t.secs, t.nanos) := Iff.rfl
  rw [hkey, Prod.Lex.toLex_le_toLex]
  constructor
  · rintro (hlt | ⟨heq, -⟩)
    · exact hlt.le
    · exact heq.le
  · intro hle
    rcases hle.lt_or_eq with hlt | heq
    · exact .inl hlt
    · exact .inr ⟨heq, Nat.zero_le _⟩

/-- The last boundary is found among the seconds. -/
theorem lastBoundary_of_secs
    {granularity : String} {start : Int}
    (hboundary : IsBoundary granularity ⟨start, 0⟩) (hle : start ≤ t.secs)
    (hlast : ∀ secs, IsBoundary granularity ⟨secs, 0⟩ → secs ≤ t.secs →
      secs ≤ start) :
    LastBoundary granularity t ⟨start, 0⟩ := by
  refine ⟨⟨hboundary, le_iff_secs_le.mpr hle⟩, ?_⟩
  rintro ⟨secs, nanos⟩ ⟨hother, hbefore⟩
  obtain rfl : nanos = 0 := hother.1
  exact le_iff_secs_le.mpr (hlast secs hother (le_iff_secs_le.mp hbefore))

/-! ## The first of a month -/

theorem monthFirst_monthFirst
    (day : Int) :
    monthFirst (monthFirst day) = monthFirst day := by
  have h := monthFirst_le_lt day
  exact (month_eq_of_mem le_rfl (by omega)).1

theorem monthFirst_eq_self_iff
    (day : Int) :
    monthFirst day = day ↔ (civilFromDays day).2.2 = 1 := by
  unfold monthFirst
  omega

/-- A month begins no later than any other first day before its end. -/
theorem le_monthFirst
    {day first : Int} (hfirst : monthFirst first = first) (hle : first ≤ day) :
    first ≤ monthFirst day := by
  by_contra hlt
  have hday := monthFirst_le_lt day
  have hsame := (month_eq_of_mem (by omega : monthFirst day ≤ first)
    (by omega)).1
  omega

/-! ## The three buckets -/

theorem startOf_secs_le
    {granularity : String} (hg : granularity ∈ granularities) :
    (startOf granularity t).secs ≤ t.secs := by
  have h := (liesIn_iff hg t t).mpr rfl
  exact h.1

/-- The bucket of an instant starts at the last boundary not after it. -/
theorem startOf_lastBoundary
    {granularity : String} (hg : granularity ∈ granularities) :
    LastBoundary granularity t (startOf granularity t) := by
  have hle := startOf_secs_le (t := t) hg
  simp only [granularities, List.mem_cons, List.not_mem_nil, or_false] at hg
  rcases hg with rfl | rfl | rfl
  · refine lastBoundary_of_secs ⟨rfl, ?_⟩ hle ?_
    · simp
    · rintro secs ⟨-, hsecs⟩ hbefore
      simp only [if_true] at hsecs
      omega
  · refine lastBoundary_of_secs ⟨rfl, ?_⟩ hle ?_
    · simp
    · rintro secs ⟨-, hsecs⟩ hbefore
      simp only [String.reduceEq, if_false] at hsecs
      omega
  · have hday : ∀ n : Int, 86400 * n / 86400 = n := by
      intro n
      omega
    refine lastBoundary_of_secs ⟨rfl, ?_⟩ hle ?_
    · simp only [String.reduceEq, if_false, false_or, DateTime.dateNaive, hday]
      refine ⟨by omega, ?_⟩
      rw [← monthFirst_eq_self_iff]
      exact monthFirst_monthFirst _
    · rintro secs ⟨-, hsecs⟩ hbefore
      simp only [String.reduceEq, if_false, false_or, DateTime.dateNaive]
        at hsecs
      have hfirst : secs / 86400 ≤ monthFirst (t.secs / 86400) :=
        le_monthFirst ((monthFirst_eq_self_iff _).mpr hsecs.2) (by omega)
      simp only [DateTime.dateNaive]
      omega

theorem fromTimestamp_of_day
    {secs : Int} (hmin : minDay ≤ secs / 86400) (hmax : secs / 86400 ≤ maxDay) :
    fromTimestamp secs = some ⟨secs, 0⟩ :=
  if_pos ⟨hmin, hmax⟩

theorem monthFirst_minDay : monthFirst minDay = minDay := by
  decide

/-- The periods of an instant start on days that are represented. -/
theorem startOf_representable
    (hday : minDay ≤ t.dateNaive ∧ t.dateNaive ≤ maxDay) (granularity : String) :
    (startOf granularity t).Representable := by
  obtain ⟨hmin, hmax⟩ := hday
  have hmonth := le_monthFirst monthFirst_minDay hmin
  have hday := (monthFirst_le_lt t.dateNaive).1
  refine ⟨?_, .inl ?_⟩
  · simp only [startOf, DateTime.dateNaive] at *
    split_ifs <;> simp only <;> omega
  · simp only [startOf]
    split_ifs <;> simp

section Total

variable (hday : minDay ≤ t.dateNaive ∧ t.dateNaive ≤ maxDay)
include hday

/-! None of the conversions fails. -/

theorem hourBucketStart_eq :
    hourBucketStart t = some (startOf "hour" t) := by
  obtain ⟨hmin, hmax⟩ := (startOf_representable hday "hour").day
  exact fromTimestamp_of_day hmin hmax

theorem dayBucketStart_eq :
    dayBucketStart t = some (startOf "day" t) := by
  obtain ⟨hmin, hmax⟩ := (startOf_representable hday "day").day
  exact fromTimestamp_of_day hmin hmax

omit hday in
theorem monthBucketStart_eq :
    monthBucketStart t = some (startOf "month" t) := by
  simp only [monthBucketStart, withDay_one, Option.bind_eq_bind,
    Option.bind_some, andHms]
  simp [startOf, mul_comm]

theorem usageBucketStarts_eq :
    usageBucketStarts t =
      some (granularities.map (fun g => (g, startOf g t))) := by
  simp only [usageBucketStarts, hourBucketStart_eq hday, dayBucketStart_eq hday,
    monthBucketStart_eq]
  rfl

end Total

/-- Instants with the same finer bucket have the same coarser one. -/
theorem startOf_nested
    {g g' : String} (hg : (g, g') ∈ [("hour", "day"), ("day", "month")])
    {t₀ : DateTime} (h : startOf g t = startOf g t₀) :
    startOf g' t = startOf g' t₀ := by
  have hcoarse : g' ∈ granularities := by
    simp only [List.mem_cons, Prod.mk.injEq, List.not_mem_nil, or_false] at hg
    rcases hg with ⟨-, rfl⟩ | ⟨-, rfl⟩ <;> decide
  rw [← liesIn_iff hcoarse, ← liesIn_startOf_iff hg, h, liesIn_startOf_iff hg,
    liesIn_iff hcoarse]

/-- The bucket is that of the instant: its start is represented and the last one. -/
structure IsBucket (granularity : String) (t start : DateTime) : Prop where
  representable : start.Representable
  last : LastBoundary granularity t start

/--
The buckets of an instant of a representable day exist, each starts at the last
boundary not after the instant, and the finer ones determine the coarser ones.
-/
theorem usage_buckets_total_and_nested
    (hday : minDay ≤ t.dateNaive ∧ t.dateNaive ≤ maxDay) :
    ∃ hour day month,
      hourBucketStart t = some hour ∧ dayBucketStart t = some day ∧
        monthBucketStart t = some month ∧
        usageBucketStarts t =
          some [("hour", hour), ("day", day), ("month", month)] ∧
        IsBucket "hour" t hour ∧ IsBucket "day" t day ∧
        IsBucket "month" t month ∧
        ∀ t' : DateTime, minDay ≤ t'.dateNaive ∧ t'.dateNaive ≤ maxDay →
          (hourBucketStart t' = some hour → dayBucketStart t' = some day) ∧
            (dayBucketStart t' = some day → monthBucketStart t' = some month) := by
  have hbucket : ∀ g ∈ granularities, IsBucket g t (startOf g t) := fun g hg =>
    ⟨startOf_representable hday g, startOf_lastBoundary hg⟩
  refine ⟨startOf "hour" t, startOf "day" t, startOf "month" t,
    hourBucketStart_eq hday, dayBucketStart_eq hday, monthBucketStart_eq,
    usageBucketStarts_eq hday, hbucket _ (by decide), hbucket _ (by decide),
    hbucket _ (by decide), ?_⟩
  intro t' hday'
  rw [hourBucketStart_eq hday', dayBucketStart_eq hday', monthBucketStart_eq]
  simp only [Option.some.injEq]
  exact ⟨startOf_nested (by decide), startOf_nested (by decide)⟩

/-- The last instant of all. -/
theorem usage_buckets_total_and_nested_last :
    ∃ hour day month,
      hourBucketStart ⟨86400 * maxDay + 86399, 999999999⟩ = some hour ∧
        dayBucketStart ⟨86400 * maxDay + 86399, 999999999⟩ = some day ∧
        monthBucketStart ⟨86400 * maxDay + 86399, 999999999⟩ = some month := by
  obtain ⟨hour, day, month, hhour, hday, hmonth, -⟩ :=
    usage_buckets_total_and_nested
      (t := ⟨86400 * maxDay + 86399, 999999999⟩)
      (by decide)
  exact ⟨hour, day, month, hhour, hday, hmonth⟩

end ProxyControl
