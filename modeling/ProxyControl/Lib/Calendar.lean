import Mathlib.Order.Basic
import Mathlib.Data.Prod.Lex
import Mathlib.Data.Int.Order.Basic
import Mathlib.Tactic.IntervalCases

/-!
# UTC instants and the Gregorian calendar

An instant is a number of seconds since 1970-01-01 00:00:00 UTC and a fraction
in nanoseconds; the fraction of a leap second is at least `10 ^ 9`.  Instants
are ordered by seconds, then by fraction.

A calendar day is its number counted from 1970-01-01.  `civilFromDays` is the
proleptic Gregorian calendar; the representable days run from the first of
January of year -262143 to the last of December of year 262142.  The months
partition the days (`monthFirst_le_lt`, `monthFirst_eq_iff`).
-/

namespace Calendar

/-- A UTC instant. -/
structure DateTime where
  secs : Int
  nanos : Nat
deriving DecidableEq

namespace DateTime

/-- The sort key of an instant. -/
def key (t : DateTime) : Int ×ₗ Nat :=
  toLex (t.secs, t.nanos)

theorem key_injective : Function.Injective key := by
  rintro ⟨s, n⟩ ⟨s', n'⟩ h
  have h' : (s, n) = (s', n') := toLex.injective h
  simp only [Prod.mk.injEq] at h'
  rw [h'.1, h'.2]

instance : LinearOrder DateTime :=
  LinearOrder.lift' key key_injective

/-- The instant `n` seconds later. -/
def addSeconds (t : DateTime) (n : Int) : DateTime :=
  ⟨t.secs + n, t.nanos⟩

/-- Whole seconds since the epoch. -/
def timestamp (t : DateTime) : Int :=
  t.secs

/-- The calendar day of an instant. -/
def dateNaive (t : DateTime) : Int :=
  t.secs / 86400

end DateTime

/-- The first representable day. -/
def minDay : Int := -96465292

/-- The last representable day. -/
def maxDay : Int := 95026236

/--
The instants that have a text of their own.  A leap second is the second after
the last of a minute, and has the number of that one; the type itself would also
hold one off the minute's end.
-/
structure DateTime.Representable (t : DateTime) : Prop where
  day : minDay ≤ t.dateNaive ∧ t.dateNaive ≤ maxDay
  nanos : t.nanos < 1000000000 ∨
    t.nanos < 2000000000 ∧ t.secs % 60 = 59

instance (t : DateTime) : Decidable t.Representable :=
  decidable_of_iff
    ((minDay ≤ t.dateNaive ∧ t.dateNaive ≤ maxDay) ∧
      (t.nanos < 1000000000 ∨ t.nanos < 2000000000 ∧ t.secs % 60 = 59))
    ⟨fun h => ⟨h.1, h.2⟩, fun h => ⟨h.day, h.nanos⟩⟩

/-- The instant at a number of seconds, when its day is representable. -/
def fromTimestamp (secs : Int) : Option DateTime :=
  if minDay ≤ secs / 86400 ∧ secs / 86400 ≤ maxDay then
    some ⟨secs, 0⟩
  else
    none

/-- Year, month and day of the month of a calendar day. -/
def civilFromDays (day : Int) : Int × Int × Int :=
  -- the calendar repeats every 400 years of 146097 days, counted from 1 March
  let z := day + 719468
  let era := z / 146097
  let doe := z - era * 146097
  let yoe := (doe - doe / 1460 + doe / 36524 - doe / 146096) / 365
  let doy := doe - (365 * yoe + yoe / 4 - yoe / 100)
  let mp := (5 * doy + 2) / 153
  let month := if mp < 10 then mp + 3 else mp - 9
  let year := yoe + era * 400 + (if month ≤ 2 then 1 else 0)
  (year, month, doy - (153 * mp + 2) / 5 + 1)

/-- Leap years of the Gregorian calendar. -/
def isLeapYear (year : Int) : Bool :=
  year % 4 = 0 ∧ (year % 100 ≠ 0 ∨ year % 400 = 0)

/-- Number of days of a month. -/
def daysInMonth (year month : Int) : Int :=
  if month = 2 then
    if isLeapYear year then 29 else 28
  else if month = 4 ∨ month = 6 ∨ month = 9 ∨ month = 11 then 30
  else 31

/-- The day of the same month with the given day of the month, if it exists. -/
def withDay (day : Int) (dayOfMonth : Int) : Option Int :=
  match civilFromDays day with
  | (year, month, d) =>
      if 1 ≤ dayOfMonth ∧ dayOfMonth ≤ daysInMonth year month then
        some (day - d + dayOfMonth)
      else
        none

/-- The instant at a wall-clock time of a day, if the time exists. -/
def andHms (day : Int) (hour minute second : Nat) : Option DateTime :=
  if hour < 24 ∧ minute < 60 ∧ second < 60 then
    some ⟨day * 86400 + (hour * 3600 + minute * 60 + second : Nat), 0⟩
  else
    none

/-! ## Months

The calendar is inverted: a day is found from its era, its year, its month and
its place in the month, where years and months are counted from March. -/

/-- Days of an era before its year `y`; a year begins on the first of March. -/
def yearStart (y : Int) : Int :=
  365 * y + y / 4 - y / 100 + y / 400

/-- Days of a year before its month `m`, counted from March. -/
def monthStart (m : Int) : Int :=
  (153 * m + 2) / 5

/-- The days of an era without its leap days. -/
def commonDays (doe : Int) : Int :=
  doe - doe / 1460 + doe / 36524 - doe / 146096

theorem commonDays_mono
    {a b : Int} (h : a ≤ b) (_ : 0 ≤ a) (_ : b < 146097) :
    commonDays a ≤ commonDays b := by
  unfold commonDays
  omega

/-- A year holds its 365 common days. -/
theorem commonDays_year :
    ∀ y : Fin 400, 365 * (y : Int) ≤ commonDays (yearStart y) ∧
      commonDays (yearStart (y + 1) - 1) < 365 * ((y : Int) + 1) := by
  decide +kernel

theorem yearOfEra_eq
    {doe y : Int} (hy : 0 ≤ y) (hy' : y < 400)
    (h : yearStart y ≤ doe) (h' : doe < yearStart (y + 1)) :
    commonDays doe / 365 = y := by
  have hstart : 0 ≤ yearStart y ∧ yearStart (y + 1) ≤ 146097 := by
    unfold yearStart
    omega
  obtain ⟨n, rfl⟩ := Int.eq_ofNat_of_zero_le hy
  have hn : n < 400 := by omega
  obtain ⟨hlow, hhigh⟩ := commonDays_year ⟨n, hn⟩
  have hfirst := commonDays_mono h hstart.1 (by omega)
  have hlast : commonDays doe ≤ commonDays (yearStart (n + 1) - 1) :=
    commonDays_mono (by omega) (by omega) (by omega)
  simp only at hlow hhigh
  omega

/-- Every day of an era lies in one of its years. -/
theorem exists_year
    {doe : Int} (h : 0 ≤ doe) (h' : doe < 146097) :
    ∃ y, 0 ≤ y ∧ y < 400 ∧ yearStart y ≤ doe ∧ doe < yearStart (y + 1) := by
  have hyears : ∀ n : ℕ, n ≤ 400 → doe < yearStart n →
      ∃ y, 0 ≤ y ∧ y < 400 ∧ yearStart y ≤ doe ∧ doe < yearStart (y + 1) := by
    intro n
    induction n with
    | zero =>
        intro _ hdoe
        have : yearStart ((0 : ℕ) : Int) = 0 := rfl
        omega
    | succ n ih =>
        intro hn hdoe
        by_cases hlt : doe < yearStart n
        · exact ih (by omega) hlt
        · exact ⟨n, by omega, by omega, not_lt.mp hlt, by exact_mod_cast hdoe⟩
  exact hyears 400 le_rfl h'

/-- A year that begins in March has twelve months. -/
theorem month_eq
    {doy m : Int} (h : monthStart m ≤ doy) (h' : doy < monthStart (m + 1)) :
    (5 * doy + 2) / 153 = m := by
  unfold monthStart at h h'
  omega

/-- Days of a month, counted from March; the last one ends with its year. -/
def monthLength (y m : Int) : Int :=
  min (monthStart (m + 1)) (yearStart (y + 1) - yearStart y) - monthStart m

/-- The day is the `d`-th of month `m` of year `y` of an era. -/
structure InMonth (day era y m d : Int) : Prop where
  year : 0 ≤ y ∧ y < 400
  month : 0 ≤ m ∧ m < 12
  dayOfMonth : 1 ≤ d ∧ d ≤ monthLength y m
  eq : day + 719468 = 146097 * era + yearStart y + monthStart m + (d - 1)

theorem exists_inMonth
    (day : Int) :
    ∃ era y m d, InMonth day era y m d := by
  obtain ⟨y, hy, hy', hstart, hend⟩ :=
    @exists_year ((day + 719468) % 146097) (by omega) (by omega)
  generalize hdoy : (day + 719468) % 146097 - yearStart y = doy at *
  refine ⟨(day + 719468) / 146097, y, (5 * doy + 2) / 153,
    doy - monthStart ((5 * doy + 2) / 153) + 1, ⟨hy, hy'⟩, ?_, ?_, ?_⟩
  · have : yearStart (y + 1) - yearStart y ≤ 366 := by
      unfold yearStart
      omega
    omega
  · unfold monthLength monthStart
    omega
  · omega

namespace InMonth

variable {day era y m d : Int} (h : InMonth day era y m d)
include h

/-- The calendar finds the year, the month and the day. -/
theorem civilFromDays_eq :
    civilFromDays day =
      (y + era * 400 + (if m < 10 then 0 else 1),
        if m < 10 then m + 3 else m - 9, d) := by
  obtain ⟨⟨hy, hy'⟩, ⟨hm, hm'⟩, ⟨hd, hd'⟩, heq⟩ := h
  unfold monthLength at hd'
  have hera : (day + 719468) / 146097 = era := by
    unfold yearStart monthStart at *
    omega
  generalize hdoe : day + 719468 - era * 146097 = doe
  have hyear : (doe - doe / 1460 + doe / 36524 - doe / 146096) / 365 = y := by
    apply yearOfEra_eq hy hy' <;> unfold yearStart monthStart at * <;> omega
  generalize hdoy : doe - (365 * y + y / 4 - y / 100) = doy
  have hmonth : (5 * doy + 2) / 153 = m := by
    apply month_eq <;> unfold yearStart monthStart at * <;> omega
  have hday : doy - (153 * m + 2) / 5 + 1 = d := by
    unfold yearStart monthStart at *
    omega
  unfold civilFromDays
  simp only [hera, hdoe, hyear, hdoy, hmonth, hday]
  split_ifs <;> first | rfl | omega

/-- The month has the days of the calendar. -/
theorem daysInMonth_eq :
    daysInMonth (civilFromDays day).1 (civilFromDays day).2.1 =
      monthLength y m := by
  obtain ⟨hy, hy'⟩ := h.year
  obtain ⟨hm, hm'⟩ := h.month
  rw [h.civilFromDays_eq]
  have hlength : 365 ≤ yearStart (y + 1) - yearStart y := by
    unfold yearStart
    omega
  by_cases hfeb : m = 11
  · -- February has a leap day in the years whose successor starts later
    subst hfeb
    have hleap : isLeapYear (y + era * 400 + 1) = true ↔
        yearStart (y + 1) - yearStart y = 366 := by
      unfold isLeapYear yearStart
      rw [decide_eq_true_iff]
      omega
    have hle : yearStart (y + 1) - yearStart y ≤ 366 := by
      unfold yearStart
      omega
    have hmonth : ¬ (11 : Int) < 10 := by omega
    simp only [daysInMonth, hmonth, if_false, hleap]
    unfold monthLength monthStart
    split_ifs <;> omega
  · have hmin : monthLength y m = monthStart (m + 1) - monthStart m := by
      unfold monthLength monthStart at *
      omega
    rw [hmin]
    have hm'' : m < 11 := by omega
    interval_cases m <;> rfl

/-- Another day of the same month. -/
theorem move
    {d' : Int} (hd : 1 ≤ d') (hd' : d' ≤ monthLength y m) :
    InMonth (day - d + d') era y m d' := by
  refine ⟨h.year, h.month, ⟨hd, hd'⟩, ?_⟩
  have heq := h.eq
  omega

end InMonth

/-- The first day of the month of a day. -/
def monthFirst (day : Int) : Int :=
  day - (civilFromDays day).2.2 + 1

/-- The number of days of the month of a day. -/
def monthDays (day : Int) : Int :=
  daysInMonth (civilFromDays day).1 (civilFromDays day).2.1

/-- A day lies in its own month. -/
theorem monthFirst_le_lt
    (day : Int) :
    monthFirst day ≤ day ∧ day < monthFirst day + monthDays day := by
  obtain ⟨era, y, m, d, h⟩ := exists_inMonth day
  obtain ⟨hd, hd'⟩ := h.dayOfMonth
  have hlength : monthDays day = monthLength y m := h.daysInMonth_eq
  have hfirst : monthFirst day = day - d + 1 := by
    rw [monthFirst, h.civilFromDays_eq]
  omega

/-- The days of a month have the same first day and the same length. -/
theorem month_eq_of_mem
    {day day' : Int} (h : monthFirst day ≤ day')
    (h' : day' < monthFirst day + monthDays day) :
    monthFirst day' = monthFirst day ∧ monthDays day' = monthDays day := by
  obtain ⟨era, y, m, d, hin⟩ := exists_inMonth day
  have hlength : monthDays day = monthLength y m := hin.daysInMonth_eq
  have hfirst : monthFirst day = day - d + 1 := by
    rw [monthFirst, hin.civilFromDays_eq]
  have hin' := @InMonth.move _ _ _ _ _ hin (day' - day + d) (by omega)
    (by omega)
  rw [show day - d + (day' - day + d) = day' by omega] at hin'
  have hlength' : monthDays day' = monthLength y m := hin'.daysInMonth_eq
  have hfirst' : monthFirst day' = day' - (day' - day + d) + 1 := by
    rw [monthFirst, hin'.civilFromDays_eq]
  omega

/-- A day lies in a month exactly when its month begins on the same day. -/
theorem monthFirst_eq_iff
    (day day' : Int) :
    monthFirst day' = monthFirst day ↔
      monthFirst day ≤ day' ∧
        day' < monthFirst day + monthDays (monthFirst day) := by
  have hlength : ∀ d : Int, monthDays (monthFirst d) = monthDays d := by
    intro d
    have hd := monthFirst_le_lt d
    exact (month_eq_of_mem le_rfl (by omega)).2
  constructor
  · intro h
    have hday' := monthFirst_le_lt day'
    have hdays : monthDays day' = monthDays day := by
      rw [← hlength day', h, hlength day]
    rw [hlength day]
    omega
  · rintro ⟨hle, hlt⟩
    rw [hlength day] at hlt
    exact (month_eq_of_mem hle hlt).1

theorem withDay_one
    (day : Int) :
    withDay day 1 = some (monthFirst day) := by
  have h := monthFirst_le_lt day
  have hdays : 1 ≤ monthDays day := by omega
  unfold withDay monthFirst
  simp only
  rw [if_pos ⟨le_rfl, hdays⟩]

end Calendar
