import ProxyControl.Lib.Calendar
import ProxyControl.Lib.Decimal

/-!
# The text of instants

RFC 3339 with the fraction of the second in as few of three, six or nine digits
as it needs.  A year of more than four digits, or before year zero, has a sign;
a leap second has the number sixty.  Representable instants have different texts
(`rfc3339Text_injective`).
-/

namespace Calendar

open Decimal

/-! ## The calendar is injective -/

theorem civilFromDays_injective : Function.Injective civilFromDays := by
  intro day day' heq
  obtain ⟨era, y, m, d, h⟩ := exists_inMonth day
  obtain ⟨era', y', m', d', h'⟩ := exists_inMonth day'
  rw [h.civilFromDays_eq, h'.civilFromDays_eq] at heq
  obtain ⟨hyear, hrest⟩ := Prod.mk.inj heq
  obtain ⟨hmonth, rfl⟩ := Prod.mk.inj hrest
  have hm := h.month
  have hm' := h'.month
  have hy := h.year
  have hy' := h'.year
  have hsame : m = m' := by
    split_ifs at hmonth <;> omega
  subst hsame
  have hyears : y = y' ∧ era = era' := by
    split_ifs at hyear <;> omega
  obtain ⟨rfl, rfl⟩ := hyears
  have hday := h.eq
  have hday' := h'.eq
  omega

theorem civilFromDays_bounds
    (day : Int) :
    1 ≤ (civilFromDays day).2.1 ∧ 1 ≤ (civilFromDays day).2.2 := by
  obtain ⟨era, y, m, d, h⟩ := exists_inMonth day
  have hm := h.month
  have hd := h.dayOfMonth
  rw [h.civilFromDays_eq]
  refine ⟨?_, hd.1⟩
  simp only
  split_ifs <;> omega

/-! ## The text -/

def yearText (year : Int) : List Char :=
  if 0 ≤ year ∧ year ≤ 9999 then padded 4 year.toNat
  else if 0 ≤ year then '+' :: padded 4 year.toNat
  else '-' :: padded 4 year.natAbs

/-- The fraction of a second, in nanoseconds. -/
def fractionText (nanos : ℕ) : List Char :=
  if nanos = 0 then []
  else if nanos % 1000000 = 0 then '.' :: padded 3 (nanos / 1000000)
  else if nanos % 1000 = 0 then '.' :: padded 6 (nanos / 1000)
  else '.' :: padded 9 nanos

namespace DateTime

/-- The fraction exceeds a second. -/
def isLeap (t : DateTime) : Bool :=
  1000000000 ≤ t.nanos

def hour (t : DateTime) : Int :=
  t.secs % 86400 / 3600

def minute (t : DateTime) : Int :=
  t.secs % 86400 / 60 % 60

def second (t : DateTime) : Int :=
  t.secs % 60 + (if t.isLeap then 1 else 0)

def fraction (t : DateTime) : ℕ :=
  if t.isLeap then t.nanos - 1000000000 else t.nanos

def rfc3339Text (t : DateTime) : List Char :=
  let (year, month, day) := civilFromDays t.dateNaive
  yearText year ++ '-' :: (padded 2 month.toNat ++ '-' ::
    (padded 2 day.toNat ++ 'T' :: (padded 2 t.hour.toNat ++ ':' ::
      (padded 2 t.minute.toNat ++ ':' :: (padded 2 t.second.toNat ++
        (fractionText t.fraction ++ ['Z']))))))

/-- The parts of an instant give it back. -/
theorem eq_of_parts
    {t t' : DateTime} (h : t.Representable) (h' : t'.Representable)
    (hdate : civilFromDays t.dateNaive = civilFromDays t'.dateNaive)
    (hhour : t.hour = t'.hour) (hminute : t.minute = t'.minute)
    (hsecond : t.second = t'.second) (hfraction : t.fraction = t'.fraction) :
    t = t' := by
  obtain ⟨secs, nanos⟩ := t
  obtain ⟨secs', nanos'⟩ := t'
  have hday := civilFromDays_injective hdate
  have hn := h.nanos
  have hn' := h'.nanos
  simp only [dateNaive, hour, minute, second, fraction, isLeap,
    decide_eq_true_eq] at *
  -- the second sixty is the leap second
  by_cases hleap : 1000000000 ≤ nanos
  · by_cases hleap' : 1000000000 ≤ nanos'
    · rw [if_pos hleap, if_pos hleap'] at hsecond hfraction
      have hsecs : secs = secs' := by omega
      have hnanos : nanos = nanos' := by omega
      rw [hsecs, hnanos]
    · rw [if_pos hleap, if_neg hleap'] at hsecond
      omega
  · by_cases hleap' : 1000000000 ≤ nanos'
    · rw [if_neg hleap, if_pos hleap'] at hsecond
      omega
    · rw [if_neg hleap, if_neg hleap'] at hsecond hfraction
      have hsecs : secs = secs' := by omega
      rw [hsecs, hfraction]

end DateTime

/-! ## Reading it back -/

theorem noDigit_cons
    {c : Char} (h : c.isDigit = false) (rest : List Char) :
    NoDigit (c :: rest) := by
  rintro _ ⟨⟩ hdigit
  rw [h] at hdigit
  cases hdigit

/-- A number and a symbol behind it. -/
theorem padded_append_inj
    {width n m : ℕ} {c : Char} {rest rest' : List Char}
    (hc : c.isDigit = false)
    (h : padded width n ++ c :: rest = padded width m ++ c :: rest') :
    n = m ∧ rest = rest' := by
  obtain ⟨hn, hrest⟩ := padded_selfDelimiting width n trivial m _ _ trivial
    (noDigit_cons hc rest) (noDigit_cons hc rest') h
  exact ⟨hn, (List.cons.inj hrest).2⟩

theorem padded_ne_cons
    {width n : ℕ} {c : Char} {rest more : List Char} (hc : c.isDigit = false) :
    padded width n ++ rest ≠ c :: more := by
  intro heq
  cases hpadded : padded width n with
  | nil =>
      have hvalue := List.append_eq_nil_iff.mp hpadded
      exact Nat.toDigits_ne_nil hvalue.2
  | cons d digits =>
      rw [hpadded] at heq
      have hdigit : d.isDigit = true :=
        isDigit_of_mem_padded (hpadded ▸ List.mem_cons_self)
      rw [(List.cons.inj heq).1, hc] at hdigit
      cases hdigit

theorem yearText_append_inj
    {year year' : Int} {rest rest' : List Char}
    (h : yearText year ++ '-' :: rest = yearText year' ++ '-' :: rest') :
    year = year' ∧ rest = rest' := by
  have hplus : ('+').isDigit = false := rfl
  have hminus : ('-').isDigit = false := rfl
  unfold yearText at h
  split_ifs at h
  · obtain ⟨hyear, hrest⟩ := padded_append_inj hminus h
    exact ⟨by omega, hrest⟩
  · exact absurd h (padded_ne_cons hplus)
  · exact absurd h (padded_ne_cons hminus)
  · exact absurd h.symm (padded_ne_cons hplus)
  · obtain ⟨hyear, hrest⟩ := padded_append_inj hminus (List.cons.inj h).2
    exact ⟨by omega, hrest⟩
  · exact absurd (List.cons.inj h).1 (by decide)
  · exact absurd h.symm (padded_ne_cons hminus)
  · exact absurd (List.cons.inj h).1 (by decide)
  · obtain ⟨hyear, hrest⟩ := padded_append_inj hminus (List.cons.inj h).2
    exact ⟨by omega, hrest⟩

/-- The fraction has as many digits as its text says. -/
theorem fractionText_injective
    {n m : ℕ} (hn : n < 1000000000) (hm : m < 1000000000)
    (h : fractionText n = fractionText m) :
    n = m := by
  have hthree : ∀ k : ℕ, k < 1000000000 →
      (padded 3 (k / 1000000)).length = 3 := by
    intro k hk
    exact length_padded (by omega) (by omega)
  have hsix : ∀ k : ℕ, k < 1000000000 → (padded 6 (k / 1000)).length = 6 := by
    intro k hk
    exact length_padded (by omega) (by omega)
  have hnine : ∀ k : ℕ, k < 1000000000 → (padded 9 k).length = 9 := by
    intro k hk
    exact length_padded (by omega) (by omega)
  have hlength := congrArg List.length h
  unfold fractionText at h hlength
  split_ifs at h hlength <;>
    simp only [List.length_nil, List.length_cons, hthree n hn, hthree m hm,
      hsix n hn, hsix m hm, hnine n hn, hnine m hm] at hlength <;>
    try omega
  · have hdigits := padded_injective 3 (List.cons.inj h).2
    omega
  · have hdigits := padded_injective 6 (List.cons.inj h).2
    omega
  · exact padded_injective 9 (List.cons.inj h).2

/-- What follows the seconds begins with no digit. -/
theorem noDigit_fractionText
    (nanos : ℕ) (rest : List Char) :
    NoDigit (fractionText nanos ++ 'Z' :: rest) := by
  unfold fractionText
  split_ifs
  · exact noDigit_cons rfl _
  · exact noDigit_cons rfl _
  · exact noDigit_cons rfl _
  · exact noDigit_cons rfl _

/-- Representable instants with one text are equal. -/
theorem rfc3339Text_injective
    {t t' : DateTime} (h : t.Representable) (h' : t'.Representable)
    (heq : t.rfc3339Text = t'.rfc3339Text) :
    t = t' := by
  have hdash : ('-').isDigit = false := rfl
  have ht : ('T').isDigit = false := rfl
  have hcolon : (':').isDigit = false := rfl
  have hbounds := civilFromDays_bounds t.dateNaive
  have hbounds' := civilFromDays_bounds t'.dateNaive
  unfold DateTime.rfc3339Text at heq
  rcases hdate : civilFromDays t.dateNaive with ⟨year, month, day⟩
  rcases hdate' : civilFromDays t'.dateNaive with ⟨year', month', day'⟩
  rw [hdate] at heq hbounds
  rw [hdate'] at heq hbounds'
  simp only at heq hbounds hbounds'
  obtain ⟨hyear, hmonths⟩ := yearText_append_inj heq
  obtain ⟨hmonth, hdays⟩ := padded_append_inj hdash hmonths
  obtain ⟨hday, hhours⟩ := padded_append_inj ht hdays
  obtain ⟨hhour, hminutes⟩ := padded_append_inj hcolon hhours
  obtain ⟨hminute, hseconds⟩ := padded_append_inj hcolon hminutes
  obtain ⟨hsecond, hfraction⟩ := padded_selfDelimiting 2 _ trivial _ _ _ trivial
    (noDigit_fractionText _ _) (noDigit_fractionText _ _) hseconds
  have hfractions := List.append_cancel_right hfraction
  have hn := h.nanos
  have hn' := h'.nanos
  refine DateTime.eq_of_parts h h' ?_ ?_ ?_ ?_ ?_
  · rw [hdate, hdate', hyear, show month = month' by omega,
      show day = day' by omega]
  · unfold DateTime.hour at *
    omega
  · unfold DateTime.minute at *
    omega
  · unfold DateTime.second at *
    split_ifs at * <;> omega
  · refine fractionText_injective ?_ ?_ hfractions
    · unfold DateTime.fraction DateTime.isLeap
      split_ifs with hleap <;> simp only [decide_eq_true_eq] at hleap <;> omega
    · unfold DateTime.fraction DateTime.isLeap
      split_ifs with hleap <;> simp only [decide_eq_true_eq] at hleap <;> omega

end Calendar
