import Mathlib.Algebra.Order.Group.Nat
import ProxyControl.Lib.SelfDelimiting

/-!
# Decimal numbers

Numbers in decimal, filled with zeros up to a width; a number that is longer is
written in full.  The digits give the number back, so a number can be read in
front of whatever is no digit.
-/

namespace Decimal

/-- The digits of a number, with zeros in front up to a width. -/
def padded (width n : ℕ) : List Char :=
  List.replicate (width - (Nat.toDigits 10 n).length) '0' ++ Nat.toDigits 10 n

/-- No digit comes next. -/
def NoDigit (rest : List Char) : Prop :=
  ∀ c ∈ rest.head?, ¬ c.isDigit = true

theorem isDigit_of_mem_toDigits
    {n : ℕ} {c : Char} (h : c ∈ Nat.toDigits 10 n) :
    c.isDigit = true :=
  Nat.isDigit_of_mem_toDigits (by omega) (by omega) h

theorem toDigits_injective : Function.Injective (Nat.toDigits 10) := by
  intro n m h
  have hvalue := congrArg (fun digits => Nat.ofDigitChars 10 digits 0) h
  simpa only [Nat.ofDigitChars_ten_toDigits] using hvalue

theorem isDigit_of_mem_padded
    {width n : ℕ} {c : Char} (h : c ∈ padded width n) :
    c.isDigit = true := by
  rcases List.mem_append.mp h with hzero | hdigit
  · rw [List.eq_of_mem_replicate hzero]
    rfl
  · exact isDigit_of_mem_toDigits hdigit

/-- Zeros in front do not change the number. -/
theorem ofDigitChars_padded
    (width n : ℕ) :
    Nat.ofDigitChars 10 (padded width n) 0 = n := by
  rw [padded, Nat.ofDigitChars_append, Nat.ofDigitChars_replicate_zero,
    Nat.mul_zero, Nat.ofDigitChars_ten_toDigits]

theorem padded_injective (width : ℕ) : Function.Injective (padded width) := by
  intro n m h
  have hvalue := congrArg (fun digits => Nat.ofDigitChars 10 digits 0) h
  simpa only [ofDigitChars_padded] using hvalue

theorem length_padded
    {width n : ℕ} (hwidth : 0 < width) (h : n < 10 ^ width) :
    (padded width n).length = width := by
  have hlength := (Nat.length_toDigits_le_iff (b := 10) (by omega) hwidth).mpr h
  rw [padded, List.length_append, List.length_replicate]
  omega

/-- A number ends where no digit comes next. -/
theorem padded_selfDelimiting
    (width : ℕ) :
    Codes.SelfDelimiting (fun _ => True) NoDigit (padded width) :=
  Codes.of_greedy (p := fun c => c.isDigit = true)
    (fun _ _ _ hc => isDigit_of_mem_padded hc)
    (fun _ _ _ _ h => padded_injective width h)

end Decimal
