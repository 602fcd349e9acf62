import Mathlib.Algebra.Ring.Int.Defs
import Mathlib.Algebra.BigOperators.Group.List.Basic

/-!
# Sums of wrapping 64-bit integers

Addition of `Int64` is associative and commutative, so a sum does not depend on
the order of its terms, and a sum of terms that fits is the sum of integers.
-/

namespace Wrapping

instance int64AddCommMonoid : AddCommMonoid Int64 where
  add_assoc := Int64.add_assoc
  zero_add := Int64.zero_add
  add_zero := Int64.add_zero
  add_comm := Int64.add_comm
  nsmul := nsmulRec

/-- An integer in the range of a signed 64-bit number. -/
def Fits (n : Int) : Prop :=
  -2 ^ 63 ≤ n ∧ n < 2 ^ 63

instance (n : Int) : Decidable (Fits n) :=
  inferInstanceAs (Decidable (_ ∧ _))

theorem Fits.bmod_eq
    {n : Int} (h : Fits n) :
    n.bmod (2 ^ 64) = n := by
  have h₁ : -(2 ^ 63 : Int) ≤ n := h.1
  have h₂ : n < 2 ^ 63 := h.2
  apply Int.bmod_eq_of_le <;> omega

theorem toInt_add_bmod
    {a b : Int64} {m n : Int}
    (ha : a.toInt = m.bmod (2 ^ 64))
    (hb : b.toInt = n.bmod (2 ^ 64)) :
    (a + b).toInt = (m + n).bmod (2 ^ 64) := by
  rw [Int64.toInt_add, ha, hb, Int.bmod_add_bmod, Int.add_bmod_bmod]

/-- A sum of wrapping numbers is the wrapped sum of integers. -/
theorem toInt_sum_map
    {α : Type} (f : α → Int64) (g : α → Int)
    (h : ∀ a, (f a).toInt = (g a).bmod (2 ^ 64))
    (l : List α) :
    ((l.map f).sum).toInt = ((l.map g).sum).bmod (2 ^ 64) := by
  induction l with
  | nil => rfl
  | cons a l ih =>
      simp only [List.map_cons, List.sum_cons]
      exact toInt_add_bmod (h a) ih

/-! ## The cast of an unsigned number -/

theorem toInt_toInt64
    (n : UInt64) :
    n.toInt64.toInt =
      if n.toNat < 2 ^ 63 then (n.toNat : Int) else n.toNat - 2 ^ 64 := by
  have h : n.toInt64.toInt = n.toBitVec.toInt := rfl
  rw [h, BitVec.toInt_eq_toNat_cond]
  have hn : n.toBitVec.toNat = n.toNat := rfl
  have hlt := n.toNat_lt
  split_ifs <;> omega

theorem toInt64_inj
    {m n : UInt64} :
    m.toInt64 = n.toInt64 ↔ m = n := by
  constructor
  · intro h
    have h' := congrArg Int64.toInt h
    rw [toInt_toInt64, toInt_toInt64] at h'
    have hm := m.toNat_lt
    have hn := n.toNat_lt
    apply UInt64.toNat_inj.mp
    split_ifs at h' <;> omega
  · rintro rfl
    rfl

/-- Numbers that fit keep their order. -/
theorem toInt64_lt
    {m n : UInt64} (hlt : m.toNat < n.toNat) (hn : n.toNat < 2 ^ 63) :
    m.toInt64 < n.toInt64 := by
  rw [Int64.lt_iff_toInt_lt, toInt_toInt64, toInt_toInt64, if_pos hn,
    if_pos (hlt.trans hn)]
  exact_mod_cast hlt

end Wrapping
