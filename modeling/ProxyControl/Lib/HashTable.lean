import Mathlib.Algebra.BigOperators.Group.List.Basic
import Mathlib.Data.List.AList
import Mathlib.Data.List.FinRange
import Mathlib.Data.List.OfFn
import Mathlib.Tactic.Abel

/-!
# Hash tables

A hash table is a list of entries with pairwise different keys.  Nothing may
depend on the order in which its values are traversed, so a traversal takes an
`IterationOrder`: a permutation of the positions, chosen by the environment.

The file gives the lookup rules of `insert`, the membership rule of `values`,
and the rule for a sum over all values after one insertion.
-/

/-- A finite table from keys to values. -/
abbrev HashTable (κ ν : Type) : Type :=
  AList (fun _ : κ => ν)

/-- The order in which a traversal meets `n` entries, for every `n`. -/
abbrev IterationOrder : Type :=
  (n : ℕ) → Equiv.Perm (Fin n)

namespace IterationOrder

/-- The traversal of a list in the given order. -/
def arrange {α : Type} (order : IterationOrder) (l : List α) : List α :=
  List.ofFn (fun i => l.get (order l.length i))

theorem arrange_perm
    {α : Type} (order : IterationOrder) (l : List α) :
    (order.arrange l).Perm l := by
  have h := Equiv.Perm.ofFn_comp_perm (order l.length) l.get
  rwa [List.ofFn_get] at h

@[simp] theorem mem_arrange
    {α : Type} (order : IterationOrder) (l : List α) (a : α) :
    a ∈ order.arrange l ↔ a ∈ l :=
  (arrange_perm order l).mem_iff

/-- The order of the entries themselves. -/
def entryOrder : IterationOrder :=
  fun n => Equiv.refl (Fin n)

end IterationOrder

namespace HashTable

variable {κ ν : Type} [DecidableEq κ]

/-- The value stored under a key. -/
def get (t : HashTable κ ν) (k : κ) : Option ν :=
  t.lookup k

/-- Whether a key is present. -/
def containsKey (t : HashTable κ ν) (k : κ) : Bool :=
  (t.get k).isSome

/-- All values, in entry order. -/
def values {κ : Type} (t : HashTable κ ν) : List ν :=
  t.entries.map Sigma.snd

/-- Apply `f` to every value. -/
def mapValues {κ : Type} (f : ν → ν) (t : HashTable κ ν) : HashTable κ ν where
  entries := t.entries.map (fun e => ⟨e.1, f e.2⟩)
  nodupKeys := by
    have h : (t.entries.map (fun e => (⟨e.1, f e.2⟩ : Sigma (fun _ : κ => ν)))).keys =
        t.entries.keys := by
      simp [List.keys, List.map_map, Function.comp_def]
    rw [List.NodupKeys, h]
    exact t.nodupKeys

@[simp] theorem get_empty
    (k : κ) :
    get (∅ : HashTable κ ν) k = none := by
  rfl

@[simp] theorem get_insert_self
    (t : HashTable κ ν) (k : κ) (v : ν) :
    get (t.insert k v) k = some v :=
  AList.lookup_insert t

theorem get_insert_of_ne
    (t : HashTable κ ν) {k k' : κ} (v : ν) (h : k' ≠ k) :
    get (t.insert k v) k' = get t k' :=
  AList.lookup_insert_ne h

/-- Lookup after one insertion. -/
theorem get_insert
    (t : HashTable κ ν) (k k' : κ) (v : ν) :
    get (t.insert k v) k' = if k' = k then some v else get t k' := by
  split_ifs with h
  · rw [h, get_insert_self]
  · exact get_insert_of_ne t v h

theorem get_mapValues
    (t : HashTable κ ν) (f : ν → ν) (k : κ) :
    get (t.mapValues f) k = (get t k).map f := by
  have hentries : ∀ l : List (Sigma (fun _ : κ => ν)),
      List.dlookup k
          (l.map (fun e => (⟨e.1, f e.2⟩ : Sigma (fun _ : κ => ν)))) =
        (List.dlookup k l).map f := by
    intro l
    induction l with
    | nil => rfl
    | cons e l ih =>
        obtain ⟨k', v⟩ := e
        by_cases h : k = k'
        · subst h
          simp
        · rw [List.map_cons, List.dlookup_cons_ne _ _ h,
            List.dlookup_cons_ne _ _ h, ih]
  exact hentries t.entries

@[simp] theorem containsKey_iff
    (t : HashTable κ ν) (k : κ) :
    containsKey t k = true ↔ ∃ v, get t k = some v := by
  simp [containsKey, Option.isSome_iff_exists]

theorem containsKey_insert
    (t : HashTable κ ν) (k k' : κ) (v : ν) :
    containsKey (t.insert k v) k' = (decide (k' = k) || t.containsKey k') := by
  unfold containsKey
  rw [get_insert]
  split_ifs with h <;> simp [h]

/-- A value is met by a traversal exactly when some key holds it. -/
theorem mem_values
    (t : HashTable κ ν) (v : ν) :
    v ∈ t.values ↔ ∃ k, get t k = some v := by
  simp only [values, List.mem_map]
  constructor
  · rintro ⟨⟨k, w⟩, hmem, rfl⟩
    exact ⟨k, AList.mem_lookup_iff.mpr hmem⟩
  · rintro ⟨k, hk⟩
    exact ⟨⟨k, v⟩, AList.mem_lookup_iff.mp hk, rfl⟩

omit [DecidableEq κ] in
@[simp] theorem values_empty :
    values (∅ : HashTable κ ν) = [] := by
  rfl

/-- A present entry can be moved to the front. -/
theorem entries_perm_erase
    (t : HashTable κ ν) {k : κ} {v : ν} (h : get t k = some v) :
    t.entries.Perm (⟨k, v⟩ :: (t.erase k).entries) := by
  have hmem : (⟨k, v⟩ : Sigma (fun _ : κ => ν)) ∈ t.entries :=
    AList.mem_lookup_iff.mp h
  obtain ⟨w, l₁, l₂, hnot, hsplit, herase⟩ :=
    List.exists_of_kerase (List.mem_keys_of_mem hmem)
  have hw : w = v := by
    have hmem' : (⟨k, w⟩ : Sigma (fun _ : κ => ν)) ∈ t.entries := by
      rw [hsplit]
      simp
    have hk : get t k = some w := AList.mem_lookup_iff.mpr hmem'
    rw [h] at hk
    exact (Option.some.inj hk).symm
  subst hw
  have hrest : (t.erase k).entries = l₁ ++ l₂ := herase
  rw [hsplit, hrest]
  exact List.perm_middle

theorem erase_eq_self
    (t : HashTable κ ν) {k : κ} (h : get t k = none) :
    t.erase k = t := by
  apply AList.ext
  exact List.kerase_of_notMem_keys (AList.lookup_eq_none.mp h)

section Sums

variable {M : Type} [AddCommMonoid M]

/-- The sum of a weight over all values. -/
def sumValues {κ : Type} (w : ν → M) (t : HashTable κ ν) : M :=
  (t.values.map w).sum

omit [DecidableEq κ] in
@[simp] theorem sumValues_empty
    (w : ν → M) :
    sumValues w (∅ : HashTable κ ν) = 0 := by
  simp [sumValues]

/-- The sum splits into the value of one key and the rest. -/
theorem sumValues_erase
    (w : ν → M) (t : HashTable κ ν) (k : κ) :
    sumValues w t =
      ((get t k).map w).getD 0 + sumValues w (t.erase k) := by
  cases h : get t k with
  | none =>
      simp [erase_eq_self t h]
  | some v =>
      have hperm :=
        ((entries_perm_erase t h).map Sigma.snd).map w
      simpa [sumValues, values] using hperm.sum_eq

/-- An insertion that adds `a` to the weight of a key adds `a` to the sum. -/
theorem sumValues_insert_add
    (w : ν → M) (t : HashTable κ ν) (k : κ) (v : ν) (a : M)
    (h : w v = ((get t k).map w).getD 0 + a) :
    sumValues w (t.insert k v) = sumValues w t + a := by
  have hnew : sumValues w (t.insert k v) = w v + sumValues w (t.erase k) := by
    have hentries :
        (t.insert k v).entries = ⟨k, v⟩ :: (t.erase k).entries :=
      AList.entries_insert ..
    rw [sumValues, values, hentries, List.map_cons, List.map_cons,
      List.sum_cons, sumValues, values]
  rw [hnew, sumValues_erase w t k, h]
  abel

omit [DecidableEq κ] in
/-- Sums over all values and over a list can be exchanged. -/
theorem sumValues_sum_comm
    {α κ : Type} (w : ν → α → M) (t : HashTable κ ν) (l : List α) :
    sumValues (fun v => (l.map (w v)).sum) t =
      (l.map (fun a => sumValues (fun v => w v a) t)).sum := by
  induction l with
  | nil =>
      simp [sumValues]
  | cons a l ih =>
      simp only [List.map_cons, List.sum_cons, ← ih]
      exact List.sum_map_add

/-- A weight that only one key carries sums to the weight of that key. -/
theorem sumValues_eq_of_only
    (w : ν → M) (t : HashTable κ ν) (k : κ)
    (h : ∀ k' v, get t k' = some v → k' ≠ k → w v = 0) :
    sumValues w t = ((get t k).map w).getD 0 := by
  have hrest : sumValues w (t.erase k) = 0 := by
    apply List.sum_eq_zero
    intro a ha
    obtain ⟨v, hv, rfl⟩ := List.mem_map.mp ha
    obtain ⟨k', hk'⟩ := (mem_values _ _).mp hv
    have hne : k' ≠ k := by
      rintro rfl
      rw [get, AList.lookup_erase] at hk'
      cases hk'
    rw [get, AList.lookup_erase_ne hne] at hk'
    exact h k' v hk' hne
  rw [sumValues_erase w t k, hrest, add_zero]

end Sums

end HashTable
