import Mathlib.Algebra.BigOperators.Group.List.Basic
import Mathlib.Data.List.MinMax
import Mathlib.Data.List.Nodup

/-!
# Tables of rows

A table is the list of its rows, oldest first.  A key is a column, or a tuple of
columns, on which no two rows agree; a row is inserted only where its key is
free, and an update never changes a key.

The insertion that does nothing on a conflict, the upsert and the conditional
update are given with the row that each key has afterwards, and with the rows
for which they do nothing (`Written`).
-/

abbrev Table (ρ : Type) : Type :=
  List ρ

namespace Table

variable {ρ κ : Type} [DecidableEq κ] (key : ρ → κ)

/-- The row with a key. -/
def lookup (k : κ) (rows : Table ρ) : Option ρ :=
  rows.find? (fun row => key row = k)

/-- Whether some row has the key. -/
def hasKey (k : κ) (rows : Table ρ) : Bool :=
  rows.any (fun row => key row = k)

/-- `ON CONFLICT DO NOTHING`. -/
def insertNew (row : ρ) (rows : Table ρ) : Table ρ :=
  if hasKey key (key row) rows then rows else rows ++ [row]

/-- `UPDATE ... SET ... WHERE`. -/
def updateWhere (p : ρ → Bool) (f : ρ → ρ) (rows : Table ρ) : Table ρ :=
  rows.map (fun row => if p row then f row else row)

/-- `ON CONFLICT DO UPDATE`, where `f` is the update of the row in the way. -/
def upsert (row : ρ) (f : ρ → ρ) (rows : Table ρ) : Table ρ :=
  if hasKey key (key row) rows then
    updateWhere (fun other => key other = key row) f rows
  else
    rows ++ [row]

/-- `ORDER BY ... LIMIT 1`. -/
def least {α : Type} [LinearOrder α] (f : ρ → α) (rows : Table ρ) : Option ρ :=
  List.argmin f rows

/-- `ORDER BY ... DESC LIMIT 1`. -/
def greatest {α : Type} [LinearOrder α] (f : ρ → α) (rows : Table ρ) :
    Option ρ :=
  List.argmax f rows

theorem hasKey_iff
    (k : κ) (rows : Table ρ) :
    hasKey key k rows = true ↔ ∃ row ∈ rows, key row = k := by
  simp [hasKey]

theorem hasKey_eq_isSome
    (k : κ) (rows : Table ρ) :
    hasKey key k rows = (lookup key k rows).isSome := by
  rw [Bool.eq_iff_iff, hasKey_iff, lookup, List.find?_isSome]
  simp

theorem lookup_eq_none
    (k : κ) (rows : Table ρ) :
    lookup key k rows = none ↔ hasKey key k rows = false := by
  rw [hasKey_eq_isSome, Option.isSome_eq_false_iff, Option.isNone_iff_eq_none]

theorem lookup_mem
    {k : κ} {rows : Table ρ} {row : ρ} (h : lookup key k rows = some row) :
    row ∈ rows ∧ key row = k := by
  refine ⟨List.mem_of_find?_eq_some h, ?_⟩
  simpa using List.find?_some h

/-- Where no two rows agree on the key, a row is found by its own. -/
theorem lookup_of_mem
    {rows : Table ρ} {row : ρ} (h : (rows.map key).Nodup) (hrow : row ∈ rows) :
    lookup key (key row) rows = some row := by
  have hhas := (hasKey_iff key (key row) rows).mpr ⟨row, hrow, rfl⟩
  rw [hasKey_eq_isSome, Option.isSome_iff_exists] at hhas
  obtain ⟨other, hother⟩ := hhas
  obtain ⟨hmem, hkey⟩ := lookup_mem key hother
  rw [hother, List.inj_on_of_nodup_map h hmem hrow hkey]

theorem lookup_append_single
    (k : κ) (row : ρ) (rows : Table ρ) :
    lookup key k (rows ++ [row]) =
      (lookup key k rows).or (if key row = k then some row else none) := by
  unfold lookup
  rw [List.find?_append]
  split_ifs with h <;> simp [h]

/-- The row of each key after an insertion. -/
theorem lookup_insertNew
    (k : κ) (row : ρ) (rows : Table ρ) :
    lookup key k (insertNew key row rows) =
      (lookup key k rows).or (if key row = k then some row else none) := by
  unfold insertNew
  split_ifs with hhas hk hk
  · obtain ⟨other, hother⟩ :=
      Option.isSome_iff_exists.mp ((hasKey_eq_isSome key _ _).symm.trans hhas)
    rw [← hk, hother, Option.some_or]
  · rw [Option.or_none]
  · rw [lookup_append_single, if_pos hk]
  · rw [lookup_append_single, if_neg hk]

theorem mem_updateWhere
    {p : ρ → Bool} {f : ρ → ρ} {rows : Table ρ} {row : ρ} :
    row ∈ updateWhere p f rows ↔
      ∃ old ∈ rows, (if p old then f old else old) = row := by
  simp [updateWhere]

/-- The row of each key after an update that keeps the keys. -/
theorem lookup_updateWhere
    {p : ρ → Bool} {f : ρ → ρ} (hf : ∀ row, p row = true → key (f row) = key row)
    (k : κ) (rows : Table ρ) :
    lookup key k (updateWhere p f rows) =
      (lookup key k rows).map (fun row => if p row then f row else row) := by
  have hkeep : ∀ row, key (if p row then f row else row) = key row := by
    intro row
    split_ifs with hp
    · exact hf row hp
    · rfl
  unfold lookup updateWhere
  rw [List.find?_map]
  congr 2
  funext row
  simp only [Function.comp_apply, hkeep]

/-- The row of each key after an upsert whose update keeps the keys. -/
theorem lookup_upsert
    {f : ρ → ρ} (hf : ∀ row, key (f row) = key row)
    (k : κ) (row : ρ) (rows : Table ρ) :
    lookup key k (upsert key row f rows) =
      if key row = k then
        some ((lookup key k rows).elim row f)
      else
        lookup key k rows := by
  unfold upsert
  split_ifs with hhas hk hk
  · rw [hk, hasKey_eq_isSome, Option.isSome_iff_exists] at hhas
    obtain ⟨old, hold⟩ := hhas
    rw [lookup_updateWhere key (fun row _ => hf row), hold]
    simp [hk, (lookup_mem key hold).2]
  · rw [lookup_updateWhere key (fun row _ => hf row)]
    cases hold : lookup key k rows with
    | none => rfl
    | some old => simp [(lookup_mem key hold).2, Ne.symm hk]
  · rw [lookup_append_single, if_pos hk]
    rw [hk, Bool.not_eq_true, ← lookup_eq_none] at hhas
    rw [hhas]
    rfl
  · rw [lookup_append_single, if_neg hk, Option.or_none]

theorem hasKey_upsert_iff
    {f : ρ → ρ} (hf : ∀ row, key (f row) = key row)
    (k : κ) (row : ρ) (rows : Table ρ) :
    hasKey key k (upsert key row f rows) = true ↔
      key row = k ∨ hasKey key k rows = true := by
  rw [hasKey_eq_isSome, lookup_upsert key hf, hasKey_eq_isSome]
  split_ifs with hk
  · simp [hk]
  · simp [hk]

theorem hasKey_upsert_self
    {f : ρ → ρ} {k : κ} {row : ρ} {rows : Table ρ}
    (hk : key row = k) (hf : ∀ row, key (f row) = key row) :
    hasKey key k (upsert key row f rows) = true := by
  rw [hasKey_eq_isSome, lookup_upsert key hf, if_pos hk]
  rfl

omit [DecidableEq κ] in
theorem map_key_updateWhere
    {p : ρ → Bool} {f : ρ → ρ} (hf : ∀ row, p row = true → key (f row) = key row)
    (rows : Table ρ) :
    (updateWhere p f rows).map key = rows.map key := by
  unfold updateWhere
  rw [List.map_map]
  apply List.map_congr_left
  intro row _
  simp only [Function.comp_apply]
  split_ifs with hp
  · exact hf row hp
  · rfl

theorem nodup_insertNew
    {row : ρ} {rows : Table ρ} (h : (rows.map key).Nodup) :
    ((insertNew key row rows).map key).Nodup := by
  unfold insertNew
  split_ifs with hhas
  · exact h
  · rw [List.map_append, List.map_singleton]
    apply List.Nodup.append h (List.nodup_singleton _)
    intro k hk hmem
    obtain ⟨other, hother, rfl⟩ := List.mem_map.mp hk
    refine hhas ((hasKey_iff key _ _).mpr ⟨other, hother, ?_⟩)
    simpa using hmem

theorem nodup_upsert
    {row : ρ} {f : ρ → ρ} {rows : Table ρ} (hf : ∀ row, key (f row) = key row)
    (h : (rows.map key).Nodup) :
    ((upsert key row f rows).map key).Nodup := by
  have hinsert : ((insertNew key row rows).map key).Nodup :=
    nodup_insertNew key h
  unfold upsert
  unfold insertNew at hinsert
  split_ifs at hinsert ⊢
  · rwa [map_key_updateWhere key fun row _ => hf row]
  · exact hinsert

/-- The row that comes first, of those whose key is least. -/
theorem least_eq_some_iff
    {α β : Type} [LinearOrder β] {key : α → β} {rows : Table α} {row : α} :
    least key rows = some row ↔
      ∃ before after, rows = before ++ row :: after ∧
        (∀ other ∈ before, key row < key other) ∧
          ∀ other ∈ after, key row ≤ key other := by
  unfold least
  constructor
  · intro h
    induction rows generalizing row with
    | nil => cases h
    | cons first rows ih =>
        rw [List.argmin_cons] at h
        cases hrest : List.argmin key rows with
        | none =>
            rw [hrest] at h
            obtain rfl := Option.some.inj h
            obtain rfl := List.argmin_eq_none.mp hrest
            exact ⟨[], [], rfl, by simp, by simp⟩
        | some least =>
            rw [hrest] at h
            obtain ⟨before, after, rfl, hbefore, hafter⟩ := ih hrest
            simp only at h
            split_ifs at h with hlt
            · obtain rfl := Option.some.inj h
              exact ⟨first :: before, after, rfl,
                List.forall_mem_cons.mpr ⟨hlt, hbefore⟩, hafter⟩
            · obtain rfl := Option.some.inj h
              have hle := not_lt.mp hlt
              refine ⟨[], before ++ least :: after, rfl, by simp, ?_⟩
              intro other hother
              rcases List.mem_append.mp hother with hother | hother
              · exact hle.trans (hbefore other hother).le
              · rcases List.mem_cons.mp hother with rfl | hother
                · exact hle
                · exact hle.trans (hafter other hother)
  · rintro ⟨before, after, rfl, hbefore, hafter⟩
    induction before with
    | nil =>
        rw [List.nil_append, List.argmin_cons]
        cases hrest : List.argmin key after with
        | none => rfl
        | some least =>
            exact if_neg (not_lt.mpr (hafter least (List.argmin_mem hrest)))
    | cons first before ih =>
        obtain ⟨hfirst, hbefore⟩ := List.forall_mem_cons.mp hbefore
        rw [List.cons_append, List.argmin_cons, ih hbefore]
        exact if_pos hfirst

/-- In a sorted table the first row has the least key. -/
theorem least_eq_head?
    {α β : Type} [LinearOrder β] {key : α → β} {rows : Table α}
    (h : (rows.map key).Pairwise (· ≤ ·)) :
    least key rows = rows.head? := by
  unfold least
  induction rows with
  | nil => rfl
  | cons row rows ih =>
      rw [List.map_cons, List.pairwise_cons] at h
      obtain ⟨hle, hrest⟩ := h
      rw [List.argmin_cons, ih hrest]
      cases rows with
      | nil => rfl
      | cons next rows =>
          have hnext : key row ≤ key next := hle _ (by simp)
          simp [not_lt.mpr hnext]

/-- What a filter selects after an update that changes no value of `g`. -/
theorem map_filter_updateWhere
    {α : Type} {p q : ρ → Bool} {f : ρ → ρ} {g : ρ → α}
    (hg : ∀ row, g (f row) = g row) (rows : Table ρ) :
    ((updateWhere p f rows).filter q).map g =
      (rows.filter (fun row => if p row then q (f row) else q row)).map g := by
  unfold updateWhere
  rw [List.filter_map, List.map_map]
  have hfilter :
      (q ∘ fun row => if p row then f row else row) =
        fun row => if p row then q (f row) else q row := by
    funext row
    simp only [Function.comp_apply]
    split_ifs <;> rfl
  rw [hfilter]
  apply List.map_congr_left
  intro row _
  simp only [Function.comp_apply]
  split_ifs
  · exact hg row
  · rfl

omit [DecidableEq κ] in
/-- An update of the one row that it selects adds what it adds to this row. -/
theorem sum_map_updateWhere
    {M : Type} [AddCommMonoid M] {p : ρ → Bool} {f : ρ → ρ} {weight : ρ → M}
    {added : M} {row : ρ} {rows : Table ρ} (hfound : rows.find? p = some row)
    (honly : rows.Pairwise (fun a b => p a = true → p b = false))
    (hadds : weight (f row) = weight row + added) :
    ((updateWhere p f rows).map weight).sum =
      (rows.map weight).sum + added := by
  induction rows with
  | nil => cases hfound
  | cons first rest ih =>
      obtain ⟨hlater, hrest⟩ := List.pairwise_cons.mp honly
      cases hfirst : p first with
      | true =>
          rw [List.find?_cons_of_pos hfirst] at hfound
          obtain rfl := Option.some.inj hfound
          have hsame : updateWhere p f rest = rest := by
            refine (List.map_congr_left ?_).trans (List.map_id rest)
            intro other hother
            simp [hlater other hother hfirst]
          have hupdated : updateWhere p f (first :: rest) =
              f first :: updateWhere p f rest := by
            simp [updateWhere, hfirst]
          rw [hupdated, hsame, List.map_cons, List.sum_cons, List.map_cons,
            List.sum_cons, hadds, add_right_comm]
      | false =>
          rw [List.find?_cons_of_neg (by simp [hfirst])] at hfound
          have hupdated : updateWhere p f (first :: rest) =
              first :: updateWhere p f rest := by
            simp [updateWhere, hfirst]
          rw [hupdated, List.map_cons, List.sum_cons, ih hfound hrest,
            List.map_cons, List.sum_cons, add_assoc]

/-! ## What a write does -/

variable {key} {rows : Table ρ}

/-- Some row has the key, and the update changes none of these rows. -/
def Holds (key : ρ → κ) (k : κ) (f : ρ → ρ) (rows : Table ρ) : Prop :=
  hasKey key k rows = true ∧ ∀ row ∈ rows, key row = k → f row = row

theorem updateWhere_eq_self
    {p : ρ → Bool} {f : ρ → ρ} :
    updateWhere p f rows = rows ↔ ∀ row ∈ rows, p row = true → f row = row := by
  conv_lhs => rhs; rw [← List.map_id rows]
  rw [updateWhere, List.map_inj_left]
  refine forall₂_congr fun row _ => ?_
  split_ifs with hp <;> simp [hp]

/-- A write that does nothing exactly when it is `idle`, and that appends unless
it may change rows `inPlace`. -/
structure Written (idle inPlace : Prop) (rows rows' : Table ρ) : Prop where
  idle : rows' = rows ↔ idle
  grows : rows.length ≤ rows'.length
  keeps : ¬ inPlace → rows <+: rows'

variable {idle inPlace : Prop}

theorem written_same
    (h : idle) :
    Written idle inPlace rows rows :=
  ⟨iff_of_true rfl h, le_rfl, fun _ => List.prefix_rfl⟩

theorem written_append
    {row : ρ} (h : ¬ idle) :
    Written idle inPlace rows (rows ++ [row]) :=
  ⟨iff_of_false (by simp) h, by simp, fun _ => List.prefix_append _ _⟩

theorem written_insertNew
    {row : ρ} {k : κ} (hk : key row = k) :
    Written (hasKey key k rows = true) inPlace rows (insertNew key row rows) := by
  subst hk
  unfold insertNew
  split_ifs with h
  · exact written_same h
  · exact written_append h

theorem written_updateWhere
    {p : ρ → Bool} {f : ρ → ρ} (h : inPlace)
    (hidle : (∀ row ∈ rows, p row = true → f row = row) ↔ idle) :
    Written idle inPlace rows (updateWhere p f rows) :=
  ⟨updateWhere_eq_self.trans hidle, by simp [updateWhere],
    fun hkeeps => absurd h hkeeps⟩

theorem written_upsert
    {row : ρ} {f : ρ → ρ} {k : κ} (h : inPlace) (hk : key row = k) :
    Written (Holds key k f rows) inPlace rows (upsert key row f rows) := by
  subst hk
  unfold upsert Holds
  split_ifs with hhas
  · exact written_updateWhere h (by simp [hhas])
  · exact written_append (fun hholds => hhas hholds.1)

end Table
