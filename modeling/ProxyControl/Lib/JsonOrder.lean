import Mathlib.Data.List.Nodup
import Mathlib.Data.String.Basic
import ProxyControl.Lib.JsonText

/-!
# The order of fields

A reader that keeps the fields of every object sorted, later ones winning, sees
`sorted v` of a value `v`.  `Portable` values have no repeated keys and no
doubles, so their text and their binary forms tell all of them; `Tidy` ones have
their fields sorted already.

A carrier may reorder the fields of objects: `Carries` says that the sorted form
of portable values survives.
-/

namespace Json

/-- The keys of an object, in its order. -/
def keys (fields : List (String × Value)) : List String :=
  fields.map Prod.fst

mutual

/-- All objects of the value with their fields sorted, later ones winning. -/
def Value.sorted : Value → Value
  | .array elements => .array (sortedElements elements)
  | .object fields => mapOf (sortedFields fields)
  | value => value

def sortedElements : List Value → List Value
  | [] => []
  | element :: elements => element.sorted :: sortedElements elements

def sortedFields : List (String × Value) → List (String × Value)
  | [] => []
  | (key, value) :: fields => (key, value.sorted) :: sortedFields fields

end

theorem sortedElements_eq_map
    (elements : List Value) :
    sortedElements elements = elements.map Value.sorted := by
  induction elements with
  | nil => rfl
  | cons element elements ih => rw [sortedElements, ih, List.map_cons]

theorem sortedFields_eq_map
    (fields : List (String × Value)) :
    sortedFields fields =
      fields.map (fun field => (field.1, field.2.sorted)) := by
  induction fields with
  | nil => rfl
  | cons field fields ih => rw [sortedFields, ih, List.map_cons]

theorem keys_sortedFields
    (fields : List (String × Value)) :
    keys (sortedFields fields) = keys fields := by
  rw [sortedFields_eq_map, keys, List.map_map]
  rfl

/-- The number is an integer with its one representation. -/
def Number.Exact : Number → Prop
  | .posInt _ => True
  | .negInt n => n.toInt < 0
  | .float _ => False

/-- No doubles, and no key twice in an object. -/
inductive Value.Portable : Value → Prop
  | null : Portable .null
  | bool (b : Bool) : Portable (.bool b)
  | number {n : Number} (h : n.Exact) : Portable (.number n)
  | string (s : String) : Portable (.string s)
  | array {elements : List Value} (h : ∀ e ∈ elements, Portable e) :
      Portable (.array elements)
  | object
      {fields : List (String × Value)} (hkeys : (keys fields).Nodup)
      (h : ∀ f ∈ fields, Portable f.2) : Portable (.object fields)

/-- No doubles, and the fields of every object sorted. -/
inductive Value.Tidy : Value → Prop
  | null : Tidy .null
  | bool (b : Bool) : Tidy (.bool b)
  | number {n : Number} (h : n.Exact) : Tidy (.number n)
  | string (s : String) : Tidy (.string s)
  | array {elements : List Value} (h : ∀ e ∈ elements, Tidy e) :
      Tidy (.array elements)
  | object
      {fields : List (String × Value)}
      (hkeys : (keys fields).Pairwise (· < ·))
      (h : ∀ f ∈ fields, Tidy f.2) : Tidy (.object fields)

attribute [simp] Value.Tidy.null Value.Tidy.bool Value.Tidy.string

theorem Number.Exact.valid
    {n : Number} (h : n.Exact) :
    n.Valid := by
  cases n with
  | posInt => trivial
  | negInt => exact h
  | float => exact h.elim

theorem Value.Portable.valid
    {v : Value} (h : v.Portable) :
    v.Valid := by
  induction h with
  | null => exact .null
  | bool b => exact .bool b
  | number h => exact .number h.valid
  | string s => exact .string s
  | array _ ih => exact .array ih
  | object _ _ ih => exact .object ih

theorem Value.Tidy.portable
    {v : Value} (h : v.Tidy) :
    v.Portable := by
  induction h with
  | null => exact .null
  | bool b => exact .bool b
  | number h => exact .number h
  | string s => exact .string s
  | array _ ih => exact .array ih
  | object hkeys _ ih => exact .object (hkeys.imp fun h => h.ne) ih

/-! ## Sorted fields -/

theorem keys_insertField_subset
    (key : String) (value : Value) (fields : List (String × Value)) :
    ∀ k ∈ keys (insertField key value fields), k = key ∨ k ∈ keys fields := by
  induction fields with
  | nil => simp [insertField, keys]
  | cons field fields ih =>
      obtain ⟨k', v⟩ := field
      intro k hk
      simp only [insertField] at hk
      split_ifs at hk
      · simpa [keys] using hk
      · exact .inr hk
      · simp only [keys, List.map_cons, List.mem_cons] at hk ⊢
        rcases hk with rfl | hk
        · exact .inr (.inl rfl)
        · exact (ih k hk).imp_right .inr

theorem pairwise_insertField
    {key : String} {value : Value} {fields : List (String × Value)}
    (h : (keys fields).Pairwise (· < ·)) :
    (keys (insertField key value fields)).Pairwise (· < ·) := by
  induction fields with
  | nil => simp [insertField, keys]
  | cons field fields ih =>
      obtain ⟨k, v⟩ := field
      obtain ⟨hfirst, hrest⟩ := List.pairwise_cons.mp h
      simp only [insertField]
      split_ifs with hlt heq
      · refine List.pairwise_cons.mpr ⟨?_, h⟩
        intro k' hk'
        rcases List.mem_cons.mp hk' with rfl | hk'
        · exact hlt
        · exact hlt.trans (hfirst k' hk')
      · exact h
      · refine List.pairwise_cons.mpr ⟨?_, ih hrest⟩
        intro k' hk'
        rcases keys_insertField_subset key value fields k' hk' with rfl | hk'
        · exact lt_of_le_of_ne (not_lt.mp hlt) (Ne.symm heq)
        · exact hfirst k' hk'

theorem mem_insertField
    {key : String} {value : Value} {fields : List (String × Value)}
    {field : String × Value} (h : field ∈ insertField key value fields) :
    field.2 = value ∨ field ∈ fields := by
  induction fields with
  | nil => exact .inl (List.mem_singleton.mp h ▸ rfl)
  | cons head fields ih =>
      obtain ⟨k, v⟩ := head
      simp only [insertField] at h
      split_ifs at h
      · rcases List.mem_cons.mp h with rfl | h
        · exact .inl rfl
        · exact .inr h
      · rcases List.mem_cons.mp h with rfl | h
        · exact .inl rfl
        · exact .inr (List.mem_cons_of_mem _ h)
      · rcases List.mem_cons.mp h with rfl | h
        · exact .inr List.mem_cons_self
        · exact (ih h).imp_right (List.mem_cons_of_mem _)

/-- A key beyond all others goes to the end. -/
theorem insertField_of_beyond
    {key : String} {value : Value} {fields : List (String × Value)}
    (h : ∀ k ∈ keys fields, k < key) :
    insertField key value fields = fields ++ [(key, value)] := by
  induction fields with
  | nil => rfl
  | cons field fields ih =>
      obtain ⟨k, v⟩ := field
      have hk : k < key := h k List.mem_cons_self
      have hrest := ih fun k' hk' => h k' (List.mem_cons_of_mem _ hk')
      rw [insertField, if_neg hk.not_gt, if_neg hk.ne', hrest, List.cons_append]

theorem setField_tidy
    {key : String} {value object : Value} (hvalue : value.Tidy)
    (hobject : object.Tidy) :
    (setField key value object).Tidy := by
  cases hobject with
  | object hkeys hfields =>
      refine .object (pairwise_insertField hkeys) fun field hfield => ?_
      rcases mem_insertField hfield with hnew | hold
      · exact hnew ▸ hvalue
      · exact hfields field hold
  | null => exact .null
  | bool b => exact .bool b
  | number h => exact .number h
  | string s => exact .string s
  | array h => exact .array h

@[simp] theorem mapOf_tidy
    {fields : List (String × Value)} (h : ∀ f ∈ fields, f.2.Tidy) :
    (mapOf fields).Tidy := by
  suffices hfold : ∀ m : List (String × Value), (Value.object m).Tidy →
      (Value.object (fields.foldl
        (fun m field => insertField field.1 field.2 m) m)).Tidy by
    exact hfold [] (.object .nil fun f hf => by cases hf)
  induction fields with
  | nil => exact fun m hm => hm
  | cons field fields ih =>
      intro m hm
      exact ih (fun f hf => h f (List.mem_cons_of_mem _ hf)) _
        (setField_tidy (h field List.mem_cons_self) hm)

@[simp] theorem strings_tidy (l : List String) : (strings l).Tidy := by
  refine .array fun e he => ?_
  obtain ⟨s, -, rfl⟩ := List.mem_map.mp he
  exact .string s

/-- Fields that are sorted are put together as they are. -/
theorem mapOf_of_pairwise
    {fields : List (String × Value)}
    (h : (keys fields).Pairwise (· < ·)) :
    mapOf fields = .object fields := by
  suffices hfold : ∀ m : List (String × Value),
      (keys (m ++ fields)).Pairwise (· < ·) →
      fields.foldl (fun m field => insertField field.1 field.2 m) m =
        m ++ fields by
    rw [mapOf, hfold [] h, List.nil_append]
  clear h
  induction fields with
  | nil => simp
  | cons field fields ih =>
      intro m hm
      have hbeyond : ∀ k ∈ keys m, k < field.1 := by
        rw [keys, List.map_append, List.pairwise_append] at hm
        exact fun k hk => hm.2.2 k hk field.1 List.mem_cons_self
      rw [List.foldl_cons, insertField_of_beyond hbeyond, ih _ (by simpa using hm),
        List.append_assoc, List.singleton_append]

/-- A value that is tidy is its own sorted form. -/
theorem Value.Tidy.sorted_eq
    {v : Value} (h : v.Tidy) :
    v.sorted = v := by
  induction h with
  | null | bool | number | string => rfl
  | array _ ih =>
      rw [Value.sorted, sortedElements_eq_map, List.map_congr_left ih,
        List.map_id']
  | @object fields hkeys _ ih =>
      have hfields : sortedFields fields = fields := by
        rw [sortedFields_eq_map]
        calc fields.map (fun field => (field.1, field.2.sorted))
            = fields.map id :=
              List.map_congr_left fun field hfield => by
                rw [ih field hfield]
                rfl
          _ = fields := List.map_id _
      rw [Value.sorted, hfields, mapOf_of_pairwise hkeys]

theorem Value.Portable.sorted_tidy
    {v : Value} (h : v.Portable) :
    v.sorted.Tidy := by
  induction h with
  | null => exact .null
  | bool b => exact .bool b
  | number h => exact .number h
  | string s => exact .string s
  | array _ ih =>
      rw [Value.sorted, sortedElements_eq_map]
      refine .array fun e he => ?_
      obtain ⟨element, helement, rfl⟩ := List.mem_map.mp he
      exact ih element helement
  | object _ _ ih =>
      rw [Value.sorted, sortedFields_eq_map]
      refine mapOf_tidy fun f hf => ?_
      obtain ⟨field, hfield, rfl⟩ := List.mem_map.mp hf
      exact ih field hfield

theorem Value.Portable.sorted_sorted
    {v : Value} (h : v.Portable) :
    v.sorted.sorted = v.sorted :=
  h.sorted_tidy.sorted_eq

/-! ## Fields of portable objects -/

/-- Another field is skipped. -/
theorem lookup_skip
    {key k : String} (h : key ≠ k) (v : Value) (fields : List (String × Value)) :
    List.lookup key ((k, v) :: fields) = fields.lookup key := by
  rw [List.lookup_cons, beq_false_of_ne h]

theorem lookup_eq_some_of_mem
    {fields : List (String × Value)} (h : (keys fields).Nodup)
    {key : String} {value : Value} (hmem : (key, value) ∈ fields) :
    fields.lookup key = some value := by
  induction fields with
  | nil => cases hmem
  | cons field fields ih =>
      obtain ⟨k, v⟩ := field
      obtain ⟨hfirst, hrest⟩ := List.nodup_cons.mp h
      rcases List.mem_cons.mp hmem with heq | hlater
      · obtain ⟨rfl, rfl⟩ := Prod.mk.inj heq
        simp
      · have hne : key ≠ k := by
          rintro rfl
          exact hfirst (List.mem_map.mpr ⟨(key, value), hlater, rfl⟩)
        rw [lookup_skip hne]
        exact ih hrest hlater

theorem mem_of_lookup_eq_some
    {fields : List (String × Value)} {key : String} {value : Value}
    (h : fields.lookup key = some value) :
    (key, value) ∈ fields := by
  induction fields with
  | nil => cases h
  | cons field fields ih =>
      obtain ⟨k, v⟩ := field
      rw [List.lookup_cons] at h
      by_cases hkey : key = k
      · subst hkey
        rw [beq_self_eq_true] at h
        rw [Option.some.inj h]
        exact List.mem_cons_self
      · rw [beq_false_of_ne hkey] at h
        exact List.mem_cons_of_mem _ (ih h)

/-- Without repeated keys it does not matter where a search begins. -/
theorem lookup_reverse
    {fields : List (String × Value)} (h : (keys fields).Nodup) (key : String) :
    fields.reverse.lookup key = fields.lookup key := by
  have hreverse : (keys fields.reverse).Nodup := by
    rw [keys, List.map_reverse]
    exact List.nodup_reverse.mpr h
  refine Option.ext fun value => ?_
  constructor
  · intro hvalue
    exact lookup_eq_some_of_mem h
      (List.mem_reverse.mp (mem_of_lookup_eq_some hvalue))
  · intro hvalue
    exact lookup_eq_some_of_mem hreverse
      (List.mem_reverse.mpr (mem_of_lookup_eq_some hvalue))

theorem lookup_sortedFields
    (fields : List (String × Value)) (key : String) :
    (sortedFields fields).lookup key =
      (fields.lookup key).map Value.sorted := by
  induction fields with
  | nil => rfl
  | cons field fields ih =>
      obtain ⟨k, v⟩ := field
      rw [sortedFields, List.lookup_cons, List.lookup_cons]
      split
      · rfl
      · exact ih

/-- Sorting moves the fields of an object, and sorts their values. -/
theorem field?_sorted
    {fields : List (String × Value)} (h : (keys fields).Nodup) (key : String) :
    (Value.object fields).sorted.field? key =
      (fields.lookup key).map Value.sorted := by
  have hsorted : (keys (sortedFields fields)).Nodup := by
    rwa [keys_sortedFields]
  rw [Value.sorted, field?_mapOf, lookup_reverse hsorted, lookup_sortedFields]

/-! ## Carriers -/

/-- The value reaches a reader, who may sort the fields of its objects. -/
structure Carries (carrier : Value → Value) : Prop where
  portable : ∀ v : Value, v.Portable → (carrier v).Portable
  sorted_eq : ∀ v : Value, v.Portable → (carrier v).sorted = v.sorted

theorem carries_id : Carries id where
  portable _ h := h
  sorted_eq _ _ := rfl

theorem carries_sorted : Carries Value.sorted where
  portable _ h := h.sorted_tidy.portable
  sorted_eq _ h := h.sorted_sorted

end Json
