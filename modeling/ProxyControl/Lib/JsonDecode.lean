import ProxyControl.Lib.JsonOrder

/-!
# Reading records from JSON

A reader of a record takes the fields that it knows, from an object in any order
or from an array by position, and none of them twice; other fields are skipped.
A variant is told by a string, or by a tag among the fields.

A reader is `Stable` if it does not depend on the order of fields.  There is one
rule for each way a reader is built.  What a stable reader reads survives every
carrier.
-/

namespace Json

/-- The fields that are known, by name. -/
abbrev Record : Type :=
  List (String × Value)

/-! ## Scalars -/

def readString : Value → Option String
  | .string s => some s
  | _ => none

def readU64 : Value → Option UInt64
  | .number (.posInt n) => some n
  | _ => none

def readU32 (value : Value) : Option UInt32 :=
  (readU64 value).bind fun n =>
    if n.toNat < UInt32.size then some n.toUInt32 else none

def readU16 (value : Value) : Option UInt16 :=
  (readU64 value).bind fun n =>
    if n.toNat < UInt16.size then some n.toUInt16 else none

/-- Any value is read with its fields sorted. -/
def readValue (value : Value) : Option Value :=
  some value.sorted

def readList {α : Type} (read : Value → Option α) : Value → Option (List α)
  | .array elements => elements.mapM read
  | _ => none

/-! ## Records -/

/-- The known fields of a record, none of them twice. -/
def Value.record (names : List String) : Value → Option Record
  | .object fields =>
      if ((keys fields).filter (· ∈ names)).Nodup then some fields else none
  | .array elements =>
      if elements.length = names.length then some (names.zip elements) else none
  | _ => none

def Record.required
    {α : Type} (record : Record) (name : String) (read : Value → Option α) :
    Option α :=
  (record.lookup name).bind read

/-- A field that may be missing or `null`. -/
def Record.optional
    {α : Type} (record : Record) (name : String) (read : Value → Option α) :
    Option (Option α) :=
  match record.lookup name with
  | none | some .null => some none
  | some value => (read value).map some

/-- A field that has a default. -/
def Record.defaulted
    {α : Type} (record : Record) (name : String) (default : α)
    (read : Value → Option α) : Option α :=
  match record.lookup name with
  | none => some default
  | some value => read value

/-- One of the variants, by its name. -/
def readVariant {α : Type} (label : α → String) (variants : List α) :
    Value → Option α
  | .string s => variants.find? (fun a => label a = s)
  | .object [(s, .null)] => variants.find? (fun a => label a = s)
  | _ => none

/--
The tag of a variant and its fields.  In an object the tag stays among the
fields, where it is skipped.
-/
def Value.tagged (tag : String) : Value → Option (String × Value)
  | .object fields => do
      let record ← (Value.object fields).record [tag]
      return (← record.required tag readString, .object fields)
  | .array (first :: elements) => do
      return (← readString first, .array elements)
  | _ => none

/-- A variant without fields: the tag among any fields, or on its own. -/
def readUnit : Value → Option Unit
  | .object _ => some ()
  | .array [] => some ()
  | _ => none

/-! ## Readers that do not depend on the order -/

/-- The reader reads of a portable value what it reads of its sorted form. -/
def Stable {α : Type} (read : Value → Option α) : Prop :=
  ∀ v : Value, v.Portable → read v.sorted = read v

theorem Stable.carried
    {α : Type} {read : Value → Option α} {carrier : Value → Value}
    (h : Stable read) (hcarrier : Carries carrier) {v : Value} (hv : v.Portable) :
    read (carrier v) = read v := by
  rw [← h _ (hcarrier.portable v hv), hcarrier.sorted_eq v hv, h v hv]

@[simp] theorem stable_readString : Stable readString := by
  intro v _
  cases v <;> rfl

@[simp] theorem stable_readU64 : Stable readU64 := by
  intro v _
  cases v <;> rfl

@[simp] theorem stable_readU32 : Stable readU32 := by
  intro v hv
  rw [readU32, readU32, stable_readU64 v hv]

@[simp] theorem stable_readU16 : Stable readU16 := by
  intro v hv
  rw [readU16, readU16, stable_readU64 v hv]

@[simp] theorem stable_readValue : Stable readValue :=
  fun _ hv => congrArg some hv.sorted_sorted

@[simp] theorem stable_readUnit : Stable readUnit := by
  intro v hv
  cases hv with
  | @array elements _ =>
      cases elements <;> rfl
  | _ => rfl

/-- Equal readings of the elements are equal readings of the list. -/
theorem mapM_congr_left
    {α β : Type} {f g : α → Option β} {l : List α}
    (h : ∀ a ∈ l, f a = g a) :
    l.mapM f = l.mapM g := by
  induction l with
  | nil => rfl
  | cons a l ih =>
      rw [List.mapM_cons, List.mapM_cons, h a List.mem_cons_self,
        ih fun b hb => h b (List.mem_cons_of_mem _ hb)]

@[simp] theorem stable_readList
    {α : Type} {read : Value → Option α} (h : Stable read) :
    Stable (readList read) := by
  intro v hv
  cases hv with
  | array helements =>
      rw [Value.sorted, sortedElements_eq_map, readList, readList,
        List.mapM_map]
      exact mapM_congr_left fun e he => h e (helements e he)
  | _ => rfl

/-- An object that is an only field once it is sorted was one before. -/
theorem sorted_eq_singleton_iff
    {fields : List (String × Value)} (h : (keys fields).Nodup) (s : String) :
    (Value.object fields).sorted = .object [(s, .null)] ↔
      fields = [(s, .null)] := by
  constructor
  · intro heq
    have hfield : ∀ key, (fields.lookup key).map Value.sorted =
        List.lookup key [(s, Value.null)] := by
      intro key
      rw [← field?_sorted h, heq, Value.field?]
    cases fields with
    | nil => cases heq
    | cons field fields =>
    obtain ⟨k, v⟩ := field
    cases fields with
    | nil =>
        cases v with
        | object fields =>
            cases heq
        | _ => cases heq <;> rfl
    | cons field' rest =>
        obtain ⟨k', v'⟩ := field'
        have hne : k ≠ k' := by
          have hdistinct := (List.nodup_cons.mp h).1
          exact fun heq => hdistinct (heq ▸ List.mem_cons_self)
        have hk := hfield k
        have hk' := hfield k'
        simp only [List.lookup_cons, beq_self_eq_true, beq_false_of_ne hne.symm,
          Option.map_some] at hk hk'
        by_cases hs : k = s
        · have hs' : k' ≠ s := fun heq => hne (hs.trans heq.symm)
          simp [beq_false_of_ne hs'] at hk'
        · simp [beq_false_of_ne hs] at hk
  · rintro rfl
    rfl

theorem readVariant_object
    {α : Type} (label : α → String) (variants : List α)
    (fields : List (String × Value))
    (h : ∀ s, fields ≠ [(s, .null)]) :
    readVariant label variants (.object fields) = none := by
  unfold readVariant
  split
  · cases ‹Value.object fields = _›
  · rename_i s heq
    exact absurd (Value.object.inj heq) (h s)
  · rfl

@[simp] theorem stable_readVariant
    {α : Type} (label : α → String) (variants : List α) :
    Stable (readVariant label variants) := by
  intro v hv
  cases hv with
  | @object fields hkeys _ =>
      by_cases hsingle : ∃ s, fields = [(s, .null)]
      · obtain ⟨s, rfl⟩ := hsingle
        rfl
      · rw [not_exists] at hsingle
        rw [readVariant_object label variants fields hsingle, Value.sorted, mapOf]
        refine readVariant_object label variants _ fun s heq => ?_
        exact hsingle s ((sorted_eq_singleton_iff hkeys s).mp
          (congrArg Value.object heq))
  | _ => rfl

/-! ## Records in any order -/

/-- The fields are those of the other record with sorted values. -/
structure Record.Sorts (record record' : Record) : Prop where
  lookup_eq : ∀ name,
    record'.lookup name = (record.lookup name).map Value.sorted
  portable : ∀ name value, record.lookup name = some value → value.Portable

theorem lookup_zip_map
    (names : List String) (elements : List Value) (f : Value → Value)
    (name : String) :
    (names.zip (elements.map f)).lookup name =
      ((names.zip elements).lookup name).map f := by
  induction names generalizing elements with
  | nil => rfl
  | cons n names ih =>
      cases elements with
      | nil => rfl
      | cons element elements =>
          rw [List.map_cons, List.zip_cons_cons, List.zip_cons_cons,
            List.lookup_cons, List.lookup_cons]
          split
          · rfl
          · exact ih elements

theorem mem_of_lookup_zip
    {names : List String} {elements : List Value} {name : String} {value : Value}
    (h : (names.zip elements).lookup name = some value) :
    value ∈ elements :=
  (List.of_mem_zip (mem_of_lookup_eq_some h)).2

/-- A record of distinct fields is read as it is. -/
theorem record_object
    {fields : List (String × Value)} (h : (keys fields).Nodup)
    (names : List String) :
    (Value.object fields).record names = some fields := by
  rw [Value.record, if_pos (h.filter _)]

theorem stable_record
    {α : Type} (names : List String) {f : Record → Option α}
    (h : ∀ record record', Record.Sorts record record' → f record' = f record) :
    Stable (fun v => v.record names >>= f) := by
  intro v hv
  cases hv with
  | @object fields hkeys hfields =>
      have hsorted := (Value.Portable.object hkeys hfields).sorted_tidy
      obtain ⟨fields', heq⟩ : ∃ fields',
          (Value.object fields).sorted = .object fields' := ⟨_, rfl⟩
      rw [heq] at hsorted ⊢
      cases hsorted with
      | object hkeys' hfields' =>
          simp only [record_object hkeys,
            record_object (hkeys'.imp fun hlt => hlt.ne)]
          refine h fields fields' ⟨fun name => ?_, fun name value hvalue => ?_⟩
          · rw [← field?_sorted hkeys, heq, Value.field?]
          · exact hfields _ (mem_of_lookup_eq_some hvalue)
  | @array elements helements =>
      simp only [Value.sorted, sortedElements_eq_map, Value.record,
        List.length_map]
      split
      · refine h _ _ ⟨fun name => lookup_zip_map names elements _ name, ?_⟩
        exact fun name value hvalue => helements value (mem_of_lookup_zip hvalue)
      · rfl
  | _ => rfl

section Fields

variable {α : Type} {read : Value → Option α} {record record' : Record}

theorem Record.Sorts.required
    (h : record.Sorts record') (hread : Stable read) (name : String) :
    record'.required name read = record.required name read := by
  rw [Record.required, Record.required, h.lookup_eq]
  cases hvalue : record.lookup name with
  | none => rfl
  | some value => exact hread value (h.portable name value hvalue)

theorem Record.Sorts.optional
    (h : record.Sorts record') (hread : Stable read) (name : String) :
    record'.optional name read = record.optional name read := by
  rw [Record.optional, Record.optional, h.lookup_eq]
  cases hvalue : record.lookup name with
  | none => rfl
  | some value =>
      have heq := hread value (h.portable name value hvalue)
      cases value with
      | null => rfl
      | object fields => exact congrArg (Option.map some) heq
      | _ => exact congrArg (Option.map some) heq

theorem Record.Sorts.defaulted
    (h : record.Sorts record') (hread : Stable read) (name : String)
    (default : α) :
    record'.defaulted name default read =
      record.defaulted name default read := by
  rw [Record.defaulted, Record.defaulted, h.lookup_eq]
  cases hvalue : record.lookup name with
  | none => rfl
  | some value => exact hread value (h.portable name value hvalue)

end Fields

theorem tagged_object
    {fields : List (String × Value)} (h : (keys fields).Nodup) (tag : String) :
    (Value.object fields).tagged tag =
      ((fields.lookup tag).bind readString).map (·, .object fields) := by
  simp only [Value.tagged, record_object h, Record.required,
    Option.bind_eq_bind, Option.bind_some]
  cases (fields.lookup tag).bind readString with
  | none => rfl
  | some s => rfl

theorem stable_tagged
    {α : Type} (tag : String) {f : String → Value → Option α}
    (h : ∀ s, Stable (f s)) :
    Stable (fun v => v.tagged tag >>= fun tagged => f tagged.1 tagged.2) := by
  intro v hv
  have hread : ∀ value, readString (Value.sorted value) = readString value := by
    intro value
    cases value <;> rfl
  cases hv with
  | @object fields hkeys hfields =>
      have hobject := Value.Portable.object hkeys hfields
      have hsorted := hobject.sorted_tidy
      have hlookup := field?_sorted hkeys tag
      have hf := fun s => h s _ hobject
      obtain ⟨fields', heq⟩ : ∃ fields',
          (Value.object fields).sorted = .object fields' := ⟨_, rfl⟩
      rw [heq] at hsorted hlookup hf ⊢
      cases hsorted with
      | object hkeys' hfields' =>
          simp only [tagged_object hkeys,
            tagged_object (hkeys'.imp fun hlt => hlt.ne)]
          rw [Value.field?] at hlookup
          rw [hlookup]
          cases fields.lookup tag with
          | none => rfl
          | some value =>
              rw [Option.map_some, Option.bind_some, Option.bind_some,
                hread value]
              cases readString value with
              | none => rfl
              | some s => exact hf s
  | @array elements helements =>
      cases elements with
      | nil => rfl
      | cons first elements =>
          have hrest : (Value.array elements).Portable :=
            .array fun e he => helements e (List.mem_cons_of_mem _ he)
          simp only [Value.sorted, sortedElements, Value.tagged, hread first]
          cases readString first with
          | none => rfl
          | some s => exact h s _ hrest
  | _ => rfl

/-! ## Reading what was written -/

theorem readList_map
    {α : Type} {read : Value → Option α} {write : α → Value} {l : List α}
    (h : ∀ a ∈ l, read (write a) = some a) :
    readList read (.array (l.map write)) = some l := by
  rw [readList, List.mapM_map]
  induction l with
  | nil => rfl
  | cons a l ih =>
      rw [List.mapM_cons, Function.comp_apply, h a List.mem_cons_self,
        ih fun b hb => h b (List.mem_cons_of_mem _ hb)]
      rfl

theorem readList_strings (l : List String) :
    readList readString (strings l) = some l :=
  readList_map fun _ _ => rfl

theorem readU16_toUInt64 (n : UInt16) :
    readU16 (.number (.posInt n.toUInt64)) = some n := by
  have hlt : n.toUInt64.toNat < UInt16.size := by
    rw [UInt16.toNat_toUInt64]
    exact n.toNat_lt
  rw [readU16, readU64, Option.bind_some, if_pos hlt, UInt16.toUInt16_toUInt64]

theorem readU32_toUInt64 (n : UInt32) :
    readU32 (.number (.posInt n.toUInt64)) = some n := by
  have hlt : n.toUInt64.toNat < UInt32.size := by
    rw [UInt32.toNat_toUInt64]
    exact n.toNat_lt
  rw [readU32, readU64, Option.bind_some, if_pos hlt, UInt32.toUInt32_toUInt64]

end Json
