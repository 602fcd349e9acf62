import Mathlib.Data.List.Basic

/-!
# JSON values

A JSON value keeps the fields of an object in the order of its list.  A
serialized record lists its fields in declaration order; a map keeps its keys
sorted, which is what `mapOf` builds and `setField` preserves.

Numbers are split into the three representations a number can have: a
nonnegative 64-bit integer, a negative 64-bit integer, and the bit pattern of a
double.
-/

namespace Json

/-- A JSON number. -/
inductive Number
  | posInt (n : UInt64)
  | negInt (n : Int64)
  | float (bits : UInt64)
deriving DecidableEq

/-- A JSON value. -/
inductive Value
  | null
  | bool (b : Bool)
  | number (n : Number)
  | string (s : String)
  | array (elements : List Value)
  | object (fields : List (String × Value))

/-- Insert a field into a key-sorted field list, replacing an equal key. -/
def insertField (key : String) (value : Value) :
    List (String × Value) → List (String × Value)
  | [] => [(key, value)]
  | (k, v) :: rest =>
      if key < k then (key, value) :: (k, v) :: rest
      else if key = k then (k, value) :: rest
      else (k, v) :: insertField key value rest

theorem lookup_insertField
    (key key' : String) (value : Value) (fields : List (String × Value)) :
    (insertField key value fields).lookup key' =
      if key' = key then some value else fields.lookup key' := by
  induction fields with
  | nil =>
      by_cases h : key' = key
      · simp [insertField, h]
      · simp [insertField, List.lookup_cons, beq_false_of_ne h, h]
  | cons field fields ih =>
      obtain ⟨k, v⟩ := field
      simp only [insertField]
      by_cases h : key' = key
      · subst h
        rw [if_pos rfl] at ih ⊢
        split
        · simp
        · split
          · simp_all
          · rename_i hne
            simp [List.lookup_cons, beq_false_of_ne hne, ih]
      · rw [if_neg h] at ih ⊢
        split
        · rw [List.lookup_cons, beq_false_of_ne h]
        · split
          · rename_i heq
            subst heq
            simp [List.lookup_cons, beq_false_of_ne h]
          · simp only [List.lookup_cons, ih]

/-- The map with the given fields, keys sorted, later fields winning. -/
def mapOf (fields : List (String × Value)) : Value :=
  .object (fields.foldl (fun m field => insertField field.1 field.2 m) [])

/-- Assign one key of a map. -/
def setField (key : String) (value : Value) : Value → Value
  | .object fields => .object (insertField key value fields)
  | other => other

/-- The value of a field. -/
def Value.field? (key : String) : Value → Option Value
  | .object fields => fields.lookup key
  | _ => none

/-- The value under nested fields. -/
def Value.path? : List String → Value → Option Value
  | [], value => some value
  | key :: keys, value => (value.field? key).bind (path? keys)

/-- A map holds the last value given for a key. -/
theorem field?_mapOf
    (fields : List (String × Value)) (key : String) :
    (mapOf fields).field? key = fields.reverse.lookup key := by
  suffices hfold : ∀ m : List (String × Value),
      (fields.foldl (fun m field => insertField field.1 field.2 m) m).lookup
          key =
        (fields.reverse.lookup key).or (m.lookup key) by
    rw [mapOf, Value.field?, hfold []]
    simp
  induction fields with
  | nil =>
      intro m
      simp
  | cons field fields ih =>
      intro m
      obtain ⟨k, v⟩ := field
      rw [List.foldl_cons, ih, lookup_insertField, List.reverse_cons,
        List.lookup_append, Option.or_assoc]
      congr 1
      by_cases h : key = k
      · simp [h]
      · simp [List.lookup_cons, beq_false_of_ne h, h]

theorem field?_setField
    (key key' : String) (value : Value) (fields : List (String × Value)) :
    (setField key value (mapOf fields)).field? key' =
      if key' = key then some value else (mapOf fields).field? key' :=
  lookup_insertField key key' value _

theorem path?_nil
    (value : Value) :
    value.path? [] = some value := by
  rfl

theorem path?_mapOf
    (fields : List (String × Value)) (key : String) (keys : List String) :
    (mapOf fields).path? (key :: keys) =
      (fields.reverse.lookup key).bind (Value.path? keys) := by
  rw [Value.path?, field?_mapOf]

/-- A path that begins with an assigned key goes on in the assigned value. -/
theorem path?_setField
    (key : String) (value : Value) (fields : List (String × Value))
    (keys : List String) :
    (setField key value (mapOf fields)).path? (key :: keys) =
      value.path? keys := by
  rw [Value.path?, field?_setField, if_pos rfl, Option.bind_some]

/-- An array of strings. -/
def strings (l : List String) : Value :=
  .array (l.map .string)

/-- An optional string; an absent one is `null`. -/
def optionalString : Option String → Value
  | none => .null
  | some s => .string s

end Json
