import Mathlib.Data.List.Basic

/-!
# Base64 text

The standard alphabet, with padding or without.  Three bytes are four digits; one
byte that is left over is two digits and two bytes are three, filled up to four by
the padding.
-/

namespace Base64

/-- The digit of a value below sixty-four. -/
def char (n : Nat) : Char :=
  if n < 26 then Char.ofNat (65 + n)
  else if n < 52 then Char.ofNat (71 + n)
  else if n < 62 then Char.ofNat (n - 4)
  else if n = 62 then '+'
  else '/'

def value (c : Char) : Option Nat :=
  if 'A' ≤ c ∧ c ≤ 'Z' then some (c.toNat - 65)
  else if 'a' ≤ c ∧ c ≤ 'z' then some (c.toNat - 71)
  else if '0' ≤ c ∧ c ≤ '9' then some (c.toNat + 4)
  else if c = '+' then some 62
  else if c = '/' then some 63
  else none

/-- The values of the digits of bytes. -/
def sextets : List UInt8 → List Nat
  | [] => []
  | [a] =>
      let n := a.toNat * 16
      [n / 64, n % 64]
  | [a, b] =>
      let n := a.toNat * 1024 + b.toNat * 4
      [n / 4096, n / 64 % 64, n % 64]
  | a :: b :: c :: rest =>
      let n := a.toNat * 65536 + b.toNat * 256 + c.toNat
      n / 262144 :: n / 4096 % 64 :: n / 64 % 64 :: n % 64 :: sextets rest

/-- The bytes of the values of digits. -/
def octets : List Nat → Option (List UInt8)
  | [] => some []
  | [_] => none
  | [a, b] => some [UInt8.ofNat ((a * 64 + b) / 16)]
  | [a, b, c] =>
      let n := a * 4096 + b * 64 + c
      some [UInt8.ofNat (n / 1024), UInt8.ofNat (n / 4)]
  | a :: b :: c :: d :: rest =>
      let n := a * 262144 + b * 4096 + c * 64 + d
      (octets rest).map fun bytes =>
        UInt8.ofNat (n / 65536) :: UInt8.ofNat (n / 256) :: UInt8.ofNat n ::
          bytes

/-- What is missing to groups of four digits. -/
def padding (pad : List Char) (digits : Nat) : List Char :=
  match digits % 4 with
  | 2 => pad ++ pad
  | 3 => pad
  | _ => []

/-- The text of bytes, with the given padding character, if any. -/
def encode (pad : List Char) (bytes : List UInt8) : List Char :=
  (sextets bytes).map char ++ padding pad (sextets bytes).length

def decode (pad : List Char) (text : List Char) : Option (List UInt8) :=
  let digits := text.takeWhile (fun c => (value c).isSome)
  if text = digits ++ padding pad digits.length then
    (digits.mapM value).bind octets
  else none

/-! ## Digits -/

theorem value_char
    {n : Nat} (h : n < 64) :
    value (char n) = some n := by
  have hall : ∀ m : Fin 64, value (char m) = some m.val := by
    decide
  exact hall ⟨n, h⟩

theorem mapM_value
    {ns : List Nat} (h : ∀ n ∈ ns, n < 64) :
    (ns.map char).mapM value = some ns := by
  induction ns with
  | nil => rfl
  | cons n ns ih =>
      have hn := value_char (h n List.mem_cons_self)
      have hns := ih (fun m hm => h m (List.mem_cons_of_mem _ hm))
      simp [hn, hns]

theorem sextets_lt
    (bytes : List UInt8) :
    ∀ n ∈ sextets bytes, n < 64 := by
  induction bytes using sextets.induct with
  | case1 => simp [sextets]
  | case2 a =>
      have ha := a.toNat_lt
      simp only [sextets, List.forall_mem_cons, List.not_mem_nil,
        false_implies, implies_true, and_true]
      omega
  | case3 a b =>
      have ha := a.toNat_lt
      have hb := b.toNat_lt
      simp only [sextets, List.forall_mem_cons, List.not_mem_nil,
        false_implies, implies_true, and_true]
      omega
  | case4 a b c rest ih =>
      have ha := a.toNat_lt
      have hb := b.toNat_lt
      have hc := c.toNat_lt
      simp only [sextets, List.forall_mem_cons]
      refine ⟨by omega, by omega, by omega, by omega, ih⟩

theorem ofNat_of_eq
    {b : UInt8} {n : Nat} (h : n % 256 = b.toNat) :
    UInt8.ofNat n = b := by
  apply UInt8.toNat_inj.mp
  rw [UInt8.toNat_ofNat', h]

/-- Bytes are read back from their digits. -/
theorem octets_sextets
    (bytes : List UInt8) :
    octets (sextets bytes) = some bytes := by
  induction bytes using sextets.induct with
  | case1 => rfl
  | case2 a =>
      have ha := a.toNat_lt
      simp only [sextets, octets, Option.some.injEq, List.cons.injEq, and_true]
      exact ofNat_of_eq (by omega)
  | case3 a b =>
      have ha := a.toNat_lt
      have hb := b.toNat_lt
      simp only [sextets, octets, Option.some.injEq, List.cons.injEq, and_true]
      exact ⟨ofNat_of_eq (by omega), ofNat_of_eq (by omega)⟩
  | case4 a b c rest ih =>
      have ha := a.toNat_lt
      have hb := b.toNat_lt
      have hc := c.toNat_lt
      simp only [sextets, octets, ih, Option.map_some, Option.some.injEq,
        List.cons.injEq, and_true]
      exact ⟨ofNat_of_eq (by omega), ofNat_of_eq (by omega),
        ofNat_of_eq (by omega)⟩

/-! ## The round trip -/

theorem mem_padding
    {pad : List Char} {digits : Nat} {c : Char}
    (h : c ∈ padding pad digits) :
    c ∈ pad := by
  unfold padding at h
  split at h
  · simpa using h
  · exact h
  · cases h

/-- Every character of a text is a digit or padding. -/
theorem mem_encode
    {pad : List Char} {bytes : List UInt8} {c : Char}
    (h : c ∈ encode pad bytes) :
    (value c).isSome = true ∨ c ∈ pad := by
  rcases List.mem_append.mp h with hdigit | hpad
  · obtain ⟨n, hn, rfl⟩ := List.mem_map.mp hdigit
    rw [value_char (sextets_lt bytes n hn)]
    exact .inl rfl
  · exact .inr (mem_padding hpad)

/-- Decoding reads back what was encoded. -/
theorem decode_encode
    {pad : List Char} (hpad : ∀ c ∈ pad, value c = none)
    (bytes : List UInt8) :
    decode pad (encode pad bytes) = some bytes := by
  have hdigits : (encode pad bytes).takeWhile (fun c => (value c).isSome) =
      (sextets bytes).map char := by
    have hnone : (padding pad (sextets bytes).length).takeWhile
        (fun c => (value c).isSome) = [] := by
      cases hrest : padding pad (sextets bytes).length with
      | nil => rfl
      | cons c rest =>
          have hc : c ∈ padding pad (sextets bytes).length := by
            rw [hrest]
            exact List.mem_cons_self
          rw [List.takeWhile_cons, hpad c (mem_padding hc)]
          rfl
    rw [encode, List.takeWhile_append_of_pos, hnone, List.append_nil]
    intro c hc
    obtain ⟨n, hn, rfl⟩ := List.mem_map.mp hc
    rw [value_char (sextets_lt bytes n hn)]
    rfl
  simp only [decode, hdigits, List.length_map]
  rw [← encode, if_pos rfl, mapM_value (sextets_lt bytes), Option.bind_some,
    octets_sextets]

end Base64
