import Mathlib.Data.List.Basic

/-!
# Hexadecimal text

Lower-case encoding of bytes, and decoding of an even number of digits of
either case.
-/

namespace Hex

/-- The digit of a value below sixteen. -/
def digit (n : Nat) : Char :=
  if n < 10 then Char.ofNat (48 + n) else Char.ofNat (87 + n)

def encode (bytes : List UInt8) : String :=
  String.ofList
    (bytes.flatMap fun b => [digit (b.toNat / 16), digit (b.toNat % 16)])

/-- The value of a digit of either case. -/
def digitValue (c : Char) : Option Nat :=
  if '0' ≤ c ∧ c ≤ '9' then some (c.toNat - 48)
  else if 'a' ≤ c ∧ c ≤ 'f' then some (c.toNat - 87)
  else if 'A' ≤ c ∧ c ≤ 'F' then some (c.toNat - 55)
  else none

def decodeBytes : List UInt8 → Option (List UInt8)
  | [] => some []
  | [_] => none
  | hi :: lo :: rest =>
      match digitValue (Char.ofNat hi.toNat), digitValue (Char.ofNat lo.toNat),
        decodeBytes rest with
      | some h, some l, some bytes => some (UInt8.ofNat (16 * h + l) :: bytes)
      | _, _, _ => none

/-- The bytes of the text are read, as every digit is one byte. -/
def decode (s : String) : Option (List UInt8) :=
  decodeBytes s.toUTF8.data.toList

theorem toUTF8_ofList (l : List Char) :
    (String.ofList l).toUTF8.data.toList = l.flatMap String.utf8EncodeChar := by
  simp [String.toUTF8, List.utf8Encode]

/-- A digit is one byte, which stands for it and has its value. -/
theorem exists_byte_digit
    {n : Nat} (h : n < 16) :
    ∃ b, String.utf8EncodeChar (digit n) = [b] ∧
      Char.ofNat b.toNat = digit n ∧ digitValue (digit n) = some n := by
  have hall : ∀ m : Fin 16, String.utf8EncodeChar (digit m) =
      [UInt8.ofNat (digit m).toNat] ∧
        Char.ofNat (UInt8.ofNat (digit m).toNat).toNat = digit m ∧
        digitValue (digit m) = some m.val := by
    decide
  exact ⟨_, hall ⟨n, h⟩⟩

theorem exists_digit_of_mem_encode
    {bytes : List UInt8} {b : UInt8}
    (h : b ∈ (encode bytes).toUTF8.data.toList) :
    ∃ n < 16, Char.ofNat b.toNat = digit n := by
  rw [encode, toUTF8_ofList, List.mem_flatMap] at h
  obtain ⟨c, hc, hb⟩ := h
  obtain ⟨byte, -, hbyte⟩ := List.mem_flatMap.mp hc
  have hlt := byte.toNat_lt
  have hdigit : ∃ n < 16, c = digit n := by
    rcases List.mem_cons.mp hbyte with rfl | hbyte
    · exact ⟨byte.toNat / 16, by omega, rfl⟩
    · exact ⟨byte.toNat % 16, by omega, List.mem_singleton.mp hbyte⟩
  obtain ⟨n, hn, rfl⟩ := hdigit
  obtain ⟨b', hencode, hchar, -⟩ := exists_byte_digit hn
  rw [hencode, List.mem_singleton] at hb
  exact ⟨n, hn, hb ▸ hchar⟩

/-- Decoding reads back what was encoded. -/
theorem decode_encode
    (bytes : List UInt8) :
    decode (encode bytes) = some bytes := by
  rw [decode, encode, toUTF8_ofList]
  induction bytes with
  | nil =>
      rfl
  | cons b bytes ih =>
      have hb := b.toNat_lt
      obtain ⟨hi, hhi, hhigh, hvhigh⟩ :=
        exists_byte_digit (show b.toNat / 16 < 16 by omega)
      obtain ⟨lo, hlo, hlow, hvlow⟩ :=
        exists_byte_digit (show b.toNat % 16 < 16 by omega)
      have hvalue : 16 * (b.toNat / 16) + b.toNat % 16 = b.toNat :=
        Nat.div_add_mod b.toNat 16
      simp [hhi, hlo, decodeBytes, hhigh, hlow, hvhigh, hvlow, ih, hvalue]

end Hex
