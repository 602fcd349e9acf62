import ProxyControl.Lib.Base64
import ProxyControl.Storage.ProxyStore

/-!
# A computable instance of the third-party functions

`referenceCrates` evaluates the model at concrete inputs.  Its texts are the real
ones at these inputs, though not at all: of the control characters only the line
feed is escaped, a double is written as its bits, an instant without its fraction,
and base64 text may have any trailing bits.  Digests and signatures are stand-ins
of the real lengths: a digest is a polynomial in the bytes modulo `2 ^ 256`, and a
signature is the public key followed by the digest of the message, so a key accepts
what it signed and nothing else.
-/

namespace ProxyControl

open Calendar

namespace Reference

/-- The `n` low bytes of a number, most significant first. -/
def lowBytes : Nat → Nat → Bytes
  | 0, _ => []
  | n + 1, m => lowBytes n (m / 256) ++ [UInt8.ofNat m]

def digest (bytes : Bytes) : Bytes :=
  lowBytes 32 (bytes.foldl (fun acc b => (acc * 257 + b.toNat + 1) % 2 ^ 256) 1)

def publicKey (key : SigningKey) : VerifyingKey :=
  ⟨key.seed⟩

def signature (key : SigningKey) (message : Bytes) : Bytes :=
  key.seed ++ digest message

/-! ## JSON text -/

def escapeByte (b : UInt8) : Bytes :=
  if b = 34 then [92, 34]
  else if b = 92 then [92, 92]
  else if b = 10 then [92, 110]
  else [b]

def quoted (s : String) (rest : Bytes) : Bytes :=
  34 :: ((utf8 s).flatMap escapeByte ++ 34 :: rest)

def numberText : Json.Number → String
  | .posInt n => toString n.toNat
  | .negInt n => toString n.toInt
  | .float bits => toString bits.toNat

/-- With indentation, a line break with two spaces for each level. -/
def lineBreak (pretty : Bool) (depth : Nat) (rest : Bytes) : Bytes :=
  if pretty then 10 :: (List.replicate (2 * depth) 32 ++ rest) else rest

mutual

/-- Text of a value in front of `rest`: indented from a depth on, or compact. -/
def text (pretty : Bool) (depth : Nat) : Json.Value → Bytes → Bytes
  | .null, rest => utf8 "null" ++ rest
  | .bool b, rest => utf8 (if b then "true" else "false") ++ rest
  | .number n, rest => utf8 (numberText n) ++ rest
  | .string s, rest => quoted s rest
  | .array [], rest => 91 :: 93 :: rest
  | .array (e :: es), rest =>
      91 :: elementsText pretty (depth + 1) (e :: es)
        (lineBreak pretty depth (93 :: rest))
  | .object [], rest => 123 :: 125 :: rest
  | .object (f :: fs), rest =>
      123 :: fieldsText pretty (depth + 1) (f :: fs)
        (lineBreak pretty depth (125 :: rest))

def elementsText (pretty : Bool) (depth : Nat) :
    List Json.Value → Bytes → Bytes
  | [], rest => rest
  | e :: es, rest =>
      let tail := elementsText pretty depth es rest
      lineBreak pretty depth
        (text pretty depth e (if es.isEmpty then tail else 44 :: tail))

def fieldsText (pretty : Bool) (depth : Nat) :
    List (String × Json.Value) → Bytes → Bytes
  | [], rest => rest
  | (key, value) :: fs, rest =>
      let tail := fieldsText pretty depth fs rest
      lineBreak pretty depth (quoted key
        (58 :: (if pretty then [32] else []) ++
          text pretty depth value (if fs.isEmpty then tail else 44 :: tail)))

end

/-! ## Instants -/

/-- A number in decimal, filled with zeros to a width. -/
def padded (width : Nat) (n : Int) : String :=
  let digits := toString n
  String.ofList (List.replicate (width - digits.length) '0') ++ digits

def rfc3339 (t : DateTime) : String :=
  let (year, month, day) := civilFromDays t.dateNaive
  let second := t.secs % 86400
  padded 4 year ++ "-" ++ padded 2 month ++ "-" ++ padded 2 day ++ "T" ++
    padded 2 (second / 3600) ++ ":" ++ padded 2 (second / 60 % 60) ++ ":" ++
    padded 2 (second % 60) ++ "Z"

end Reference

open Reference in
def referenceCrates : Crates where
  sha256 := digest
  verifyingKey := publicKey
  verifyingKeyFromBytes bytes :=
    if bytes.length = 32 then some ⟨bytes⟩ else none
  sign := signature
  verify key message sig := sig = key.bytes ++ digest message
  toVec value := .ok (text false 0 value [])
  toVecPretty value := .ok (text true 0 value [])
  base64Encode bytes := String.ofList (Base64.encode ['='] bytes)
  base64EncodeNoPad bytes := String.ofList (Base64.encode [] bytes)
  base64Decode text := Base64.decode ['='] text.toList
  rfc3339 := rfc3339

/-- A call at the given second that draws identifiers with a common stem. -/
def referenceTick (secs : Int) (stem : String) : Tick where
  now := ⟨secs, 0⟩
  uuid n := stem ++ "-" ++ toString n
  order := IterationOrder.entryOrder

/-- Calls one second apart, each with identifiers of its own. -/
def referenceEnv (secs : Int) (stem : String) (n : ℕ) : Tick :=
  referenceTick (secs + n) (stem ++ toString n)

end ProxyControl
