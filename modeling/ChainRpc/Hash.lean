import ChainRpc.Text.Hex

/-!
# Hashes and byte strings

A hash is a byte string of a fixed length; `Blob` is one of any length. Both are shown as
hexadecimal text behind a marker. A hash is read from text only when the number of digits is
exactly right, which is looked at before the digits themselves.
-/

namespace ChainRpc

open Text

/-- A byte string of a fixed length. -/
structure Hash (size : Nat) where
  /-- The bytes, the most significant first. -/
  bytes : List UInt8
  length_bytes : bytes.length = size
  deriving DecidableEq

/-- A hash of 32 bytes. -/
abbrev Hash256 := Hash 32

/-- A hash of 64 bytes. -/
abbrev Hash512 := Hash 64

/-- Why a text is not a hash or a byte string. -/
inductive HexFault where
  /-- A hash needs exactly `expected` digits. -/
  | count (expected actual : Nat)
  | digits (fault : Hex.Fault)
  deriving DecidableEq, Repr

namespace Hash

variable {size : Nat}

/-- The hash with every bit clear. -/
def zero (size : Nat) : Hash size :=
  ⟨List.replicate size 0, List.length_replicate⟩

instance : Inhabited (Hash size) := ⟨zero size⟩

/-- A byte string as a hash, when its length is right. -/
def ofBytes? (bytes : List UInt8) : Option (Hash size) :=
  if h : bytes.length = size then some ⟨bytes, h⟩ else none

/-- Reads a hash from hexadecimal text, with or without its marker. -/
def ofHex (text : String) : Except HexFault (Hash size) :=
  let digits := Hex.digitBytes text
  if digits.length ≠ 2 * size then .error (.count (2 * size) digits.length)
  else match Hex.decodeDigits digits with
    | .error fault => .error (.digits fault)
    | .ok bytes =>
        match ofBytes? bytes with
        | some hash => .ok hash
        | none => .error (.count (2 * size) digits.length)

/-- The hash as hexadecimal text behind its marker. -/
def toHex (hash : Hash size) : String := Hex.encode hash.bytes

/-- The name of hashes of this size: it counts bits. -/
def typeName (size : Nat) : String :=
  s!"Hash{8 * size}"

/-- Diagnostic text: the name of the type around the digits. -/
def debug (hash : Hash size) : String :=
  s!"{typeName size}({hash.toHex})"

/-- Hashes are ordered byte by byte from the most significant one. -/
def compare (a b : Hash size) : Ordering :=
  go a.bytes b.bytes
where
  /-- The order of two byte strings; a proper beginning comes first. -/
  go : List UInt8 → List UInt8 → Ordering
    | [], [] => .eq
    | [], _ :: _ => .lt
    | _ :: _, [] => .gt
    | x :: xs, y :: ys => if x < y then .lt else if y < x then .gt else go xs ys

end Hash

/-- Opaque bytes, such as an encoded extrinsic, a storage value or metadata. -/
structure Blob where
  bytes : List UInt8
  deriving DecidableEq, Inhabited

namespace Blob

/-- Reads a byte string from hexadecimal text, with or without its marker. -/
def ofHex (text : String) : Except Hex.Fault Blob :=
  (Hex.decode text).map Blob.mk

/-- The byte string as hexadecimal text behind its marker. -/
def toHex (blob : Blob) : String := Hex.encode blob.bytes

/-- Diagnostic text: the name of the type around the digits. -/
def debug (blob : Blob) : String := s!"ByteData({blob.toHex})"

end Blob

end ChainRpc
