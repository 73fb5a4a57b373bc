import ChainRpc.Json.Decoder

/-!
# Headers and blocks

The records in which a node describes its chain. Numbers of blocks are written as hexadecimal
text and read from that or from a plain number. Hashes and byte strings are hexadecimal
text.
-/

namespace ChainRpc.Chain

open Json (Value Decoder)

/-! ### Numbers in hexadecimal -/

namespace HexNumber

/-- The value of a sequence of hexadecimal digits, when it has one and fits 64 bits. -/
def digitsValue? (digits : List Char) : Option Nat :=
  if digits.isEmpty then none
  else do
    let values ← digits.mapM Json.Piece.hexValue?
    let n := values.foldl (fun n digit => 16 * n + digit) 0
    if n < 2 ^ 64 then some n else none

/-- The number that a text stands for: hexadecimal digits behind an optional marker and an
optional plus. -/
def ofText? (text : String) : Option Nat :=
  match Text.Hex.unmark text.toList with
  | '+' :: digits => digitsValue? digits
  | digits => digitsValue? digits

/-- The number as hexadecimal text behind its marker, without leading zeros. -/
def text (n : Nat) : String := String.ofList ('0' :: 'x' :: Nat.toDigits 16 n)

/-- Reads a number of 64 bits, plain or in hexadecimal. -/
def decoder : Decoder Nat := fun room node =>
  match node with
  | .string pieces => do
      match ofText? (← Json.stringValue pieces) with
      | some n => .ok n
      | none => .error .shape
  | _ => Decoder.nat64 room node

end HexNumber

/-! ### Digests -/

/-- The consensus items of a header. -/
structure Digest where
  logs : List Blob := []
  deriving DecidableEq, Inhabited

namespace Digest

/-- A digest whose fields are still being read. -/
structure Draft where
  logs : Option (List Blob) := none

/-- Reads a digest; without items it is empty. -/
def decoder : Decoder Digest :=
  Decoder.record
    [Decoder.field "logs" Draft.logs (fun draft logs => { draft with logs := some logs })
      (Decoder.list Decoder.blob)]
    {} fun draft => some ⟨draft.logs.getD []⟩

/-- The digest as JSON. -/
def toJson (digest : Digest) : Value :=
  .object [("logs", .array (digest.logs.map fun log => .string log.toHex))]

end Digest

/-! ### Headers -/

/-- The header of a block. -/
structure Header where
  parentHash : Hash256
  /-- The height of the block. -/
  number : Nat
  /-- The root of the state after the block. -/
  stateRoot : Hash256
  extrinsicsRoot : Hash256
  digest : Digest := {}
  deriving DecidableEq

namespace Header

/-- A header whose fields are still being read. -/
structure Draft where
  parentHash : Option Hash256 := none
  number : Option Nat := none
  stateRoot : Option Hash256 := none
  extrinsicsRoot : Option Hash256 := none
  digest : Option Digest := none

/-- The fields of a header in their order. -/
def fields : List (Decoder.Field Draft) :=
  [Decoder.field "parentHash" Draft.parentHash
      (fun draft hash => { draft with parentHash := some hash }) (Decoder.hash 32),
   Decoder.field "number" Draft.number
      (fun draft n => { draft with number := some n }) HexNumber.decoder,
   Decoder.field "stateRoot" Draft.stateRoot
      (fun draft hash => { draft with stateRoot := some hash }) (Decoder.hash 32),
   Decoder.field "extrinsicsRoot" Draft.extrinsicsRoot
      (fun draft hash => { draft with extrinsicsRoot := some hash }) (Decoder.hash 32),
   Decoder.field "digest" Draft.digest
      (fun draft digest => { draft with digest := some digest }) Digest.decoder]

/-- The header of a draft; only the digest may be missing. -/
def ofDraft? (draft : Draft) : Option Header := do
  pure {
    parentHash := ← draft.parentHash
    number := ← draft.number
    stateRoot := ← draft.stateRoot
    extrinsicsRoot := ← draft.extrinsicsRoot
    digest := draft.digest.getD {} }

/-- Reads a header. -/
def decoder : Decoder Header := Decoder.record fields {} ofDraft?

/-- The header as JSON. -/
def toJson (header : Header) : Value :=
  .object [
    ("parentHash", .string header.parentHash.toHex),
    ("number", .string (HexNumber.text header.number)),
    ("stateRoot", .string header.stateRoot.toHex),
    ("extrinsicsRoot", .string header.extrinsicsRoot.toHex),
    ("digest", header.digest.toJson)]

end Header

/-! ### Blocks -/

/-- A header with its encoded extrinsics. -/
structure Block where
  header : Header
  extrinsics : List Blob := []
  deriving DecidableEq

namespace Block

/-- A block whose fields are still being read. -/
structure Draft where
  header : Option Header := none
  extrinsics : Option (List Blob) := none

/-- Reads a block; the extrinsics may be missing. -/
def decoder : Decoder Block :=
  Decoder.record
    [Decoder.field "header" Draft.header
        (fun draft header => { draft with header := some header }) Header.decoder,
     Decoder.field "extrinsics" Draft.extrinsics
        (fun draft extrinsics => { draft with extrinsics := some extrinsics })
        (Decoder.list Decoder.blob)]
    {} fun draft => do pure ⟨← draft.header, draft.extrinsics.getD []⟩

/-- The block as JSON. -/
def toJson (block : Block) : Value :=
  .object [
    ("header", block.header.toJson),
    ("extrinsics", .array (block.extrinsics.map fun extrinsic => .string extrinsic.toHex))]

end Block

/-- A block with the justification of its finality, when there is one. -/
structure BlockResponse where
  block : Block
  justification : Option Blob := none
  deriving DecidableEq

namespace BlockResponse

/-- A block response whose fields are still being read. -/
structure Draft where
  block : Option Block := none
  justification : Option (Option Blob) := none

/-- Reads a block response; the justification may be missing. -/
def decoder : Decoder BlockResponse :=
  Decoder.record
    [Decoder.field "block" Draft.block
        (fun draft block => { draft with block := some block }) Block.decoder,
     Decoder.field "justification" Draft.justification
        (fun draft justification => { draft with justification := some justification })
        (Decoder.nullable Decoder.blob)]
    {} fun draft => do pure ⟨← draft.block, draft.justification.getD none⟩

/-- The block response as JSON. -/
def toJson (response : BlockResponse) : Value :=
  .object [
    ("block", response.block.toJson),
    ("justification",
      match response.justification with
      | some blob => .string blob.toHex
      | none => .null)]

end BlockResponse

end ChainRpc.Chain
