import ChainRpc.Hash
import ChainRpc.Scale.Compact

/-!
# Decoders

A decoder reads the values of one type. It also knows how the type is read when it is
optional: most types then stand behind a presence byte, while an optional boolean is a
single byte of three kinds. Decoders are built from one another: lists, options, unions,
and a decoder whose values are converted.
-/

namespace ChainRpc.Scale

/-- How the values of a type are read, alone and as an option. -/
structure Decoder (α : Type) where
  read : Reader α
  readOptional : Reader (Option α)

namespace Decoder

variable {α β : Type}

/-- A byte that is 0 or 1. -/
def readBool : Reader Bool := do
  let byte ← Reader.byte
  if byte = 0 then pure false
  else if byte = 1 then pure true
  else Reader.fail (.malformed (.boolean byte))

/-- A byte that is 0 for nothing, 1 for false and 2 for true. -/
def readTriState : Reader (Option Bool) := do
  let byte ← Reader.byte
  if byte = 0 then pure none
  else if byte = 1 then pure (some false)
  else if byte = 2 then pure (some true)
  else Reader.fail (.malformed (.optionalBoolean byte))

/-- The option of a read behind a presence byte. -/
def behindPresence (read : Reader α) : Reader (Option α) := do
  if (← readBool) then some <$> read else pure none

/-- A decoder whose optional form has a presence byte. -/
def ofRead (read : Reader α) : Decoder α := ⟨read, behindPresence read⟩

/-- A word, its lowest byte first. -/
def word (width : Width) : Decoder Int :=
  ofRead do
    let bytes ← Reader.bytes width.bytes
    pure (LittleEndian.toNat bytes : Int)

/-- A compact integer of a given type. -/
def compact (type : IntType) : Decoder Int := ofRead (Compact.readInto type)

/-- A boolean. Its optional form is the single byte of `triState`. -/
def bool : Decoder Bool := ⟨readBool, readTriState⟩

/-- A boolean or nothing, in one byte. -/
def triState : Decoder (Option Bool) := ofRead readTriState

/-- A fixed number of bytes. -/
def fixed (size : Nat) : Decoder (List UInt8) := ofRead (Reader.bytes size)

/-- A hash, as its bytes. -/
def hash (size : Nat) : Decoder (Hash size) :=
  ofRead fun cursor =>
    match h : splitExact size cursor.rest with
    | some (front, back) =>
        .ok ⟨front, (splitExact_eq_some_iff.mp h).2⟩ ⟨cursor.position + size, back⟩
    | none => .error (.malformed (.short size cursor.position cursor.remaining)) cursor

/-- A byte string behind its length. -/
def bytes : Decoder (List UInt8) :=
  ofRead do
    let size ← Compact.readLength
    Reader.bytes size

/-- A text in UTF-8 behind the number of its bytes. -/
def text : Decoder String :=
  ofRead do
    let bytes ← bytes.read
    match Text.Utf8.decode bytes with
    | .ok text => pure text
    | .error fault => Reader.fail (.malformed (.string fault))

/-- A list behind the number of its items. -/
def list (item : Decoder α) : Decoder (List α) :=
  ofRead do
    let count ← Compact.readLength
    Reader.repeated count item.read

/-- The optional form of a type, as a type of its own. -/
def option (inner : Decoder α) : Decoder (Option α) := ofRead inner.readOptional

/-- Values converted after they were read. The optional form is the usual one, whatever
that of the inner decoder is. -/
def map (f : α → β) (inner : Decoder α) : Decoder β := ofRead (f <$> inner.read)

/-- A tag byte, then the variant it names. -/
def union (count : Nat) (variant : Nat → Option (Reader α)) : Decoder α :=
  ofRead do
    let tag ← Reader.byte
    match variant tag.toNat with
    | some read => read
    | none => Reader.fail (.unknownVariant tag.toNat count)

/-- Reads one value from the start of a byte string; bytes after it are ignored. -/
def ofBytes (decoder : Decoder α) (bytes : List UInt8) : Except Error α :=
  match decoder.read (Cursor.start bytes) with
  | .ok value _ => .ok value
  | .error error _ => .error error

/-- Reads one value from hexadecimal text; bytes after it are ignored. -/
def ofHex (decoder : Decoder α) (text : String) : Except Error α :=
  match Text.Hex.decode text with
  | .ok bytes => decoder.ofBytes bytes
  | .error fault => .error (.hex fault)

end Decoder

end ChainRpc.Scale
