import ChainRpc.Hash
import ChainRpc.Scale.Compact

/-!
# Encoders

An encoder writes the values of one type, alone and as an option. What it writes depends
on the value only. Writing can fail at a part that its item cannot hold; the bytes of
the parts before it are then already written, and the failing part adds none.
-/

namespace ChainRpc.Scale

/-- What a write appended, and the error that stopped it, if one did. -/
structure Output where
  bytes : List UInt8
  fault : Option Error
  deriving DecidableEq

namespace Output

/-- A write that succeeded. -/
def ok (bytes : List UInt8) : Output := ⟨bytes, none⟩

/-- A write that failed before it appended anything. -/
def fail (error : Error) : Output := ⟨[], some error⟩

/-- One write after another; the second happens only if the first succeeded. -/
def andThen (first second : Output) : Output :=
  match first.fault with
  | some _ => first
  | none => ⟨first.bytes ++ second.bytes, second.fault⟩

/-- Writes one after another, up to the first that fails. -/
def sequence : List Output → Output
  | [] => ok []
  | first :: rest => first.andThen (sequence rest)

/-- The bytes of a write that succeeded, or its error. -/
def toExcept (output : Output) : Except Error (List UInt8) :=
  match output.fault with
  | some error => .error error
  | none => .ok output.bytes

end Output

/-- How the values of a type are written, alone and as an option. -/
structure Encoder (α : Type) where
  write : α → Output
  writeOptional : Option α → Output

namespace Encoder

variable {α β : Type}

/-- The byte of a boolean. -/
def boolByte (value : Bool) : UInt8 := if value then 1 else 0

/-- The byte of an optional boolean. -/
def triStateByte : Option Bool → UInt8
  | none => 0
  | some false => 1
  | some true => 2

/-- The option of a write behind a presence byte. -/
def behindPresence (write : α → Output) : Option α → Output
  | some value => (Output.ok [boolByte true]).andThen (write value)
  | none => .ok [boolByte false]

/-- An encoder whose optional form has a presence byte. -/
def ofWrite (write : α → Output) : Encoder α := ⟨write, behindPresence write⟩

/-- Writes a number if it belongs to the type, and refuses it otherwise. -/
def narrowed (type : IntType) (write : Nat → List UInt8) (value : Int) : Output :=
  if 0 ≤ value && type.holds value then .ok (write value.toNat)
  else .fail (.encoding (.outOfRange value type))

/-- A word, its lowest byte first. -/
def word (width : Width) : Encoder Int :=
  ofWrite (narrowed (.unsigned width) (LittleEndian.ofNat width.bytes))

/-- A compact integer of a given type. -/
def compact (type : IntType) : Encoder Int := ofWrite (narrowed type Compact.encode)

/-- A boolean. Its optional form is the single byte of `triState`. -/
def bool : Encoder Bool :=
  ⟨fun value => .ok [boolByte value], fun value => .ok [triStateByte value]⟩

/-- A boolean or nothing, in one byte. -/
def triState : Encoder (Option Bool) := ofWrite fun value => .ok [triStateByte value]

/-- A fixed number of bytes; a byte string of another length is refused. -/
def fixed (size : Nat) : Encoder (List UInt8) :=
  ofWrite fun bytes =>
    if bytes.length = size then .ok bytes
    else .fail (.encoding (.byteCount size bytes.length))

/-- A hash, as its bytes. -/
def hash (size : Nat) : Encoder (Hash size) := ofWrite fun value => .ok value.bytes

/-- A byte string behind its length. -/
def bytes : Encoder (List UInt8) :=
  ofWrite fun bytes => .ok (Compact.encode bytes.length ++ bytes)

/-- A text in UTF-8 behind the number of its bytes. -/
def text : Encoder String := ofWrite fun value => bytes.write (Text.Utf8.encode value)

/-- An era: a single zero byte when it never ends, and a word of two bytes otherwise. -/
def era : Encoder UInt16 :=
  ofWrite fun value =>
    if value = 0 then .ok [0] else .ok (LittleEndian.ofNat 2 value.toNat)

/-- A list behind the number of its items. -/
def list (item : Encoder α) : Encoder (List α) :=
  ofWrite fun items =>
    (Output.ok (Compact.encode items.length)).andThen (.sequence (items.map item.write))

/-- The optional form of a type, as a type of its own. -/
def option (inner : Encoder α) : Encoder (Option α) := ofWrite inner.writeOptional

/-- Writes one value into fresh bytes. -/
def toBytes (encoder : Encoder α) (value : α) : Except Error (List UInt8) :=
  (encoder.write value).toExcept

/-- Writes one value as hexadecimal text behind its marker. -/
def toHex (encoder : Encoder α) (value : α) : Except Error String :=
  (encoder.toBytes value).map Text.Hex.encode

end Encoder

/-- The bytes written so far. -/
structure Sink where
  bytes : List UInt8 := []
  deriving DecidableEq

namespace Sink

variable {α : Type}

/-- Appends what a write produced, and reports its error. -/
def append (sink : Sink) (output : Output) : Sink × Option Error :=
  (⟨sink.bytes ++ output.bytes⟩, output.fault)

/-- Writes a value. -/
def write (sink : Sink) (encoder : Encoder α) (value : α) : Sink × Option Error :=
  sink.append (encoder.write value)

/-- Writes an optional value. -/
def writeOptional (sink : Sink) (encoder : Encoder α) (value : Option α) :
    Sink × Option Error :=
  sink.append (encoder.writeOptional value)

end Sink

end ChainRpc.Scale
