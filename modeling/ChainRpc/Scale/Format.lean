import ChainRpc.Scale.Decoder
import ChainRpc.Scale.Encoder

/-!
# Formats

A format describes the layout of a type, to any depth. It determines the type of the values,
a decoder and an encoder. Formats on `Side.both` can be read and written; those on
`Side.write` may also hold eras, which are only ever written.
-/

namespace ChainRpc.Scale

/-- What a format can be used for. -/
inductive Side where
  | both | write
  deriving DecidableEq, Repr

mutual

/-- The layout of a type. -/
inductive Format (side : Side) where
  /-- An unsigned word. -/
  | word (width : Width)
  /-- A compact integer limited to a type. -/
  | compact (type : IntType)
  /-- A boolean. -/
  | bool
  /-- A boolean or nothing, in one byte. -/
  | triState
  /-- A byte string behind its length. -/
  | bytes
  /-- A text behind its length. -/
  | text
  /-- A hash. -/
  | hash (size : Nat)
  /-- Bytes of a fixed number. -/
  | fixed (size : Nat)
  /-- An era. -/
  | era (hwriteOnly : side = .write)
  /-- A list of items of one format. -/
  | list (item : Format side)
  /-- A value of the inner format or nothing, in the optional form of that format. -/
  | option (inner : Format side)
  /-- The inner format, without an optional form of its own. -/
  | plain (inner : Format side)
  /-- A value of one of several formats. -/
  | union (variants : Variants side)

/-- The variants of a union. -/
inductive Variants (side : Side) where
  | nil
  | cons (first : Format side) (rest : Variants side)

end

namespace Variants

/-- The number of variants. -/
def count {side : Side} : Variants side → Nat
  | nil => 0
  | cons _ rest => rest.count + 1

/-- The variants of a list of formats. -/
def ofList {side : Side} : List (Format side) → Variants side
  | [] => nil
  | first :: rest => cons first (ofList rest)

end Variants

mutual

/-- The type of the values of a format. -/
def Format.Value {side : Side} : Format side → Type
  | .word _ => Int
  | .compact _ => Int
  | .bool => Bool
  | .triState => Option Bool
  | .bytes => List UInt8
  | .text => String
  | .hash size => Hash size
  | .fixed _ => List UInt8
  | .era _ => UInt16
  | .list item => List item.Value
  | .option inner => Option inner.Value
  | .plain inner => inner.Value
  | .union variants => variants.Choice

/-- A value of one of the variants. The number at the end stands for a tag that names none:
it says how far past the last variant the tag is. -/
def Variants.Choice {side : Side} : Variants side → Type
  | .nil => Nat
  | .cons first rest => first.Value ⊕ rest.Choice

end

/-- The tag of a choice. -/
def Variants.tag {side : Side} : (variants : Variants side) → variants.Choice → Nat
  | .nil, past => past
  | .cons _ _, .inl _ => 0
  | .cons _ rest, .inr choice => rest.tag choice + 1

mutual

/-- The decoder of a format. -/
def Format.decoder : (format : Format .both) → Decoder format.Value
  | .word width => Decoder.word width
  | .compact type => Decoder.compact type
  | .bool => Decoder.bool
  | .triState => Decoder.triState
  | .bytes => Decoder.bytes
  | .text => Decoder.text
  | .hash size => Decoder.hash size
  | .fixed size => Decoder.fixed size
  | .era hwriteOnly => nomatch hwriteOnly
  | .list item => Decoder.list item.decoder
  | .option inner => Decoder.option inner.decoder
  | .plain inner => Decoder.ofRead inner.decoder.read
  | .union variants => Decoder.union variants.count variants.reader?

/-- The read of the variant that a tag names. -/
def Variants.reader? : (variants : Variants .both) → Nat → Option (Reader variants.Choice)
  | .nil, _ => none
  | .cons first _, 0 => some (Sum.inl <$> first.decoder.read)
  | .cons _ rest, tag + 1 =>
      match rest.reader? tag with
      | some read => some (Sum.inr <$> read)
      | none => none

end

mutual

/-- The encoder of a format. -/
def Format.encoder {side : Side} : (format : Format side) → Encoder format.Value
  | .word width => Encoder.word width
  | .compact type => Encoder.compact type
  | .bool => Encoder.bool
  | .triState => Encoder.triState
  | .bytes => Encoder.bytes
  | .text => Encoder.text
  | .hash size => Encoder.hash size
  | .fixed size => Encoder.fixed size
  | .era _ => Encoder.era
  | .list item => Encoder.list item.encoder
  | .option inner => Encoder.option inner.encoder
  | .plain inner => Encoder.ofWrite inner.encoder.write
  | .union variants =>
      Encoder.ofWrite fun choice =>
        let tag := variants.tag choice
        match variants.payload? choice with
        | some payload => (Output.ok [UInt8.ofNat tag]).andThen payload
        | none => .fail (.unknownVariant tag variants.count)

/-- What is written for a choice after its tag, or nothing when the tag names no variant. -/
def Variants.payload? {side : Side} : (variants : Variants side) → variants.Choice → Option Output
  | .nil, _ => none
  | .cons first _, .inl value => some (first.encoder.write value)
  | .cons _ rest, .inr choice => rest.payload? choice

end

end ChainRpc.Scale
