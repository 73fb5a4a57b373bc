import ChainRpc.Scale.Format
import ChainRpc.Text.Quoted
import ChainRpc.Text.Record

/-!
# Labels

Diagnostic text for decoders, encoders, cursors and sinks. A composite names its parts
between braces; a union only counts its variants.
-/

namespace ChainRpc.Scale

open Text (record shownList)

/-- Diagnostic text of the number of bytes in a word. -/
def Width.label : Width → String
  | .w8 => "UByte"
  | .w16 => "UInt16"
  | .w32 => "UInt32"
  | .w64 => "UInt64"
  | .w128 => "UInt128"

namespace Format

variable {side : Side}

/-- Diagnostic text of a format, with the word that ends the names of its parts. -/
def label (role : String) : Format side → String
  | .word width => Width.label width ++ role
  | .compact type => "Compact" ++ role ++ "<" ++ type.name ++ ">"
  | .bool => "Bool" ++ role
  | .triState => "BoolOptional" ++ role
  | .bytes => "ByteArray" ++ role
  | .text => "String" ++ role
  | .hash size => Hash.typeName size ++ role
  | .fixed _ => "FixedBytes" ++ role
  | .era _ => "Era" ++ role
  | .list item => record ("List" ++ role) [("item", item.label role)]
  | .option inner => record ("Optional" ++ role) [("inner", inner.label role)]
  | .plain inner => record "Map" [("inner", inner.label role)]
  | .union variants => record ("Union" ++ role) [("variants", toString variants.count)]

/-- Diagnostic text of the decoder. -/
def decoderLabel (format : Format side) : String := format.label "Reader"

/-- Diagnostic text of the encoder. -/
def encoderLabel (format : Format side) : String := format.label "Writer"

/-- The formats without parts. The size of fixed bytes does not show in diagnostic text. -/
def simple : List (Format .write) :=
  [.bool, .triState, .bytes, .text, .hash 32, .hash 64, .fixed 0, .era rfl]
    ++ [Width.w8, .w16, .w32, .w64, .w128].flatMap (fun width =>
      [.word width, .compact (.unsigned width)])
    ++ [.compact .i32, .compact .i64]

/-- Diagnostic texts of the decoders and encoders of formats without parts. -/
def simpleLabels : List String :=
  simple.flatMap fun format => [format.decoderLabel, format.encoderLabel]

/-- Diagnostic text of the encoder of a word that is fed with numbers of a wider type. -/
def narrowedLabel (width : Width) : String :=
  record "Narrowing"
    [("inner", encoderLabel (.word width : Format .both)),
     ("target", Text.Quoted.text (IntType.unsigned width).name)]

end Format

/-- Diagnostic text of a choice whose payload is shown as given. -/
def taggedLabel (tag : Nat) (payload : String) : String :=
  record "TaggedValue" [("index", toString tag), ("value", payload)]

/-- Diagnostic text of bytes: their numbers in a list. -/
def bytesLabel (bytes : List UInt8) : String :=
  shownList (bytes.map fun byte => toString byte.toNat)

/-- Diagnostic text of a cursor: the whole source, and the position. -/
def Cursor.label (source : List UInt8) (cursor : Cursor) : String :=
  record "ScaleCodecReader" [("source", bytesLabel source), ("pos", toString cursor.position)]

/-- Diagnostic text of a sink. -/
def Sink.label (sink : Sink) : String :=
  record "ScaleCodecWriter" [("out", bytesLabel sink.bytes)]

end ChainRpc.Scale
