import ChainRpc.Json.Access
import ChainRpc.Scale.Format

/-!
# Formats and their values as JSON

A format without parts is named by a string such as `u32`, `compact:u64` or `fixed:4`; a
composite is an object that names its kind and holds its parts. In values, integers are
decimal strings, bytes are hexadecimal strings, a value that is there is wrapped in `some`,
and a choice gives the index of its variant.
-/

namespace ChainRpc.Scale

variable {side : Side}

namespace Format

/-- The format of a name. The encoder of a narrowed word is that of the word. -/
def ofName? (name : String) : Option (Format side) :=
  match name.splitOn ":" with
  | ["bool"] => some .bool
  | ["bool_opt"] => some .triState
  | ["bytes"] => some .bytes
  | ["string"] | ["str"] => some .text
  | ["hash256"] => some (.hash 32)
  | ["hash512"] => some (.hash 64)
  | ["era"] => if hwriteOnly : side = .write then some (.era hwriteOnly) else none
  | ["compact", type] | ["narrow", "compact", type, _] => (IntType.ofName? type).map .compact
  | ["fixed", size] | ["array", size] => size.toNat?.map .fixed
  | [width] | ["narrow", width, _] => (Width.ofName? width).map .word
  | _ => none

mutual

/-- The format that a JSON value describes. -/
def ofJson? : Json.Value → Option (Format side)
  | .string name => ofName? name
  | .object [("list", item)] => (ofJson? item).map .list
  | .object [("option", inner)] => (ofJson? inner).map .option
  | .object [("map", inner)] => (ofJson? inner).map .plain
  | .object [("union", .array variants)] => (variantsOfJson? variants).map .union
  | _ => none

/-- The variants that a list of JSON values describes. -/
def variantsOfJson? : List Json.Value → Option (Variants side)
  | [] => some .nil
  | first :: rest => do pure (.cons (← ofJson? first) (← variantsOfJson? rest))

end

/-- A value that may be missing. -/
def optionToJson : Option Json.Value → Json.Value
  | some value => .object [("some", value)]
  | none => .null

mutual

/-- A value of a format as JSON. -/
def toJson : (format : Format side) → format.Value → Json.Value
  | .word _, (n : Int) | .compact _, (n : Int) => .string (toString n)
  | .bool, (b : Bool) => .bool b
  | .triState, (b : Option Bool) => (b.map Json.Value.bool).getD .null
  | .bytes, (data : List UInt8) | .fixed _, (data : List UInt8) =>
      .string (Text.Hex.encode data)
  | .text, (s : String) => .string s
  | .hash _, (h : Hash _) => .string h.toHex
  | .era _, (n : UInt16) => .string (toString n.toNat)
  | .list item, (items : List item.Value) => .array (items.map (toJson item))
  | .option inner, (value : Option inner.Value) => optionToJson (value.map (toJson inner))
  | .plain inner, value => toJson inner value
  | .union variants, choice =>
      .object [("index", .nat (variants.tag choice)), ("value", payloadToJson variants choice)]

/-- The payload of a choice as JSON. -/
def payloadToJson : (variants : Variants side) → variants.Choice → Json.Value
  | .nil, _ => .null
  | .cons first _, .inl value => toJson first value
  | .cons _ rest, .inr choice => payloadToJson rest choice

end

/-- The bytes of a hexadecimal string. -/
def bytesOfJson? (value : Json.Value) : Option (List UInt8) :=
  value.string?.bind fun text => (Text.Hex.decode text).toOption

mutual

/-- The value of a format that a JSON value stands for. -/
def valueOfJson? : (format : Format side) → Json.Value → Option format.Value
  | .word _, json | .compact _, json => json.integer?
  | .bool, json => json.bool?
  | .triState, .null => some (none : Option Bool)
  | .triState, json => json.bool?.map (some : Bool → Option Bool)
  | .bytes, json | .fixed _, json => bytesOfJson? json
  | .text, json => json.string?
  | .hash size, json =>
      (json.string?.bind fun text => (Hash.ofHex text).toOption : Option (Hash size))
  | .era _, json => json.natural?.map UInt16.ofNat
  | .list item, json => json.items?.bind fun items => items.mapM (valueOfJson? item)
  | .option inner, .null => some (none : Option inner.Value)
  | .option inner, json =>
      (json.member? "some").bind fun json => (valueOfJson? inner json).map some
  | .plain inner, json => valueOfJson? inner json
  | .union variants, json => do
      choiceOfJson? variants (← (← json.member? "index").natural?) (← json.member? "value")

/-- The choice of a variant that an index and a JSON value stand for. -/
def choiceOfJson? : (variants : Variants side) → Nat → Json.Value → Option variants.Choice
  | .nil, past, _ => some past
  | .cons first _, 0, json => (valueOfJson? first json).map .inl
  | .cons _ rest, index + 1, json => (choiceOfJson? rest index json).map .inr

end

end Format

end ChainRpc.Scale
