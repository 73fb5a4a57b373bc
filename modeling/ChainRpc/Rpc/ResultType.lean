import ChainRpc.Error
import ChainRpc.Json.Decoder
import ChainRpc.Scale.Format

/-!
# Result types

A result type says how the raw text of a result becomes a value: as JSON, as encoded bytes in a
hexadecimal string, or by a function of the caller. It travels with a call, so
a result is only looked at once it is known whose it is.
-/

namespace ChainRpc.Rpc

open Scale (Format)

/-- How the raw text of a result is read. -/
structure ResultType (α : Type) where
  /-- The way of reading, for diagnostic text. -/
  kind : String
  /-- The name of the type, for diagnostic text. -/
  name : String
  decode : String → Except Error α

namespace ResultType

variable {α β : Type}

/-- A result that is read as JSON. -/
def json (name : String) (decoder : Json.Decoder α) : ResultType α where
  kind := "json"
  name := name
  decode raw := (decoder.ofText raw).mapError .json

/-- A result that is a string of hexadecimal digits for encoded bytes. -/
def scale (name : String) (decoder : Scale.Decoder α) : ResultType α where
  kind := "scale"
  name := name
  decode raw := do
    let digits ← (Json.Decoder.string.ofText raw).mapError .json
    decoder.ofHex digits

/-- A result that a function of the caller reads. -/
def custom (name : String) (decode : String → Except Error α) : ResultType α where
  kind := "custom"
  name := name
  decode := decode

/-- The same result, converted. -/
def map (f : α → β) (type : ResultType α) : ResultType β where
  kind := type.kind
  name := type.name
  decode raw := (type.decode raw).map f

/-- Diagnostic text. -/
def debug (type : ResultType α) : String :=
  Text.record "ResultType"
    [("kind", Text.Quoted.text type.kind), ("type", Text.Quoted.text type.name)]

end ResultType

end ChainRpc.Rpc
