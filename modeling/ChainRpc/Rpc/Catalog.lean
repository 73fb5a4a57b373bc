import ChainRpc.Rpc.Call
import ChainRpc.Scale.Json

/-!
# Result types and calls by name

For callers who choose at run time: result types and the standard calls under short names. What
such a result holds is given back as JSON, in the form in which the library writes it.
-/

namespace ChainRpc.Rpc.Catalog

open Json (Value Decoder)

/-- A decoder whose values are given back as JSON. -/
def shown {α : Type} (toJson : α → Value) (decoder : Decoder α) : Decoder Value :=
  fun room node => (decoder room node).map toJson

/-- The decoder of a name. -/
def decoder? : String → Option (Decoder Value)
  | "hash256" => some (shown (.string ·.toHex) (Decoder.hash 32))
  | "hash512" => some (shown (.string ·.toHex) (Decoder.hash 64))
  | "bytes" => some (shown (.string ·.toHex) Decoder.blob)
  | "u64" => some (shown .nat Decoder.nat64)
  | "bool" => some (shown .bool Decoder.bool)
  | "string" => some (shown .string Decoder.string)
  | "strings" =>
      some (shown (fun texts => .array (texts.map .string)) (Decoder.list Decoder.string))
  | "header" => some (shown Chain.Header.toJson Chain.Header.decoder)
  | "block" => some (shown Chain.BlockResponse.toJson Chain.BlockResponse.decoder)
  | "health" => some (shown Chain.SystemHealth.toJson Chain.SystemHealth.decoder)
  | "methods" => some (shown Chain.Methods.toJson Chain.Methods.decoder)
  | "runtime_version" => some (shown Chain.RuntimeVersion.toJson Chain.RuntimeVersion.decoder)
  | "sub_id" => some (shown SubscriptionId.toJson SubscriptionId.decoder)
  | "request_id" => some (shown RequestId.toJson RequestId.decoder)
  | "rpc_error" => some (shown ErrorObject.toJson ErrorObject.decoder)
  | "value" => some (shown (.string ·.text) Decoder.value)
  | _ => none

/-- The value of an option, or `null`. -/
def nullable {α : Type} (toJson : α → Value) (value : Option α) : Value :=
  (value.map toJson).getD .null

/-- The result type that a JSON value describes: a name, an object that makes a name optional,
or an object with an encoded format. -/
def resultType? : Value → Option (ResultType Value)
  | .string name => (decoder? name).map (.json name)
  | .object [("option", .string name)] =>
      (decoder? name).map fun decoder =>
        (ResultType.json name (Decoder.nullable decoder)).map (nullable id)
  | .object [("scale", description)] =>
      (Scale.Format.ofJson? description).map fun (format : Scale.Format .both) =>
        (ResultType.scale "scale" format.decoder).map format.toJson
  | _ => none

/-- What the standard calls may take. -/
structure Arguments where
  hash : Option Hash256 := none
  number : Option Nat := none
  key : List UInt8 := []

/-- The standard call of a name. -/
def call? (name : String) (arguments : Arguments) : Option (Call Value) :=
  match name with
  | "finalized_head" => some (Standard.finalizedHead.map (.string ·.toHex))
  | "block" => some ((Standard.block arguments.hash).map (nullable (·.toJson)))
  | "block_hash" => some ((Standard.blockHash arguments.number).map (nullable (.string ·.toHex)))
  | "header" => some ((Standard.header arguments.hash).map (nullable (·.toJson)))
  | "methods" => some (Standard.methods.map (·.toJson))
  | "system_chain" => some (Standard.systemChain.map .string)
  | "system_name" => some (Standard.systemName.map .string)
  | "system_version" => some (Standard.systemVersion.map .string)
  | "system_health" => some (Standard.systemHealth.map (·.toJson))
  | "node_roles" => some (Standard.nodeRoles.map fun roles => .array (roles.map .string))
  | "metadata" => some ((Standard.metadata arguments.hash).map (.string ·.toHex))
  | "runtime_version" => some ((Standard.runtimeVersion arguments.hash).map (·.toJson))
  | "storage" =>
      some ((Standard.storage arguments.key arguments.hash).map (nullable (.string ·.toHex)))
  | _ => none

/-- The standard subscription of a name. -/
def subscription? : String → Option (SubscribeCall Value)
  | "new_heads" => some (Standard.newHeads.map (·.toJson))
  | "finalized_heads" => some (Standard.finalizedHeads.map (·.toJson))
  | "runtime_version" => some (Standard.runtimeVersions.map (·.toJson))
  | _ => none

end ChainRpc.Rpc.Catalog
