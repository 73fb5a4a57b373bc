import ChainRpc.Chain.Header
import ChainRpc.Chain.System
import ChainRpc.Rpc.Identifier
import ChainRpc.Rpc.ResultType

/-!
# Calls

A call names a method, its parameters in their order and the type of its result. An optional
parameter that is not given is left out. A subscribe call opens a stream of events;
it also names the method that ends the stream.
-/

namespace ChainRpc.Rpc

open Json (Value)
open Text (record shownList)

/-- A call of a method of the node. -/
structure Call (α : Type) where
  method : String
  params : List Value := []
  result : ResultType α

namespace Call

variable {α β : Type}

/-- The call with one more parameter. -/
def param (call : Call α) (value : Value) : Call α :=
  { call with params := call.params ++ [value] }

/-- The call with one more parameter, if it is given. -/
def optionalParam (call : Call α) (value : Option Value) : Call α :=
  match value with
  | some value => call.param value
  | none => call

/-- The same call, its result converted. -/
def map (f : α → β) (call : Call α) : Call β :=
  ⟨call.method, call.params, call.result.map f⟩

/-- Diagnostic text. -/
def debug (call : Call α) : String :=
  record "RpcCall"
    [("method", Text.Quoted.text call.method),
     ("params", shownList (Json.debugItems call.params)),
     ("result", call.result.debug)]

end Call

/-- A call that opens a subscription. -/
structure SubscribeCall (α : Type) where
  method : String
  /-- The method that ends the subscription. -/
  unsubscribe : String
  params : List Value := []
  /-- The type of the events. -/
  event : ResultType α

namespace SubscribeCall

variable {α β : Type}

/-- The call with one more parameter. -/
def param (call : SubscribeCall α) (value : Value) : SubscribeCall α :=
  { call with params := call.params ++ [value] }

/-- The same call, its events converted. -/
def map (f : α → β) (call : SubscribeCall α) : SubscribeCall β :=
  ⟨call.method, call.unsubscribe, call.params, call.event.map f⟩

/-- Diagnostic text. -/
def debug (call : SubscribeCall α) : String :=
  record "SubscribeCall"
    [("method", Text.Quoted.text call.method),
     ("unsubscribe", Text.Quoted.text call.unsubscribe),
     ("params", shownList (Json.debugItems call.params)),
     ("event", call.event.debug)]

end SubscribeCall

/-! ### The standard calls of a node -/

namespace Standard

open Chain
open Json (Decoder)

/-- A hash as an optional parameter. -/
private def hashParam (hash : Option Hash256) : Option Value :=
  hash.map fun hash => .string hash.toHex

/-- The hash of the last finalized block. -/
def finalizedHead : Call Hash256 where
  method := "chain_getFinalizedHead"
  result := .json "Hash256" (Decoder.hash 32)

/-- A block, the best one unless a hash is given. -/
def block (hash : Option Hash256) : Call (Option BlockResponse) :=
  Call.optionalParam
    { method := "chain_getBlock"
      result := .json "Option<BlockResponse>" (Decoder.nullable BlockResponse.decoder) }
    (hashParam hash)

/-- The hash of the block of a height. -/
def blockHash (number : Option Nat) : Call (Option Hash256) :=
  Call.optionalParam
    { method := "chain_getBlockHash"
      result := .json "Option<Hash256>" (Decoder.nullable (Decoder.hash 32)) }
    (number.map .nat)

/-- The header of a block. -/
def header (hash : Option Hash256) : Call (Option Header) :=
  Call.optionalParam
    { method := "chain_getHeader"
      result := .json "Option<Header>" (Decoder.nullable Header.decoder) }
    (hashParam hash)

/-- The methods that the node offers. -/
def methods : Call Methods where
  method := "rpc_methods"
  result := .json "Methods" Methods.decoder

/-- The name of the chain. -/
def systemChain : Call String where
  method := "system_chain"
  result := .json "String" Decoder.string

/-- The name of the node's program. -/
def systemName : Call String where
  method := "system_name"
  result := .json "String" Decoder.string

/-- The version of the node's program. -/
def systemVersion : Call String where
  method := "system_version"
  result := .json "String" Decoder.string

/-- How the node is doing. -/
def systemHealth : Call SystemHealth where
  method := "system_health"
  result := .json "SystemHealth" SystemHealth.decoder

/-- The roles of the node. -/
def nodeRoles : Call (List String) where
  method := "system_nodeRoles"
  result := .json "List<String>" (Decoder.list Decoder.string)

/-- The metadata of the runtime. -/
def metadata (block : Option Hash256) : Call Blob :=
  Call.optionalParam
    { method := "state_getMetadata", result := .json "ByteData" Decoder.blob }
    (hashParam block)

/-- The version of the runtime. -/
def runtimeVersion (block : Option Hash256) : Call RuntimeVersion :=
  Call.optionalParam
    { method := "state_getRuntimeVersion"
      result := .json "RuntimeVersion" RuntimeVersion.decoder }
    (hashParam block)

/-- The value stored under a key. -/
def storage (key : List UInt8) (block : Option Hash256) : Call (Option Blob) :=
  Call.optionalParam
    (Call.param
      { method := "state_getStorage"
        result := .json "Option<ByteData>" (Decoder.nullable Decoder.blob) }
      (.string (Text.Hex.encode key)))
    (hashParam block)

/-- The headers of new blocks. -/
def newHeads : SubscribeCall Header where
  method := "chain_subscribeNewHead"
  unsubscribe := "chain_unsubscribeNewHead"
  event := .json "Header" Header.decoder

/-- The headers of blocks as they are finalized. -/
def finalizedHeads : SubscribeCall Header where
  method := "chain_subscribeFinalizedHeads"
  unsubscribe := "chain_unsubscribeFinalizedHeads"
  event := .json "Header" Header.decoder

/-- The versions of the runtime as it changes. -/
def runtimeVersions : SubscribeCall RuntimeVersion where
  method := "state_subscribeRuntimeVersion"
  unsubscribe := "state_unsubscribeRuntimeVersion"
  event := .json "RuntimeVersion" RuntimeVersion.decoder

end Standard

end ChainRpc.Rpc
