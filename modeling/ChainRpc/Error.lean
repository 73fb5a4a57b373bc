import ChainRpc.Address.Fault
import ChainRpc.IntType
import ChainRpc.Json.Fault
import ChainRpc.Rpc.ErrorObject

/-!
# Errors

Every way an operation of the library can fail, as a cause. `Error.message` gives the
wording; four predicates sort errors by what a caller can do about them.
-/

namespace ChainRpc

open Text

/-- Why a value cannot be written in its format. -/
inductive Unwritable where
  /-- A byte string of a fixed length has another one. -/
  | byteCount (expected actual : Nat)
  /-- A number lies outside the type of its item. -/
  | outOfRange (value : Int) (type : IntType)
  /-- A byte string is not as long as the hash it should be. -/
  | hashSize (size actual : Nat)
  | other (text : String)
  deriving DecidableEq, Repr

/-- The wording of the cause. -/
def Unwritable.message : Unwritable → String
  | .byteCount expected actual => s!"expected {expected} bytes, got {actual}"
  | .outOfRange value type => s!"value {value} is not representable as {type.name}"
  | .hashSize size actual => s!"{Hash.typeName size} needs {size} bytes, got {actual}"
  | .other text => text

/-- Why bytes or a text do not give a value. -/
inductive Malformed where
  /-- Fewer bytes are left than an item takes. -/
  | short (wanted offset remaining : Nat)
  /-- A byte that stands for no boolean. -/
  | boolean (byte : UInt8)
  /-- A byte that stands for no optional boolean. -/
  | optionalBoolean (byte : UInt8)
  /-- The bytes of a string are not UTF-8. -/
  | string (fault : Utf8.Fault)
  /-- A length that no memory can have. -/
  | length (value : Nat)
  /-- A compact integer of so many bytes that has a digit beyond the 128th bit. -/
  | magnitude (bytes : Nat)
  /-- A compact integer outside the type it is read into. -/
  | compactRange (value : Nat) (type : IntType)
  /-- A hash written with the wrong number of digits. -/
  | digitCount (expected actual : Nat)
  /-- A response without an outcome. -/
  | emptyResponse (id : Nat)
  /-- A message that is neither a response nor a notification. -/
  | unclassified
  /-- A message above the size limit. -/
  | oversized (size limit : Nat)
  /-- A message whose bytes are not UTF-8. -/
  | message (fault : Utf8.Fault)
  | other (text : String)
  deriving DecidableEq, Repr

/-- A byte as two hexadecimal digits behind their marker. -/
private def shownByte (byte : UInt8) : String := Hex.encode [byte]

/-- The wording of the cause. -/
def Malformed.text : Malformed → String
  | .short wanted offset remaining =>
      s!"need {wanted} bytes at offset {offset}, only {remaining} remain"
  | .boolean byte => s!"invalid boolean byte {shownByte byte}"
  | .optionalBoolean byte => s!"invalid optional boolean byte {shownByte byte}"
  | .string fault => s!"invalid UTF-8: {fault.message}"
  | .length value => s!"length {value} too large"
  | .magnitude bytes => s!"compact magnitude of {bytes} bytes exceeds 128 bits"
  | .compactRange value type => s!"compact value {value} does not fit {type.name}"
  | .digitCount expected actual => s!"expected {expected} hex digits, got {actual}"
  | .emptyResponse id => s!"response {id} carries neither result nor error"
  | .unclassified => "message is neither a response nor a notification"
  | .oversized size limit => s!"message of {size} bytes exceeds limit of {limit} bytes"
  | .message fault => s!"message is not UTF-8: {fault.message}"
  | .other text => text

/-- Why the transport gave up on a call. -/
inductive TransportFault where
  /-- The id of the call is in use on its connection. -/
  | duplicate (id : Nat)
  /-- The socket failed; the words are those of the socket. -/
  | socket (text : String)
  | other (text : String)
  deriving DecidableEq, Repr

/-- The wording of the cause. -/
def TransportFault.message : TransportFault → String
  | .duplicate id => s!"request id {id} already pending"
  | .socket text => text
  | .other text => text

/-- What is wrong with the settings of a client. -/
inductive Misconfiguration where
  | missingAddress
  | scheme (name : String)
  | zeroTimeout
  | zeroPeriod
  | zeroLimit
  | other (text : String)
  deriving DecidableEq, Repr

/-- The wording of the cause. -/
def Misconfiguration.message : Misconfiguration → String
  | .missingAddress =>
      "Node URL is required. Use .url() to set it.\n" ++
        "Example: Client::builder().url(\"ws://127.0.0.1:9944\")"
  | .scheme name => s!"Unsupported URL scheme '{name}'. Use ws:// or wss://"
  | .zeroTimeout => "Connect timeout must be greater than zero"
  | .zeroPeriod => "Keepalive period must be greater than zero"
  | .zeroLimit => "Max message size must be greater than zero"
  | .other text => text

/-- A failure of an operation. -/
inductive Error where
  /-- A value cannot be written. -/
  | encoding (cause : Unwritable)
  /-- Bytes or a text do not give a value. -/
  | malformed (cause : Malformed)
  /-- A tag that names none of the variants of a union. -/
  | unknownVariant (tag variants : Nat)
  /-- The node refused the call. -/
  | rpc (error : Rpc.ErrorObject)
  /-- The transport failed while the call was under way. -/
  | transport (cause : TransportFault)
  /-- The client opened a newer connection while the call was under way. -/
  | connectionReset
  /-- The connection was closed. -/
  | connectionClosed
  /-- The client has no open connection. -/
  | notConnected
  /-- The handshake took longer than allowed. -/
  | connectionTimeout (milliseconds : Nat)
  /-- The settings of the client are wrong. -/
  | config (cause : Misconfiguration)
  /-- A text is not JSON of the wanted shape. -/
  | json (fault : Json.Fault)
  /-- The handshake failed. -/
  | webSocket
  /-- A text is not hexadecimal. -/
  | hex (fault : Hex.Fault)
  /-- A text is not an address. -/
  | url (fault : Address.Fault)
  /-- The answer to a call can no longer arrive. -/
  | channelClosed
  deriving DecidableEq, Repr

namespace Error

/-- A text that should be a hash or a byte string and is not. -/
def ofHexFault : HexFault → Error
  | .count expected actual => .malformed (.digitCount expected actual)
  | .digits fault => .hex fault

/-- The wording of errors in the content of JSON strings. -/
private def contentMessage : HexFault → String
  | .count expected actual => "Malformed input: " ++ (Malformed.digitCount expected actual).text
  | .digits fault => "Hex error: " ++ fault.message

/-- The wording of an error. -/
def message : Error → String
  | .encoding cause => "Encoding error: " ++ cause.message
  | .malformed cause => "Malformed input: " ++ cause.text
  | .unknownVariant tag variants =>
      s!"Unknown variant index {tag} (declared variants: {variants})"
  | .rpc error => "RPC error: " ++ error.text
  | .transport cause => "Transport error: " ++ cause.message
  | .connectionReset => "Connection reset"
  | .connectionClosed => "Connection closed"
  | .notConnected => "Not connected"
  | .connectionTimeout milliseconds => s!"Connection timeout after {milliseconds}ms"
  | .config cause => "Configuration error: " ++ cause.message
  | .json .shape => "JSON error: not the expected JSON"
  | .json (.content fault) => "JSON error: " ++ contentMessage fault
  | .webSocket => "WebSocket error: handshake failed"
  | .hex fault => "Hex error: " ++ fault.message
  | .url fault => "URL error: " ++ fault.message
  | .channelClosed => "Channel closed"

/-- The name of the kind of an error. -/
def kind : Error → String
  | .encoding _ => "Encoding"
  | .malformed _ => "MalformedInput"
  | .unknownVariant .. => "UnknownVariant"
  | .rpc _ => "Rpc"
  | .transport _ => "Transport"
  | .connectionReset => "ConnectionReset"
  | .connectionClosed => "ConnectionClosed"
  | .notConnected => "NotConnected"
  | .connectionTimeout _ => "ConnectionTimeout"
  | .config _ => "Config"
  | .json _ => "Json"
  | .webSocket => "WebSocket"
  | .hex _ => "Hex"
  | .url _ => "Url"
  | .channelClosed => "ChannelClosed"

/-- The error that stopped the reading of a JSON text, when it lies in the content of one of
its strings. -/
def cause? : Error → Option Error
  | .json (.content fault) => some (ofHexFault fault)
  | _ => none

/-- The error concerns the binary format. -/
def isCodec : Error → Bool
  | .encoding _ | .malformed _ | .unknownVariant .. => true
  | _ => false

/-- The error is the node's answer. -/
def isRpc : Error → Bool
  | .rpc _ => true
  | _ => false

/-- The error concerns the connection. -/
def isConnection : Error → Bool
  | .transport _ | .connectionReset | .connectionClosed | .notConnected
  | .connectionTimeout _ | .webSocket => true
  | _ => false

/-- The call may succeed on another connection. -/
def isRecoverable : Error → Bool
  | .connectionReset | .connectionClosed | .notConnected | .connectionTimeout _ => true
  | _ => false

end Error

end ChainRpc
