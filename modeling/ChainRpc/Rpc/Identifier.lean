import ChainRpc.Json.Decoder

/-!
# Identifiers

The client numbers its requests from zero on every connection, and counts its connections
as epochs. The node names a subscription by a string or by a number; a number and the string of
its digits are different names. A name goes back to the node in the form it came.
-/

namespace ChainRpc.Rpc

open Text (wrapped)

/-- The number of a request. -/
structure RequestId where
  value : Nat
  deriving DecidableEq, Repr, Inhabited

namespace RequestId

/-- The text of the number. -/
def text (id : RequestId) : String := toString id.value

/-- Diagnostic text. -/
def debug (id : RequestId) : String := wrapped "RequestId" id.text

/-- The number as JSON. -/
def toJson (id : RequestId) : Json.Value := .nat id.value

/-- Reads a number of 64 bits. -/
def decoder : Json.Decoder RequestId := fun room node =>
  (Json.Decoder.nat64 room node).map RequestId.mk

end RequestId

/-- The number of a connection of a client; zero stands for none yet. -/
structure Epoch where
  number : Nat
  deriving DecidableEq, Repr, Inhabited

namespace Epoch

/-- The epoch before the first connection. -/
def none : Epoch := ⟨0⟩

/-- The epoch after this one. -/
def next (epoch : Epoch) : Epoch := ⟨epoch.number + 1⟩

/-- The text shown to users. -/
def text (epoch : Epoch) : String := s!"epoch#{epoch.number}"

/-- Diagnostic text. -/
def debug (epoch : Epoch) : String := wrapped "Epoch" (toString epoch.number)

end Epoch

/-- The name that a node gave to a subscription. -/
inductive SubscriptionId where
  | string (name : String)
  | number (n : Nat)
  deriving DecidableEq, Repr

namespace SubscriptionId

/-- The text shown to users; it does not tell a number from the string of its digits. -/
def text : SubscriptionId → String
  | string name => name
  | number n => toString n

/-- Diagnostic text. -/
def debug : SubscriptionId → String
  | string name => wrapped "Str" (Text.Quoted.text name)
  | number n => wrapped "Num" (toString n)

/-- The name as JSON, in the form the node used. -/
def toJson : SubscriptionId → Json.Value
  | string name => .string name
  | number n => .nat n

/-- Reads a string or a number of 64 bits. -/
def decoder : Json.Decoder SubscriptionId := fun room node =>
  match node with
  | .string pieces => (Json.stringValue pieces).map string
  | _ => (Json.Decoder.nat64 room node).map number

end SubscriptionId

end ChainRpc.Rpc
