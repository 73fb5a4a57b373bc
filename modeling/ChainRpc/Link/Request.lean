import ChainRpc.Error
import ChainRpc.Link.Registry
import ChainRpc.Rpc.Identifier

/-!
# Requests and subscriptions of a connection

A connection keeps the requests that wait for an answer under their ids, and the subscriptions
whose events it delivers under the names that the node gave them. The result of a request may
name a new subscription; it is registered as the request is completed, so the next
message already finds it.

The owner of a request (`κ`) is told the outcome, and the listener of a subscription (`δ`)
is told the events. A connection knows nothing about either.
-/

namespace ChainRpc.Link

open Rpc (RequestId SubscriptionId)

/-- What became of a request: the text of its result, or an error. -/
abbrev Outcome := Except Error String

/-- A subscription as its connection knows it. -/
structure Registration (δ : Type) where
  /-- The method that ends the subscription. -/
  unsubscribe : String
  listener : δ

/-- The subscriptions of a connection. -/
abbrev Subscriptions (δ : Type) := Registry SubscriptionId (Registration δ)

/-- A request that waits for its answer. -/
structure Request (κ δ : Type) where
  method : String
  owner : κ
  /-- The subscription that a result names. -/
  registers : String → Option (SubscriptionId × Registration δ) := fun _ => none

/-- The requests of a connection that wait for an answer. -/
abbrev Pending (κ δ : Type) := Registry RequestId (Request κ δ)

variable {κ δ : Type}

namespace Request

/-- What the outcome of a request does to the subscriptions. -/
def settle (request : Request κ δ) (outcome : Outcome) (subscriptions : Subscriptions δ) :
    Subscriptions δ :=
  match outcome with
  | .ok raw =>
      match request.registers raw with
      | some (id, registration) => subscriptions.insert id registration
      | none => subscriptions
  | .error _ => subscriptions

/-- Diagnostic text. -/
def debug (request : Request κ δ) : String :=
  Text.openRecord "PendingRequest" [("method", Text.Quoted.text request.method)]

end Request

/-- Diagnostic text. -/
def Pending.debug (pending : Pending κ δ) : String :=
  Text.record "PendingRegistry" [("len", toString pending.size)]

/-- Diagnostic text. -/
def Subscriptions.debug (subscriptions : Subscriptions δ) : String :=
  Text.record "SubscriptionRegistry" [("len", toString subscriptions.size)]

end ChainRpc.Link
