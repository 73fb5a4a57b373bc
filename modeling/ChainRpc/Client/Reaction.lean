import ChainRpc.Client.State

/-!
# What a client makes of its connections

A connection tells outcomes to waiters and events to listeners. The client decodes them: a result
goes to its caller as the type of the call says, the result of a subscribe call names a
subscription, and an event goes to the handler that its subscription has at that moment.

A subscription that nobody waits for any more is ended as soon as the node has named it.
-/

namespace ChainRpc.Client

open Link (Outcome Registration Request)
open Rpc (Call Coder ErrorObject ResultType SubscriptionId)

variable {β η : Type}

/-- The subscription that the result of a subscribe call names. -/
def subscriptionOf (raw : String) : Except Error SubscriptionId :=
  (SubscriptionId.decoder.ofText raw).mapError fun fault =>
    .rpc (ErrorObject.internal ("invalid subscription id: " ++ raw)
      (some (Error.json fault).message))

/-- The type of the answers to unsubscribe calls. -/
def unsubscribeResult : ResultType Bool := .json "bool" Json.Decoder.bool

namespace Waiter

/-- The subscription that a result opens for a waiter. The ticket of the subscribe call
stands for its listener. -/
def registers (waiter : Waiter β) (raw : String) : Option (SubscriptionId × Registration Ticket) :=
  match waiter with
  | .subscriber ticket unsubscribe _ =>
      (subscriptionOf raw).toOption.map fun id => (id, ⟨unsubscribe, ticket⟩)
  | _ => none

/-- A request whose answer goes to a waiter. -/
def request (waiter : Waiter β) (method : String) : Request (Waiter β) Ticket where
  method := method
  owner := waiter
  registers := waiter.registers

end Waiter

/-- The client with a change to one of its connections. -/
def modifyLink (client : Client β η) (link : Nat)
    (change : Link.Connection (Waiter β) Ticket → Link.Connection (Waiter β) Ticket) :
    Client β η :=
  { client with links := client.links.modify link change }

/-- The client without a wish to know the outcome of an operation. -/
def forget (client : Client β η) (ticket : Ticket) : Client β η :=
  { client with awaited := client.awaited.filter (· ≠ ticket) }

/-- Tells the outcome of an operation to its caller, if the caller wants to know. -/
def tell (client : Client β η) (ticket : Ticket) (effect : Effect β η) :
    Client β η × List (Effect β η) :=
  if client.awaited.contains ticket then (client.forget ticket, [effect]) else (client, [])

/-- Ends a subscription that nobody holds: it is forgotten, and its unsubscribe call is queued. -/
def abandon (client : Client β η) (link : Nat) (unsubscribe : String) (id : SubscriptionId) :
    Client β η :=
  let (number, coder) := client.coder.take
  let payload := Coder.encode number unsubscribe [id.toJson]
  { client with coder }.modifyLink link fun connection =>
    ((connection.unregister id).send number payload (Waiter.nobody.request unsubscribe)).1

/-- What the answer to a subscribe call brings about. The connection has registered the
subscription already. -/
def opened (client : Client β η) (link : Nat) (ticket : Ticket) (unsubscribe : String)
    (event : ResultType β) (outcome : Outcome) : Client β η × List (Effect β η) :=
  match outcome.bind subscriptionOf with
  | .error error => client.tell ticket (.resolved ticket (.error error))
  | .ok id =>
      if client.awaited.contains ticket then
        let epoch := ((client.links[link]?).map (·.epoch)).getD client.epoch
        { client with
          handles := client.handles.insert ticket { id, unsubscribe, event, link, epoch } }.tell
          ticket (.subscribed ticket id)
      else (client.abandon link unsubscribe id, [])

/-- Keeps the answer to an unsubscribe call for the caller who closes the subscription. -/
def answered (client : Client β η) (ticket : Ticket) (outcome : Outcome) : Client β η :=
  match client.farewells.find? ticket with
  | some farewell =>
      let answer := some (outcome.bind unsubscribeResult.decode)
      { client with farewells := client.farewells.insert ticket { farewell with answer } }
  | none => client

/-- What an event brings about: nothing, unless its subscription has a handler and the event is
of its type. -/
def deliver (client : Client β η) (listener : Ticket) (method raw : String) :
    List (Effect β η) :=
  match client.handles.find? listener with
  | some { event, handler := some handler, .. } =>
      match event.decode raw with
      | .ok value => [.event handler method value]
      | .error _ => []
  | _ => []

/-- What one effect of a connection brings about. -/
def react (client : Client β η) (link : Nat) :
    Link.Effect (Waiter β) Ticket → Client β η × List (Effect β η)
  | .registered _ => (client, [])
  | .wrote frame => (client, [.wrote link frame])
  | .completed (.call ticket result) outcome =>
      client.tell ticket (.resolved ticket (outcome.bind result.decode))
  | .completed (.subscriber ticket unsubscribe event) outcome =>
      client.opened link ticket unsubscribe event outcome
  | .completed (.closer ticket) outcome => (client.answered ticket outcome, [])
  | .completed .nobody _ => (client, [])
  | .delivered listener method raw => (client, client.deliver listener method raw)

/-- What effects of a connection bring about, in their order. -/
def reactAll (client : Client β η) (link : Nat) :
    List (Link.Effect (Waiter β) Ticket) → Client β η × List (Effect β η)
  | [] => (client, [])
  | effect :: effects =>
      let (client, first) := client.react link effect
      let (client, later) := client.reactAll link effects
      (client, first ++ later)

/-- Lets something happen to a connection. -/
def onLink (client : Client β η) (link : Nat)
    (happen : Link.Connection (Waiter β) Ticket →
      Link.Connection (Waiter β) Ticket × List (Link.Effect (Waiter β) Ticket)) :
    Client β η × List (Effect β η) :=
  match client.links[link]? with
  | some connection =>
      let (connection, effects) := happen connection
      { client with links := client.links.set link connection }.reactAll link effects
  | none => (client, [])

/-- One turn of the loop of a connection. -/
def turn (client : Client β η) (link : Nat) (turn : Link.Turn) :
    Client β η × List (Effect β η) :=
  client.onLink link (·.turn turn)

end ChainRpc.Client
