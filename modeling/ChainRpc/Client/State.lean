import ChainRpc.Address.Basic
import ChainRpc.Client.Options
import ChainRpc.Link.Connection
import ChainRpc.Rpc.Call
import ChainRpc.Rpc.Coder

/-!
# The state of a client

A client keeps one connection in use and numbers its connections as epochs. Every operation of
its callers has a ticket, under which the outcome is told later. Results are of one type `β`, which
calls of any type can be converted to; a handler of events is known by a name of type `η`.

Connections that were replaced stay in the list of all connections: what still waits on them is
their own affair.
-/

namespace ChainRpc

open Rpc (Coder Epoch RequestId ResultType SubscriptionId)

namespace Client

/-- Where a client is in its life. -/
inductive Phase where
  /-- There is no connection. -/
  | disconnected
  /-- A handshake is under way. -/
  | connecting
  /-- Calls are accepted. -/
  | ready
  /-- The client is being closed. -/
  | closing
  /-- The client is closed for good. -/
  | closed
  deriving DecidableEq, Repr

namespace Phase

/-- The text shown to users. -/
def text : Phase → String
  | disconnected => "disconnected"
  | connecting => "connecting"
  | ready => "open"
  | closing => "closing"
  | closed => "closed"

/-- Diagnostic text. -/
def debug (phase : Phase) : String := phase.text.capitalize

end Phase

/-- The number of an operation of a caller. -/
abbrev Ticket := Nat

/-- Who waits for the answer to a request. -/
inductive Waiter (β : Type) where
  /-- The caller of a call. -/
  | call (ticket : Ticket) (result : ResultType β)
  /-- The caller who opens a subscription. -/
  | subscriber (ticket : Ticket) (unsubscribe : String) (event : ResultType β)
  /-- The caller who closes a subscription. -/
  | closer (ticket : Ticket)
  | nobody

/-- A request of a client that is not yet queued on its connection. -/
structure Submission (β : Type) where
  /-- The place of the connection in the list of all connections. -/
  link : Nat
  method : String
  params : List Json.Value
  waiter : Waiter β
  /-- The number of the request, once it has one. -/
  id : Option RequestId := none

/-- A subscription as its caller holds it. -/
structure Handle (β η : Type) where
  id : SubscriptionId
  /-- The method that ends the subscription. -/
  unsubscribe : String
  event : ResultType β
  /-- The place of its connection. -/
  link : Nat
  epoch : Epoch
  /-- Who gets the events; without a handler they are dropped. -/
  handler : Option η := none

/-- A subscription that is being closed, and the answer to its unsubscribe call. -/
structure Farewell where
  link : Nat
  id : SubscriptionId
  answer : Option (Except Error Bool) := none

/-- The change of connections that is under way. There is at most one. -/
inductive Transition where
  /-- A handshake is under way; the phase is the one before. -/
  | connecting (previous : Phase)
  /-- A new connection is in use, and the old one does not know. -/
  | replacing (old : Nat)
  /-- The old connection was told to end. -/
  | draining (old : Nat)
  /-- No connection is in use, and the last one does not know. -/
  | closing (old : Option Nat)
  /-- The last connection was told to end. -/
  | leaving (old : Option Nat)
  deriving DecidableEq, Repr

/-- What an operation of a client brings about. -/
inductive Effect (β η : Type) where
  /-- A frame was written to the socket of a connection. -/
  | wrote (link : Nat) (frame : Link.Frame)
  /-- A call is over, or a subscription could not be opened. -/
  | resolved (ticket : Ticket) (result : Except Error β)
  /-- A subscription was opened. -/
  | subscribed (ticket : Ticket) (id : SubscriptionId)
  /-- The closing of a subscription is over. -/
  | unsubscribed (ticket : Ticket) (result : Except Error Bool)
  /-- A handler got an event. -/
  | event (handler : η) (method : String) (value : β)
  /-- A connect is over. -/
  | connected (result : Except Error Unit)
  /-- A close is over. -/
  | closed
  /-- Whoever wanted to know was told that the client is closed. -/
  | notified

end Client

/-- A client of a node. -/
structure Client (β η : Type) where
  address : Address
  options : Client.Options
  coder : Coder := {}
  phase : Client.Phase := .disconnected
  epoch : Epoch := .none
  /-- All connections ever opened, the oldest first. -/
  links : List (Link.Connection (Client.Waiter β) Client.Ticket) := []
  /-- The place of the connection in use. -/
  active : Option Nat := none
  transition : Option Client.Transition := none
  /-- Requests on their way to the queue of a connection. -/
  submissions : Link.Registry Client.Ticket (Client.Submission β) := .empty
  /-- The tickets whose callers still want to know the outcome. -/
  awaited : List Client.Ticket := []
  /-- Every subscription that was opened, under the ticket of its subscribe call. -/
  handles : Link.Registry Client.Ticket (Client.Handle β η) := .empty
  /-- The subscriptions that are being closed. -/
  farewells : Link.Registry Client.Ticket Client.Farewell := .empty

namespace Client

variable {β η : Type}

/-- The connection in use. -/
def activeLink? (client : Client β η) : Option (Link.Connection (Waiter β) Ticket) :=
  client.active.bind fun link => client.links[link]?

/-- The connection of a place has ended. -/
def hasEnded (client : Client β η) (link : Nat) : Bool :=
  (client.links[link]?).all (·.ended)

/-- The phase that the client shows: one whose connection has ended is disconnected. -/
def state (client : Client β η) : Phase :=
  if client.phase = .ready && client.activeLink?.any (·.ended) then .disconnected
  else client.phase

/-- The number of requests that wait for an answer. -/
def pendingCount (client : Client β η) : Nat :=
  (client.activeLink?.map (·.pending.size)).getD 0

/-- The number of subscriptions. -/
def subscriptionCount (client : Client β η) : Nat :=
  (client.activeLink?.map (·.subscriptions.size)).getD 0

/-- The number of the next request. -/
def nextRequestId (client : Client β η) : RequestId := client.coder.peek

/-- The place of the connection that takes calls. -/
def current? (client : Client β η) : Option Nat :=
  if client.phase = .ready then client.active.filter fun link => !client.hasEnded link
  else none

/-- Diagnostic text. -/
def debug (client : Client β η) : String :=
  Text.openRecord "Client"
    [("url", Text.Quoted.text client.address.text),
     ("state", client.state.debug),
     ("epoch", client.epoch.debug)]

/-- Diagnostic text. -/
def Handle.debug (handle : Handle β η) : String :=
  Text.record "Subscription"
    [("id", handle.id.debug),
     ("unsubscribe", Text.Quoted.text handle.unsubscribe),
     ("epoch", handle.epoch.debug),
     ("has_handler", toString handle.handler.isSome)]

end Client

end ChainRpc
