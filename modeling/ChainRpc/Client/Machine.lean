import ChainRpc.Client.Builder
import ChainRpc.Client.Lifecycle
import ChainRpc.Client.Submission

/-!
# A client as a machine

Everything that can happen to a client is an action: a step of a caller's operation, a step of
the change of connections, or a turn of the loop of one of its connections. Actions of
different origin come in any order.
-/

namespace ChainRpc.Client

open Rpc (Call SubscribeCall)

/-- One thing that happens to a client. -/
inductive Action (β η : Type) where
  | beginConnect
  | endConnect (handshake : Handshake)
  | beginClose
  | proceed
  | call (ticket : Ticket) (call : Call β)
  | subscribe (ticket : Ticket) (call : SubscribeCall β)
  | number (ticket : Ticket)
  | enqueue (ticket : Ticket)
  | forget (ticket : Ticket)
  | setHandler (handle : Ticket) (handler : Option η)
  | unsubscribe (ticket handle : Ticket)
  | retire (ticket : Ticket)
  | turn (link : Nat) (turn : Link.Turn)

variable {β η : Type}

/-- The client that a builder describes; it has no connection yet. -/
def ofBuilder (builder : Builder) : Except Error (Client β η) := do
  let address ← builder.checkedAddress
  let options ← builder.checkedOptions
  pure { address, options }

/-- The client after one action, and the effects of the action. -/
def step (client : Client β η) : Action β η → Client β η × List (Effect β η)
  | .beginConnect => client.beginConnect
  | .endConnect handshake => client.endConnect handshake
  | .beginClose => client.beginClose
  | .proceed => client.proceed
  | .call ticket call => client.call ticket call
  | .subscribe ticket call => client.subscribe ticket call
  | .number ticket => (client.number ticket, [])
  | .enqueue ticket => client.enqueue ticket
  | .forget ticket => (client.forget ticket, [])
  | .setHandler handle handler => (client.setHandler handle handler, [])
  | .unsubscribe ticket handle => client.unsubscribe ticket handle
  | .retire ticket => client.retire ticket
  | .turn link turn => client.turn link turn

/-- The client after actions in their order, and all their effects. -/
def run (client : Client β η) : List (Action β η) → Client β η × List (Effect β η)
  | [] => (client, [])
  | action :: actions =>
      let (client, effects) := client.step action
      let (client, later) := client.run actions
      (client, effects ++ later)

/-! ### Whole operations -/

/-- The actions of a call of which nothing else comes in between. -/
def Action.wholeCall (ticket : Ticket) (call : Call β) : List (Action β η) :=
  [.call ticket call, .number ticket, .enqueue ticket]

/-- The actions that open a subscription. -/
def Action.wholeSubscribe (ticket : Ticket) (call : SubscribeCall β) : List (Action β η) :=
  [.subscribe ticket call, .number ticket, .enqueue ticket]

/-- The actions that close a subscription, up to the answer of the node. -/
def Action.wholeUnsubscribe (ticket handle : Ticket) : List (Action β η) :=
  [.unsubscribe ticket handle, .number ticket, .enqueue ticket]

/-- Lets the loops of all connections take what is in their queues. -/
def drain (client : Client β η) : Client β η × List (Effect β η) :=
  client.run <| (client.links.zipIdx.flatMap fun (connection, link) =>
    List.replicate connection.queue.length (.turn link (.command none)))

/-- Lets everything happen that needs neither a caller nor the node. -/
def settle (client : Client β η) : Client β η × List (Effect β η) :=
  let (client, told) := client.proceed
  let (client, drained) := client.drain
  let (client, changed) := client.proceed
  let (client, retired) := client.run (client.farewells.keys.map .retire)
  (client, told ++ drained ++ changed ++ retired)

end ChainRpc.Client
