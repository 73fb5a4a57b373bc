import ChainRpc.Client.Reaction

/-!
# Calls and subscriptions

A caller's request takes three steps: the connection in use is looked up, the request gets its
number, and it is queued on the connection it was looked up for. Other callers may come in
between. A client that is not open refuses at the first step, so no number is lost.

A subscription is closed by an unsubscribe call; when that is answered, whatever the answer, the
subscription is forgotten. Closing one that is no longer registered does nothing.
-/

namespace ChainRpc.Client

open Rpc (Call Coder SubscribeCall)

variable {β η : Type}

/-- Takes a request for a connection. -/
def submit (client : Client β η) (ticket : Ticket) (submission : Submission β) : Client β η :=
  { client with
    submissions := client.submissions.insert ticket submission
    awaited := ticket :: client.awaited }

/-- Starts a call. -/
def call (client : Client β η) (ticket : Ticket) (call : Call β) :
    Client β η × List (Effect β η) :=
  match client.current? with
  | some link =>
      (client.submit ticket
        { link, method := call.method, params := call.params, waiter := .call ticket call.result },
        [])
  | none => (client, [.resolved ticket (.error .notConnected)])

/-- Starts to open a subscription. -/
def subscribe (client : Client β η) (ticket : Ticket) (call : SubscribeCall β) :
    Client β η × List (Effect β η) :=
  match client.current? with
  | some link =>
      (client.submit ticket
        { link, method := call.method, params := call.params
          waiter := .subscriber ticket call.unsubscribe call.event }, [])
  | none => (client, [.resolved ticket (.error .notConnected)])

/-- Gives a request its number. -/
def number (client : Client β η) (ticket : Ticket) : Client β η :=
  match client.submissions.find? ticket with
  | some submission =>
      if submission.id.isNone then
        let (id, coder) := client.coder.take
        { client with
          coder
          submissions := client.submissions.insert ticket { submission with id := some id } }
      else client
  | none => client

/-- Queues a request that has its number. -/
def enqueue (client : Client β η) (ticket : Ticket) : Client β η × List (Effect β η) :=
  match client.submissions.find? ticket with
  | some { link, method, params, waiter, id := some id } =>
      let payload := Coder.encode id method params
      { client with submissions := client.submissions.erase ticket }.onLink link
        (·.send id payload (waiter.request method))
  | _ => (client, [])

/-- Sets or clears the handler of a subscription. -/
def setHandler (client : Client β η) (handle : Ticket) (handler : Option η) : Client β η :=
  match client.handles.find? handle with
  | some held => { client with handles := client.handles.insert handle { held with handler } }
  | none => client

/-- The name of the subscription is registered with its connection. -/
def isActive (client : Client β η) (handle : Handle β η) : Bool :=
  (client.links[handle.link]?).any (·.subscriptions.contains handle.id)

/-- Starts to close a subscription. -/
def unsubscribe (client : Client β η) (ticket handle : Ticket) :
    Client β η × List (Effect β η) :=
  match client.handles.find? handle with
  | some held =>
      if client.isActive held then
        let farewell := { link := held.link, id := held.id }
        ({ client with farewells := client.farewells.insert ticket farewell }.submit ticket
          { link := held.link, method := held.unsubscribe, params := [held.id.toJson]
            waiter := .closer ticket }, [])
      else (client, [.unsubscribed ticket (.ok false)])
  | none => (client, [])

/-- Ends the closing of a subscription whose unsubscribe call is answered. -/
def retire (client : Client β η) (ticket : Ticket) : Client β η × List (Effect β η) :=
  match client.farewells.find? ticket with
  | some { link, id, answer := some answer } =>
      let client := client.modifyLink link (·.unregister id)
      ({ client with
          farewells := client.farewells.erase ticket
          awaited := client.awaited.filter (· ≠ ticket) },
        [.unsubscribed ticket answer])
  | _ => (client, [])

end ChainRpc.Client
