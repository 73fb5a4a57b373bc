import ChainRpc.Client.Reaction

/-!
# The life of a client

A connect shakes hands with the node. When that succeeds, a new epoch begins with a new
connection and request numbers from zero, and the old connection is told to end; the connect is
over when it has. When the handshake fails, everything is as before.

A close takes the connection out of use, waits for its end and leaves the client closed for
good. Connects and closes come one after the other.
-/

namespace ChainRpc.Client

variable {β η : Type}

/-- How a handshake ended. -/
inductive Handshake where
  | accepted
  /-- Nobody answered, or the answer was no. -/
  | refused
  | timedOut
  deriving DecidableEq, Repr

/-- The error of a handshake that failed. -/
def Handshake.error? (options : Options) : Handshake → Option Error
  | accepted => none
  | refused => some .webSocket
  | timedOut => some (.connectionTimeout options.timeout.milliseconds)

/-- Starts a connect, unless another change of connections is under way. -/
def beginConnect (client : Client β η) : Client β η × List (Effect β η) :=
  if client.transition.isSome then (client, [])
  else if client.phase = .closed then (client, [.connected (.error .connectionClosed)])
  else
    ({ client with transition := some (.connecting client.phase), phase := .connecting }, [])

/-- The client after a handshake that failed. -/
def failConnect (client : Client β η) (previous : Phase) : Client β η :=
  let phase :=
    if client.activeLink?.any fun connection => !connection.ended then previous
    else .disconnected
  { client with transition := none, phase }

/-- The client with a new connection. -/
def openLink (client : Client β η) : Client β η :=
  let epoch := client.epoch.next
  { client with
    epoch
    phase := .ready
    coder := client.coder.reset
    links := client.links ++ [.start epoch client.options.settings]
    active := some client.links.length
    transition := client.active.map .replacing }

/-- Ends the handshake of a connect. -/
def endConnect (client : Client β η) (handshake : Handshake) :
    Client β η × List (Effect β η) :=
  match client.transition with
  | some (.connecting previous) =>
      match handshake.error? client.options with
      | some error => (client.failConnect previous, [.connected (.error error)])
      | none =>
          (client.openLink, if client.active.isNone then [.connected (.ok ())] else [])
  | _ => (client, [])

/-- Starts a close, unless another change of connections is under way. -/
def beginClose (client : Client β η) : Client β η × List (Effect β η) :=
  if client.transition.isSome then (client, [])
  else if client.phase = .closed then (client, [.closed])
  else
    ({ client with
        transition := some (.closing client.active)
        phase := .closing
        active := none }, [])

/-- Tells a connection to end. -/
def shutDown (client : Client β η) (link : Option Nat) (reason : Link.CloseReason) : Client β η :=
  match link with
  | some link => client.modifyLink link (·.shutdown reason)
  | none => client

/-- The change of connections that is under way goes one step further, if it can. -/
def proceed (client : Client β η) : Client β η × List (Effect β η) :=
  match client.transition with
  | some (.replacing old) =>
      ({ client.shutDown (some old) .reset with transition := some (.draining old) }, [])
  | some (.draining old) =>
      if client.hasEnded old then
        ({ client with transition := none }, [.connected (.ok ())])
      else (client, [])
  | some (.closing old) =>
      ({ client.shutDown old .closed with transition := some (.leaving old) }, [])
  | some (.leaving old) =>
      if old.all client.hasEnded then
        ({ client with transition := none, phase := .closed },
          if client.options.notifiesClose then [.notified, .closed] else [.closed])
      else (client, [])
  | some (.connecting _) | none => (client, [])

end ChainRpc.Client
