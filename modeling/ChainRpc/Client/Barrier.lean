import ChainRpc.Client.Machine
import ChainRpc.Link.Barrier

/-!
# A client whose callers may panic

The decoders and handlers of the callers run while a connection handles a message. A machine that
is told how each of them ends says what panics would do to the client.

A result that its decoder panicked over never reaches its caller, who is told so; such a decoder
gives `Error.channelClosed`. An event that its decoder panicked over reaches no handler, like one
that the decoder refuses.
-/

namespace ChainRpc.Client

variable {β η : Type}

/-- One thing that happens, and how the code of callers ends meanwhile. -/
abbrev Happening (β η : Type) := Link.Conduct (Waiter β) Ticket × Action β η

/-- One turn of the loop of a connection. -/
def turnUnder (client : Client β η) (conduct : Link.Conduct (Waiter β) Ticket) (link : Nat)
    (turn : Link.Turn) : Except Link.Unwinding (Client β η × List (Effect β η)) :=
  match client.links[link]? with
  | some connection => do
      let (connection, effects) ← connection.turnUnder conduct turn
      pure ({ client with links := client.links.set link connection }.reactAll link effects)
  | none => pure (client, [])

/-- The client after something has happened. -/
def stepUnder (client : Client β η) :
    Happening β η → Except Link.Unwinding (Client β η × List (Effect β η))
  | (conduct, .turn link turn) => client.turnUnder conduct link turn
  | (_, action) => pure (client.step action)

/-- The client after one thing after the other. -/
def runUnder (client : Client β η) :
    List (Happening β η) → Except Link.Unwinding (Client β η × List (Effect β η))
  | [] => pure (client, [])
  | happening :: happenings => do
      let (client, effects) ← client.stepUnder happening
      let (client, later) ← client.runUnder happenings
      pure (client, effects ++ later)

end ChainRpc.Client
