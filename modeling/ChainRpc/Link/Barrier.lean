import ChainRpc.Link.Connection

/-!
# Code that is not the loop's own

While it handles a message, the loop calls the code of others: the owner of a request reads its
result, and the listener of a subscription reads an event and passes it to a handler. Such code
may fail, and it may panic. The loop calls it behind a barrier that contains panics. The message
has taken its effect on the connection before the call.

A request that is failed is told so without a barrier, as nothing is read then.
-/

namespace ChainRpc.Link

open Rpc (Envelope)

/-- How a call of such code ends. -/
inductive Ending where
  | returned
  /-- An event could not be read. -/
  | failed
  | panicked
  deriving DecidableEq, Repr

/-- A panic on its way through the loop. -/
inductive Unwinding where
  | panic

/-- The call without a barrier. -/
def Ending.call : Ending → Except Unwinding Bool
  | returned => .ok true
  | failed => .ok false
  | panicked => .error .panic

/-- The call behind the barrier; the loop learns how it ended. -/
def contain : Except Unwinding Bool → Except Unwinding Ending
  | .ok true => .ok .returned
  | .ok false => .ok .failed
  | .error .panic => .ok .panicked

/-- How the code that an effect calls will end. -/
abbrev Conduct (κ δ : Type) := Effect κ δ → Ending

namespace Connection

variable {κ δ : Type} (conduct : Conduct κ δ)

/-- Calls the code that effects of a message are for. -/
def callOut : List (Effect κ δ) → Except Unwinding Unit
  | [] => .ok ()
  | effect :: effects => do
      let _ ← contain (conduct effect).call
      callOut effects

/-- One turn of the loop that calls the code of others. -/
def turnUnder (connection : Connection κ δ) (turn : Turn) :
    Except Unwinding (Connection κ δ × List (Effect κ δ)) :=
  match turn with
  | .message _ => do
      let (connection, effects) := connection.turn turn
      callOut conduct effects
      pure (connection, effects)
  | _ => pure (connection.turn turn)

end Connection

end ChainRpc.Link
