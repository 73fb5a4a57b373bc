import ChainRpc.Rpc.Envelope
import ChainRpc.Rpc.ResultType

/-!
# Requests

A coder numbers requests from zero and writes their text. Numbers are of 64 bits and start
again from zero after the last. `Coder.decode` reads the answer to a single request without
any connection; whatever is wrong with the envelope is then reported as an error object.
-/

namespace ChainRpc.Rpc

open Json (Value)

/-- The numbering of requests. -/
structure Coder where
  /-- The number of the next request. -/
  next : Nat := 0
  deriving DecidableEq, Repr

namespace Coder

/-- The number of the next request. -/
def peek (coder : Coder) : RequestId := ⟨coder.next⟩

/-- Takes the number of the next request. -/
def take (coder : Coder) : RequestId × Coder :=
  (coder.peek, ⟨(coder.next + 1) % 2 ^ 64⟩)

/-- Starts again from zero. -/
def reset (_ : Coder) : Coder := {}

/-- A request as JSON. -/
def request (id : RequestId) (method : String) (params : List Value) : Value :=
  .object [("jsonrpc", .string "2.0"), ("id", id.toJson), ("method", .string method),
    ("params", .array params)]

/-- The text of a request. -/
def encode (id : RequestId) (method : String) (params : List Value) : String :=
  (request id method params).text

/-- Reads the answer to one request. -/
def decode {α : Type} (id : RequestId) (text : String) (type : ResultType α) : Except Error α :=
  match Envelope.parse text with
  | .ok (.response answered outcome) =>
      if answered = id then
        match outcome with
        | .ok raw => type.decode raw
        | .error error => .error (.rpc error)
      else
        .error (.rpc (.internal
          s!"response id {answered.value} does not match request id {id.value}"))
  | .ok (.notification ..) =>
      .error (.rpc (.internal "expected a response, got a notification"))
  | .error error => .error (.rpc (.internal "invalid response envelope" (some error.message)))

end Coder

end ChainRpc.Rpc
