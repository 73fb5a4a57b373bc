import ChainRpc.Error

/-!
# Reasons for the end of a connection

Why a connection ended decides the error of the requests that still waited for an answer.
-/

namespace ChainRpc.Link

/-- Why a connection ended. -/
inductive CloseReason where
  /-- A newer connection of the same client took its place. -/
  | reset
  /-- One of the two sides closed it. -/
  | closed
  /-- The socket failed. -/
  | failed (cause : TransportFault)
  deriving DecidableEq, Repr

namespace CloseReason

/-- The error of the requests that were waiting. -/
def error : CloseReason → Error
  | .reset => .connectionReset
  | .closed => .connectionClosed
  | .failed cause => .transport cause

/-- Diagnostic text. -/
def debug : CloseReason → String
  | .reset => "Reset"
  | .closed => "Closed"
  | .failed cause => Text.wrapped "Failed" (Text.Quoted.text cause.message)

end CloseReason

end ChainRpc.Link
