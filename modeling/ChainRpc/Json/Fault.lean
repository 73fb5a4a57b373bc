import ChainRpc.Hash

/-!
# Faults of a JSON text

A text fails to give a value of the wanted kind either because of its JSON or because a
string in it is not the hexadecimal text that its place asks for. Of several faults the
first in the order of the text counts.
-/

namespace ChainRpc.Json

/-- Why a JSON text does not give the wanted value. -/
inductive Fault where
  /-- It is not JSON, or not JSON of the wanted shape. -/
  | shape
  /-- A string that should be hexadecimal is not. -/
  | content (fault : HexFault)
  deriving DecidableEq, Repr

end ChainRpc.Json
