import ChainRpc.Error

/-!
# Reassembly of messages

A message arrives in fragments, of which the last one is marked. An assembly joins them. It
gives up the fragments of a message as soon as they exceed the size limit, goes on counting until
the last one, and then says how large the message was.
-/

namespace ChainRpc.Link

open Text (Utf8.decode)

/-- The fragments of one message that is still incomplete. -/
structure Assembly where
  /-- The largest size of a message. -/
  limit : Nat
  /-- The joined fragments, as long as they keep to the limit. -/
  held : List UInt8 := []
  /-- The size of all fragments. -/
  size : Nat := 0
  /-- The fragments exceeded the limit. -/
  overflowed : Bool := false
  deriving DecidableEq, Repr

namespace Assembly

/-- No fragments. -/
def empty (limit : Nat) : Assembly := { limit }

/-- Gives up the fragments. -/
def clear (assembly : Assembly) : Assembly := empty assembly.limit

/-- Fragments wait for the last one. -/
def isPending (assembly : Assembly) : Bool := assembly.size > 0

/-- Takes one more fragment. -/
def add (assembly : Assembly) (fragment : List UInt8) : Assembly :=
  let size := assembly.size + fragment.length
  if size > assembly.limit then
    { assembly with size, held := [], overflowed := true }
  else if assembly.overflowed then
    { assembly with size }
  else
    { assembly with size, held := assembly.held ++ fragment }

/-- The message that the fragments make. -/
def message (assembly : Assembly) : Except Error String :=
  if assembly.overflowed then
    .error (.malformed (.oversized assembly.size assembly.limit))
  else
    (Utf8.decode assembly.held).mapError fun fault => .malformed (.message fault)

/-- Takes one more fragment. The last fragment completes the message, and the assembly is empty
again. -/
def push (assembly : Assembly) (fragment : List UInt8) (last : Bool) :
    Except Error (Option String) × Assembly :=
  let assembly := assembly.add fragment
  if last then
    (assembly.message.map some, assembly.clear)
  else
    (.ok none, assembly)

end Assembly

end ChainRpc.Link
