import ChainRpc.Json.Value

/-!
# Looking into JSON values

Each function gives what a value is, or nothing when it is something else.
-/

namespace ChainRpc.Json.Value

/-- The value of a member of an object. -/
def member? (value : Value) (key : String) : Option Value :=
  match value with
  | .object members => (members.find? fun member => member.1 = key).map Prod.snd
  | _ => none

/-- The text of a string. -/
def string? : Value → Option String
  | .string s => some s
  | _ => none

/-- A truth value. -/
def bool? : Value → Option Bool
  | .bool b => some b
  | _ => none

/-- The items of a list. -/
def items? : Value → Option (List Value)
  | .array items => some items
  | _ => none

/-- A whole number; large ones may be written as a string of digits. -/
def integer? : Value → Option Int
  | .number (.natural n) => some n
  | .number (.negative n) => some (-(n : Int))
  | .string s => s.toInt?
  | _ => none

/-- A whole number that is not negative. -/
def natural? (value : Value) : Option Nat :=
  value.integer?.bind fun n => if 0 ≤ n then some n.toNat else none

end ChainRpc.Json.Value
