/-!
# Durations

Time is counted in milliseconds.
-/

namespace ChainRpc

/-- A length of time. -/
structure Duration where
  milliseconds : Nat
  deriving DecidableEq, Repr, Inhabited

namespace Duration

/-- No time at all. -/
def zero : Duration := ⟨0⟩

/-- A number of whole seconds. -/
def seconds (n : Nat) : Duration := ⟨1000 * n⟩

/-- The duration is zero. -/
def isZero (duration : Duration) : Bool := duration.milliseconds == 0

/-- The three decimals of a fraction of a second, without the zeros at the end. -/
private def decimals (thousandths : Nat) : String :=
  if thousandths % 100 = 0 then toString (thousandths / 100)
  else if thousandths % 10 = 0 then toString (thousandths / 100) ++ toString (thousandths / 10 % 10)
  else toString (thousandths / 100) ++ toString (thousandths / 10 % 10)
    ++ toString (thousandths % 10)

/-- Diagnostic text: milliseconds below one second, else seconds with as many decimals as
needed. -/
def debug (duration : Duration) : String :=
  let n := duration.milliseconds
  if n = 0 then "0ns"
  else if n < 1000 then toString n ++ "ms"
  else if n % 1000 = 0 then toString (n / 1000) ++ "s"
  else toString (n / 1000) ++ "." ++ decimals (n % 1000) ++ "s"

end Duration

end ChainRpc
