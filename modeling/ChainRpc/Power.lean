/-!
# Powers

Bounds and places are written as powers such as `2 ^ 64`. They are the powers of the core library
in every module, whatever else the module imports.
-/

namespace ChainRpc

/-- Powers of the core library go before all other powers. -/
@[default_instance 10001]
instance (priority := 1100) corePow {α : Type} [NatPow α] : Pow α Nat := instPowNat

end ChainRpc
