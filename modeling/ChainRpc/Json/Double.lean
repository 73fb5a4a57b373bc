import ChainRpc.Power

/-!
# Doubles

The finite doubles as exact numbers: a sign, a mantissa below `2 ^ 53` and a power of two.
Rounding goes to the nearest double and, of two equally near, to the one with the even
mantissa. All arithmetic is on whole numbers.
-/

namespace ChainRpc.Json

/-- A finite double. Its magnitude is `mantissa * 2 ^ exponent`. -/
structure Double where
  negative : Bool
  mantissa : Nat
  exponent : Int
  deriving DecidableEq, Repr

/-- A ratio of whole numbers. -/
structure Ratio where
  num : Nat
  den : Nat

namespace Ratio

/-- The ratio times a power of two. -/
def shift (r : Ratio) (e : Int) : Ratio :=
  if 0 ≤ e then ⟨r.num * 2 ^ e.toNat, r.den⟩ else ⟨r.num, r.den * 2 ^ (-e).toNat⟩

/-- The whole part. -/
def floor (r : Ratio) : Nat := r.num / r.den

/-- The nearest whole number; of two equally near, the even one. -/
def round (r : Ratio) : Nat :=
  let q := r.num / r.den
  let twice := 2 * (r.num % r.den)
  if r.den < twice || (twice = r.den && q % 2 = 1) then q + 1 else q

end Ratio

namespace Double

/-- The least exponent. -/
def leastExponent : Int := -1074

/-- The greatest exponent. -/
def greatestExponent : Int := 971

/-- The first number that is too large for a mantissa. -/
def mantissaBound : Nat := 2 ^ 53

/-- Zero with a sign. -/
def zero (negative : Bool) : Double := ⟨negative, 0, leastExponent⟩

/-- Whether the double is zero of either sign. -/
def isZero (x : Double) : Bool := x.mantissa = 0

/-- The exponent at which a positive ratio has a mantissa of full length, or the least. -/
def scale (r : Ratio) : Int :=
  let guess := max ((r.num.log2 : Int) - r.den.log2 - 52) leastExponent
  if (r.shift (-guess)).floor < mantissaBound / 2 && leastExponent < guess then guess - 1
  else guess

/-- The nearest double, or nothing when the ratio is too large for one. -/
def nearest (negative : Bool) (r : Ratio) : Option Double :=
  if r.num = 0 then some (zero negative)
  else
    let exponent := scale r
    let mantissa := (r.shift (-exponent)).round
    let (mantissa, exponent) :=
      if mantissa = mantissaBound then (mantissaBound / 2, exponent + 1) else (mantissa, exponent)
    if greatestExponent < exponent then none else some ⟨negative, mantissa, exponent⟩

/-- The magnitude as a ratio. -/
def magnitude (x : Double) : Ratio := Ratio.shift ⟨x.mantissa, 1⟩ x.exponent

/-- The nearest double of a power of ten. -/
def powerOfTen (n : Nat) : Ratio :=
  match nearest false ⟨10 ^ n, 1⟩ with
  | some x => x.magnitude
  | none => ⟨10 ^ n, 1⟩

/-- The double times the double nearest to a power of ten. -/
def timesPowerOfTen (x : Double) (n : Nat) : Option Double :=
  let power := powerOfTen n
  nearest x.negative ⟨x.magnitude.num * power.num, x.magnitude.den * power.den⟩

/-- The double divided by the double nearest to a power of ten. -/
def overPowerOfTen (x : Double) (n : Nat) : Double :=
  let power := powerOfTen n
  (nearest x.negative ⟨x.magnitude.num * power.den, x.magnitude.den * power.num⟩).getD x

end Double

end ChainRpc.Json
