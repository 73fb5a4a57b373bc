import ChainRpc.Json.Double

/-!
# Shortest decimal text of a double

A double is written with the fewest digits that read back as the same double. Numbers
that round to it form an interval, whose ends belong to it when the mantissa is even. For one
digit, two digits and so on the two neighbours of the double on that decimal grid are
tried; the first grid that has a neighbour in the interval gives the digits, and of two such
neighbours the nearer wins, or the even one when both are equally near.

The digits are written out in full when the first of them stands between the fifth place
behind the point and the sixteenth before it, and with an exponent otherwise.
-/

namespace ChainRpc.Json

/-- A decimal number: its digits as a whole number, and the power of ten. -/
structure Decimal where
  digits : Nat
  exponent : Int
  deriving DecidableEq, Repr

namespace Decimal

/-- How many digits the number has. -/
def length (n : Nat) : Nat := (Nat.toDigits 10 n).length

/-- Drops zeros at the end, at most `fuel` of them. -/
def trimmed : Nat → Decimal → Decimal
  | 0, d => d
  | fuel + 1, d =>
      if d.digits ≠ 0 && d.digits % 10 = 0 then trimmed fuel ⟨d.digits / 10, d.exponent + 1⟩
      else d

/-- The least power of ten, up to `fuel`, that brings a ratio to one or more. -/
def lift (r : Ratio) : (fuel power : Nat) → Nat
  | 0, power => power
  | fuel + 1, power =>
      if r.den ≤ r.num * 10 ^ power then power else lift r fuel (power + 1)

/-- The place of the first digit of a positive ratio: zero for the units. -/
def leadingPlace (r : Ratio) : Int :=
  if r.den ≤ r.num then (length r.floor : Int) - 1 else -(lift r 400 1 : Int)

/-- The interval of numbers that round to a double, in quarters of its last binary place. -/
structure Interval where
  low : Nat
  value : Nat
  high : Nat
  /-- The ends belong to the interval. -/
  closed : Bool
  /-- The power of two that a quarter is. -/
  exponent : Int

/-- The interval of a double. Below a power of two the doubles lie closer together. -/
def Interval.ofDouble (x : Double) : Interval where
  low :=
    if x.mantissa = Double.mantissaBound / 2 && Double.leastExponent < x.exponent then
      4 * x.mantissa - 1
    else 4 * x.mantissa - 2
  value := 4 * x.mantissa
  high := 4 * x.mantissa + 2
  closed := x.mantissa % 2 = 0
  exponent := x.exponent - 2

/-- The number of quarters as a ratio of the decimal unit `10 ^ place`. -/
def inUnits (quarters : Nat) (exponent place : Int) : Ratio :=
  let r := Ratio.shift ⟨quarters, 1⟩ exponent
  if 0 ≤ place then ⟨r.num, r.den * 10 ^ place.toNat⟩
  else ⟨r.num * 10 ^ (-place).toNat, r.den⟩

/-- Whether a whole number of decimal units lies in the interval. -/
def Interval.contains (i : Interval) (place : Int) (n : Nat) : Bool :=
  let low := inUnits i.low i.exponent place
  let high := inUnits i.high i.exponent place
  if i.closed then low.num ≤ n * low.den && n * high.den ≤ high.num
  else low.num < n * low.den && n * high.den < high.num

/-- The better neighbour on the grid of `10 ^ place`, if one lies in the interval. -/
def Interval.neighbour? (i : Interval) (place : Int) : Option Nat :=
  let value := inUnits i.value i.exponent place
  let below := value.floor
  match i.contains place below, i.contains place (below + 1) with
  | true, true => some value.round
  | true, false => some below
  | false, true => some (below + 1)
  | false, false => none

/-- Tries grids from `place` downwards, at most `fuel` of them. -/
def Interval.search (i : Interval) : (fuel : Nat) → (place : Int) → Decimal
  | 0, place => ⟨(inUnits i.value i.exponent place).round, place⟩
  | fuel + 1, place =>
      match i.neighbour? place with
      | some n => ⟨n, place⟩
      | none => i.search fuel (place - 1)

/-- The shortest decimal number that reads back as a double that is not zero. -/
def ofDouble (x : Double) : Decimal :=
  trimmed 400 ((Interval.ofDouble x).search 17 (leadingPlace x.magnitude))

/-- The digits with a point or an exponent. -/
def text (d : Decimal) : List Char :=
  let digits := Nat.toDigits 10 d.digits
  let place := d.exponent + digits.length - 1
  if 0 ≤ d.exponent && place ≤ 15 then
    digits ++ List.replicate d.exponent.toNat '0' ++ ['.', '0']
  else if 0 ≤ place && place ≤ 15 then
    digits.take (place + 1).toNat ++ '.' :: digits.drop (place + 1).toNat
  else if -5 ≤ place && place < 0 then
    ['0', '.'] ++ List.replicate (-place - 1).toNat '0' ++ digits
  else
    let fraction := if digits.length ≤ 1 then [] else '.' :: digits.drop 1
    let sign := if place < 0 then '-' else '+'
    digits.take 1 ++ fraction ++ 'e' :: sign :: Nat.toDigits 10 place.natAbs

end Decimal

/-- The shortest text of a double. -/
def Double.text (x : Double) : List Char :=
  let magnitude := if x.isZero then ['0', '.', '0'] else (Decimal.ofDouble x).text
  if x.negative then '-' :: magnitude else magnitude

end ChainRpc.Json
