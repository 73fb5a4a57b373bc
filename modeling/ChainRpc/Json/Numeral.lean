import ChainRpc.Json.Double

/-!
# Numerals

A number in a JSON text, kept digit by digit, and the number it stands for. Whole
numbers of 64 bits are exact. Any other numeral stands for a double: its leading digits, as
many as fit 64 bits, are rounded to a double, which is then multiplied or divided by the
double nearest to a power of ten. A numeral whose double would be infinite stands for
nothing.
-/

namespace ChainRpc.Json

/-- The exponent of a numeral as written. -/
structure WrittenExponent where
  /-- Either letter `e`. -/
  mark : Char
  /-- A plus or a minus, if there is one. -/
  sign : Option Char
  digits : List Char
  deriving DecidableEq, Repr

/-- A number as written. -/
structure Numeral where
  negative : Bool
  whole : List Char
  fraction : Option (List Char)
  exponent : Option WrittenExponent
  deriving DecidableEq, Repr

/-- A number in a JSON value. -/
inductive Number where
  /-- A whole number below `2 ^ 64`. -/
  | natural (n : Nat)
  /-- The negative of a positive whole number up to `2 ^ 63`. -/
  | negative (n : Nat)
  | double (x : Double)
  deriving DecidableEq, Repr

namespace Numeral

/-- The characters of a numeral. -/
def text (n : Numeral) : List Char :=
  (if n.negative then ['-'] else []) ++ n.whole
    ++ (match n.fraction with
        | some digits => '.' :: digits
        | none => [])
    ++ (match n.exponent with
        | some e => e.mark :: e.sign.toList ++ e.digits
        | none => [])

/-- Reads the digits of the whole part: a zero stands alone. -/
def scanWhole (s : List Char) : Option (List Char × List Char) :=
  match s.span Char.isDigit with
  | ([], _) => none
  | ('0' :: _ :: _, _) => none
  | (digits, rest) => some (digits, rest)

/-- Reads a fraction, if a point follows. -/
def scanFraction (s : List Char) : Option (Option (List Char) × List Char) :=
  match s with
  | '.' :: rest =>
      match rest.span Char.isDigit with
      | ([], _) => none
      | (digits, rest) => some (some digits, rest)
  | _ => some (none, s)

/-- Splits off a sign. -/
def scanSign (s : List Char) : Option Char × List Char :=
  match s with
  | '+' :: rest => (some '+', rest)
  | '-' :: rest => (some '-', rest)
  | _ => (none, s)

/-- Reads an exponent, if its letter follows. -/
def scanExponent (s : List Char) : Option (Option WrittenExponent × List Char) :=
  match s with
  | mark :: rest =>
      if mark = 'e' || mark = 'E' then
        let (sign, rest) := scanSign rest
        match rest.span Char.isDigit with
        | ([], _) => none
        | (digits, rest) => some (some ⟨mark, sign, digits⟩, rest)
      else some (none, s)
  | [] => some (none, s)

/-- Reads the numeral at the start of a text. -/
def scan (s : List Char) : Option (Numeral × List Char) := do
  let (negative, s) := match s with
    | '-' :: rest => (true, rest)
    | _ => (false, s)
  let (whole, s) ← scanWhole s
  let (fraction, s) ← scanFraction s
  let (exponent, s) ← scanExponent s
  pure (⟨negative, whole, fraction, exponent⟩, s)

/-- The number of a digit. -/
def digitValue (c : Char) : Nat := c.toNat - 48

/-- The number that a sequence of digits stands for. -/
def digitsValue (digits : List Char) : Nat :=
  digits.foldl (fun n c => 10 * n + digitValue c) 0

/-- The leading digits of a numeral that fit 64 bits. -/
structure Leading where
  digits : Nat
  /-- How many digits of the part at hand were taken. -/
  taken : Nat
  /-- How many were left out; once one is, all later ones are. -/
  dropped : Nat

/-- Takes a digit if the result still fits. -/
def Leading.push (l : Leading) (c : Char) : Leading :=
  let next := 10 * l.digits + digitValue c
  if l.dropped = 0 && next < 2 ^ 64 then ⟨next, l.taken + 1, 0⟩
  else { l with dropped := l.dropped + 1 }

/-- Divides by a power of ten in steps that a double can hold. -/
def shrink (x : Double) (places : Nat) : Double :=
  if places ≤ 308 then x.overPowerOfTen places
  else if x.isZero then x
  else shrink (x.overPowerOfTen 308) (places - 308)
termination_by places

/-- The double of some leading digits and a power of ten. -/
def doubleOf (negative : Bool) (digits : Nat) (exponent : Int) : Option Double := do
  let x ← Double.nearest negative ⟨digits, 1⟩
  if exponent < 0 then pure (shrink x exponent.natAbs)
  else if exponent ≤ 308 then x.timesPowerOfTen exponent.toNat
  else if x.isZero then pure x
  else none

/-- The power of ten that the exponent of a numeral gives. -/
def exponentValue (n : Numeral) : Int :=
  match n.exponent with
  | some e =>
      let digits := (digitsValue e.digits : Int)
      if e.sign = some '-' then -digits else digits
  | none => 0

/-- The double that a numeral stands for. -/
def double? (n : Numeral) : Option Double :=
  let whole := n.whole.foldl Leading.push ⟨0, 0, 0⟩
  let fraction := (n.fraction.getD []).foldl Leading.push ⟨whole.digits, 0, 0⟩
  doubleOf n.negative fraction.digits
    ((whole.dropped : Int) - fraction.taken + n.exponentValue)

/-- The number that a numeral stands for. -/
def value? (n : Numeral) : Option Number :=
  let whole := digitsValue n.whole
  if n.fraction.isNone && n.exponent.isNone && !n.negative && whole < 2 ^ 64 then
    some (.natural whole)
  else if n.fraction.isNone && n.exponent.isNone && n.negative && 0 < whole && whole ≤ 2 ^ 63 then
    some (.negative whole)
  else n.double?.map .double

end Numeral

end ChainRpc.Json
