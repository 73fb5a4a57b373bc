import ChainRpc.Power

/-!
# Punycode

A label of a host name that has characters outside ASCII is written with its ASCII characters
first, followed by what to insert between them, and where. Every insertion is one number, in
digits of base 36 whose weights adapt to the size of the numbers before.
-/

namespace ChainRpc.Address.Punycode

/-- The digit for a number below 36: letters, then figures. -/
def digit (n : Nat) : Char := if n < 26 then Char.ofNat (97 + n) else Char.ofNat (22 + n)

/-- The number of a digit of either case. -/
def digitValue? (c : Char) : Option Nat :=
  if c.isLower then some (c.toNat - 97)
  else if c.isUpper then some (c.toNat - 65)
  else if c.isDigit then some (c.toNat - 22)
  else none

/-- The least value of a digit that is not the last of its number. -/
def threshold (place bias : Nat) : Nat := max 1 (min 26 (place - bias))

/-- The digits of a number from a place on. -/
def digits (bias place n : Nat) : List Char :=
  let t := threshold place bias
  if n < t then [digit n]
  else digit (t + (n - t) % (36 - t)) :: digits bias (place + 36) ((n - t) / (36 - t))
termination_by n
decreasing_by
  have : 1 ≤ threshold place bias := Nat.le_max_left ..
  have := Nat.div_le_self (n - threshold place bias) (36 - threshold place bias)
  omega

/-- Divides a number that is too large for the weights, and counts the places. -/
def shrink (n place : Nat) : Nat × Nat :=
  if 455 < n then shrink (n / 35) (place + 36) else (n, place)
termination_by n
decreasing_by exact Nat.div_lt_self (by omega) (by omega)

/-- The bias after a number that brought the label to a length. -/
def adapt (n length : Nat) (first : Bool) : Nat :=
  let halved := if first then n / 700 else n / 2
  let (small, place) := shrink (halved + halved / length) 0
  place + 36 * small / (small + 38)

/-- A label that is being written. -/
structure Writing where
  written : List Char
  /-- The number of positions passed since the last insertion. -/
  gap : Nat
  bias : Nat
  /-- The number of characters that are in place. -/
  placed : Nat

/-- Passes a character of the label while the insertions are those of one code point. -/
def Writing.pass (ascii code : Nat) (state : Writing) (c : Char) : Writing :=
  if c.toNat < code then { state with gap := state.gap + 1 }
  else if c.toNat = code then
    { written := state.written ++ digits state.bias 36 state.gap
      gap := 0
      bias := adapt state.gap (state.placed + 1) (state.placed == ascii)
      placed := state.placed + 1 }
  else state

/-- Writes the insertions of the code points that are left, in increasing order. -/
def insertions (label : List Char) (ascii : Nat) :
    (codes : List Nat) → (next : Nat) → Writing → List Char
  | [], _, state => state.written
  | code :: codes, next, state =>
      let start := { state with gap := state.gap + (code - next) * (state.placed + 1) }
      let state := label.foldl (Writing.pass ascii code) start
      insertions label ascii codes (code + 1) { state with gap := state.gap + 1 }

/-- Whether a character is one of ASCII. -/
def isAscii (c : Char) : Bool := c.toNat < 0x80

/-- A label that has characters outside ASCII, written in ASCII. -/
def encode (label : List Char) : List Char :=
  let ascii := label.filter isAscii
  let codes := ((label.filter fun c => !isAscii c).map Char.toNat).mergeSort.eraseDups
  let front := if ascii.isEmpty then [] else ascii ++ ['-']
  front ++ insertions label ascii.length codes 0x80 ⟨[], 0, 72, ascii.length⟩

/-- Numbers and weights stay below this bound. -/
def bound : Nat := 2 ^ 32

/-- Adds one number to a sum: the digits from a place on, with the weight of the first. -/
def number? (bias : Nat) : List Char → (place weight sum : Nat) → Option (Nat × List Char)
  | [], _, _, _ => none
  | c :: rest, place, weight, sum =>
      match digitValue? c with
      | none => none
      | some d =>
          let t := threshold place bias
          let sum := sum + d * weight
          if bound ≤ sum then none
          else if d < t then some (sum, rest)
          else if bound ≤ weight * (36 - t) then none
          else number? bias rest (place + 36) (weight * (36 - t)) sum

/-- Carries out the insertions of the digits that are left, at most so many. -/
def insert? : (count : Nat) → (rest : List Char) → (code position bias : Nat) → List Char →
    Option (List Char)
  | _, [], _, _, _, label => some label
  | 0, _ :: _, _, _, _, _ => none
  | count + 1, rest, code, position, bias, label =>
      match number? bias rest 36 1 position with
      | none => none
      | some (place, rest) =>
          let length := label.length + 1
          let bias := adapt (place - position) length (position == 0)
          let code := code + place / length
          let position := place % length
          if code.isValidChar then
            insert? count rest code (position + 1) bias
              (label.take position ++ Char.ofNat code :: label.drop position)
          else none

/-- The label that an encoded label stands for. -/
def decode? (encoded : List Char) : Option (List Char) :=
  let backwards := encoded.reverse
  let extension := (backwards.takeWhile (· ≠ '-')).reverse
  let ascii := (backwards.drop (extension.length + 1)).reverse
  insert? extension.length extension 0x80 0 72 ascii

end ChainRpc.Address.Punycode
