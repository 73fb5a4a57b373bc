/-!
# Pieces of a JSON string

A string literal is a sequence of plain characters, escapes of one letter and 16-bit units
of four hexadecimal digits. Any such sequence is a literal; it stands for a text
only when its units in the surrogate range come in pairs, the high one first.
-/

namespace ChainRpc.Json

/-- A piece of a string literal. -/
inductive Piece where
  /-- A character that stands for itself. -/
  | plain (c : Char)
  /-- A backslash and a letter. -/
  | escape (letter : Char)
  /-- A backslash, the letter `u` and four hexadecimal digits. -/
  | unit (a b c d : Char)
  deriving DecidableEq, Repr

namespace Piece

/-- The characters of a piece. -/
def text : Piece → List Char
  | plain c => [c]
  | escape letter => ['\\', letter]
  | unit a b c d => ['\\', 'u', a, b, c, d]

/-- The number of a hexadecimal digit of either case. -/
def hexValue? (c : Char) : Option Nat :=
  let n := c.toNat
  if 48 ≤ n ∧ n ≤ 57 then some (n - 48)
  else if 97 ≤ n ∧ n ≤ 102 then some (n - 87)
  else if 65 ≤ n ∧ n ≤ 70 then some (n - 55)
  else none

/-- The number of four hexadecimal digits. -/
def unitValue? (a b c d : Char) : Option Nat := do
  let high := (← hexValue? a) * 16 + (← hexValue? b)
  let low := (← hexValue? c) * 16 + (← hexValue? d)
  pure (high * 256 + low)

/-- The character that an escape of one letter stands for. -/
def escapeValue? : Char → Option Char
  | '"' => some '"'
  | '\\' => some '\\'
  | '/' => some '/'
  | 'b' => some '\x08'
  | 'f' => some '\x0c'
  | 'n' => some '\n'
  | 'r' => some '\r'
  | 't' => some '\t'
  | _ => none

/-- Reads pieces up to the closing quote. -/
def scan : List Char → Option (List Piece × List Char)
  | [] => none
  | '"' :: rest => some ([], rest)
  | '\\' :: 'u' :: a :: b :: c :: d :: rest =>
      match unitValue? a b c d, scan rest with
      | some _, some (pieces, rest) => some (unit a b c d :: pieces, rest)
      | _, _ => none
  | '\\' :: letter :: rest =>
      match escapeValue? letter, scan rest with
      | some _, some (pieces, rest) => some (escape letter :: pieces, rest)
      | _, _ => none
  | c :: rest =>
      if c = '\\' || c.toNat < 0x20 then none
      else match scan rest with
        | some (pieces, rest) => some (plain c :: pieces, rest)
        | none => none

/-- Whether the unit is the first half of a pair. -/
def isHigh (n : Nat) : Bool := 0xD800 ≤ n && n ≤ 0xDBFF

/-- Whether the unit is the second half of a pair. -/
def isLow (n : Nat) : Bool := 0xDC00 ≤ n && n ≤ 0xDFFF

/-- The character of a pair of units. -/
def pairValue (high low : Nat) : Char :=
  Char.ofNat (0x10000 + (high - 0xD800) * 0x400 + (low - 0xDC00))

/-- The text that pieces stand for. -/
def value? : List Piece → Option (List Char)
  | [] => some []
  | plain c :: rest => (value? rest).map (c :: ·)
  | escape letter :: rest => do
      let c ← escapeValue? letter
      (value? rest).map (c :: ·)
  | [unit a b c d] => do
      let n ← unitValue? a b c d
      if isHigh n || isLow n then none else some [Char.ofNat n]
  | unit a b c d :: next :: rest => do
      let n ← unitValue? a b c d
      if isLow n then none
      else if isHigh n then
        match next with
        | unit e f g h => do
            let m ← unitValue? e f g h
            if isLow m then (value? rest).map (pairValue n m :: ·) else none
        | _ => none
      else (value? (next :: rest)).map (Char.ofNat n :: ·)

end Piece

end ChainRpc.Json
