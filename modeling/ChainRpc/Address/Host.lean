import ChainRpc.Address.Domain
import ChainRpc.Address.Escape

/-!
# Hosts

A host is a domain or a number: of four bytes, or of eight pairs of bytes between brackets. A
domain whose last label is a number is read as a number of four bytes; its parts may be
decimal, octal or hexadecimal, and the last one fills the bytes that are left. Of
the longer number, the longest row of zeros is left out when it is printed.
-/

namespace ChainRpc.Address

open Text (splitAt join)

/-- Where an address leads. -/
inductive Host where
  | domain (name : String)
  | ipv4 (number : Nat)
  | ipv6 (pieces : List Nat)
  deriving DecidableEq, Repr

namespace Host

/-! ### Numbers of four bytes -/

/-- The number of digits of a base up to sixteen. -/
def numeral? (base : Nat) (digits : List Char) : Option Nat :=
  digits.foldl (fun sum c => do
    let d ← Text.Hex.digitValue? (UInt8.ofNat c.toNat)
    if Punycode.isAscii c && d < base then pure ((← sum) * base + d) else none) (some 0)

/-- The number that one part stands for. -/
def part? : List Char → Option Nat
  | [] => none
  | '0' :: 'x' :: digits | '0' :: 'X' :: digits => numeral? 16 digits
  | '0' :: c :: digits => numeral? 8 (c :: digits)
  | digits => numeral? 10 digits

/-- The parts of a name, without an empty one at its end. -/
def nameParts (name : List Char) : List (List Char) :=
  let parts := splitAt '.' name
  if 1 < parts.length ∧ parts.getLast? = some [] then parts.dropLast else parts

/-- The name is meant as a number. -/
def endsInNumber (name : List Char) : Bool :=
  match (nameParts name).getLast? with
  | some last => (!last.isEmpty && last.all Char.isDigit) || (part? last).isSome
  | none => false

/-- The number of four bytes that parts make, the last of which fills the bytes left. -/
def number? (parts : List Nat) : Option Nat :=
  match parts.reverse with
  | [] => none
  | last :: front =>
      let front := front.reverse
      if 3 < front.length || front.any (255 < ·) || 256 ^ (4 - front.length) ≤ last then none
      else some (front.foldl (fun sum part => 256 * sum + part) 0 * 256 ^ (4 - front.length) + last)

/-- Reads a number of four bytes. -/
def readIpv4 (name : List Char) : Except Fault Host :=
  match ((nameParts name).mapM part?).bind number? with
  | some n => .ok (.ipv4 n)
  | none => .error .ipv4

/-! ### Numbers of eight pairs of bytes -/

/-- One piece: up to four hexadecimal digits. -/
def piece? (digits : List Char) : Option Nat :=
  if digits.isEmpty || 4 < digits.length then none else numeral? 16 digits

/-- A byte in decimal digits, without zeros in front. -/
def byte? (digits : List Char) : Option Nat :=
  match digits with
  | [] | '0' :: _ :: _ => none
  | _ => (numeral? 10 digits).bind fun n => if n ≤ 255 then some n else none

/-- Four bytes in decimal digits, as two pieces. -/
def dotted? (text : List Char) : Option (List Nat) :=
  match (splitAt '.' text).mapM byte? with
  | some [a, b, c, d] => some [256 * a + b, 256 * c + d]
  | _ => none

/-- Pieces between colons, the last of which may be four bytes between full stops. -/
def pieces? : (last : Bool) → List (List Char) → Option (List Nat)
  | _, [] => some []
  | last, [part] =>
      if last && part.contains '.' then dotted? part else (piece? part).map ([·])
  | last, part :: rest => do pure ((← piece? part) :: (← pieces? last rest))

/-- The pieces of a text, of which an empty one has none. -/
def side? (last : Bool) (text : List Char) : Option (List Nat) :=
  if text.isEmpty then some [] else pieces? last (splitAt ':' text)

/-- The text before and after the first two colons that stand together. -/
def gap? : List Char → Option (List Char × List Char)
  | ':' :: ':' :: rest => some ([], rest)
  | c :: rest => (gap? rest).map fun (before, after) => (c :: before, after)
  | [] => none

/-- Reads eight pieces; two colons that stand together leave out at least one that is zero. -/
def readIpv6 (text : List Char) : Except Fault Host :=
  let pieces : Option (List Nat) :=
    match gap? text with
    | some (before, after) => do
        let before ← side? false before
        let after ← side? true after
        if before.length + after.length ≤ 7 then
          pure (before ++ List.replicate (8 - before.length - after.length) 0 ++ after)
        else none
    | none => (pieces? true (splitAt ':' text)).filter fun pieces => pieces.length = 8
  match pieces with
  | some pieces => .ok (.ipv6 pieces)
  | none => .error .ipv6

/-- The number of zeros at the start. -/
def zeros (pieces : List Nat) : Nat := (pieces.takeWhile (· = 0)).length

/-- The place and the length of the longest row of zeros that is longer than the one known. -/
def longestRow : (place : Nat) → List Nat → (known : Nat × Nat) → Nat × Nat
  | _, [], known => known
  | place, piece :: rest, known =>
      let length := zeros (piece :: rest)
      longestRow (place + 1) rest (if known.2 < length then (place, length) else known)

/-- The text of pieces between colons. -/
def pieceText (pieces : List Nat) : List Char := join [':'] (pieces.map (Nat.toDigits 16))

/-- The text of eight pieces. -/
def ipv6Text (pieces : List Nat) : List Char :=
  let (place, length) := longestRow 0 pieces (0, 1)
  if length < 2 then pieceText pieces
  else pieceText (pieces.take place) ++ [':', ':'] ++ pieceText (pieces.drop (place + length))

/-! ### Hosts of all kinds -/

/-- The text of a host. -/
def text : Host → List Char
  | domain name => name.toList
  | ipv4 n =>
      join ['.'] ([n / 256 ^ 3, n / 256 ^ 2 % 256, n / 256 % 256, n % 256].map (Nat.toDigits 10))
  | ipv6 pieces => '[' :: ipv6Text pieces ++ [']']

/-- What stands between the brackets of a text that starts with one. -/
def bracketed? : List Char → Option (List Char)
  | '[' :: rest =>
      if rest.getLast? = some ']' then some rest.dropLast else some []
  | _ => none

/-- Reads a host. -/
def read (chars : List Char) : Except Fault Host :=
  match bracketed? chars with
  | some inside => readIpv6 inside
  | none => do
      let name ← Domain.ofBytes (Escape.decode (Text.Utf8.encode (String.ofList chars)))
      if name.isEmpty then .error .emptyHost
      else if endsInNumber name then readIpv4 name
      else .ok (.domain (String.ofList name))

/-- Characters that stand in no host of a scheme that is not known. -/
def isForbidden (c : Char) : Bool := c = '\x00' || "\t\n\r #/:<>?@[\\]^|".contains c

/-- Checks the host of a scheme that is not known. -/
def check (chars : List Char) : Except Fault Unit :=
  match bracketed? chars with
  | some inside => discard (readIpv6 inside)
  | none => if chars.any isForbidden then .error .domainCharacter else .ok ()

end Host

end ChainRpc.Address
