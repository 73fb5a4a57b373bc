import ChainRpc.Text.Utf8
import ChainRpc.Text.Quoted

/-!
# Hexadecimal byte strings

Bytes are written as pairs of lowercase digits behind the marker `0x`. Reading takes
digits of either case and drops one marker when there is one. Whether the digits can be
paired is looked at first; after that the first byte of the text that is no digit is
named, with its place behind the marker.
-/

namespace ChainRpc.Text.Hex

/-- Why a text is not a sequence of byte pairs. -/
inductive Fault where
  /-- The digits cannot be paired. -/
  | odd
  /-- A byte that is no digit, and its place. -/
  | digit (byte : UInt8) (index : Nat)
  deriving DecidableEq, Repr

/-- The wording of a fault. A byte is shown as the character of the same number. -/
def Fault.message : Fault → String
  | .odd => "Odd number of digits"
  | .digit byte index =>
      let shown := Quoted.char (Char.ofNat byte.toNat)
      s!"Invalid character {shown} at position {index}"

/-- The digit for a number below sixteen. -/
def digit (n : Nat) : Char :=
  if n < 10 then Char.ofNat (48 + n) else Char.ofNat (87 + n)

/-- The number of a digit of either case. -/
def digitValue? (byte : UInt8) : Option Nat :=
  let n := byte.toNat
  if 48 ≤ n ∧ n ≤ 57 then some (n - 48)
  else if 97 ≤ n ∧ n ≤ 102 then some (n - 87)
  else if 65 ≤ n ∧ n ≤ 70 then some (n - 55)
  else none

/-- The digits of a byte string, the high half of each byte first. -/
def digits (bytes : List UInt8) : List Char :=
  bytes.flatMap fun byte => [digit (byte.toNat / 16), digit (byte.toNat % 16)]

/-- A byte string behind its marker. -/
def encode (bytes : List UInt8) : String :=
  String.ofList ('0' :: 'x' :: digits bytes)

/-- The text without one leading marker. -/
def unmark (text : List Char) : List Char :=
  match text with
  | '0' :: 'x' :: rest => rest
  | _ => text

/-- The bytes that stand for the digits of a text, its marker dropped. -/
def digitBytes (text : String) : List UInt8 :=
  Utf8.encode (String.ofList (unmark text.toList))

/-- Pairs digits up, `index` of which are already behind. -/
def pair (index : Nat) : List UInt8 → Except Fault (List UInt8)
  | high :: low :: rest =>
      match digitValue? high, digitValue? low with
      | none, _ => .error (.digit high index)
      | some _, none => .error (.digit low (index + 1))
      | some h, some l => (pair (index + 2) rest).map (UInt8.ofNat (16 * h + l) :: ·)
  | [_] => .error .odd
  | [] => .ok []

/-- The bytes that a sequence of digits stands for. -/
def decodeDigits (digits : List UInt8) : Except Fault (List UInt8) :=
  if digits.length % 2 = 1 then .error .odd else pair 0 digits

/-- The bytes of a hexadecimal text, with or without its marker. -/
def decode (text : String) : Except Fault (List UInt8) :=
  decodeDigits (digitBytes text)

end ChainRpc.Text.Hex
