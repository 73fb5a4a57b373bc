import ChainRpc.Text.Hex
import ChainRpc.Text.Utf8

/-!
# Escapes in addresses

A byte that may not stand in a part of an address is written as a percent sign and two
hexadecimal digits. Which characters that concerns depends on the part; control characters and
characters outside ASCII are always escaped.
-/

namespace ChainRpc.Address.Escape

/-- The characters that are escaped everywhere. -/
def isAlways (c : Char) : Bool := c.toNat < 0x20 || 0x7f ≤ c.toNat

/-- The characters that are escaped in a fragment. -/
def inFragment (c : Char) : Bool := isAlways c || " \"<>`".contains c

/-- The characters that are escaped in a path. -/
def inPath (c : Char) : Bool := inFragment c || "#?\x7b\x7d".contains c

/-- The characters that are escaped in credentials. -/
def inCredentials (c : Char) : Bool := inPath c || "/:;=@[\\]^|".contains c

/-- The characters that are escaped in a query. -/
def inQuery (c : Char) : Bool := isAlways c || " \"#<>'".contains c

/-- A hexadecimal digit, in uppercase. -/
def digit (n : Nat) : Char := (Text.Hex.digit n).toUpper

/-- The escape of a byte. -/
def byte (b : UInt8) : List Char := ['%', digit (b.toNat / 16), digit (b.toNat % 16)]

/-- A text in which the characters of a class are escaped. -/
def encode (escaped : Char → Bool) (text : List Char) : List Char :=
  text.flatMap fun c => if escaped c then (String.utf8EncodeChar c).flatMap byte else [c]

/-- The bytes of a text whose escapes are resolved. A percent sign without two digits stands for
itself. -/
def decode : List UInt8 → List UInt8
  | 0x25 :: high :: low :: rest =>
      match Text.Hex.digitValue? high, Text.Hex.digitValue? low with
      | some high, some low => UInt8.ofNat (16 * high + low) :: decode rest
      | _, _ => 0x25 :: decode (high :: low :: rest)
  | b :: rest => b :: decode rest
  | [] => []

end ChainRpc.Address.Escape
