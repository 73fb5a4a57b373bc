import ChainRpc.LittleEndian
import ChainRpc.Scale.Reader

/-!
# Compact integers

A compact integer below `2 ^ 128` starts with a byte whose two low bits say how it is laid
out: alone in that byte, in a word of two or four bytes, or as a magnitude whose length the
other bits give. Writing takes the first layout that holds the number and the shortest
magnitude. Reading follows the layout it finds, so it also accepts longer forms.
-/

namespace ChainRpc.Scale

/-- The layouts of a compact integer. -/
inductive CompactMode where
  | single | two | four | big
  deriving DecidableEq, Repr

namespace CompactMode

/-- The first layout that holds the number. -/
def shortest (n : Nat) : CompactMode :=
  if n < 2 ^ 6 then .single
  else if n < 2 ^ 14 then .two
  else if n < 2 ^ 30 then .four
  else .big

/-- The layout that a first byte announces in its two low bits. -/
def ofByte (byte : UInt8) : CompactMode :=
  match byte.toNat % 4 with
  | 0 => .single
  | 1 => .two
  | 2 => .four
  | _ => .big

/-- The two low bits that announce the layout. -/
def bits : CompactMode → Nat
  | .single => 0
  | .two => 1
  | .four => 2
  | .big => 3

/-- The name shown to users. -/
def name : CompactMode → String
  | .single => "single"
  | .two => "two"
  | .four => "four"
  | .big => "bigint"

/-- Diagnostic text. -/
def debug : CompactMode → String
  | .single => "Single"
  | .two => "Two"
  | .four => "Four"
  | .big => "BigInt"

end CompactMode

namespace Compact

/-- The fewest bytes a magnitude is written with. -/
def leastMagnitude : Nat := 4

/-- The bytes of a magnitude that fit 128 bits. -/
def widestMagnitude : Nat := 16

/-- The length of the magnitude that is written for a number. -/
def magnitudeSize (n : Nat) : Nat := max leastMagnitude (LittleEndian.size n)

/-- The shortest written form of a number below `2 ^ 128`. -/
def encode (n : Nat) : List UInt8 :=
  let mode := CompactMode.shortest n
  match mode with
  | .single => LittleEndian.ofNat 1 (4 * n + mode.bits)
  | .two => LittleEndian.ofNat 2 (4 * n + mode.bits)
  | .four => LittleEndian.ofNat 4 (4 * n + mode.bits)
  | .big =>
      let size := magnitudeSize n
      UInt8.ofNat (4 * (size - leastMagnitude) + mode.bits) :: LittleEndian.ofNat size n

/-- Reads what stands behind a first byte, in the layout that it announces. -/
def readBehind (first : UInt8) : Reader Nat :=
  match CompactMode.ofByte first with
  | .single => pure (first.toNat / 4)
  | .two => do
      let rest ← Reader.bytes 1
      pure (LittleEndian.toNat (first :: rest) / 4)
  | .four => do
      let rest ← Reader.bytes 3
      pure (LittleEndian.toNat (first :: rest) / 4)
  | .big => do
      let size := first.toNat / 4 + leastMagnitude
      let magnitude ← Reader.bytes size
      if (magnitude.drop widestMagnitude).all (· = 0) then
        pure (LittleEndian.toNat (magnitude.take widestMagnitude))
      else
        Reader.fail (.malformed (.magnitude size))

/-- Reads a compact integer in whatever layout its first byte announces. -/
def read : Reader Nat := do
  let first ← Reader.byte
  readBehind first

/-- Reads a compact integer that counts things in memory, so it is below `2 ^ 64`. -/
def readLength : Reader Nat := do
  let n ← read
  if n < 2 ^ 64 then pure n else Reader.fail (.malformed (.length n))

/-- Reads a compact integer into an integer type. -/
def readInto (type : IntType) : Reader Int := do
  let n ← read
  if type.holds n then pure (n : Int) else Reader.fail (.malformed (.compactRange n type))

end Compact

end ChainRpc.Scale
