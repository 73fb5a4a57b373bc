import ChainRpc.Power

/-!
# Integer types

The integer types that an encoded item can be limited to: unsigned words of one to
sixteen bytes, and the two signed types that a compact integer may be read into.
-/

namespace ChainRpc

/-- The sizes of unsigned words. -/
inductive Width where
  | w8 | w16 | w32 | w64 | w128
  deriving DecidableEq, Repr

/-- The number of bytes of a word. -/
def Width.bytes : Width → Nat
  | .w8 => 1
  | .w16 => 2
  | .w32 => 4
  | .w64 => 8
  | .w128 => 16

/-- The word of a name such as `u16`. -/
def Width.ofName? : String → Option Width
  | "u8" => some .w8
  | "u16" => some .w16
  | "u32" => some .w32
  | "u64" => some .w64
  | "u128" => some .w128
  | _ => none

/-- An integer type: an unsigned word, or one of two signed ones. -/
inductive IntType where
  | unsigned (width : Width)
  | i32
  | i64
  deriving DecidableEq, Repr

namespace IntType

/-- The name under which error texts mention the type. -/
def name : IntType → String
  | .unsigned .w8 => "u8"
  | .unsigned .w16 => "u16"
  | .unsigned .w32 => "u32"
  | .unsigned .w64 => "u64"
  | .unsigned .w128 => "u128"
  | .i32 => "i32"
  | .i64 => "i64"

/-- The type of a name. -/
def ofName? : String → Option IntType
  | "i32" => some .i32
  | "i64" => some .i64
  | name => (Width.ofName? name).map .unsigned

/-- The least number of the type. -/
def least : IntType → Int
  | .unsigned _ => 0
  | .i32 => -2 ^ 31
  | .i64 => -2 ^ 63

/-- The first number above the type. -/
def bound : IntType → Nat
  | .unsigned width => 256 ^ width.bytes
  | .i32 => 2 ^ 31
  | .i64 => 2 ^ 63

/-- Whether the number is one of the type. -/
def holds (t : IntType) (n : Int) : Bool :=
  decide (t.least ≤ n) && decide (n < t.bound)

/-- No integer type begins above zero. -/
theorem least_nonpos (t : IntType) : t.least ≤ 0 := by
  cases t <;> simp [least]

/-- A number from zero on belongs to the type exactly when it is below the bound. -/
theorem holds_iff_of_nonneg {t : IntType} {n : Int} (hnonneg : 0 ≤ n) :
    t.holds n = true ↔ n < t.bound := by
  have hleast := t.least_nonpos
  simp only [holds, Bool.and_eq_true, decide_eq_true_eq]
  omega

/-- The largest words have 128 bits. -/
theorem bound_le (t : IntType) : t.bound ≤ 2 ^ 128 := by
  cases t with
  | unsigned width => cases width <;> decide
  | i32 => decide
  | i64 => decide

end IntType

end ChainRpc
