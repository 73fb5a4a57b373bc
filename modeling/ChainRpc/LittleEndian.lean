import ChainRpc.Power

/-!
# Little-endian numbers

A number is laid out over a fixed count of bytes, the lowest byte first. The
two directions are inverse on the numbers that fit, and every byte string is the
layout of the number it denotes.
-/

namespace ChainRpc.LittleEndian

/-- The lowest `width` bytes of a number, the lowest first. -/
def ofNat : (width n : Nat) → List UInt8
  | 0, _ => []
  | width + 1, n => UInt8.ofNat n :: ofNat width (n / 256)

/-- The number that a byte string denotes when its first byte is the lowest. -/
def toNat : List UInt8 → Nat
  | [] => 0
  | byte :: rest => byte.toNat + 256 * toNat rest

/-- How many bytes the number needs when no zero byte is kept at the high end. -/
def size (n : Nat) : Nat :=
  if h : n = 0 then 0 else size (n / 256) + 1
termination_by n
decreasing_by omega

@[simp] theorem length_ofNat (width n : Nat) : (ofNat width n).length = width := by
  induction width generalizing n with
  | zero => rfl
  | succ width ih => simp [ofNat, ih]

/-- A number that fits its width is read back. -/
theorem toNat_ofNat {width n : Nat} (h : n < 256 ^ width) : toNat (ofNat width n) = n := by
  induction width generalizing n with
  | zero => simp at h; simp [ofNat, toNat, h]
  | succ width ih =>
      have hrest : n / 256 < 256 ^ width := by
        rw [Nat.pow_succ] at h
        omega
      simp only [ofNat, toNat, ih hrest, UInt8.toNat_ofNat']
      omega

/-- Every byte string is the layout of the number it denotes. -/
theorem ofNat_toNat (bytes : List UInt8) : ofNat bytes.length (toNat bytes) = bytes := by
  induction bytes with
  | nil => rfl
  | cons byte rest ih =>
      have hbyte := byte.toNat_lt
      have hdiv : (byte.toNat + 256 * toNat rest) / 256 = toNat rest := by omega
      have hlow : UInt8.ofNat (byte.toNat + 256 * toNat rest) = byte := by
        apply UInt8.toNat_inj.mp
        simp only [UInt8.toNat_ofNat']
        omega
      simp [ofNat, toNat, hdiv, hlow, ih]

/-- Byte strings of one length that denote the same number are the same. -/
theorem eq_of_toNat_eq {bytes other : List UInt8} (hlength : bytes.length = other.length)
    (hvalue : toNat bytes = toNat other) : bytes = other := by
  rw [← ofNat_toNat bytes, ← ofNat_toNat other, hlength, hvalue]

/-- A byte string denotes a number below the power that its length allows. -/
theorem toNat_lt (bytes : List UInt8) : toNat bytes < 256 ^ bytes.length := by
  induction bytes with
  | nil => simp [toNat]
  | cons byte rest ih =>
      have hbyte := byte.toNat_lt
      simp only [toNat, List.length_cons, Nat.pow_succ]
      omega

/-- A number fits a width exactly when it needs no more bytes. -/
theorem size_le_iff {n width : Nat} : size n ≤ width ↔ n < 256 ^ width := by
  induction width generalizing n with
  | zero =>
      rw [size]
      split
      next h => simp [h]
      next h => simp; omega
  | succ width ih =>
      rw [size]
      split
      next h =>
        rw [h]
        exact iff_of_true (Nat.zero_le _) (Nat.pow_pos (by decide))
      next h =>
        rw [Nat.add_le_add_iff_right, ih, Nat.div_lt_iff_lt_mul (by decide), Nat.pow_succ]

/-- The bytes after others count as many times more as the others could denote. -/
theorem toNat_append (low high : List UInt8) :
    toNat (low ++ high) = toNat low + 256 ^ low.length * toNat high := by
  induction low with
  | nil => simp [toNat]
  | cons byte low ih =>
      simp only [List.cons_append, toNat, ih, List.length_cons, Nat.pow_succ, Nat.mul_add,
        Nat.add_assoc]
      rw [Nat.mul_comm (256 ^ low.length) 256, Nat.mul_assoc]

/-- Only zero bytes denote zero. -/
theorem toNat_eq_zero_iff {bytes : List UInt8} :
    toNat bytes = 0 ↔ bytes.all (· = 0) = true := by
  induction bytes with
  | nil => simp [toNat]
  | cons byte bytes ih =>
      have hbyte : byte.toNat = 0 ↔ byte = 0 := by
        rw [← UInt8.toNat_inj]
        rfl
      rw [toNat, List.all_cons, Bool.and_eq_true, decide_eq_true_eq, ← ih, ← hbyte]
      omega

end ChainRpc.LittleEndian
