import ChainRpc.LittleEndian
import ChainRpc.Proofs.Hash

/-!
# The order of hashes

Hashes are ordered by the first byte in which they differ. Each byte is printed as two digits, and
the characters of the digits are ordered as the digits are, so what is printed for hashes is ordered
in the same way. A hash also denotes a number, its first byte being the highest, and hashes of one
size are ordered as their numbers. So it makes no difference whether hashes, their texts or their
numbers are compared, sorted or looked up.
-/

namespace ChainRpc

open Text

/-- Numbers are compared by their quotients first and by their remainders then. -/
theorem compare_mul_add {base high high' low low' : Nat} (h : low < base) (h' : low' < base) :
    compare (base * high + low) (base * high' + low') =
      (compare high high').then (compare low low') := by
  rcases Nat.lt_trichotomy high high' with hless | rfl | hgreater
  · have hapart : base * (high + 1) ≤ base * high' := Nat.mul_le_mul_left base hless
    rw [Nat.mul_succ] at hapart
    rw [Nat.compare_eq_lt.mpr hless, Nat.compare_eq_lt.mpr (by omega)]
    rfl
  · rw [Std.compare_self]
    simp only [Nat.compare_eq_ite_lt, Nat.add_lt_add_iff_left]
    rfl
  · have hapart : base * (high' + 1) ≤ base * high := Nat.mul_le_mul_left base hgreater
    rw [Nat.mul_succ] at hapart
    rw [Nat.compare_eq_gt.mpr hgreater, Nat.compare_eq_gt.mpr (by omega)]
    rfl

/-- Byte strings of one length are ordered as the numbers that they denote when the first byte is
the highest. -/
theorem LittleEndian.compare_toNat_reverse {bytes other : List UInt8}
    (hlength : bytes.length = other.length) :
    compare (toNat bytes.reverse) (toNat other.reverse) = compare bytes other := by
  induction bytes generalizing other with
  | nil =>
      obtain rfl := List.eq_nil_of_length_eq_zero hlength.symm
      rfl
  | cons byte bytes ih =>
      obtain _ | ⟨byte', other⟩ := other
      · cases hlength
      · have hlengths : bytes.length = other.length := Nat.succ.inj hlength
        have hbound := toNat_lt bytes.reverse
        have hbound' := toNat_lt other.reverse
        simp only [List.reverse_cons, toNat_append, toNat, List.length_reverse, Nat.mul_zero,
          Nat.add_zero, ← hlengths] at hbound hbound' ⊢
        rw [Nat.add_comm, Nat.add_comm (toNat other.reverse), compare_mul_add hbound hbound',
          ih hlengths, List.compare_cons_cons, UInt8.compare_eq_toNat_compare_toNat]

/-! ### Texts -/

namespace Text

theorem compare_chars_eq_lt_iff {chars other : List Char} :
    compare chars other = .lt ↔ chars < other := by
  induction chars generalizing other with
  | nil => cases other <;> simp
  | cons c chars ih =>
      cases other with
      | nil => simp
      | cons c' other =>
          rw [List.compare_cons_cons, Ordering.then_eq_lt, ih, List.cons_lt_cons_iff,
            Std.compare_eq_iff_eq]
          exact or_congr_left compareOfLessAndEq_eq_lt

/-- Texts are ordered by the first character in which they differ. -/
theorem compare_eq_compare_toList (text other : String) :
    compare text other = compare text.toList other.toList := by
  change compareOfLessAndEq text other = _
  unfold compareOfLessAndEq
  split
  next hless => exact (compare_chars_eq_lt_iff.mpr (String.lt_iff.mp hless)).symm
  next hnotLess =>
    split
    next hsame => rw [hsame, Std.compare_self]
    next hdiffer =>
      rw [String.lt_iff, ← compare_chars_eq_lt_iff] at hnotLess
      rw [← String.toList_inj, ← Std.compare_eq_iff_eq] at hdiffer
      revert hnotLess hdiffer
      cases compare text.toList other.toList <;> simp

end Text

namespace Text.Hex

/-- Byte strings are ordered as the halves of their bytes are, in whatever way the sixteen halves
are shown as long as they keep their order. -/
theorem compare_halves {α : Type} [Ord α] {shown : Nat → α}
    (hordered : ∀ n < 16, ∀ m < 16, compare (shown n) (shown m) = compare n m)
    (bytes other : List UInt8) :
    compare (bytes.flatMap fun byte => [shown (byte.toNat / 16), shown (byte.toNat % 16)])
        (other.flatMap fun byte => [shown (byte.toNat / 16), shown (byte.toNat % 16)]) =
      compare bytes other := by
  induction bytes generalizing other with
  | nil => cases other <;> rfl
  | cons byte bytes ih =>
      cases other with
      | nil => rfl
      | cons byte' other =>
          have hbound := byte.toNat_lt
          have hbound' := byte'.toNat_lt
          have hhalves : compare byte byte' = (compare (byte.toNat / 16) (byte'.toNat / 16)).then
              (compare (byte.toNat % 16) (byte'.toNat % 16)) := by
            rw [← compare_mul_add (Nat.mod_lt _ (by decide)) (Nat.mod_lt _ (by decide)),
              Nat.div_add_mod, Nat.div_add_mod, UInt8.compare_eq_toNat_compare_toNat]
          simp only [List.flatMap_cons, List.cons_append, List.nil_append, List.compare_cons_cons]
          rw [ih, hhalves, hordered _ (by omega) _ (by omega), hordered _ (by omega) _ (by omega),
            Ordering.then_assoc]

/-- What is printed for byte strings is ordered as they are, character by character. -/
theorem compare_encode (bytes other : List UInt8) :
    compare (encode bytes) (encode other) = compare bytes other := by
  have hordered : ∀ n < 16, ∀ m < 16, compare (digit n) (digit m) = compare n m := by decide
  rw [← compare_halves hordered, compare_eq_compare_toList, encode, encode, String.toList_ofList,
    String.toList_ofList, List.compare_cons_cons, List.compare_cons_cons]
  rfl

theorem utf8_encode (bytes : List UInt8) :
    Utf8.encode (encode bytes) =
      0x30 :: 0x78 :: (digits bytes).map fun c => UInt8.ofNat c.toNat := by
  refine encode_of_ascii fun c hmem => ?_
  rcases List.mem_cons.mp hmem with rfl | hmem
  · decide
  · rcases List.mem_cons.mp hmem with rfl | hmem
    · decide
    · exact (digits_spec hmem).1

/-- What is printed for byte strings is ordered as they are, byte by byte. -/
theorem compare_utf8_encode (bytes other : List UInt8) :
    compare (Utf8.encode (encode bytes)) (Utf8.encode (encode other)) = compare bytes other := by
  have hordered : ∀ n < 16, ∀ m < 16,
      compare (UInt8.ofNat (digit n).toNat) (UInt8.ofNat (digit m).toNat) = compare n m := by
    decide
  rw [← compare_halves hordered bytes, utf8_encode, utf8_encode, List.compare_cons_cons,
    List.compare_cons_cons, digits, digits, List.map_flatMap, List.map_flatMap]
  rfl

end Text.Hex

/-! ### Hashes -/

namespace Hash

variable {size : Nat}

/-- The number that the bytes denote, the first byte being the highest. -/
def number (hash : Hash size) : Nat := LittleEndian.toNat hash.bytes.reverse

theorem bytes_inj {a b : Hash size} : a.bytes = b.bytes ↔ a = b := by
  cases a
  cases b
  simp

theorem go_eq_compare (bytes other : List UInt8) :
    compare.go bytes other = Ord.compare bytes other := by
  fun_induction compare.go bytes other with
  | case1 => rfl
  | case2 => rfl
  | case3 => rfl
  | case4 x xs y ys hless =>
      rw [List.compare_cons_cons, Std.compare_eq_lt.mpr hless]
      rfl
  | case5 x xs y ys hnotLess hgreater =>
      rw [List.compare_cons_cons, Std.compare_eq_gt.mpr hgreater]
      rfl
  | case6 x xs y ys hnotLess hnotGreater ih =>
      obtain rfl : x = y :=
        UInt8.le_antisymm (UInt8.not_lt.mp hnotGreater) (UInt8.not_lt.mp hnotLess)
      rw [List.compare_cons_cons, Std.compare_self, ih]
      rfl

/-- Hashes are ordered as their bytes are, by the first in which they differ. -/
theorem compare_eq_compare_bytes (a b : Hash size) : a.compare b = Ord.compare a.bytes b.bytes :=
  go_eq_compare a.bytes b.bytes

theorem compare_eq_eq_iff (a b : Hash size) : a.compare b = .eq ↔ a = b := by
  rw [compare_eq_compare_bytes, Std.compare_eq_iff_eq, bytes_inj]

/-- Hashes are ordered as their numbers are. -/
theorem compare_number (a b : Hash size) : Ord.compare a.number b.number = a.compare b := by
  have hlengths : a.bytes.length = b.bytes.length := a.length_bytes.trans b.length_bytes.symm
  rw [number, number, LittleEndian.compare_toNat_reverse hlengths, compare_eq_compare_bytes]

/-- Hashes are ordered as their texts are. -/
theorem compare_toHex (a b : Hash size) : Ord.compare a.toHex b.toHex = a.compare b := by
  rw [toHex, toHex, Hex.compare_encode, compare_eq_compare_bytes]

/-! ### Views of hashes -/

section View

variable {β : Type} [DecidableEq β]

/-- Hashes are compared, told apart, sorted and looked up by the view as they are by themselves. -/
structure Reflects [Ord β] (view : Hash size → β) : Prop where
  compares : ∀ a b, Ord.compare (view a) (view b) = a.compare b
  tells : ∀ a b, view a = view b ↔ a = b
  sorts : ∀ hashes : List (Hash size),
    (hashes.map view).mergeSort (fun s t => (Ord.compare s t).isLE) =
      (hashes.mergeSort fun a b => (a.compare b).isLE).map view
  finds : ∀ {α : Type} (entries : List (Hash size × α)) (hash : Hash size),
    (entries.map (Prod.map view id)).lookup (view hash) = entries.lookup hash

theorem lookup_map_view {α : Type} {view : Hash size → β} (htells : ∀ a b, view a = view b ↔ a = b)
    (entries : List (Hash size × α)) (hash : Hash size) :
    (entries.map (Prod.map view id)).lookup (view hash) = entries.lookup hash := by
  induction entries with
  | nil => rfl
  | cons entry entries ih =>
      obtain ⟨key, value⟩ := entry
      have hsame : (view hash == view key) = (hash == key) := by
        simp only [beq_eq_decide, htells]
      simp only [List.map_cons, Prod.map_apply, List.lookup_cons, hsame, ih, id]

/-- Whatever keeps the order of hashes shows them as they are. -/
theorem Reflects.of_compares [Ord β] [Std.LawfulEqOrd β] {view : Hash size → β}
    (hcompares : ∀ a b, Ord.compare (view a) (view b) = a.compare b) : Reflects view := by
  have htells (a b : Hash size) : view a = view b ↔ a = b := by
    rw [← Std.compare_eq_iff_eq, hcompares, compare_eq_eq_iff]
  exact {
    compares := hcompares
    tells := htells
    sorts := fun hashes => (List.map_mergeSort fun a _ b _ => by rw [hcompares]).symm
    finds := lookup_map_view htells }

end View

/-- Hashes of one size are compared alike by themselves, by their texts, character by character or
byte by byte, and by the numbers that their bytes denote when the first byte is the highest. So they
are equal when they are printed alike, and it makes no difference whether they, their texts or their
numbers are sorted or looked up. -/
theorem hashes_are_ordered_alike (size : Nat) :
    (∀ a b : Hash size, a.compare b = .eq ↔ a = b) ∧
    Reflects (toHex : Hash size → String) ∧
    Reflects (fun hash : Hash size => Utf8.encode hash.toHex) ∧
    Reflects (number : Hash size → Nat) := by
  refine ⟨compare_eq_eq_iff, .of_compares compare_toHex, .of_compares ?_,
    .of_compares compare_number⟩
  intro a b
  rw [toHex, toHex, Hex.compare_utf8_encode, compare_eq_compare_bytes]

end Hash

end ChainRpc
