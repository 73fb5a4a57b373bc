import ChainRpc.Text.Utf8
import Mathlib.Tactic.Convert

/-!
# UTF-8 reads exactly what it writes

`head` accepts a sequence exactly when it is the written form of one character, so a byte
string is read as a text exactly when it is the written form of that text. In particular a text
has one written form.
-/

namespace ChainRpc.Text.Utf8

/-! ### Bytes as numbers -/

/-- A code point keeps its number as a character. -/
theorem toNat_val_ofNat {n : Nat} (hvalid : n.isValidChar) : (Char.ofNat n).val.toNat = n := by
  rw [Char.ofNat, dif_pos hvalid]
  rfl

theorem eq_ofNat {a : UInt8} {n : Nat} (h : a.toNat = n) : a = UInt8.ofNat n := by
  rw [← h, UInt8.ofNat_toNat]

theorem isTail_iff {byte : UInt8} :
    isTail byte = true ↔ 0x80 ≤ byte.toNat ∧ byte.toNat ≤ 0xBF := by
  simp [isTail, UInt8.le_iff_toNat_le]

theorem pairsInThree_iff {first second : UInt8} :
    pairsInThree first second = true ↔ 0x80 ≤ second.toNat ∧ second.toNat ≤ 0xBF ∧
      (first.toNat = 0xE0 → 0xA0 ≤ second.toNat) ∧
      (first.toNat = 0xED → second.toNat ≤ 0x9F) := by
  unfold pairsInThree
  split
  next hisE0 =>
    subst hisE0
    simp [UInt8.le_iff_toNat_le]
    omega
  next hnotE0 =>
    split
    next hisED =>
      subst hisED
      simp [UInt8.le_iff_toNat_le]
      omega
    next hnotED =>
      have hE0 : first.toNat ≠ 0xE0 := fun h => hnotE0 (eq_ofNat h)
      have hED : first.toNat ≠ 0xED := fun h => hnotED (eq_ofNat h)
      rw [isTail_iff]
      simp [hE0, hED]

theorem pairsInFour_iff {first second : UInt8} :
    pairsInFour first second = true ↔ 0x80 ≤ second.toNat ∧ second.toNat ≤ 0xBF ∧
      (first.toNat = 0xF0 → 0x90 ≤ second.toNat) ∧
      (first.toNat = 0xF4 → second.toNat ≤ 0x8F) := by
  unfold pairsInFour
  split
  next hisF0 =>
    subst hisF0
    simp [UInt8.le_iff_toNat_le]
    omega
  next hnotF0 =>
    split
    next hisF4 =>
      subst hisF4
      simp [UInt8.le_iff_toNat_le]
      omega
    next hnotF4 =>
      have hF0 : first.toNat ≠ 0xF0 := fun h => hnotF0 (eq_ofNat h)
      have hF4 : first.toNat ≠ 0xF4 := fun h => hnotF4 (eq_ofNat h)
      rw [isTail_iff]
      simp [hF0, hF4]

/-! ### Sequences -/

/-- The bytes of one character, as the numbers of a sequence of one to four bytes. -/
inductive Sequence : List UInt8 → Nat → Prop
  | one {a : UInt8} (ha : a.toNat < 0x80) : Sequence [a] a.toNat
  | two {a b : UInt8} (ha : 0xC2 ≤ a.toNat ∧ a.toNat ≤ 0xDF) (hb : isTail b = true) :
      Sequence [a, b] (a.toNat % 32 * 64 + tailBits b)
  | three {a b c : UInt8} (ha : 0xE0 ≤ a.toNat ∧ a.toNat ≤ 0xEF)
      (hb : pairsInThree a b = true) (hc : isTail c = true) :
      Sequence [a, b, c] ((a.toNat % 16 * 64 + tailBits b) * 64 + tailBits c)
  | four {a b c d : UInt8} (ha : 0xF0 ≤ a.toNat ∧ a.toNat ≤ 0xF4)
      (hb : pairsInFour a b = true) (hc : isTail c = true) (hd : isTail d = true) :
      Sequence [a, b, c, d]
        (((a.toNat % 8 * 64 + tailBits b) * 64 + tailBits c) * 64 + tailBits d)

/-- What is read as a character is a sequence. -/
theorem sequence_of_head {first : UInt8} {rest back : List UInt8} {c : Char} {size : Nat}
    (h : head first rest = .char c size back) :
    ∃ bytes n, Sequence bytes n ∧ first :: rest = bytes ++ back ∧ size = bytes.length ∧
      c = Char.ofNat n := by
  unfold head at h
  simp only [UInt8.lt_iff_toNat_lt, UInt8.le_iff_toNat_le, Bool.and_eq_true,
    decide_eq_true_eq] at h
  split at h
  next ha =>
    obtain ⟨rfl, rfl, rfl⟩ := by simpa using h
    exact ⟨_, _, .one ha, rfl, rfl, rfl⟩
  next =>
  split at h
  next ha =>
    split at h
    next => cases h
    next b rest =>
      split at h
      next hb =>
        obtain ⟨rfl, rfl, rfl⟩ := by simpa using h
        exact ⟨_, _, .two ha hb, rfl, rfl, rfl⟩
      next => cases h
  next =>
  split at h
  next ha =>
    split at h
    next => cases h
    next b rest =>
      split at h
      next => cases h
      next hb =>
        split at h
        next => cases h
        next c rest =>
          split at h
          next hc =>
            obtain ⟨rfl, rfl, rfl⟩ := by simpa using h
            exact ⟨_, _, .three ha (by simpa using hb) hc, rfl, rfl, rfl⟩
          next => cases h
  next =>
  split at h
  next ha =>
    split at h
    next => cases h
    next b rest =>
      split at h
      next => cases h
      next hb =>
        split at h
        next => cases h
        next c rest =>
          split at h
          next => cases h
          next hc =>
            split at h
            next => cases h
            next d rest =>
              split at h
              next hd =>
                obtain ⟨rfl, rfl, rfl⟩ := by simpa using h
                exact ⟨_, _, .four ha (by simpa using hb) (by simpa using hc) hd, rfl, rfl, rfl⟩
              next => cases h
  next => cases h

/-- A sequence is read as its character, whatever follows it. -/
theorem head_of_sequence {bytes : List UInt8} {n : Nat} (h : Sequence bytes n)
    (back : List UInt8) :
    ∃ first rest, bytes = first :: rest ∧
      head first (rest ++ back) = .char (Char.ofNat n) bytes.length back := by
  cases h with
  | @one a ha =>
      refine ⟨a, [], rfl, ?_⟩
      simp [head, UInt8.lt_iff_toNat_lt, ha]
  | @two a b ha hb =>
      refine ⟨a, [b], rfl, ?_⟩
      have hlow : ¬ a.toNat < 128 := by omega
      simp [head, UInt8.lt_iff_toNat_lt, UInt8.le_iff_toNat_le, hlow, ha, hb]
  | @three a b c ha hb hc =>
      refine ⟨a, [b, c], rfl, ?_⟩
      have hlow : ¬ a.toNat < 128 := by omega
      have htwo : ¬ a.toNat ≤ 223 := by omega
      simp [head, UInt8.lt_iff_toNat_lt, UInt8.le_iff_toNat_le, hlow, htwo, ha, hb, hc]
  | @four a b c d ha hb hc hd =>
      refine ⟨a, [b, c, d], rfl, ?_⟩
      have hlow : ¬ a.toNat < 128 := by omega
      have htwo : ¬ a.toNat ≤ 223 := by omega
      have hthree : ¬ a.toNat ≤ 239 := by omega
      simp [head, UInt8.lt_iff_toNat_lt, UInt8.le_iff_toNat_le, hlow, htwo, hthree, ha, hb, hc, hd]

/-- The bytes of a sequence are the written form of its character. -/
theorem encodeChar_of_sequence {bytes : List UInt8} {n : Nat} (h : Sequence bytes n) :
    bytes = String.utf8EncodeChar (Char.ofNat n) := by
  cases h with
  | @one a ha =>
      have hvalue := toNat_val_ofNat (n := a.toNat) (by unfold Nat.isValidChar; omega)
      simp [String.utf8EncodeChar, hvalue, show a.toNat ≤ 127 by omega]
  | @two a b ha hb =>
      -- Each byte is determined by its range and by its part of the number.
      have ha' := a.toNat_lt
      rw [isTail_iff] at hb
      generalize hn : a.toNat % 32 * 64 + tailBits b = n
      unfold tailBits at hn
      have hvalue := toNat_val_ofNat (n := n) (by unfold Nat.isValidChar; omega)
      rw [String.utf8EncodeChar]
      simp only [hvalue, if_neg (show ¬ n ≤ 127 by omega), if_pos (show n ≤ 2047 by omega)]
      rw [← eq_ofNat (a := a) (by omega), ← eq_ofNat (a := b) (by omega)]
  | @three a b c ha hb hc =>
      have ha' := a.toNat_lt
      rw [isTail_iff] at hc
      rw [pairsInThree_iff] at hb
      generalize hn : (a.toNat % 16 * 64 + tailBits b) * 64 + tailBits c = n
      unfold tailBits at hn
      have hvalue := toNat_val_ofNat (n := n) (by unfold Nat.isValidChar; omega)
      rw [String.utf8EncodeChar]
      simp only [hvalue, if_neg (show ¬ n ≤ 127 by omega), if_neg (show ¬ n ≤ 2047 by omega),
        if_pos (show n ≤ 65535 by omega)]
      rw [← eq_ofNat (a := a) (by omega), ← eq_ofNat (a := b) (by omega),
        ← eq_ofNat (a := c) (by omega)]
  | @four a b c d ha hb hc hd =>
      have ha' := a.toNat_lt
      rw [isTail_iff] at hc hd
      rw [pairsInFour_iff] at hb
      generalize hn : ((a.toNat % 8 * 64 + tailBits b) * 64 + tailBits c) * 64 + tailBits d = n
      unfold tailBits at hn
      have hvalue := toNat_val_ofNat (n := n) (by unfold Nat.isValidChar; omega)
      rw [String.utf8EncodeChar]
      simp only [hvalue, if_neg (show ¬ n ≤ 127 by omega), if_neg (show ¬ n ≤ 2047 by omega),
        if_neg (show ¬ n ≤ 65535 by omega)]
      rw [← eq_ofNat (a := a) (by omega), ← eq_ofNat (a := b) (by omega),
        ← eq_ofNat (a := c) (by omega), ← eq_ofNat (a := d) (by omega)]

/-- The written form of a character is a sequence for its number. -/
theorem sequence_encodeChar (c : Char) :
    Sequence (String.utf8EncodeChar c) c.val.toNat := by
  have hvalid : c.val.toNat < 0xD800 ∨ 0xDFFF < c.val.toNat ∧ c.val.toNat < 0x110000 := c.valid
  rw [String.utf8EncodeChar]
  generalize c.val.toNat = n at hvalid
  split
  next hone =>
    have hn : (UInt8.ofNat n).toNat = n := by simp; omega
    simpa only [hn] using Sequence.one (a := UInt8.ofNat n) (by omega)
  next hone =>
  split
  next htwo =>
    convert Sequence.two (a := UInt8.ofNat (n / 64 % 32 + 0xC0))
      (b := UInt8.ofNat (n % 64 + 0x80)) ?_ ?_ using 1
    · simp [tailBits]; omega
    · simp; omega
    · simp [isTail_iff]; omega
  next htwo =>
  split
  next hthree =>
    convert Sequence.three (a := UInt8.ofNat (n / 4096 % 16 + 0xE0))
      (b := UInt8.ofNat (n / 64 % 64 + 0x80)) (c := UInt8.ofNat (n % 64 + 0x80)) ?_ ?_ ?_ using 1
    · simp [tailBits]; omega
    · simp; omega
    · simp [pairsInThree_iff]; omega
    · simp [isTail_iff]; omega
  next hthree =>
    convert Sequence.four (a := UInt8.ofNat (n / 262144 % 8 + 0xF0))
      (b := UInt8.ofNat (n / 4096 % 64 + 0x80)) (c := UInt8.ofNat (n / 64 % 64 + 0x80))
      (d := UInt8.ofNat (n % 64 + 0x80)) ?_ ?_ ?_ ?_ using 1
    · simp [tailBits]; omega
    · simp; omega
    · simp [pairsInFour_iff]; omega
    · simp [isTail_iff]; omega
    · simp [isTail_iff]; omega

/-! ### Texts -/

/-- A character in its written form is read first. -/
theorem decodeFrom_encodeChar_append (index : Nat) (c : Char) (back : List UInt8) :
    decodeFrom index (String.utf8EncodeChar c ++ back) =
      (decodeFrom (index + (String.utf8EncodeChar c).length) back).map (c :: ·) := by
  obtain ⟨first, rest, hbytes, hhead⟩ := head_of_sequence (sequence_encodeChar c) back
  rw [show Char.ofNat c.val.toNat = c from Char.ofNat_toNat c] at hhead
  rw [hbytes] at hhead ⊢
  rw [List.cons_append, decodeFrom]
  simp only
  split
  next hbroken => rw [hhead] at hbroken; cases hbroken
  next hchar =>
    rw [hhead] at hchar
    cases hchar
    rfl

theorem decodeFrom_flatMap_encodeChar (index : Nat) (chars : List Char) :
    decodeFrom index (chars.flatMap String.utf8EncodeChar) = .ok chars := by
  induction chars generalizing index with
  | nil => simp [decodeFrom]
  | cons c chars ih =>
      rw [List.flatMap_cons, decodeFrom_encodeChar_append, ih]
      rfl

theorem eq_flatMap_of_decodeFrom {index : Nat} {bytes : List UInt8} {chars : List Char}
    (h : decodeFrom index bytes = .ok chars) : bytes = chars.flatMap String.utf8EncodeChar := by
  -- Along the recursion of the reader, each step of which takes one sequence off the front.
  induction index, bytes using decodeFrom.induct generalizing chars with
  | case1 index =>
      rw [decodeFrom] at h
      cases h
      rfl
  | case2 index first rest length hhead =>
      rw [decodeFrom] at h
      split at h
      next => cases h
      next hchar => rw [hhead] at hchar; cases hchar
  | case3 index first rest c size back hhead hless ih =>
      rw [decodeFrom] at h
      split at h
      next hbroken => rw [hhead] at hbroken; cases hbroken
      next hchar =>
        rw [hhead] at hchar
        cases hchar
        cases hback : decodeFrom (index + size) back with
        | error fault => rw [hback] at h; cases h
        | ok later =>
            rw [hback] at h
            cases h
            obtain ⟨bytes, n, hsequence, hbytes, -, rfl⟩ := sequence_of_head hhead
            rw [hbytes, encodeChar_of_sequence hsequence, ih hback, List.flatMap_cons]

/-- A byte string is read as a text exactly when it is the written form of the text. -/
theorem decode_eq_ok_iff {bytes : List UInt8} {text : String} :
    decode bytes = .ok text ↔ bytes = encode text := by
  constructor
  · intro h
    unfold decode at h
    cases hchars : decodeFrom 0 bytes with
    | error fault => rw [hchars] at h; cases h
    | ok chars =>
        rw [hchars] at h
        cases h
        rw [eq_flatMap_of_decodeFrom hchars, encode, String.toList_ofList]
  · rintro rfl
    rw [decode, encode, decodeFrom_flatMap_encodeChar]
    simp [Except.map]

@[simp] theorem decode_encode (text : String) : decode (encode text) = .ok text :=
  decode_eq_ok_iff.mpr rfl

end ChainRpc.Text.Utf8
