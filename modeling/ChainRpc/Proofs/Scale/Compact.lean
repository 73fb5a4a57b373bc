import ChainRpc.Proofs.Scale.Takes
import ChainRpc.Scale.Compact
import Mathlib.Tactic.Convert

/-!
# Spellings of compact integers

A number has a spelling in every layout that is wide enough for it. Reading accepts exactly the
spellings. Two spellings of a number that are equally long are the same, and the written form is
the shortest one.
-/

namespace ChainRpc.Scale.Compact

open LittleEndian Reader

/-- The byte strings that spell a number below `2 ^ 128`. -/
inductive Spelling : List UInt8 → Nat → Prop
  | single {first : UInt8} (hmode : CompactMode.ofByte first = .single) :
      Spelling [first] (first.toNat / 4)
  | two {first : UInt8} {rest : List UInt8} (hmode : CompactMode.ofByte first = .two)
      (hlength : rest.length = 1) : Spelling (first :: rest) (toNat (first :: rest) / 4)
  | four {first : UInt8} {rest : List UInt8} (hmode : CompactMode.ofByte first = .four)
      (hlength : rest.length = 3) : Spelling (first :: rest) (toNat (first :: rest) / 4)
  | big {first : UInt8} {magnitude : List UInt8} (hmode : CompactMode.ofByte first = .big)
      (hlength : magnitude.length = first.toNat / 4 + leastMagnitude)
      (hfits : toNat magnitude < 2 ^ 128) : Spelling (first :: magnitude) (toNat magnitude)

/-! ### Reading -/

/-- The bytes of a magnitude beyond the widest are zero exactly when it fits 128 bits. -/
theorem all_drop_widestMagnitude_iff {magnitude : List UInt8} :
    (magnitude.drop widestMagnitude).all (· = 0) = true ↔ toNat magnitude < 2 ^ 128 := by
  have hsplit := toNat_append (magnitude.take widestMagnitude) (magnitude.drop widestMagnitude)
  rw [List.take_append_drop] at hsplit
  have hlow := toNat_lt (magnitude.take widestMagnitude)
  rw [← toNat_eq_zero_iff, hsplit]
  rcases Nat.lt_or_ge magnitude.length widestMagnitude with hshort | hlong
  · have hbound : 256 ^ (magnitude.take widestMagnitude).length ≤ 256 ^ 16 :=
      Nat.pow_le_pow_right (by decide) (List.length_take_le widestMagnitude magnitude)
    have hfits : toNat (magnitude.take widestMagnitude) < 2 ^ 128 := Nat.lt_of_lt_of_le hlow hbound
    rw [List.drop_eq_nil_of_le (Nat.le_of_lt hshort)]
    simpa [LittleEndian.toNat] using hfits
  · have hlength : (magnitude.take widestMagnitude).length = 16 :=
      List.length_take_of_le hlong
    rw [hlength] at hlow ⊢
    omega

/-- The value of a magnitude that fits 128 bits lies in its widest part. -/
theorem toNat_take_widestMagnitude {magnitude : List UInt8} (hfits : toNat magnitude < 2 ^ 128) :
    toNat (magnitude.take widestMagnitude) = toNat magnitude := by
  have hsplit := toNat_append (magnitude.take widestMagnitude) (magnitude.drop widestMagnitude)
  rw [List.take_append_drop] at hsplit
  rw [hsplit, toNat_eq_zero_iff.mpr (all_drop_widestMagnitude_iff.mpr hfits)]
  omega

theorem isLocal_readBehind (first : UInt8) : (readBehind first).IsLocal := by
  unfold readBehind
  split
  · exact isLocal_pure _
  · exact (isLocal_bytes 1).bind fun rest => isLocal_pure _
  · exact (isLocal_bytes 3).bind fun rest => isLocal_pure _
  · exact (isLocal_bytes _).bind fun magnitude => isLocal_ite (isLocal_pure _) (isLocal_fail _)

theorem isLocal_read : read.IsLocal := isLocal_byte.bind isLocal_readBehind

theorem spelling_of_takes_readBehind {first : UInt8} {rest : List UInt8} {n : Nat}
    (h : (readBehind first).Takes rest n) : Spelling (first :: rest) n := by
  unfold readBehind at h
  split at h
  next hmode =>
    obtain ⟨rfl, rfl⟩ := takes_pure_iff.mp h
    exact .single hmode
  next hmode =>
    rw [takes_bytes_bind_iff fun rest => isLocal_pure _] at h
    obtain ⟨front, back, rfl, hlength, h⟩ := h
    obtain ⟨rfl, rfl⟩ := takes_pure_iff.mp h
    rw [List.append_nil]
    exact .two hmode hlength
  next hmode =>
    rw [takes_bytes_bind_iff fun rest => isLocal_pure _] at h
    obtain ⟨front, back, rfl, hlength, h⟩ := h
    obtain ⟨rfl, rfl⟩ := takes_pure_iff.mp h
    rw [List.append_nil]
    exact .four hmode hlength
  next hmode =>
    rw [takes_bytes_bind_iff fun magnitude =>
      isLocal_ite (isLocal_pure _) (isLocal_fail _)] at h
    obtain ⟨magnitude, back, rfl, hlength, h⟩ := h
    split at h
    next hzeros =>
      obtain ⟨rfl, rfl⟩ := takes_pure_iff.mp h
      have hfits := all_drop_widestMagnitude_iff.mp hzeros
      rw [List.append_nil, toNat_take_widestMagnitude hfits]
      exact .big hmode hlength hfits
    next => exact (not_takes_fail h).elim

theorem takes_readBehind_of_spelling {first : UInt8} {rest : List UInt8} {n : Nat}
    (h : Spelling (first :: rest) n) : (readBehind first).Takes rest n := by
  unfold readBehind
  cases h with
  | single hmode =>
      rw [hmode]
      exact takes_pure _
  | two hmode hlength =>
      rw [hmode, takes_bytes_bind_iff fun rest => isLocal_pure _]
      exact ⟨rest, [], by simp, hlength, takes_pure _⟩
  | four hmode hlength =>
      rw [hmode, takes_bytes_bind_iff fun rest => isLocal_pure _]
      exact ⟨rest, [], by simp, hlength, takes_pure _⟩
  | big hmode hlength hfits =>
      rw [hmode, takes_bytes_bind_iff fun magnitude =>
        isLocal_ite (isLocal_pure _) (isLocal_fail _)]
      refine ⟨rest, [], by simp, hlength, ?_⟩
      rw [if_pos (all_drop_widestMagnitude_iff.mpr hfits), toNat_take_widestMagnitude hfits]
      exact takes_pure _

/-- Reading accepts exactly the spellings. -/
theorem takes_read_iff {bytes : List UInt8} {n : Nat} :
    read.Takes bytes n ↔ Spelling bytes n := by
  unfold read
  rw [takes_byte_bind_iff isLocal_readBehind]
  constructor
  · rintro ⟨first, rest, rfl, h⟩
    exact spelling_of_takes_readBehind h
  · intro h
    cases bytes with
    | nil => cases h
    | cons first rest => exact ⟨first, rest, rfl, takes_readBehind_of_spelling h⟩

theorem isLocal_readLength : readLength.IsLocal :=
  isLocal_checked isLocal_read (· < 2 ^ 64) id _

/-- A length is a spelling of a number below `2 ^ 64`. -/
theorem takes_readLength_iff {bytes : List UInt8} {n : Nat} :
    readLength.Takes bytes n ↔ Spelling bytes n ∧ n < 2 ^ 64 := by
  have h : readLength.Takes bytes n ↔ ∃ a, read.Takes bytes a ∧ a < 2 ^ 64 ∧ n = id a :=
    takes_checked_iff isLocal_read
  refine h.trans ?_
  simp only [takes_read_iff]
  constructor
  · rintro ⟨a, hspelling, hbound, rfl⟩
    exact ⟨hspelling, hbound⟩
  · rintro ⟨hspelling, hbound⟩
    exact ⟨n, hspelling, hbound, rfl⟩

/-! ### The bytes of a spelling -/

theorem bits_ofByte (byte : UInt8) : (CompactMode.ofByte byte).bits = byte.toNat % 4 := by
  have hbound : byte.toNat % 4 < 4 := Nat.mod_lt _ (by decide)
  unfold CompactMode.ofByte
  split
  next h => rw [h]; rfl
  next h => rw [h]; rfl
  next h => rw [h]; rfl
  next h0 h1 h2 =>
    have hne : byte.toNat % 4 ≠ 0 ∧ byte.toNat % 4 ≠ 1 ∧ byte.toNat % 4 ≠ 2 := ⟨h0, h1, h2⟩
    change 3 = byte.toNat % 4
    omega

/-- The layout of a byte is told by its low bits. -/
theorem ofByte_eq_iff {byte : UInt8} {mode : CompactMode} :
    CompactMode.ofByte byte = mode ↔ byte.toNat % 4 = mode.bits := by
  rw [← bits_ofByte]
  constructor
  · rintro rfl
    rfl
  · cases CompactMode.ofByte byte <;> cases mode <;> simp [CompactMode.bits]

/-- The number that the bytes of a spelling denote together is told by their count and the number
that they spell. -/
theorem spelling_iff {bytes : List UInt8} {n : Nat} :
    Spelling bytes n ↔
      bytes.length = 1 ∧ toNat bytes = 4 * n ∨
      bytes.length = 2 ∧ toNat bytes = 4 * n + 1 ∨
      bytes.length = 4 ∧ toNat bytes = 4 * n + 2 ∨
      (5 ≤ bytes.length ∧ bytes.length ≤ 68) ∧ n < 2 ^ 128 ∧
        toNat bytes = 4 * (bytes.length - 5) + 3 + 256 * n := by
  constructor
  · intro h
    -- In every layout the low bits of the first byte are those of the whole.
    cases h with
    | @single first hmode =>
        have hbits : first.toNat % 4 = 0 := ofByte_eq_iff.mp hmode
        refine Or.inl ⟨rfl, ?_⟩
        simp only [LittleEndian.toNat]
        omega
    | @two first rest hmode hlength =>
        have hbits : first.toNat % 4 = 1 := ofByte_eq_iff.mp hmode
        refine Or.inr (Or.inl ⟨by simp [hlength], ?_⟩)
        simp only [LittleEndian.toNat]
        omega
    | @four first rest hmode hlength =>
        have hbits : first.toNat % 4 = 2 := ofByte_eq_iff.mp hmode
        refine Or.inr (Or.inr (Or.inl ⟨by simp [hlength], ?_⟩))
        simp only [LittleEndian.toNat]
        omega
    | @big first magnitude hmode hlength hfits =>
        have hbits : first.toNat % 4 = 3 := ofByte_eq_iff.mp hmode
        have hbound := first.toNat_lt
        simp only [leastMagnitude] at hlength
        refine Or.inr (Or.inr (Or.inr ⟨?_, hfits, ?_⟩))
        · simp only [List.length_cons]
          omega
        · simp only [LittleEndian.toNat, List.length_cons]
          omega
  · intro h
    cases bytes with
    | nil => simp at h
    | cons first rest =>
        have hbound := first.toNat_lt
        rcases h with
          ⟨hlength, hvalue⟩ | ⟨hlength, hvalue⟩ | ⟨hlength, hvalue⟩ | ⟨hlength, hfits, hvalue⟩
        · obtain rfl : rest = [] := by simpa using hlength
          simp only [LittleEndian.toNat] at hvalue
          have hmode : CompactMode.ofByte first = .single :=
            ofByte_eq_iff.mpr (by simp only [CompactMode.bits]; omega)
          convert Spelling.single hmode using 1
          omega
        · have hmode : CompactMode.ofByte first = .two :=
            ofByte_eq_iff.mpr <| by
              simp only [LittleEndian.toNat, CompactMode.bits] at hvalue ⊢
              omega
          convert Spelling.two hmode (by simpa using hlength) using 1
          omega
        · have hmode : CompactMode.ofByte first = .four :=
            ofByte_eq_iff.mpr <| by
              simp only [LittleEndian.toNat, CompactMode.bits] at hvalue ⊢
              omega
          convert Spelling.four hmode (by simpa using hlength) using 1
          omega
        · simp only [LittleEndian.toNat, List.length_cons] at hlength hvalue
          have hmode : CompactMode.ofByte first = .big :=
            ofByte_eq_iff.mpr (by simp only [CompactMode.bits]; omega)
          obtain rfl : toNat rest = n := by omega
          exact .big hmode (by simp only [leastMagnitude]; omega) hfits

/-- A spelling of a number that is as long as another is that other. -/
theorem Spelling.eq_of_length_eq {bytes other : List UInt8} {n : Nat} (h : Spelling bytes n)
    (h' : Spelling other n) (hsame : bytes.length = other.length) : bytes = other := by
  rw [spelling_iff] at h h'
  exact eq_of_toNat_eq hsame (by omega)

/-- The numbers that have a spelling of so many bytes. -/
theorem Spelling.capacity {bytes : List UInt8} {n : Nat} (h : Spelling bytes n) :
    bytes.length = 1 ∧ n < 2 ^ 6 ∨ bytes.length = 2 ∧ n < 2 ^ 14 ∨
      bytes.length = 4 ∧ n < 2 ^ 30 ∨
      5 ≤ bytes.length ∧ n < 2 ^ 128 ∧ n < 256 ^ (bytes.length - 1) := by
  have hvalue := toNat_lt bytes
  rcases spelling_iff.mp h with ⟨hlength, hsame⟩ | ⟨hlength, hsame⟩ | ⟨hlength, hsame⟩ |
    ⟨hlength, hbound, hsame⟩
  · rw [hlength] at hvalue
    exact Or.inl ⟨hlength, by omega⟩
  · rw [hlength] at hvalue
    exact Or.inr (Or.inl ⟨hlength, by omega⟩)
  · rw [hlength] at hvalue
    exact Or.inr (Or.inr (Or.inl ⟨hlength, by omega⟩))
  · refine Or.inr (Or.inr (Or.inr ⟨hlength.1, hbound, ?_⟩))
    -- The first byte of the layout holds no digit of the number.
    obtain ⟨width, hwidth⟩ : ∃ width, bytes.length = width + 1 := ⟨bytes.length - 1, by omega⟩
    rw [hwidth, Nat.pow_succ] at hvalue
    rw [hwidth, Nat.add_sub_cancel]
    omega

/-- Only numbers below `2 ^ 128` have spellings. -/
theorem Spelling.lt {bytes : List UInt8} {n : Nat} (h : Spelling bytes n) : n < 2 ^ 128 := by
  have hcapacity := h.capacity
  omega

/-! ### The written form -/

theorem encode_single {n : Nat} (h : n < 2 ^ 6) : encode n = ofNat 1 (4 * n) := by
  have hmode : CompactMode.shortest n = .single := if_pos h
  simp only [encode, hmode]
  rfl

theorem encode_two {n : Nat} (h : 2 ^ 6 ≤ n) (h' : n < 2 ^ 14) :
    encode n = ofNat 2 (4 * n + 1) := by
  have hmode : CompactMode.shortest n = .two := by
    unfold CompactMode.shortest
    rw [if_neg (Nat.not_lt.mpr h), if_pos h']
  simp only [encode, hmode]
  rfl

theorem encode_four {n : Nat} (h : 2 ^ 14 ≤ n) (h' : n < 2 ^ 30) :
    encode n = ofNat 4 (4 * n + 2) := by
  have hmode : CompactMode.shortest n = .four := by
    unfold CompactMode.shortest
    rw [if_neg (by omega), if_neg (Nat.not_lt.mpr h), if_pos h']
  simp only [encode, hmode]
  rfl

theorem encode_big {n : Nat} (h : 2 ^ 30 ≤ n) :
    encode n =
      UInt8.ofNat (4 * (magnitudeSize n - leastMagnitude) + 3) :: ofNat (magnitudeSize n) n := by
  have hmode : CompactMode.shortest n = .big := by
    unfold CompactMode.shortest
    rw [if_neg (by omega), if_neg (by omega), if_neg (Nat.not_lt.mpr h)]
  simp only [encode, hmode]
  rfl

/-- A magnitude is wide enough for its number and at most sixteen bytes long. -/
theorem magnitudeSize_bounds {n : Nat} (hbound : n < 2 ^ 128) :
    4 ≤ magnitudeSize n ∧ magnitudeSize n ≤ 16 ∧ n < 256 ^ magnitudeSize n :=
  ⟨Nat.le_max_left _ _, Nat.max_le.mpr ⟨by decide, size_le_iff.mpr hbound⟩,
    size_le_iff.mp (Nat.le_max_right _ _)⟩

/-- The written form of a number below `2 ^ 128` spells it. -/
theorem spelling_encode {n : Nat} (hbound : n < 2 ^ 128) : Spelling (encode n) n := by
  rw [spelling_iff]
  rcases Nat.lt_or_ge n (2 ^ 6) with h6 | h6
  · rw [encode_single h6]
    exact Or.inl ⟨length_ofNat _ _, toNat_ofNat (by omega)⟩
  rcases Nat.lt_or_ge n (2 ^ 14) with h14 | h14
  · rw [encode_two h6 h14]
    exact Or.inr (Or.inl ⟨length_ofNat _ _, toNat_ofNat (by omega)⟩)
  rcases Nat.lt_or_ge n (2 ^ 30) with h30 | h30
  · rw [encode_four h14 h30]
    exact Or.inr (Or.inr (Or.inl ⟨length_ofNat _ _, toNat_ofNat (by omega)⟩))
  · obtain ⟨hleast, hwidest, hfits⟩ := magnitudeSize_bounds hbound
    rw [encode_big h30]
    refine Or.inr (Or.inr (Or.inr ⟨?_, hbound, ?_⟩))
    · simp only [List.length_cons, length_ofNat]
      omega
    · simp only [LittleEndian.toNat, toNat_ofNat hfits, List.length_cons, length_ofNat,
        leastMagnitude, UInt8.toNat_ofNat']
      omega

/-- No spelling is shorter than the written form. -/
theorem Spelling.length_encode_le {bytes : List UInt8} {n : Nat} (h : Spelling bytes n) :
    (encode n).length ≤ bytes.length := by
  have hcapacity := h.capacity
  rcases Nat.lt_or_ge n (2 ^ 6) with h6 | h6
  · rw [encode_single h6, length_ofNat]
    omega
  rcases Nat.lt_or_ge n (2 ^ 14) with h14 | h14
  · rw [encode_two h6 h14, length_ofNat]
    omega
  rcases Nat.lt_or_ge n (2 ^ 30) with h30 | h30
  · rw [encode_four h14 h30, length_ofNat]
    omega
  · rw [encode_big h30, List.length_cons, length_ofNat]
    obtain ⟨hlength, -, hwidth⟩ :
        5 ≤ bytes.length ∧ n < 2 ^ 128 ∧ n < 256 ^ (bytes.length - 1) := by omega
    have hmagnitude : magnitudeSize n ≤ bytes.length - 1 :=
      Nat.max_le.mpr ⟨by simp only [leastMagnitude]; omega, size_le_iff.mpr hwidth⟩
    omega

end ChainRpc.Scale.Compact
