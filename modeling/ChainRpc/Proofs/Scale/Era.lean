import ChainRpc.Proofs.Scale.Takes
import ChainRpc.Scale.Encoder

/-!
# Where an era ends

The immortal era is the single byte 0, and every other era is a word of two bytes. A reader has
only the first byte to tell them apart. That is enough for the words whose low byte is not 0. A word
whose low byte is 0 looks like the immortal era with a field behind it, and no reader can tell.
-/

namespace ChainRpc.Scale

/-- The bytes that an era is written in. -/
def eraBytes (era : UInt16) : List UInt8 := (Encoder.era.write era).bytes

/-- The byte of an era that is written first. -/
def lowByte (era : UInt16) : UInt8 := UInt8.ofNat era.toNat

/-- The byte of an era that is written last. -/
def highByte (era : UInt16) : UInt8 := UInt8.ofNat (era.toNat / 256)

/-- A mortal era that is a multiple of 256, so that it begins with the byte of the immortal one. -/
def LooksImmortal (era : UInt16) : Prop := era ≠ 0 ∧ 256 ∣ era.toNat

/-! ### The two lengths -/

theorem write_era (era : UInt16) : Encoder.era.write era = .ok (eraBytes era) := by
  by_cases himmortal : era = 0 <;>
    simp [eraBytes, Encoder.era, Encoder.ofWrite, himmortal, Output.ok]

theorem eraBytes_zero : eraBytes 0 = [0] := rfl

theorem eraBytes_of_mortal {era : UInt16} (hmortal : era ≠ 0) :
    eraBytes era = [lowByte era, highByte era] := by
  simp [eraBytes, Encoder.era, Encoder.ofWrite, hmortal, Output.ok, LittleEndian.ofNat, lowByte,
    highByte]

theorem toNat_bytes (era : UInt16) :
    LittleEndian.toNat [lowByte era, highByte era] = era.toNat := by
  have hfits : era.toNat < 256 ^ 2 := era.toNat_lt
  exact LittleEndian.toNat_ofNat hfits

theorem eq_of_bytes_eq {a b : UInt16} (hlow : lowByte a = lowByte b)
    (hhigh : highByte a = highByte b) : a = b := by
  apply UInt16.toNat_inj.mp
  rw [← toNat_bytes a, ← toNat_bytes b, hlow, hhigh]

theorem looksImmortal_iff_of_mortal {era : UInt16} (hmortal : era ≠ 0) :
    LooksImmortal era ↔ lowByte era = 0 := by
  rw [LooksImmortal, lowByte, ← UInt8.toNat_inj, UInt8.toNat_ofNat', Nat.dvd_iff_mod_eq_zero]
  exact and_iff_right hmortal

/-! ### Eras with fields behind them -/

/-- The immortal era meets only the words that look like it, where the field behind it begins with
their high byte. -/
theorem immortal_append_eq_iff {era : UInt16} (hmortal : era ≠ 0) (rest rest' : List UInt8) :
    eraBytes 0 ++ rest = eraBytes era ++ rest' ↔
      LooksImmortal era ∧ rest = highByte era :: rest' := by
  rw [eraBytes_zero, eraBytes_of_mortal hmortal, looksImmortal_iff_of_mortal hmortal]
  constructor
  · intro hsame
    injection hsame with hlow hbehind
    exact ⟨hlow.symm, hbehind⟩
  · rintro ⟨hlow, rfl⟩
    rw [hlow]
    rfl

theorem mortal_append_eq_iff {a b : UInt16} (hmortal : a ≠ 0) (hmortal' : b ≠ 0)
    (rest rest' : List UInt8) :
    eraBytes a ++ rest = eraBytes b ++ rest' ↔ a = b ∧ rest = rest' := by
  constructor
  · intro hsame
    rw [eraBytes_of_mortal hmortal, eraBytes_of_mortal hmortal'] at hsame
    obtain ⟨hbytes, hbehind⟩ := List.append_inj hsame rfl
    simp only [List.cons.injEq, and_true] at hbytes
    exact ⟨eq_of_bytes_eq hbytes.1 hbytes.2, hbehind⟩
  · rintro ⟨rfl, rfl⟩
    rfl

/-- Two eras with fields behind them are the same bytes only if they are the same eras with the same
fields, or if one is immortal and the other looks like it. -/
theorem era_append_eq_iff (a b : UInt16) (rest rest' : List UInt8) :
    eraBytes a ++ rest = eraBytes b ++ rest' ↔
      (a = b ∧ rest = rest') ∨
      (a = 0 ∧ LooksImmortal b ∧ rest = highByte b :: rest') ∨
      (b = 0 ∧ LooksImmortal a ∧ rest' = highByte a :: rest) := by
  have himmortal : ¬LooksImmortal 0 := fun hlooks => hlooks.1 rfl
  by_cases hfirst : a = 0
  · by_cases hsecond : b = 0
    · subst hfirst hsecond
      simp [himmortal]
    · subst hfirst
      rw [immortal_append_eq_iff hsecond]
      simp [himmortal, Ne.symm hsecond]
  · by_cases hsecond : b = 0
    · subst hsecond
      rw [eq_comm, immortal_append_eq_iff hfirst]
      simp [himmortal, hfirst]
    · rw [mortal_append_eq_iff hfirst hsecond]
      simp [hfirst, hsecond]

/-! ### Readers of eras -/

/-- Reads an era, and takes a first byte 0 for the immortal one. -/
def readEra : Reader UInt16 := do
  let low ← Reader.byte
  if low = 0 then pure 0
  else
    let high ← Reader.byte
    pure (UInt16.ofNat (LittleEndian.toNat [low, high]))

theorem takes_readEra {era : UInt16} (hapart : ¬LooksImmortal era) :
    readEra.Takes (eraBytes era) era := by
  intro position rest
  by_cases himmortal : era = 0
  · subst himmortal
    rfl
  · have hlow : lowByte era ≠ 0 := mt (looksImmortal_iff_of_mortal himmortal).mpr hapart
    rw [eraBytes_of_mortal himmortal]
    change (if lowByte era = 0 then pure 0 else _ : Reader UInt16) _ = _
    rw [if_neg hlow]
    change EStateM.Result.ok (UInt16.ofNat (LittleEndian.toNat [lowByte era, highByte era])) _ = _
    rw [toNat_bytes, UInt16.ofNat_toNat]
    rfl

/-- No reader takes both the immortal era and an era that looks like it. -/
theorem not_looksImmortal_of_takes {read : Reader UInt16} {era : UInt16}
    (himmortal : read.Takes (eraBytes 0) 0) (hmortal : read.Takes (eraBytes era) era) :
    ¬LooksImmortal era := by
  intro hlooks
  have hsame := (era_append_eq_iff 0 era [highByte era] []).mpr (.inr (.inl ⟨rfl, hlooks, rfl⟩))
  exact hlooks.1 (himmortal.unique hmortal hsame).2.symm

/-- Where an era ends can be told from the bytes, whatever follows, exactly for the eras that do
not look immortal. One reader does it for all of them, and none does it for the immortal era and for
another one that looks like it. -/
theorem era_splits_off_iff :
    (∀ era : UInt16, Encoder.era.write era = .ok (eraBytes era)) ∧
    (∀ (a b : UInt16) (rest rest' : List UInt8), eraBytes a ++ rest = eraBytes b ++ rest' ↔
      (a = b ∧ rest = rest') ∨
      (a = 0 ∧ LooksImmortal b ∧ rest = highByte b :: rest') ∨
      (b = 0 ∧ LooksImmortal a ∧ rest' = highByte a :: rest)) ∧
    (∀ era : UInt16, readEra.Takes (eraBytes era) era ↔ ¬LooksImmortal era) ∧
    ∀ era : UInt16,
      (∃ read : Reader UInt16, read.Takes (eraBytes 0) 0 ∧ read.Takes (eraBytes era) era) ↔
        ¬LooksImmortal era := by
  have himmortal : readEra.Takes (eraBytes 0) 0 := takes_readEra fun hlooks => hlooks.1 rfl
  refine ⟨write_era, era_append_eq_iff, fun era => ?_, fun era => ?_⟩
  · exact ⟨not_looksImmortal_of_takes himmortal, takes_readEra⟩
  · constructor
    · rintro ⟨read, htakes, htakes'⟩
      exact not_looksImmortal_of_takes htakes htakes'
    · intro hapart
      exact ⟨readEra, himmortal, takes_readEra hapart⟩

/-- The era 256 is the immortal era with the byte 1 behind it. -/
theorem era_is_split_twice :
    eraBytes 256 ++ [] = eraBytes 0 ++ [1] ∧
      ¬∀ (a b : UInt16) (rest rest' : List UInt8),
        eraBytes a ++ rest = eraBytes b ++ rest' → a = b ∧ rest = rest' := by
  have hsame : eraBytes 256 ++ [] = eraBytes 0 ++ [1] := by decide
  refine ⟨hsame, fun hsplit => ?_⟩
  exact absurd (hsplit 256 0 [] [1] hsame).1 (by decide)

end ChainRpc.Scale
